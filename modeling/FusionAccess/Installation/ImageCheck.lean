import FusionAccess.Kubernetes.Client
import FusionAccess.Interaction.Replay
import FusionAccess.Registry.Keyed

/-!
# The image pull check

Whether the entitlement permits to pull an image is found out with a pod that runs the
image: the pod is created unless there is one, its status is polled, and it is deleted
again. A deleted pod is only marked, and stays until the kubelet has terminated it.
-/

namespace Installation
namespace ImageCheck

open Kubernetes Interaction Fallible

/-! ## Pods -/

/-- `ContainerStateWaiting`. -/
structure ContainerStateWaiting where
  reason : String
  message : String := ""
  deriving DecidableEq

/-- `ContainerState`; of a running or terminated container only that it is so. -/
structure ContainerState where
  waiting : Option ContainerStateWaiting := none
  running : Bool := false
  terminated : Bool := false
  deriving DecidableEq

/-- `Container`. -/
structure Container where
  name : String
  image : String
  command : List String := []
  deriving DecidableEq

/-- `Pod`, with the states of its containers. -/
structure Pod where
  metadata : ObjectMeta
  restartPolicy : String := ""
  containers : List Container
  imagePullSecrets : List String := []
  containerStatuses : List ContainerState := []
  deriving DecidableEq

/-- The key of a pod. -/
def Pod.key (pod : Pod) : NamespacedName := pod.metadata.key

/-! ## The cluster -/

/-- What a `select` goes on with. -/
inductive Signal
  | done
  | tick
  deriving DecidableEq

/-- The calls of the check. -/
inductive Request
  | getPod (key : NamespacedName)
  | createPod (pod : Pod)
  | deletePod (key : NamespacedName)
  | select

/-- What a call yields when it succeeds. -/
@[reducible] def Request.Yield : Request → Type
  | .getPod _ => Pod
  | .select => Signal
  | _ => Unit

/-- The interface of the check. -/
abbrev podInterface : Interface where
  Call := Request
  Reply := fun request => Except Failure request.Yield

/-- The stored pods. -/
structure PodSite where
  pods : List Pod := []
  clock : Nat := 0
  revision : Nat := 0

/-- What the environment decides about a call: a fault, what the kubelet makes of each pod
before it (other container states, or nothing when it is terminated), and which case of a
`select` goes ahead. -/
structure PodChoice where
  fault : Fault := .none
  kubelet : Pod → Option (List ContainerState) := fun pod => some pod.containerStatuses
  signal : Signal := .tick

namespace PodSite

/-- The stored pod with the given key. -/
def pod? (site : PodSite) (key : NamespacedName) : Option Pod :=
  Registry.find? Pod.key key site.pods

/-- The pods as the kubelet leaves them. -/
def evolve (site : PodSite) (kubelet : Pod → Option (List ContainerState)) : PodSite :=
  { site with
    pods := site.pods.filterMap fun pod =>
      (kubelet pod).map fun containerStatuses => { pod with containerStatuses } }

/-- Store a new pod, which has no status yet. -/
def createPod (site : PodSite) (pod : Pod) : PodSite × Except Failure Unit :=
  match site.pod? pod.key with
  | some _ => (site, .error (alreadyExists "pods" pod.metadata.name))
  | none =>
      ({ site with
        pods := site.pods ++ [{ pod with
          metadata := { pod.metadata with
            uid := site.revision + 1, generation := 1
            resourceVersion := site.revision + 1 }
          containerStatuses := [] }]
        revision := site.revision + 1 }, .ok ())

/-- Mark a pod for its termination. -/
def deletePod (site : PodSite) (key : NamespacedName) : PodSite × Except Failure Unit :=
  match site.pod? key with
  | none => (site, .error (notFound "pods" key.name))
  | some _ =>
      ({ site with
        pods := Registry.amend Pod.key key (fun pod => { pod with
          metadata := { pod.metadata with
            deletionTimestamp := pod.metadata.deletionTimestamp.or (some site.clock) } })
          site.pods
        revision := site.revision + 1 }, .ok ())

/-- The answer to a call that nothing goes wrong with. -/
def answer (signal : Signal) (site : PodSite) :
    (request : Request) → PodSite × Except Failure request.Yield
  | .getPod key =>
      (site, match site.pod? key with
        | some pod => .ok pod
        | none => .error (notFound "pods" key.name))
  | .createPod pod => site.createPod pod
  | .deletePod key => site.deletePod key
  | .select => (site, .ok signal)

end PodSite

/-- The call goes to the API server. -/
def Request.remote : Request → Bool
  | .select => false
  | _ => true

/-- The cluster as the check sees it. -/
abbrev podServer : Server podInterface where
  State := PodSite
  Choice := PodChoice
  serve := fun choice site request =>
    let site := site.evolve choice.kubelet
    if request.remote then
      match choice.fault with
      | .none => site.answer choice.signal request
      | .refused refusal message => (site, .error (refusal.failure message))
      | .lost message => ((site.answer choice.signal request).1, .error (errorf message))
    else site.answer choice.signal request

/-! ## The check -/

/-- Programs of the check that may fail. -/
abbrev Check : Type → Type := Fallible podInterface Failure

/-- Issue one call. -/
def issue (request : Request) : Check request.Yield :=
  ExceptT.mk (Program.issue (I := podInterface) request)

/-- `CheckPodMaxImagePullTimeout`, in seconds. -/
def checkPodMaxImagePullTimeout : Nat := 180

/-- `CheckPodPullInterval`, in seconds. -/
def checkPodPullInterval : Nat := 2

/-- `CheckPodName`. -/
def checkPodName : String := "image-check-fusion-access"

/-- `CheckPodContainerName`. -/
def checkPodContainerName : String := "check"

/-- The pod that runs an image. -/
def checkPod (ns image imagePullSecretName : String) : Pod where
  metadata := { name := checkPodName, ns }
  restartPolicy := "Never"
  containers := [{ name := checkPodContainerName, image, command := ["/bin/sh", "-c", "exit", "0"] }]
  imagePullSecrets := if imagePullSecretName ≠ "" then [imagePullSecretName] else []

/-- `CreateImageCheckPod`. -/
def createImageCheckPod (ns image imagePullSecretName : String) : Check String := do
  match ← (issue (.getPod ⟨ns, checkPodName⟩)).attempt with
  | .ok (existingPod : Pod) => return existingPod.metadata.name
  | .error _ => do
      (issue (.createPod (checkPod ns image imagePullSecretName))).mapError
        (Failure.wrap "failed to create pod: ")
      return checkPodName

/-- What the status of a pod says about the pull: nothing yet, that it went well, or that
it failed with a message. -/
def pullResult (pod : Pod) : Option (Except String Unit) :=
  match pod.containerStatuses with
  | [] => none
  | state :: _ =>
      match state.waiting with
      | some waiting =>
          if waiting.reason = "ErrImagePull" ∨ waiting.reason = "ImagePullBackOff" then
            some (.error waiting.message)
          else none
      | none => if state.running || state.terminated then some (.ok ()) else none

/-- `PollPodPullStatus`, for so many rounds of its loop; without a result it goes on. -/
def pollPodPullStatus (ns podName : String) : (rounds : Nat) → Check (Option Bool)
  | 0 => return none
  | rounds + 1 => do
      match ← issue .select with
      | .done => throw (errorf "timeout while checking image pull status")
      | .tick => do
          let pod : Pod ← (issue (.getPod ⟨ns, podName⟩)).mapError
            (Failure.wrap "failed to get pod: ")
          match pullResult pod with
          | none => pollPodPullStatus ns podName rounds
          | some (.error message) => throw (errorf s!"image pull failed: {message}")
          | some (.ok _) => return some true

/-- `CanPullImage`, with so many rounds of the loop. The deletion of the pod is deferred to
the end of the polling, and its error is dropped. -/
def canPullImage (ns image imagePullSecret : String) (rounds : Nat) :
    Check (Option Bool) := do
  let podName ← createImageCheckPod ns image imagePullSecret
  match ← (pollPodPullStatus ns podName rounds).attempt with
  | .ok none => return none
  | .ok (some result) => do
      let _ ← (issue (.deletePod ⟨ns, podName⟩)).attempt
      return some result
  | .error err => do
      let _ ← (issue (.deletePod ⟨ns, podName⟩)).attempt
      throw err

/-! ## What is observed -/

/-- The container of the pod runs the image. -/
def Pod.HasImage (pod : Pod) (image : String) : Prop :=
  pod.containers.map Container.image = [image]

/-- The container of the pod is running or terminated, and not waiting. -/
def Pod.HasStarted (pod : Pod) : Prop :=
  ∃ state, pod.containerStatuses.head? = some state ∧ state.waiting = none ∧
    (state.running || state.terminated) = true

theorem pullResult_eq_ok_iff {pod : Pod} :
    pullResult pod = some (.ok ()) ↔ pod.HasStarted := by
  unfold pullResult Pod.HasStarted
  cases pod.containerStatuses with
  | nil => simp
  | cons state states =>
      cases waits : state.waiting with
      | none =>
          cases runs : state.running <;> simp [waits, runs]
      | some waiting =>
          simp only [List.head?_cons, Option.some.injEq]
          constructor
          · intro isOk
            by_cases failed : waiting.reason = "ErrImagePull" ∨
                waiting.reason = "ImagePullBackOff"
            · simp [waits, failed] at isOk
            · simp [waits, failed] at isOk
          · rintro ⟨other, rfl, none, -⟩
            rw [waits] at none
            cases none

/-- The pod that a call yields. -/
def observedPod? : Event podServer → Option Pod
  | ⟨before, .getPod key, choice⟩ => (podServer.serve choice before (.getPod key)).2.toOption
  | _ => none

/-- A pod with the image is observed running or terminated. -/
def ObservesImage (image : String) (event : Event podServer) : Prop :=
  ∃ pod, observedPod? event = some pod ∧ pod.HasImage image ∧ pod.HasStarted

/-- The check succeeds only if a pod with the image has been observed running or
terminated. -/
def TestsImage
    (ns image imagePullSecret : String) (rounds : Nat) (choices : Nat → PodChoice)
    (site : PodSite) : Prop :=
  let outcome := (canPullImage ns image imagePullSecret rounds).run.run podServer choices site
  outcome.value = .ok (some true) → ∃ event ∈ outcome.log, ObservesImage image event

/-- The pods under the name of the check have the image. -/
def OwnImage (ns image : String) (site : PodSite) : Prop :=
  ∀ pod ∈ site.pods, pod.key = ⟨ns, checkPodName⟩ → pod.HasImage image

/-! ## Single calls -/

section Calls

variable {site : PodSite} {ns image : String}

/-- The kubelet changes the states of containers only. -/
theorem mem_evolve
    {kubelet : Pod → Option (List ContainerState)} {pod : Pod} :
    pod ∈ (site.evolve kubelet).pods ↔ ∃ original ∈ site.pods, ∃ containerStatuses,
      kubelet original = some containerStatuses ∧ { original with containerStatuses } = pod := by
  simp only [PodSite.evolve, List.mem_filterMap, Option.map_eq_some_iff]

theorem ownImage_evolve
    (own : OwnImage ns image site) (kubelet : Pod → Option (List ContainerState)) :
    OwnImage ns image (site.evolve kubelet) := by
  intro pod listed isKey
  obtain ⟨original, inSite, states, -, rfl⟩ := mem_evolve.mp listed
  exact own original inSite isKey

/-- A pod under the name of the check is created with the image, or not at all. -/
theorem ownImage_createPod (own : OwnImage ns image site) (imagePullSecret : String) :
    OwnImage ns image (site.createPod (checkPod ns image imagePullSecret)).1 := by
  unfold PodSite.createPod
  split
  · exact own
  · intro pod listed isKey
    rcases List.mem_append.mp listed with inSite | isNew
    · exact own pod inSite isKey
    · rw [List.mem_singleton.mp isNew]
      rfl

theorem ownImage_deletePod (own : OwnImage ns image site) (key : NamespacedName) :
    OwnImage ns image (site.deletePod key).1 := by
  unfold PodSite.deletePod
  split
  · exact own
  · intro pod listed isKey
    rcases Registry.mem_amend.mp listed with ⟨inSite, -⟩ | ⟨original, inSite, -, rfl⟩
    · exact own pod inSite isKey
    · exact own original inSite isKey

/-- The calls of the check keep the image. -/
theorem ownImage_answer
    {request : Request} {signal : Signal} (own : OwnImage ns image site)
    (creates : ∀ pod, request = .createPod pod → ∃ secret, pod = checkPod ns image secret) :
    OwnImage ns image (site.answer signal request).1 := by
  cases request with
  | getPod key => exact own
  | select => exact own
  | deletePod key => exact ownImage_deletePod own key
  | createPod pod =>
      obtain ⟨secret, rfl⟩ := creates pod rfl
      exact ownImage_createPod own secret

/-- So they do when something goes wrong. -/
theorem ownImage_serve
    {request : Request} {choice : PodChoice} (own : OwnImage ns image site)
    (creates : ∀ pod, request = .createPod pod → ∃ secret, pod = checkPod ns image secret) :
    OwnImage ns image (podServer.serve choice site request).1 := by
  have evolved := ownImage_evolve own choice.kubelet
  have answered := @ownImage_answer (site.evolve choice.kubelet) ns image request
    choice.signal evolved creates
  dsimp only
  split
  · cases choice.fault with
    | none => exact answered
    | refused refusal message => exact evolved
    | lost message => exact answered
  · exact answered

/-- A pod that is found is one that the kubelet has left. -/
theorem serve_getPod_eq_ok
    {choice : PodChoice} {key : NamespacedName} {pod : Pod}
    (found : (podServer.serve choice site (.getPod key)).2 = .ok pod) :
    pod ∈ (site.evolve choice.kubelet).pods ∧ pod.key = key := by
  have reply : (podServer.serve choice site (.getPod key)).2 =
      match choice.fault with
      | .none => (match (site.evolve choice.kubelet).pod? key with
          | some pod => .ok pod
          | none => .error (notFound "pods" key.name))
      | .refused refusal message => .error (refusal.failure message)
      | .lost message => .error (errorf message) := by
    cases fault : choice.fault <;> simp [Request.remote, PodSite.answer, fault]
  rw [reply] at found
  cases fault : choice.fault with
  | none =>
      rw [fault] at found
      cases stored : (site.evolve choice.kubelet).pod? key with
      | none =>
          rw [stored] at found
          cases found
      | some other =>
          rw [stored] at found
          cases found
          exact Registry.find?_eq_some stored
  | refused refusal message =>
      rw [fault] at found
      cases found
  | lost message =>
      rw [fault] at found
      cases found

end Calls

/-! ## A check without a foreign pod -/

section Own

variable {ns image : String}

/-- The environment in which no pod with the image is observed running or terminated. -/
def unobserved (image : String) : Contract podServer where
  rely := fun site request choice => ¬ObservesImage image ⟨site, request, choice⟩
  guard := fun _ _ => True

/-- A call of the check keeps the image. -/
theorem safe_issue
    {request : Request} {known : Except Failure request.Yield → Prop}
    (creates : ∀ pod, request = .createPod pod → ∃ secret, pod = checkPod ns image secret)
    (replies : ∀ site choice, OwnImage ns image site →
      ¬ObservesImage image ⟨site, request, choice⟩ →
        known (podServer.serve choice site request).2) :
    SafeThen (unobserved image) (OwnImage ns image) (issue request) known :=
  fun site own => ⟨trivial, fun choice unseen =>
    ⟨replies site choice own unseen, ownImage_serve own creates⟩⟩

/-- A pod that is found under the name of the check has not started. -/
theorem safe_getPod :
    SafeThen (unobserved image) (OwnImage ns image) (issue (.getPod ⟨ns, checkPodName⟩))
      fun result => ∀ pod : Pod, result = .ok pod →
        pod.metadata.name = checkPodName ∧ ¬pod.HasStarted := by
  refine safe_issue (fun _ isCreate => by cases isCreate) ?_
  intro site choice own unseen pod found
  obtain ⟨listed, isKey⟩ := serve_getPod_eq_ok found
  refine ⟨congrArg NamespacedName.name isKey, fun started => unseen ⟨pod, ?_, ?_, started⟩⟩
  · rw [observedPod?, found]
    rfl
  · exact ownImage_evolve own choice.kubelet pod listed isKey

theorem safe_deletePod (key : NamespacedName) :
    Safe (unobserved image) (OwnImage ns image) (issue (.deletePod key)) :=
  safe_issue (fun _ isCreate => by cases isCreate) fun _ _ _ _ => trivial

/-- The pod of the check has its name, whoever has created it. -/
theorem safe_createImageCheckPod (imagePullSecret : String) :
    SafeThen (unobserved image) (OwnImage ns image)
      (createImageCheckPod ns image imagePullSecret)
      fun result => ∀ podName, result = .ok podName → podName = checkPodName := by
  refine safe_getPod.attempt ?_
  rintro (err | existingPod) known
  · refine SafeThen.bind (SafeThen.mapError (@safe_issue ns image
      (.createPod (checkPod ns image imagePullSecret)) (fun _ => True) ?_
      fun _ _ _ _ => trivial) fun _ _ => trivial) ?_ ?_
    · exact fun pod isCreate => ⟨imagePullSecret, (Request.createPod.inj isCreate).symm⟩
    · exact fun _ _ podName isOk => by cases isOk
    · exact fun _ _ => safeThen_pure fun podName isOk => (Except.ok.inj isOk).symm
  · exact safeThen_pure fun podName isOk =>
      (Except.ok.inj isOk).symm.trans (known existingPod rfl).1

/-- Induction on the rounds: none of them sees a pod that has started. -/
theorem safe_pollPodPullStatus (rounds : Nat) :
    SafeThen (unobserved image) (OwnImage ns image)
      (pollPodPullStatus ns checkPodName rounds) fun result => result ≠ .ok (some true) := by
  induction rounds with
  | zero => exact safeThen_pure (by simp)
  | succ rounds inductionHypothesis =>
      rw [pollPodPullStatus]
      refine SafeThen.bind (@safe_issue ns image .select (fun _ => True)
        (fun _ isCreate => by cases isCreate) fun _ _ _ _ => trivial) (by simp) ?_
      rintro (_ | _) -
      · exact safeThen_throw (by simp)
      · refine SafeThen.bind (SafeThen.mapError safe_getPod ?_) (by simp) ?_
        · exact fun err _ pod isOk => by cases isOk
        · intro pod known
          cases result : pullResult pod with
          | none => exact inductionHypothesis
          | some ended =>
              cases ended with
              | error message => exact safeThen_throw (by simp)
              | ok _ => exact absurd (pullResult_eq_ok_iff.mp result) (known pod rfl).2

/-- `CanPullImage`. -/
theorem safe_canPullImage (imagePullSecret : String) (rounds : Nat) :
    SafeThen (unobserved image) (OwnImage ns image)
      (canPullImage ns image imagePullSecret rounds)
      fun result => result ≠ .ok (some true) := by
  refine SafeThen.bind (safe_createImageCheckPod imagePullSecret) (by simp) ?_
  intro podName known
  rw [known podName rfl]
  refine (safe_pollPodPullStatus rounds).attempt ?_
  rintro (err | _ | result) notTrue
  · exact (safe_deletePod _).attempt fun _ _ => safeThen_throw (by simp)
  · exact safeThen_pure (by simp)
  · exact (safe_deletePod _).attempt fun _ _ => safeThen_pure notTrue

end Own

/-! ## A check with a foreign pod -/

section Foreign

variable {ns image : String} {pod : Pod} {site : PodSite}

/-- Two pods differ in the states of their containers at most. -/
def SamePod (first second : Pod) : Prop :=
  first.metadata = second.metadata ∧ first.containers = second.containers

instance (first second : Pod) : Decidable (SamePod first second) := by
  unfold SamePod
  infer_instance

/-- Nothing goes wrong, and of all pods the given one is left and has been started. -/
def starting (pod : Pod) : PodChoice where
  kubelet := fun other => if SamePod other pod then some [{ running := true }] else none

/-- The pods that are left are the given one, and have been started. -/
theorem of_mem_evolve_starting
    {other : Pod} (listed : other ∈ (site.evolve (starting pod).kubelet).pods) :
    SamePod other pod ∧ other.HasStarted := by
  obtain ⟨original, -, states, left, rfl⟩ := mem_evolve.mp listed
  unfold starting at left
  dsimp only at left
  split at left
  next same =>
    cases left
    exact ⟨same, { running := true }, rfl, rfl, rfl⟩
  next => cases left

/-- The given pod stays. -/
theorem exists_mem_evolve_starting
    (present : ∃ other ∈ site.pods, SamePod other pod) :
    ∃ other ∈ (site.evolve (starting pod).kubelet).pods, SamePod other pod := by
  obtain ⟨original, inSite, same⟩ := present
  exact ⟨{ original with containerStatuses := [{ running := true }] },
    mem_evolve.mpr ⟨original, inSite, _, if_pos same, rfl⟩, same⟩

/-- It is found where it is looked for. -/
theorem serve_getPod_starting
    (present : ∃ other ∈ site.pods, SamePod other pod) :
    ∃ found : Pod, podServer.serve (starting pod) site (.getPod pod.key) =
        (site.evolve (starting pod).kubelet, .ok found) ∧
      SamePod found pod ∧ found.HasStarted := by
  obtain ⟨left, listed, same⟩ := exists_mem_evolve_starting present
  have isSome := @Registry.find?_isSome_of_mem _ _ _ Pod.key _ _ listed
  have isKey : left.key = pod.key := by
    rw [Pod.key, same.1, Pod.key]
  rw [isKey] at isSome
  obtain ⟨found, isFound⟩ := Option.isSome_iff_exists.mp isSome
  refine ⟨found, ?_, of_mem_evolve_starting (Registry.find?_eq_some isFound).1⟩
  change (site.evolve (starting pod).kubelet,
    match (site.evolve (starting pod).kubelet).pod? pod.key with
      | some pod => Except.ok pod
      | none => .error (notFound "pods" pod.key.name)) = _
  rw [PodSite.pod?, isFound]

theorem leadsTo_issue
    {S : Server podInterface} {request : Request} {choices : Nat → S.Choice} {state : S.State}
    (post : Except Failure request.Yield → S.State → (Nat → S.Choice) → Prop) :
    LeadsTo (issue request) choices post state ↔
      post (S.serve (choices 0) state request).2 (S.serve (choices 0) state request).1
        (rest choices) := Iff.rfl

/-- The first round sees the pod running. -/
theorem leadsTo_pollPodPullStatus_starting
    (isKey : pod.key = ⟨ns, checkPodName⟩)
    (present : ∃ other ∈ site.pods, SamePod other pod) :
    LeadsTo (S := podServer) (pollPodPullStatus ns checkPodName 1) (fun _ => starting pod)
      (fun result _ _ => result = .ok (some true)) site := by
  obtain ⟨found, served, -, started⟩ :=
    serve_getPod_starting (exists_mem_evolve_starting present)
  have ticked : podServer.serve (starting pod) site .select =
      (site.evolve (starting pod).kubelet, .ok .tick) := rfl
  rw [isKey] at served
  rw [pollPodPullStatus, leadsTo_bind]
  refine (leadsTo_issue _).mpr ?_
  rw [ticked]
  dsimp only
  rw [leadsTo_bind, leadsTo_mapError]
  refine (leadsTo_issue _).mpr ?_
  rw [served]
  dsimp only [Except.mapError]
  rw [pullResult_eq_ok_iff.mpr started]
  rfl

/-- A pod under the name of the check is taken for that of the check. -/
theorem leadsTo_canPullImage_starting
    (imagePullSecret : String)
    (isKey : pod.key = ⟨ns, checkPodName⟩)
    (present : ∃ other ∈ site.pods, SamePod other pod) :
    LeadsTo (S := podServer) (canPullImage ns image imagePullSecret 1)
      (fun _ => starting pod) (fun result _ _ => result = .ok (some true)) site := by
  obtain ⟨found, served, same, -⟩ := serve_getPod_starting present
  have name : found.metadata.name = checkPodName := by
    rw [same.1]
    exact congrArg NamespacedName.name isKey
  have polled := leadsTo_pollPodPullStatus_starting isKey (exists_mem_evolve_starting present)
  rw [isKey] at served
  rw [canPullImage, leadsTo_bind, createImageCheckPod, leadsTo_bind, leadsTo_attempt]
  refine (leadsTo_issue _).mpr ?_
  rw [served]
  dsimp only
  rw [leadsTo_pure]
  dsimp only
  rw [name, leadsTo_bind, leadsTo_attempt]
  refine Program.LeadsTo.mono polled fun result final left ended => ?_
  rw [ended]
  dsimp only
  rw [leadsTo_bind, leadsTo_attempt]
  exact rfl

end Foreign

/-! ## What the check tests -/

/-- A pod that is observed is one that the kubelet has left. -/
theorem mem_of_observedPod?
    {event : Event podServer} {pod : Pod} (observed : observedPod? event = some pod) :
    pod ∈ (event.before.evolve event.choice.kubelet).pods := by
  obtain ⟨before, request, choice⟩ := event
  cases request with
  | getPod key =>
      cases reply : (podServer.serve choice before (.getPod key)).2 with
      | error failure =>
          rw [observedPod?, reply] at observed
          cases observed
      | ok found =>
          rw [observedPod?, reply] at observed
          cases observed
          exact (serve_getPod_eq_ok reply).1
  | createPod pod => cases observed
  | deletePod key => cases observed
  | select => cases observed

/-- A foreign pod under the name of the check is taken for the one of the check. -/
theorem not_testsImage_of_foreign
    {site : PodSite} {ns image : String} {pod : Pod} (imagePullSecret : String)
    (listed : pod ∈ site.pods) (isKey : pod.key = ⟨ns, checkPodName⟩)
    (foreign : ¬pod.HasImage image) :
    ¬TestsImage ns image imagePullSecret 1 (fun _ => starting pod) site := by
  intro tests
  have succeeds := @leadsTo_canPullImage_starting ns image pod site imagePullSecret isKey
    ⟨pod, listed, rfl, rfl⟩
  obtain ⟨event, member, observed, isObserved, hasImage, -⟩ := tests succeeds
  obtain ⟨index, chosen⟩ := Program.choice_of_mem_log member
  have left := mem_of_observedPod? isObserved
  rw [chosen] at left
  obtain ⟨-, containers⟩ := (of_mem_evolve_starting left).1
  rw [Pod.HasImage, containers] at hasImage
  exact foreign hasImage

/-- The check tests the image it is asked about, whatever becomes of the pods, just if no
pod with another image is stored under its name. -/
theorem image_check_tests_image_iff
    (site : PodSite) (ns image imagePullSecret : String) :
    (∀ choices rounds, TestsImage ns image imagePullSecret rounds choices site) ↔
      OwnImage ns image site := by
  constructor
  · intro tests pod listed isKey
    by_contra foreign
    exact not_testsImage_of_foreign imagePullSecret listed isKey foreign (tests _ 1)
  · intro own choices rounds succeeded
    by_contra unseen
    push Not at unseen
    exact (Program.Ensures.sound (safe_canPullImage imagePullSecret rounds site own) choices
      unseen).2.1 succeeded

/-- A pod of an earlier check, which is about to be terminated. -/
def leftoverPod : Pod :=
  { checkPod "ibm-fusion-access" "cp.icr.io/cp/gpfs/core-init:v5.2.2.0" "" with
    metadata :=
      { name := checkPodName, ns := "ibm-fusion-access", deletionTimestamp := some 1 } }

/-- The pod of an earlier check comes to run: the check of another image succeeds. -/
theorem other_image_checked :
    ¬TestsImage "ibm-fusion-access" "cp.icr.io/cp/gpfs/core-init:v5.2.3.1"
      "ibm-entitlement-key" 1 (fun _ => starting leftoverPod) { pods := [leftoverPod] } :=
  not_testsImage_of_foreign _ List.mem_cons_self rfl (by
    rw [Pod.HasImage]
    decide)

/-! ## The end of the polling -/

/-- What is observed ends the polling: the pod cannot be read, or its status says how the
pull went. -/
def Decides : Except Failure Pod → Prop
  | .error _ => True
  | .ok pod => pullResult pod ≠ none

/-- The context is never cancelled, and so the pod is observed at each tick. -/
def script (observations : Nat → Except Failure Pod) (index : Nat) :
    (request : Request) → Except Failure request.Yield
  | .select => .ok .tick
  | .getPod _ => observations (index / 2)
  | .createPod _ => .ok ()
  | .deletePod _ => .ok ()

/-- `PollPodPullStatus` returns after so many ticks at the latest. -/
def ReturnsWithin
    (ns podName : String) (ticks : Nat) (observations : Nat → Except Failure Pod) : Prop :=
  ((pollPodPullStatus ns podName ticks).run.run (scripted podInterface)
    (script observations) ()).value ≠ .ok none

/-- The first observation ends the polling, or the others are left. -/
theorem returnsWithin_succ_iff
    (ns podName : String) (ticks : Nat) (observations : Nat → Except Failure Pod) :
    ReturnsWithin ns podName (ticks + 1) observations ↔
      Decides (observations 0) ∨
        ReturnsWithin ns podName ticks fun tick => observations (tick + 1) := by
  have shifted : rest (rest (script observations)) =
      script fun tick => observations (tick + 1) := by
    funext index request
    cases request with
    | getPod key =>
        have half : (index + 2) / 2 = index / 2 + 1 := by omega
        exact congrArg observations half
    | _ => rfl
  have round : ReturnsWithin ns podName (ticks + 1) observations ↔
      LeadsTo (S := scripted podInterface) (pollPodPullStatus ns podName (ticks + 1))
        (script observations) (fun result _ _ => result ≠ .ok none) () := Iff.rfl
  have later : ReturnsWithin ns podName ticks (fun tick => observations (tick + 1)) ↔
      LeadsTo (S := scripted podInterface) (pollPodPullStatus ns podName ticks)
        (rest (rest (script observations))) (fun result _ _ => result ≠ .ok none) () := by
    rw [shifted]
    exact Iff.rfl
  rw [round, later, pollPodPullStatus, leadsTo_bind]
  refine (leadsTo_issue _).trans ?_
  dsimp only [script]
  rw [leadsTo_bind, leadsTo_mapError]
  refine (leadsTo_issue _).trans ?_
  have observed : (scripted podInterface).serve (rest (script observations) 0) ()
      (.getPod ⟨ns, podName⟩) = ((), observations 0) := rfl
  rw [observed]
  cases observations 0 with
  | error failure => simp [Decides, Except.mapError]
  | ok pod =>
      dsimp only [Except.mapError, Decides]
      cases result : pullResult pod with
      | none =>
          simp only [ne_eq, not_true_eq_false, false_or]
      | some ended =>
          cases ended with
          | error message => simp
          | ok _ => simp

/-- Induction on the ticks. -/
theorem returnsWithin_iff
    (ns podName : String) (ticks : Nat) (observations : Nat → Except Failure Pod) :
    ReturnsWithin ns podName ticks observations ↔
      ∃ tick < ticks, Decides (observations tick) := by
  induction ticks generalizing observations with
  | zero =>
      constructor
      · exact fun returns => absurd rfl returns
      · rintro ⟨tick, early, -⟩
        exact absurd early (Nat.not_lt_zero tick)
  | succ ticks inductionHypothesis =>
      rw [returnsWithin_succ_iff, inductionHypothesis, Nat.exists_lt_succ_left]

/-- The polling returns in time just if one of the observations in that time decides how the
pull went. -/
theorem polling_returns_in_time_iff
    (ns podName : String) (observations : Nat → Except Failure Pod) :
    ReturnsWithin ns podName (checkPodMaxImagePullTimeout / checkPodPullInterval)
        observations ↔
      ∃ tick < checkPodMaxImagePullTimeout / checkPodPullInterval,
        Decides (observations tick) :=
  returnsWithin_iff ns podName _ observations

/-- A pod that waits for a reason that is not looked for. -/
def waitingPod : Pod :=
  { checkPod "ibm-fusion-access" "cp.icr.io/cp/gpfs/core-init:v5.2.3.1" "" with
    containerStatuses := [{ waiting := some { reason := "ContainerCreating" } }] }

/-- The polling of a container that is never created does not return in time. -/
theorem waiting_outlasts_timeout :
    ¬ReturnsWithin "ibm-fusion-access" checkPodName
      (checkPodMaxImagePullTimeout / checkPodPullInterval) fun _ => .ok waitingPod := by
  rw [returnsWithin_iff]
  rintro ⟨tick, -, decides⟩
  exact decides (by decide)

end ImageCheck
end Installation
