import FusionAccess.Installation.HonestReady
import FusionAccess.Interaction.Interference

/-!
# What the status tells

Passes for several FusionAccess objects, and for the same one, may be under way together,
while users and other controllers change what is stored. The status that a pass writes is
the one that it has read, changed step by step, so Ready stands only beside an applied
manifest and ErrImagePull only beside a failed pull; what the other conditions say is left
open. And no manifest is applied but from where manifests may come from.
-/

namespace Installation
namespace Operator

open Kubernetes Interaction Fallible

/-! ## The discipline -/

/-- There is one condition of each type, and Ready and ErrImagePull stand beside the
condition that they are due to; the others may say anything. -/
structure Coherent (status : FusionAccessStatus) : Prop where
  distinct : (status.conditions.map Condition.type).Nodup
  known : status.status ∈ ["", "Error", "ErrImagePull", "Ready"]
  ready : status.status = "Ready" →
    statusOf? status.conditions manifestApplyType = some .isTrue
  unpulled : status.status = "ErrImagePull" →
    statusOf? status.conditions imagePullType = some .isFalse

/-- All statuses are coherent. -/
def State.Coherent (state : State) : Prop :=
  ∀ key, Operator.Coherent (state.details key).status

/-- The path is that of the bundled manifest, or a URL that is allowed. -/
def Environment.Admits (env : Environment) (path : String) : Prop :=
  (∃ version, env.getStorageScaleVersion = .ok (version, path)) ∨
    ManifestUrl.isExternalManifestURLAllowed env.toLower path = true

/-- What the operator writes is coherent, and what it applies comes from an admitted path. -/
def Sound (env : Environment) : Request → Prop
  | .own (.updateStatus fusionaccess) => Coherent fusionaccess.status
  | .own (.newManifest path) => env.Admits path
  | .own (.applyResource path _) => env.Admits path
  | _ => True

/-- Anything may change between two calls, but for the coherence of the statuses. -/
def reporting (env : Environment) :
    Discipline operatorServer NamespacedName (Except Failure (Option Result)) where
  invariant := State.Coherent
  rely := fun _ _ _ => True
  peers := fun _ _ => True
  admitted := fun _ _ => True
  guarantee := fun _ event => Sound env event.request
  ends := fun _ _ _ => True
  rely_refl := fun _ _ => trivial
  rely_trans := fun _ _ _ _ _ _ => trivial
  ends_stable := fun _ _ _ _ _ _ => trivial

variable {env : Environment} {index : NamespacedName}

/-! ## Single calls -/

/-- No call but an update of a status changes one. -/
theorem details_answer
    (state : State) {request : OwnRequest}
    (other : ∀ fusionaccess, request ≠ .updateStatus fusionaccess) :
    (state.answer request).1.details = state.details := by
  cases request with
  | updateStatus fusionaccess => exact absurd rfl (other fusionaccess)
  | createLocalVolumeDiscovery lvd =>
      simp only [State.answer, State.createDiscovery]
      split <;> rfl
  | updateLocalVolumeDiscovery lvd =>
      simp only [State.answer, State.updateDiscovery]
      split
      · rfl
      · split <;> rfl
  | _ => rfl

theorem coherent_updateStatus
    {state : State} {fusionaccess : FusionAccess}
    (coherent : state.Coherent) (written : Coherent fusionaccess.status) :
    (state.updateStatus fusionaccess).1.Coherent := by
  unfold State.updateStatus
  split
  · exact coherent
  · split
    · exact coherent
    · intro key
      change Coherent (Function.update state.details _ _ key).status
      by_cases same : key = fusionaccess.toFusionAccess.key
      · rw [same, Function.update_self]
        exact written
      · rw [Function.update_of_ne same]
        exact coherent key

/-- A sound call of the controller itself keeps the statuses coherent. -/
theorem coherent_answer
    {state : State} {request : OwnRequest}
    (coherent : state.Coherent) (sound : Sound env (.own request)) :
    (state.answer request).1.Coherent := by
  cases request with
  | updateStatus fusionaccess => exact coherent_updateStatus coherent sound
  | _ =>
      intro key
      rw [details_answer state (by simp)]
      exact coherent key

theorem coherent_served
    {state : State} {request : Request} {choice : ImageCheck.PodChoice}
    (coherent : state.Coherent) (sound : Sound env request) :
    (operatorServer.serve choice state request).1.Coherent := by
  cases request with
  | own request =>
      change (ownServer.serve choice.fault state request).1.Coherent
      rcases @Api.serve_cases ownApi State State.answer choice.fault state request with
        ⟨_, served⟩ | ⟨_, _, _, _, served | served⟩
      · rw [served]
        exact coherent_answer coherent sound
      · rw [served]
        exact coherent
      · rw [served]
        exact coherent_answer coherent sound
  | _ => exact coherent

theorem served_of_sound
    {event : Event operatorServer}
    (coherent : event.before.Coherent) (sound : Sound env event.request) :
    (reporting env).Served index event where
  invariant := coherent_served coherent sound
  rely := fun _ _ => trivial
  guarantee := sound

/-! ## Programs -/

/-- The program issues sound calls only, and its results are as given. -/
abbrev Sounds (env : Environment) (index : NamespacedName) {α : Type}
    (program : Act α) (known : Except Failure α → Prop) : Prop :=
  SafeThen (S := operatorServer.shared) ((reporting env).contract index) (fun _ => True)
    program known

/-- What has to be shown about a call of the controller itself. -/
theorem sounds_own
    {request : OwnRequest} {known : Except Failure request.Yield → Prop}
    (sound : Sound env (.own request))
    (success : ∀ state : State, state.Coherent → known (state.answer request).2)
    (failed : ∀ failure, known (.error failure)) :
    Sounds env index (own request) known := by
  rintro state -
  refine ⟨fun before choice _ coherent _ => served_of_sound coherent sound, ?_⟩
  rintro ⟨before, choice⟩ ⟨-, coherent, -⟩
  change known (ownServer.serve choice.fault before request).2 ∧ True
  rcases @Api.serve_cases ownApi State State.answer choice.fault before request with
    ⟨_, served⟩ | ⟨_, _, _, _, served | served⟩
  · rw [served]
    exact ⟨success before coherent, trivial⟩
  · rw [served]
    exact ⟨failed _, trivial⟩
  · rw [served]
    exact ⟨failed _, trivial⟩

/-- A call of which nothing has to be known. -/
theorem sounds_call (request : OwnRequest) (sound : Sound env (.own request)) :
    Sounds env index (own request) fun _ => True :=
  sounds_own sound (fun _ _ => trivial) fun _ => trivial

/-- The clock yields some time. -/
theorem sounds_now : Sounds env index (own .now) fun result => ∃ now, result = .ok now := by
  rintro state -
  refine ⟨fun before choice _ coherent _ => served_of_sound coherent trivial, ?_⟩
  rintro ⟨before, choice⟩ -
  exact ⟨⟨before.site.clock, rfl⟩, trivial⟩

/-- Programs that talk to the other parts issue sound calls only. -/
theorem sounds_within
    {I : Interface} {α : Type} (part : Part I operatorInterface)
    (sound : ∀ request, Sound env (part.call request))
    (program : Fallible I Failure α) :
    Sounds env index (Fallible.within part program) fun _ => True := by
  have all : ∀ {β : Type} (rest : Program I β) (state : State),
      (rest.within part).Ensures (S := operatorServer.shared) ((reporting env).contract index)
        (fun _ _ => True) state := by
    intro β rest
    induction rest with
    | done value => exact fun _ => trivial
    | call request next inductionHypothesis =>
        exact fun state => ⟨fun _ _ _ coherent _ => served_of_sound coherent (sound request),
          fun _ _ => inductionHypothesis _ _⟩
  rintro state -
  exact (all program.run state).mono fun _ _ _ => ⟨trivial, trivial⟩

/-! ## Reports -/

/-- The status of a type after a condition is set. -/
def statusAfter (conditions : List Condition) (condition : Condition)
    (conditionType : ConditionType) : Option ConditionStatus :=
  if condition.type = conditionType then some condition.status
  else statusOf? conditions conditionType

/-- What is written into a status that is coherent is coherent, if the condition that is
set tells the same as the new status. -/
theorem coherent_set
    {status : FusionAccessStatus} {condition : Condition} {next : String}
    (coherent : Coherent status)
    (known : next ∈ ["", "Error", "ErrImagePull", "Ready"])
    (ready : next = "Ready" →
      statusAfter status.conditions condition manifestApplyType = some .isTrue)
    (unpulled : next = "ErrImagePull" →
      statusAfter status.conditions condition imagePullType = some .isFalse)
    (now : Nat) :
    Coherent
      { status := next, conditions := setStatusCondition now status.conditions condition } where
  distinct := nodup_setStatusCondition coherent.distinct now condition
  known := known
  ready := fun isReady => (statusOf?_setStatusCondition _ _ _ _).trans (ready isReady)
  unpulled := fun isUnpulled => (statusOf?_setStatusCondition _ _ _ _).trans
    (unpulled isUnpulled)

/-- A report that fits yields what has been written. -/
theorem sounds_report
    {fusionaccess : FusionAccess} {status : String} {condition : Condition}
    (coherent : ∀ now, Coherent
      { status
        conditions := setStatusCondition now fusionaccess.status.conditions condition }) :
    Sounds env index (report fusionaccess status condition) fun result =>
      ∀ reported, result = .ok reported → Coherent reported.status ∧
        ∀ conditionType, statusOf? reported.status.conditions conditionType =
          statusAfter fusionaccess.status.conditions condition conditionType := by
  refine sounds_now.bind (fun _ impossible => by simp at impossible) ?_
  rintro now -
  refine sounds_own (coherent now) ?_ fun _ _ impossible => by cases impossible
  intro state _ reported isReported
  have written : reported.status =
      { status
        conditions := setStatusCondition now fusionaccess.status.conditions condition } := by
    simp only [State.answer, State.updateStatus] at isReported
    split at isReported
    · cases isReported
    · split at isReported
      · cases isReported
      · cases isReported
        rfl
  rw [written]
  exact ⟨coherent now, fun _ => statusOf?_setStatusCondition _ _ _ _⟩

/-- A report of an error yields nothing. -/
theorem sounds_reportError
    {α : Type} {fusionaccess : FusionAccess} {status : String} {condition : Condition}
    {err : Failure} {known : Except Failure α → Prop}
    (coherent : ∀ now, Coherent
      { status
        conditions := setStatusCondition now fusionaccess.status.conditions condition })
    (failed : ∀ err, known (.error err)) :
    Sounds env index (reportError fusionaccess status condition err) known := by
  refine (sounds_report coherent).attempt ?_
  rintro (serr | reported) -
  · exact safeThen_throw (failed _)
  · exact safeThen_throw (failed _)

/-- The pass has applied the manifest and said so. -/
structure HasApplied (fusionaccess : FusionAccess) : Prop where
  coherent : Coherent fusionaccess.status
  applied : statusOf? fusionaccess.status.conditions manifestApplyType = some .isTrue

/-- An error may be reported whatever has been reported before. -/
theorem coherent_error
    {status : FusionAccessStatus} (coherent : Coherent status) (condition : Condition)
    (now : Nat) :
    Coherent
      { status := "Error"
        conditions := setStatusCondition now status.conditions condition } :=
  coherent_set coherent (by decide) (fun impossible => absurd impossible (by decide))
    (fun impossible => absurd impossible (by decide)) now

/-! ## Steps -/

theorem sounds_applyResources
    {path : String} (admits : env.Admits path) (resources : List ManifestResource) :
    Sounds env index (applyResources path resources) fun _ => True := by
  induction resources with
  | nil => exact safe_pure ()
  | cons spec resources inductionHypothesis =>
      exact (sounds_call (.applyResource path spec) admits).andThen
        fun _ _ => inductionHypothesis

/-- The step that applies the manifest. -/
theorem sounds_applyManifest
    {fusionaccess : FusionAccess} {path : String}
    (coherent : Coherent fusionaccess.status) (admits : env.Admits path) :
    Sounds env index (applyManifest fusionaccess path) fun result =>
      ∀ reported, result = .ok reported → HasApplied reported := by
  refine (sounds_call (.newManifest path) admits).bind
    (fun _ _ _ impossible => by cases impossible) fun resources _ => ?_
  refine (sounds_applyResources admits resources).attempt ?_
  rintro (err | _) -
  · exact sounds_reportError (coherent_error coherent _) fun _ _ impossible => by
      cases impossible
  · have applied : (manifestApply .isTrue "Storage Scale manifest was applied").type =
        manifestApplyType := rfl
    refine (sounds_report (coherent_set coherent coherent.known (fun _ => if_pos applied)
      fun isUnpulled => ?_)).mono ?_
    · rw [statusAfter, if_neg (by decide)]
      exact coherent.unpulled isUnpulled
    · intro result known reported isReported
      obtain ⟨stays, conditions⟩ := known reported isReported
      exact ⟨stays, (conditions _).trans (if_pos applied)⟩

/-- A condition that says nothing about the manifest and the images may be set while the
status stays. -/
theorem sounds_report_other
    {fusionaccess : FusionAccess} {condition : Condition}
    (hasApplied : HasApplied fusionaccess)
    (notManifest : condition.type ≠ manifestApplyType)
    (notImage : condition.type ≠ imagePullType) :
    Sounds env index (report fusionaccess fusionaccess.status.status condition) fun result =>
      ∀ reported, result = .ok reported → HasApplied reported := by
  obtain ⟨coherent, applied⟩ := hasApplied
  refine (sounds_report (coherent_set coherent coherent.known (fun isReady => ?_)
    fun isUnpulled => ?_)).mono ?_
  · rw [statusAfter, if_neg notManifest]
    exact coherent.ready isReady
  · rw [statusAfter, if_neg notImage]
    exact coherent.unpulled isUnpulled
  · intro result known reported isReported
    obtain ⟨stays, conditions⟩ := known reported isReported
    exact ⟨stays, ((conditions _).trans (if_neg notManifest)).trans applied⟩

/-- Programs about the entitlement and the kernel module. -/
theorem sounds_onDepot {α : Type} (program : Preparation α) :
    Sounds env index (onDepot program) fun _ => True :=
  sounds_within depotPart.toPart (fun _ => trivial) program

theorem sounds_getPullSecretContent (name ns : String) :
    Sounds env index (getPullSecretContent name ns) fun _ => True := by
  refine (sounds_call (.getPullSecret _) trivial).andThen fun secret _ => safeThen_ite (fun _ => safe_throw _) fun _ => ?_
  split
  · exact safe_throw _
  · split
    · exact safe_throw _
    · exact safe_pure _

theorem sounds_checkImageRegistryStorage :
    Sounds env index checkImageRegistryStorage fun _ => True := by
  refine (sounds_call .getRegistryConfig trivial).attempt ?_
  rintro (err | config) -
  · exact safeThen_ite (fun _ => safe_pure ()) fun _ => safe_throw _
  · exact safeThen_ite (fun _ => safe_throw _) fun _ =>
      safeThen_ite (fun _ => safe_throw _) fun _ => safe_pure ()

theorem sounds_checkRegistry
    {fusionaccess : FusionAccess} {ns : String} (hasApplied : HasApplied fusionaccess) :
    Sounds env index (checkRegistry fusionaccess ns) fun result =>
      ∀ reported, result = .ok reported → HasApplied reported := by
  refine (sounds_onDepot _).bind (fun _ _ _ impossible => by cases impossible) fun _ _ => ?_
  refine safeThen_ite (fun _ => ?_) fun _ => safeThen_pure fun reported same => ?_
  · refine sounds_checkImageRegistryStorage.attempt ?_
    rintro (err | _) -
    · exact sounds_reportError (coherent_error hasApplied.coherent _) fun _ _ impossible => by
        cases impossible
    · exact sounds_report_other hasApplied (by decide) (by decide)
  · cases same
    exact hasApplied

theorem sounds_prepareKernelModule
    {fusionaccess : FusionAccess} {ns : String} (hasApplied : HasApplied fusionaccess) :
    Sounds env index (prepareKernelModule env fusionaccess ns) fun result =>
      ∀ reported, result = .ok reported → HasApplied reported := by
  refine (sounds_getPullSecretContent _ _).attempt ?_
  rintro (err | secret) -
  · refine safeThen_pure fun reported same => ?_
    cases same
    exact hasApplied
  · refine (sounds_onDepot _).bind (fun _ _ _ impossible => by cases impossible) fun _ _ => ?_
    refine (sounds_checkRegistry hasApplied).bind
      (fun _ _ _ impossible => by cases impossible) fun reported known => ?_
    refine (sounds_onDepot _).bind (fun _ _ _ impossible => by cases impossible) fun _ _ => ?_
    refine safeThen_pure fun last same => ?_
    cases same
    exact known reported rfl

theorem sounds_runPullImageCheck (ns : String) :
    Sounds env index (runPullImageCheck env ns) fun _ => True := by
  have decides : Sounds env index (orFail env.getExternalTestImage) fun _ => True := by
    cases env.getExternalTestImage with
    | error err => exact safe_throw err
    | ok image => exact safe_pure image
  refine decides.andThen fun testImage _ => ?_
  refine (sounds_within podsPart.toPart (fun _ => trivial) _).andThen fun checked _ => ?_
  cases checked with
  | none => exact safe_pure none
  | some _ => exact safe_pure (some ())

theorem sounds_checkImagePull
    {fusionaccess : FusionAccess} {ns : String} (hasApplied : HasApplied fusionaccess) :
    Sounds env index (checkImagePull env fusionaccess ns) fun result =>
      ∀ reported, result = .ok (some reported) → HasApplied reported := by
  obtain ⟨coherent, applied⟩ := hasApplied
  refine safeThen_ite (fun _ => ?_) fun _ => safeThen_pure fun reported same => ?_
  · refine (sounds_runPullImageCheck ns).attempt ?_
    rintro (err | (_ | _)) -
    · refine sounds_reportError (coherent_set coherent (by decide)
        (fun impossible => absurd impossible (by decide)) fun _ => ?_)
        fun _ _ impossible => by cases impossible
      exact if_pos rfl
    · exact safeThen_pure fun _ impossible => by cases impossible
    · change Sounds env index ((some <$> report fusionaccess ""
        (imagePull .isTrue "Protected images pulled successfully"))) _
      rw [map_eq_pure_bind]
      refine (sounds_report (coherent_set coherent (by decide)
        (fun impossible => absurd impossible (by decide))
        fun impossible => absurd impossible (by decide))).bind
          (fun _ _ _ impossible => by cases impossible) fun reported known => ?_
      obtain ⟨stays, conditions⟩ := known reported rfl
      refine safeThen_pure fun last same => ?_
      cases same
      exact ⟨stays, ((conditions _).trans (if_neg (by decide))).trans applied⟩
  · cases same
    exact ⟨coherent, applied⟩

theorem sounds_createDiscovery (fusionaccess : FusionAccess) (ns : String) :
    Sounds env index (createDiscovery fusionaccess ns) fun _ => True := by
  refine safeThen_ite (fun _ => ?_) fun _ => safe_pure ()
  refine (sounds_call (.getLocalVolumeDiscovery _) trivial).attempt ?_
  rintro (err | oldCP) -
  · refine safeThen_ite (fun _ => ?_) fun _ => safe_throw _
    exact (sounds_call (.createLocalVolumeDiscovery _) trivial).mapError fun _ _ => trivial
  · exact (sounds_call (.updateLocalVolumeDiscovery _) trivial).mapError fun _ _ => trivial

theorem sounds_finish
    {fusionaccess : FusionAccess} {ns : String} (hasApplied : HasApplied fusionaccess) :
    Sounds env index (finish fusionaccess ns) fun _ => True := by
  obtain ⟨coherent, applied⟩ := hasApplied
  refine (sounds_createDiscovery fusionaccess ns).andThen fun _ _ => ?_
  have ready : Coherent { fusionaccess.status with status := "Ready" } :=
    ⟨coherent.distinct, by simp, fun _ => applied, by simp⟩
  exact (sounds_call (.updateStatus { fusionaccess with
    status := { fusionaccess.status with status := "Ready" } }) ready).andThen
      fun _ _ => safe_pure _

/-- The steps that follow the decision which manifest to apply. -/
theorem sounds_install
    {fusionaccess : FusionAccess} {ns path : String}
    (coherent : Coherent fusionaccess.status) (admits : env.Admits path) :
    Sounds env index (install env fusionaccess ns path) fun _ => True := by
  refine (sounds_applyManifest coherent admits).andThen fun applied known => ?_
  have hasApplied := known applied rfl
  refine (sounds_within sitePart.toPart (fun _ => trivial) _).andThen fun pdbreq _ => ?_
  cases pdbreq with
  | some pdbreq => exact safe_pure _
  | none =>
      refine (sounds_prepareKernelModule hasApplied).andThen fun prepared known => ?_
      have enables : Sounds env index (enableConsolePlugin env) fun _ => True :=
        (sounds_within pluginPart.toPart (fun _ => trivial) _).andThen fun _ _ =>
          sounds_within pluginPart.toPart (fun _ => trivial) _
      refine enables.andThen fun _ _ => ?_
      refine (sounds_checkImagePull (known prepared rfl)).andThen fun checked known => ?_
      cases checked with
      | none => exact safe_pure _
      | some checked => exact sounds_finish (known checked rfl)

/-- The manifest that is decided upon may be applied. -/
theorem admits_of_getIbmManifest
    {fusionaccess : FusionAccess} {manifest : String × String}
    (decided : env.getIbmManifest fusionaccess = .ok manifest) :
    env.Admits manifest.2 := by
  simp only [Environment.getIbmManifest] at decided
  split at decided
  · split at decided
    next allowed =>
      cases decided
      exact Or.inr allowed
    next => cases decided
  · exact Or.inl ⟨manifest.1, decided⟩

/-- A pass as a whole. -/
theorem sounds_reconcile (env : Environment) (req : NamespacedName) :
    Sounds env index (reconcile env req) fun _ => True := by
  have reads : Sounds env index (own (.getFusionAccess req)) fun result =>
      ∀ fusionaccess, result = .ok fusionaccess → Coherent fusionaccess.status := by
    refine sounds_own trivial ?_ fun _ _ impossible => by cases impossible
    intro state coherent fusionaccess isRead
    simp only [State.answer] at isRead
    split at isRead
    next found =>
      cases isRead
      obtain ⟨base, _, rfl⟩ := Option.map_eq_some_iff.mp found
      exact coherent base.key
    next => cases isRead
  refine reads.attempt ?_
  rintro (err | fusionaccess) known
  · exact safeThen_ite (fun _ => safe_pure _) fun _ => safe_throw err
  have coherent := known fusionaccess rfl
  have named : Sounds env index (orFail env.getDeploymentNamespace) fun _ => True := by
    cases env.getDeploymentNamespace with
    | error err => exact safe_throw err
    | ok ns => exact safe_pure ns
  refine named.andThen fun ns _ => ?_
  cases decided : env.getIbmManifest fusionaccess with
  | error err => exact safe_throw err
  | ok manifest =>
      refine safeThen_ite (fun _ => ?_) fun _ => ?_
      · rw [map_eq_pure_bind]
        exact (sounds_within sitePart.toPart (fun _ => trivial) _).andThen
          fun _ _ => safe_pure _
      · exact sounds_install coherent (admits_of_getIbmManifest decided)

/-- However passes take turns, and whatever else is changed between their calls as long as
the statuses stay coherent: every status tells the same as the conditions beside it, and
no manifest is read or applied but the bundled one and those from allowed URLs. -/
theorem statuses_stay_coherent
    {env : Environment} {initial : State}
    {current : Interleaving operatorServer NamespacedName (Except Failure (Option Result))}
    (coherent : initial.Coherent)
    (reached : Interleaved (fun req => (reconcile env req).run) (fun _ _ => True)
      (fun before after : State => before.Coherent → after.Coherent) initial current) :
    State.Coherent current.state ∧
      ∀ occurrence ∈ current.log, Sound env occurrence.event.request := by
  have upheld := Discipline.sound (D := reporting env)
    (fun index state _ _ => (sounds_reconcile env index state trivial).mono
      fun _ _ _ => trivial)
    (fun _ _ moved isCoherent => ⟨moved isCoherent, fun _ => trivial⟩)
    coherent reached (fun _ _ => trivial)
  exact ⟨upheld.invariant, fun occurrence member =>
    (upheld.log occurrence member).2.1.guarantee⟩

theorem coherent_firstState : firstState.Coherent := by
  intro key
  have unset : Coherent {} := by
    refine ⟨List.nodup_nil, by decide, ?_, ?_⟩
    · exact fun impossible => absurd impossible (by decide)
    · exact fun impossible => absurd impossible (by decide)
  exact unset

/-- Two passes read the FusionAccess; the first one reports on the manifest, so that the
report of the second one is refused. -/
def twoPasses : List (Turn operatorServer NamespacedName) :=
  [.launch onlyKey, .launch onlyKey, .step 0 {}, .step 1 {}] ++
    List.replicate 4 (.step 0 {}) ++ List.replicate 4 (.step 1 {}) ++
    List.replicate 9 (.step 0 {})

theorem statuses_stay_coherent_twoPasses :
    let current := interleave (fun req => (reconcile deployed req).run) firstState twoPasses
    (State.Coherent current.state ∧
      ∀ occurrence ∈ current.log, Sound deployed occurrence.event.request) ∧
      current.state.IsReady onlyKey := by
  refine ⟨statuses_stay_coherent coherent_firstState
    (interleaved_interleave _ firstState twoPasses ?_), ?_⟩
  · simp [twoPasses]
  · unfold State.IsReady
    decide +kernel

end Operator
end Installation
