import FusionAccess.Installation.PodDisruptionBudget
import FusionAccess.Interaction.Interleaving

/-!
# The webhook for new FusionAccess objects

The API server asks the webhook about each new FusionAccess and stores it when it
is admitted. The webhook looks for other FusionAccess objects in a cache, and
several requests may be under way at the same time.
-/

namespace Installation

open Kubernetes Interaction Fallible

/-! ## The API server -/

/-- An entry of `ClusterVersionStatus.History`. -/
structure UpdateHistory where
  state : String
  version : String

/-- `ClusterVersion` with the fields that the webhook looks at. -/
structure ClusterVersion where
  history : List UpdateHistory := []
  desired : String := ""

/-- The calls of a creation. -/
inductive CreationRequest
  | listFusionAccesses
  | getClusterVersion (name : String)
  | createFusionAccess (fusionaccess : FusionAccess)

/-- What a call yields when it succeeds. -/
@[reducible] def CreationRequest.Yield : CreationRequest → Type
  | .listFusionAccesses => List FusionAccess
  | .getClusterVersion _ => ClusterVersion
  | .createFusionAccess _ => Unit

/-- The interface of the creations. -/
abbrev creation : Interface where
  Call := CreationRequest
  Reply := fun request => Except Failure request.Yield

/-- The stored FusionAccess objects, what was stored earlier, the latest version
first, and the ClusterVersion, if there is one. -/
structure Admissions where
  stored : List FusionAccess := []
  earlier : List (List FusionAccess) := []
  clusterVersion : Option ClusterVersion := none

/-- The version of the given age; there is none before the first. -/
def Admissions.ofAge (admissions : Admissions) (age : Nat) : List FusionAccess :=
  (admissions.stored :: admissions.earlier).getD age admissions.stored

/-- What the environment decides about one call: a fault, and the age of what the
cache yields. -/
structure CacheChoice where
  fault : Fault := .none
  age : Nat := 0

/-- The answer to a call that nothing goes wrong with. -/
def Admissions.answer (age : Nat) (admissions : Admissions) :
    (request : CreationRequest) → Admissions × Except Failure request.Yield
  | .listFusionAccesses => (admissions, .ok (admissions.ofAge age))
  | .getClusterVersion name =>
      (admissions, match admissions.clusterVersion with
        | some clusterVersion => .ok clusterVersion
        | none => .error (notFound "clusterversions.config.openshift.io" name))
  | .createFusionAccess fusionaccess =>
      if fusionaccess.key ∈ admissions.stored.map FusionAccess.key then
        (admissions, .error (alreadyExists "fusionaccesses.fusion.storage.openshift.io"
          fusionaccess.metadata.name))
      else
        ({ admissions with
          stored := admissions.stored ++ [fusionaccess]
          earlier := admissions.stored :: admissions.earlier }, .ok ())

/-- The API server with the cache of the webhook. -/
abbrev admissionServer : Server creation where
  State := Admissions
  Choice := CacheChoice
  serve := fun choice admissions request =>
    match choice.fault with
    | .none => admissions.answer choice.age request
    | .refused refusal message => (admissions, .error (refusal.failure message))
    | .lost message =>
        ((admissions.answer choice.age request).1, .error (errorf message))

/-! ## The webhook -/

/-- Programs of a creation that may fail. -/
abbrev Creation : Type → Type := Fallible creation Failure

/-- Issue one call. -/
def issue (request : CreationRequest) : Creation request.Yield :=
  ExceptT.mk (Program.issue (I := creation) request)

/-- `semver.NewVersion`: the parts of a version, if the text is one. -/
abbrev VersionParser : Type := String → Except Failure (Nat × Nat × Nat)

/-- `parseAndReturnVersion`. -/
def parseAndReturnVersion (newVersion : VersionParser) (versionStr : String) :
    Except Failure (Nat × Nat × Nat) :=
  (newVersion versionStr).mapError
    (Failure.wrap s!"failed to parse version {versionStr}: ")

/-- `GetCurrentClusterVersion`: the version of the first completed update, or the
desired one. -/
def getCurrentClusterVersion
    (newVersion : VersionParser) (clusterversion : ClusterVersion) :
    Except Failure (Nat × Nat × Nat) :=
  match clusterversion.history.find? fun entry => entry.state = "Completed" with
  | some entry => parseAndReturnVersion newVersion entry.version
  | none => parseAndReturnVersion newVersion clusterversion.desired

/-- Whether the version is supported is only logged. -/
def checkVersion (newVersion : VersionParser) (clusterVersions : ClusterVersion) :
    Creation Unit :=
  match getCurrentClusterVersion newVersion clusterVersions with
  | .error err => throw (errorf s!"failed to get current cluster version: {err.message}")
  | .ok _ => return ()

/-- What follows the list in `ValidateCreate`. -/
def validateVersion (newVersion : VersionParser) : Creation Unit := do
  let clusterVersions ← (issue (.getClusterVersion "version")).mapError
    fun err => errorf s!"failed to list ClusterVersions: {err.message}"
  checkVersion newVersion clusterVersions

/-- `ValidateCreate`. -/
def validateCreate (newVersion : VersionParser) : Creation Unit := do
  let fusionaccesses ← (issue .listFusionAccesses).mapError
    fun err => errorf s!"failed to list FusionAccess resources: {err.message}"
  if fusionaccesses.length > 0 then
    throw (errorf "only one FusionAccess resource is allowed")
  else validateVersion newVersion

/-- The API server handles the creation of an object. -/
def createFusionAccess (newVersion : VersionParser) (fusionaccess : FusionAccess) :
    Creation Unit := do
  validateCreate newVersion
  issue (.createFusionAccess fusionaccess)

/-- The creations, one for each requested object. -/
def creations (newVersion : VersionParser) :
    FusionAccess → Program creation (Except Failure Unit) :=
  fun fusionaccess => (createFusionAccess newVersion fusionaccess).run

/-! ## Requests that have passed the check -/

/-- The program may still store its object without looking for others again. -/
def MayStore : Program creation (Except Failure Unit) → Prop
  | .done _ => False
  | .call request next =>
      match request with
      | .listFusionAccesses => False
      | .getClusterVersion _ => ∃ reply, MayStore (next reply)
      | .createFusionAccess _ => True

/-- The program stores only the given object, once, and after an empty list only. -/
def StoresOnce (fusionaccess : FusionAccess) :
    Program creation (Except Failure Unit) → Prop
  | .done _ => True
  | .call request next =>
      (∀ reply, StoresOnce fusionaccess (next reply)) ∧
        match request with
        | .listFusionAccesses => ∀ reply, MayStore (next reply) → reply = .ok []
        | .getClusterVersion _ => True
        | .createFusionAccess stored =>
            stored = fusionaccess ∧ ∀ reply, ¬MayStore (next reply)

theorem storesOnce_creations (newVersion : VersionParser) (fusionaccess : FusionAccess) :
    StoresOnce fusionaccess (creations newVersion fusionaccess) := by
  have stores : StoresOnce fusionaccess
      (issue (.createFusionAccess fusionaccess)).run :=
    ⟨fun _ => trivial, rfl, fun _ => id⟩
  have validates : StoresOnce fusionaccess
      (validateVersion newVersion >>= fun _ =>
        issue (.createFusionAccess fusionaccess)).run := by
    refine ⟨fun reply => ?_, trivial⟩
    cases reply with
    | error err => trivial
    | ok clusterVersion =>
        change StoresOnce fusionaccess (checkVersion newVersion clusterVersion >>= fun _ =>
          issue (.createFusionAccess fusionaccess)).run
        unfold checkVersion
        cases getCurrentClusterVersion newVersion clusterVersion with
        | error err => trivial
        | ok version => exact stores
  refine ⟨fun reply => ?_, fun reply may => ?_⟩
  · cases reply with
    | error err => trivial
    | ok fusionaccesses =>
        cases fusionaccesses with
        | nil => exact validates
        | cons head tail => trivial
  · cases reply with
    | error err => exact absurd may id
    | ok fusionaccesses =>
        cases fusionaccesses with
        | nil => rfl
        | cons head tail => exact absurd may id

/-- Requests under way. -/
abbrev Requests : Type := Interleaving admissionServer FusionAccess (Except Failure Unit)

/-- Every object that is stored, or may still be stored, has the given key. -/
structure Exclusive (key : NamespacedName) (current : Requests) : Prop where
  stored : ∀ fusionaccess ∈ current.state.stored, fusionaccess.key = key
  tasks : ∀ task ∈ current.tasks, MayStore task.rest → task.index.key = key

/-- Objects may be deleted at any time. A request that is served an empty list is the
only one that gets past the check, and nothing is stored yet. -/
def OneAtATime (current : Requests) :
    Turn admissionServer FusionAccess → Prop
  | .launch _ => True
  | .step position choice =>
      ∀ task ∈ current.tasks[position]?, ∀ next,
        task.rest = .call .listFusionAccesses next →
        (admissionServer.serve choice current.state .listFusionAccesses).2 = .ok [] →
          Exclusive task.index.key current
  | .move change => ∀ admissions, (change admissions).stored.Sublist admissions.stored

/-- What holds as long as requests come one at a time. -/
structure Single (current : Requests) : Prop where
  distinct : (current.state.stored.map FusionAccess.key).Nodup
  tasks : ∀ task ∈ current.tasks, StoresOnce task.index task.rest
  exclusive : ∃ key, Exclusive key current

/-- A call changes nothing but by storing an object. -/
theorem serve_eq_or
    (choice : CacheChoice) (admissions : Admissions) (request : CreationRequest) :
    (admissionServer.serve choice admissions request).1 = admissions ∨
      ∃ fusionaccess, request = .createFusionAccess fusionaccess ∧
        fusionaccess.key ∉ admissions.stored.map FusionAccess.key ∧
        (admissionServer.serve choice admissions request).1.stored =
          admissions.stored ++ [fusionaccess] := by
  have answered : (admissions.answer choice.age request).1 = admissions ∨
      ∃ fusionaccess, request = .createFusionAccess fusionaccess ∧
        fusionaccess.key ∉ admissions.stored.map FusionAccess.key ∧
        (admissions.answer choice.age request).1.stored =
          admissions.stored ++ [fusionaccess] := by
    cases request with
    | createFusionAccess fusionaccess =>
        rw [Admissions.answer]
        split
        next => exact Or.inl rfl
        next free => exact Or.inr ⟨fusionaccess, rfl, free, rfl⟩
    | _ => exact Or.inl rfl
  cases fault : choice.fault with
  | none => simpa [admissionServer, fault] using answered
  | refused refusal message => exact Or.inl (by simp [admissionServer, fault])
  | lost message => simpa [admissionServer, fault] using answered

/-- After a call, one key is left under which something may be stored. -/
theorem Single.exists_claim
    {current : Requests}
    (single : Single current)
    {position : Nat} {choice : CacheChoice}
    (admits : OneAtATime current (.step position choice))
    {index : FusionAccess} {request : CreationRequest}
    {next : creation.Reply request → Program creation (Except Failure Unit)}
    (found : current.tasks[position]? = some ⟨index, .call request next⟩) :
    ∃ claim,
      (∀ fusionaccess ∈ current.state.stored, fusionaccess.key = claim) ∧
      (∀ task ∈ current.tasks, MayStore task.rest → task.index.key = claim) ∧
      (MayStore (next (admissionServer.serve choice current.state request).2) →
        index.key = claim) := by
  obtain ⟨key, exclusive⟩ := single.exclusive
  have member := List.mem_of_getElem? found
  have once := single.tasks _ member
  let reply := (admissionServer.serve choice current.state request).2
  cases request with
  | listFusionAccesses =>
      by_cases may : MayStore (next reply)
      · have alone := admits ⟨index, _⟩ found next rfl (once.2 reply may)
        exact ⟨index.key, alone.stored, alone.tasks, fun _ => rfl⟩
      · exact ⟨key, exclusive.stored, exclusive.tasks, fun later => absurd later may⟩
  | getClusterVersion name =>
      exact ⟨key, exclusive.stored, exclusive.tasks, fun may =>
        exclusive.tasks _ member ⟨reply, may⟩⟩
  | createFusionAccess fusionaccess =>
      exact ⟨key, exclusive.stored, exclusive.tasks, fun may =>
        absurd may (once.2.2 reply)⟩

/-- What is stored after a call has different keys, all of them the one that may be used. -/
theorem Single.stored_after
    {current : Requests}
    (single : Single current)
    {position : Nat} {choice : CacheChoice}
    {index : FusionAccess} {request : CreationRequest}
    {next : creation.Reply request → Program creation (Except Failure Unit)}
    (found : current.tasks[position]? = some ⟨index, .call request next⟩)
    {claim : NamespacedName}
    (stored : ∀ fusionaccess ∈ current.state.stored, fusionaccess.key = claim)
    (tasks : ∀ task ∈ current.tasks, MayStore task.rest → task.index.key = claim) :
    ((admissionServer.serve choice current.state request).1.stored.map
        FusionAccess.key).Nodup ∧
      ∀ fusionaccess ∈ (admissionServer.serve choice current.state request).1.stored,
        fusionaccess.key = claim := by
  have member := List.mem_of_getElem? found
  have once := single.tasks _ member
  rcases serve_eq_or choice current.state request with
    same | ⟨fusionaccess, rfl, free, stores⟩
  · rw [same]
    exact ⟨single.distinct, stored⟩
  · obtain rfl : fusionaccess = index := once.2.1
    have own : fusionaccess.key = claim := tasks _ member trivial
    rw [stores, List.map_append, List.map_singleton, List.nodup_append_comm,
      List.singleton_append, List.nodup_cons]
    refine ⟨⟨free, single.distinct⟩, fun other listed => ?_⟩
    rcases List.mem_append.mp listed with listed | listed
    · exact stored other listed
    · rw [List.mem_singleton.mp listed, own]

/-- Every turn keeps it. -/
theorem Single.take
    {newVersion : VersionParser}
    {current : Requests}
    (single : Single current)
    (turn : Turn admissionServer FusionAccess)
    (admits : OneAtATime current turn) :
    Single (current.take (creations newVersion) turn) := by
  obtain ⟨key, exclusive⟩ := single.exclusive
  cases turn with
  | launch index =>
      refine ⟨single.distinct, fun task member => ?_, key, exclusive.stored,
        fun task member may => ?_⟩
      · rcases List.mem_append.mp member with member | member
        · exact single.tasks task member
        · rw [List.mem_singleton.mp member]
          exact storesOnce_creations newVersion index
      · rcases List.mem_append.mp member with member | member
        · exact exclusive.tasks task member may
        · rw [List.mem_singleton.mp member] at may
          exact absurd may id
  | move change =>
      have fewer := admits current.state
      refine ⟨single.distinct.sublist (fewer.map _), single.tasks, key,
        fun fusionaccess member => ?_, exclusive.tasks⟩
      exact exclusive.stored fusionaccess (fewer.subset member)
  | step position choice =>
      unfold Interleaving.take
      dsimp only
      split
      next index request next found =>
        have once := single.tasks _ (List.mem_of_getElem? found)
        let reply := (admissionServer.serve choice current.state request).2
        obtain ⟨claim, stored, tasks, claims⟩ := single.exists_claim admits found
        obtain ⟨distinct, after⟩ := @Single.stored_after _ single _ choice _ _ _ found _ stored tasks
        have remaining : ∀ task ∈ current.tasks.set position ⟨index, next reply⟩,
            StoresOnce task.index task.rest ∧
              (MayStore task.rest → task.index.key = claim) := by
          intro task listed
          rcases List.mem_or_eq_of_mem_set listed with listed | rfl
          · exact ⟨single.tasks task listed, tasks task listed⟩
          · exact ⟨once.1 reply, claims⟩
        exact ⟨distinct, fun task listed => (remaining task listed).1, claim, after,
          fun task listed => (remaining task listed).2⟩
      next => exact single

/-- As long as requests come one at a time, there is at most one FusionAccess. -/
theorem fusionAccess_is_singleton
    {newVersion : VersionParser} {initial : Admissions}
    (alone : initial.stored.length ≤ 1)
    {current : Requests}
    (reached : Reached (creations newVersion) OneAtATime initial current) :
    current.state.stored.length ≤ 1 := by
  have initially : Single { state := initial : Requests } := by
    cases listed : initial.stored with
    | nil => exact ⟨by simp [listed], by simp, ⟨"", ""⟩, by simp [listed], by simp⟩
    | cons only others =>
        obtain rfl : others = [] := by
          rw [listed, List.length_cons] at alone
          exact List.eq_nil_of_length_eq_zero (by omega)
        exact ⟨by simp [listed], by simp, only.key, by simp [listed], by simp⟩
  have single := reached.invariant initially fun before turn single => single.take turn
  obtain ⟨key, exclusive⟩ := single.exclusive
  have distinct := single.distinct
  match listed : current.state.stored with
  | [] => simp
  | [_] => simp
  | first :: second :: others =>
      have same : first.key = second.key := by
        rw [exclusive.stored first (by simp [listed]),
          exclusive.stored second (by simp [listed])]
      simp [listed, same] at distinct

/-! ## Two requests -/

/-- A parser that knows one version. -/
def parseVersion : VersionParser
  | "4.18.0" => .ok (4, 18, 0)
  | _ => .error (errorf "invalid semantic version")

/-- Nothing is stored yet. -/
def noFusionAccess : Admissions where
  clusterVersion := some { desired := "4.18.0" }

/-- A new object with the given name. -/
def requested (name : String) : FusionAccess where
  metadata := { name, ns := "ibm-fusion-access" }

/-- Turns of the requests for two objects, the list of the second being of the given
age. -/
def requestsFor (age : Nat) (positions : List Nat) :
    List (Turn admissionServer FusionAccess) :=
  positions.map fun position => .step position { age := if position = 1 then age else 0 }

/-- The state after some turns. -/
def afterTurns (turns : List (Turn admissionServer FusionAccess)) : Requests :=
  interleave (creations parseVersion) noFusionAccess turns

/-- The first object is stored before the second one is asked for. -/
def inTurn (age : Nat) : List (Turn admissionServer FusionAccess) :=
  .launch (requested "first") :: requestsFor age [0, 0, 0] ++
    .launch (requested "second") :: requestsFor age [1, 1, 1]

/-- Both objects are asked for at the same time. -/
def atOnce : List (Turn admissionServer FusionAccess) :=
  .launch (requested "first") :: .launch (requested "second") ::
    requestsFor 0 [0, 1, 0, 1, 0, 1]

/-- The first request creates its object; the second one finds it and is refused. -/
theorem fusionAccess_is_singleton_first :
    (afterTurns (inTurn 0)).state.stored.length ≤ 1 ∧
      (afterTurns (inTurn 0)).state.stored = [requested "first"] ∧
      ((afterTurns (inTurn 0)).tasks.getLast?).map Task.rest =
        some (.done (.error (errorf "only one FusionAccess resource is allowed"))) := by
  have launched : Reached (creations parseVersion) OneAtATime noFusionAccess
      (afterTurns [.launch (requested "first")]) :=
    @Reached.turn _ admissionServer _ _ _ OneAtATime _ _ .start
      (.launch (requested "first")) trivial
  have alone : OneAtATime (afterTurns [.launch (requested "first")]) (.step 0 {}) := by
    rintro task ⟨⟩ next - -
    refine ⟨fun other stored => ?_, fun task member _ => ?_⟩
    · cases stored
    · rw [List.mem_singleton.mp member]
  -- from now on the first request looks for no others
  have listed := launched.turn (.step 0 {}) alone
  have read := listed.turn (.step 0 {}) (by rintro task ⟨⟩ next ⟨⟩)
  have created := read.turn (.step 0 {}) (by rintro task ⟨⟩ next ⟨⟩)
  have second := created.turn (.launch (requested "second")) trivial
  have refused := second.turn (.step 1 {}) (by rintro task ⟨⟩ next - ⟨⟩)
  have ended := (refused.turn (.step 1 {}) (by rintro task ⟨⟩ next ⟨⟩)).turn (.step 1 {})
    (by rintro task ⟨⟩ next ⟨⟩)
  refine ⟨@fusionAccess_is_singleton parseVersion noFusionAccess (by decide) _ ended, ?_, rfl⟩
  decide

/-- Requests that take turns, and a request that is served an outdated list, create
two objects. -/
theorem two_fusionAccesses :
    (Reached (creations parseVersion) (fun _ _ => True) noFusionAccess
        (afterTurns atOnce) ∧
      (afterTurns atOnce).state.stored.length = 2) ∧
      (Reached (creations parseVersion) (fun _ _ => True) noFusionAccess
          (afterTurns (inTurn 1)) ∧
        (afterTurns (inTurn 1)).state.stored.length = 2) :=
  ⟨⟨reached_interleave _ _ _, by decide⟩, ⟨reached_interleave _ _ _, by decide⟩⟩

end Installation
