import FusionAccess.Controller.InterruptedPasses

/-!
# The creation of LocalDisks, interrupted

While a pass creates LocalDisks, others leave alone what the plan depends on. The
loop then fulfils the plan of the state in which the pass has read the claim, or
the claim is deleted under way. All other parts of a pass may be interrupted by
whatever a claim tolerates.
-/

namespace FusionAccess

open Kubernetes Interaction Fallible

/-! ## The loop -/

/-- How far the loop has come; the claim may be deleted meanwhile. -/
structure Creating
    (start : Cluster) (fsc : FileSystemClaim) (nodeName : String)
    (made remaining : List String) (state : Cluster) : Prop where
  planned : Planned start fsc nodeName made remaining state
  recorded : Recorded fsc.key state
  claim : ∀ cur, state.claim? fsc.key = some cur →
    isDeleting cur = true ∨ Cluster.SameSpec fsc cur

section Creating

variable {start state : Cluster} {fsc : FileSystemClaim} {nodeName : String}
  {made remaining : List String}

theorem Creating.of_undisturbing
    (before after : Cluster)
    (moved : Undisturbing fsc.key before after)
    (creating : Creating start fsc nodeName made remaining before) :
    Creating start fsc nodeName made remaining after where
  planned := creating.planned.of_same moved.inventory (moved.alone.localDisks fsc rfl)
    moved.names
  recorded := (tolerated_of_leavesAlone moved.alone).recorded creating.recorded
  claim := by
    intro new found
    rcases moved.alone.claim new found with deleting | ⟨old, stored, spec, _⟩
    · exact Or.inl deleting
    rcases creating.claim old stored with deleting | same
    · rw [isDeleting, spec.deletionTimestamp]
      exact Or.inl deleting
    · exact Or.inr (same.trans spec)

theorem Creating.claim_of_keepsSpec
    {after : Cluster}
    (creating : Creating start fsc nodeName made remaining state)
    (keeps : Cluster.KeepsSpec fsc.key state after) :
    ∀ cur, after.claim? fsc.key = some cur →
      isDeleting cur = true ∨ Cluster.SameSpec fsc cur := by
  intro patched found
  obtain ⟨cur, stored, spec⟩ := keeps patched found
  rw [isDeleting, spec.deletionTimestamp]
  exact (creating.claim cur stored).imp_right fun same => same.trans spec

theorem Creating.patchClaimStatus
    {cur : FileSystemClaim} {modified : List Condition}
    {reports : ConditionType → ConditionStatus → Reason → Prop}
    (creating : Creating start fsc nodeName made remaining state)
    (seen : Seen fsc.key cur state)
    (touches : Touches reports cur.conditions modified)
    (denies : ∀ status reason, reports .localDiskCreated status reason →
      status = .isFalse) :
    Creating start fsc nodeName made remaining
      (state.afterCall (.patchClaimStatus fsc.key cur.conditions modified)) where
  planned := creating.planned.afterCall (by simp [Call.part?])
  recorded := creating.recorded.patchClaimStatus seen touches
    fun status reason reported => Or.inl (denies status reason reported)
  claim := creating.claim_of_keepsSpec (Cluster.keepsSpec_patchClaimStatus _ _ _ _)

theorem Creating.create
    {devicePath name : String} {devices : List String}
    (creating : Creating start fsc nodeName made (devicePath :: devices) state)
    (named : localDiskName? start devicePath nodeName = some name)
    (free : state.object? .localDisk ⟨fsc.metadata.ns, name⟩ = none) :
    Creating start fsc nodeName (made ++ [devicePath]) devices
      (state.afterCall (.create .localDisk
        (ownedObject fsc name (localDiskSpec devicePath nodeName)))) where
  planned := creating.planned.create named free
  recorded := creating.recorded.create _
  claim := creating.claim_of_keepsSpec (Cluster.keepsSpec_afterCall (by simp [Call.part?]) _)

/-- Where the loop stops the claim is settled. -/
theorem Creating.settled
    (creating : Creating start fsc nodeName made remaining state)
    (allOrNone : HasAllOrNone exactly state fsc) :
    Settled fsc.key state :=
  ⟨fun cur stored => (creating.claim cur stored).imp_right allOrNone.of_sameSpec,
    creating.recorded⟩

end Creating

section Loop

variable {start state : Cluster} {fsc : FileSystemClaim} {nodeName : String}
  {made remaining : List String}

/-- The WWN that was found is the known one; where none was found none is known or
the claim is whole. -/
def FindsWWN
    (known : Option String) (key : NamespacedName) :
    Except Failure String → Cluster → Prop
  | .ok wwn, _ => known = some wwn
  | .error _, final => known = none ∨ Whole exactly key final

/-- `getDeviceWWN` finds what was known at the start, unless a call fails. -/
theorem ensures_getDeviceWWN_interrupted
    (creating : Creating start fsc nodeName made remaining state)
    (devicePath : String) :
    Ensures (interrupted fsc.key (Undisturbing fsc.key)) (getDeviceWWN devicePath nodeName)
      (fun result final => Creating start fsc nodeName made remaining final ∧
        FindsWWN (knownWWN? start devicePath nodeName) fsc.key result final) state := by
  unfold getDeviceWWN getDeploymentNamespace
  simp only [ensures_bind, ensures_mapError]
  refine ensures_read_interrupted rfl (fun before pick moved => ?_)
    fun before failure _ moved whole =>
      ⟨creating.of_undisturbing _ _ moved, Or.inr whole⟩
  have creating := creating.of_undisturbing _ _ moved
  simp only [Cluster.answer, onSuccess_ok]
  cases namespace' : before.deploymentNamespace with
  | none =>
      refine ⟨creating, Or.inl ?_⟩
      rw [knownWWN?, ← creating.planned.inventory.deploymentNamespace, namespace',
        Option.bind_none]
  | some operatorNamespace =>
      simp only [ensures_pure, Except.mapError, onSuccess_ok, ensures_bind,
        ensures_mapError]
      refine ensures_read_interrupted rfl (fun next pick moved => ?_)
        fun next failure _ moved whole =>
          ⟨creating.of_undisturbing _ _ moved, Or.inr whole⟩
      have stored := creating.planned.inventory.deploymentNamespace
      have creating := creating.of_undisturbing _ _ moved
      have known : knownWWN? start devicePath nodeName =
          (Registry.find? LocalVolumeDiscoveryResult.key
            ⟨operatorNamespace, discoveryResultName nodeName⟩
            next.discoveryResults).bind fun lvdr =>
              (wwnOf devicePath nodeName lvdr).toOption := by
        rw [knownWWN?, ← stored, namespace', Option.bind_some,
          creating.planned.inventory.discoveryResults]
      simp only [Cluster.answer]
      rw [known]
      cases found : Registry.find? LocalVolumeDiscoveryResult.key
          ⟨operatorNamespace, discoveryResultName nodeName⟩ next.discoveryResults with
      | none => exact ⟨creating, Or.inl rfl⟩
      | some lvdr =>
          rw [onSuccess_ok, Option.bind_some]
          cases looked : wwnOf devicePath nodeName lvdr with
          | error err => exact ⟨creating, Or.inl rfl⟩
          | ok wwn => exact ⟨creating, rfl⟩

/-- A condition is set under way, unless the claim is whole. -/
theorem ensures_updateConditionIfChanged_interrupted
    {reports : ConditionType → ConditionStatus → Reason → Prop}
    {conditionType : ConditionType} {status : ConditionStatus} {reason : Reason}
    (creating : Creating start fsc nodeName made remaining state)
    (reported : reports conditionType status reason)
    (denies : ∀ status reason, reports .localDiskCreated status reason → status = .isFalse)
    (other : ∀ status reason, reports .ready status reason →
      reason ≠ .immutableFieldModified)
    (message : String) :
    Ensures (interrupted fsc.key (Undisturbing fsc.key))
      (updateConditionIfChanged fsc conditionType status reason message)
      (FailsOnWhole fsc.key (Creating start fsc nodeName made remaining)) state := by
  unfold updateConditionIfChanged
  simp only [ensures_ite, ensures_pure, ensures_bind]
  refine ⟨fun _ => failsOnWhole_ok creating, fun _ => ⟨fun _ => failsOnWhole_ok creating,
    fun _ => ?_⟩⟩
  refine Ensures.mono (ensures_patchFSCStatus_interrupted (interrupts_undisturbing fsc.key)
    Creating.of_undisturbing other
    (fun now cur => (Touches.refl reports cur.conditions).withCondition reported _ _)
    (fun _ _ _ creating seen touches => creating.patchClaimStatus seen touches denies)
    creating) ?_
  rintro (failure | _) final known
  · exact failsOnWhole_error known.1 (known.2 failure rfl)
  · exact failsOnWhole_ok known.1

/-- Reporting a failure keeps a settled claim settled. -/
theorem ensures_reportFailure_interrupted
    (err : Failure)
    (settled : Settled fsc.key state) :
    Ensures (interrupted fsc.key (Undisturbing fsc.key)) (reportFailure fsc .localDisk err)
      (fun _ final => Settled fsc.key final) state := by
  have allowed : AllowsReports (interrupted fsc.key (Undisturbing fsc.key))
      (Settled fsc.key) fsc (reportsFailure .localDisk) :=
    (interrupts_undisturbing fsc.key).allowsReports
      (fun _ _ reported => (reportsProgress_of_failure reported).1 rfl)
      fun _ _ reported => (reportsProgress_of_failure reported).2 rfl
  exact (safe_reportFailure allowed.ofPass err state settled).mono
    fun _ _ ensured => ensured.2

/-- A LocalDisk is created while its name stays free, unless the claim is settled. -/
theorem ensures_createResourceWithOwnership_interrupted
    {devicePath name : String} {devices : List String}
    (creating : Creating start fsc nodeName made (devicePath :: devices) state)
    (named : localDiskName? start devicePath nodeName = some name)
    (free : state.object? .localDisk ⟨fsc.metadata.ns, name⟩ = none) :
    Ensures (interrupted fsc.key (Undisturbing fsc.key))
      (createResourceWithOwnership fsc .localDisk name (localDiskSpec devicePath nodeName))
      (fun result final => (result.isOk = true →
          Creating start fsc nodeName (made ++ [devicePath]) devices final) ∧
        (result.isOk = false → Settled fsc.key final)) state := by
  rw [createResourceWithOwnership_eq]
  -- others leave the name free until the LocalDisk is created
  have stillFree : ∀ next, Undisturbing fsc.key state next →
      next.object? .localDisk ⟨fsc.metadata.ns, name⟩ = none := by
    intro next moved
    rw [object?_eq_none_iff, moved.names, ← object?_eq_none_iff]
    exact free
  refine ensures_request_interrupted rfl (fun next pick moved => ?_)
    fun next failure final _ moved either whole => ?_
  · have free := stillFree next moved
    have key : (ownedObject fsc name (localDiskSpec devicePath nodeName)).key =
        ⟨fsc.metadata.ns, name⟩ := rfl
    have answered : (next.answer pick (.create .localDisk (ownedObject fsc name
        (localDiskSpec devicePath nodeName)))).2 = .ok () := by
      simp only [Cluster.answer, Cluster.create, key, free]
    rw [answered]
    refine ⟨fun _ => ?_, fun impossible => by cases impossible⟩
    exact (creating.of_undisturbing _ _ moved).create named free
  · refine ⟨fun impossible => (by cases impossible), fun _ => ⟨whole, ?_⟩⟩
    have recorded := (creating.of_undisturbing _ _ moved).recorded
    rcases either with same | same <;> subst same
    · exact recorded
    · exact recorded.create _

/-- The loop leaves the claim settled when it does so wherever it stops by itself. -/
theorem ensures_createLocalDisks_interrupted
    (stops : ∀ made remaining state, Planned start fsc nodeName made remaining state →
      plannedDevices start fsc.metadata.ns nodeName (localDiskNames state) remaining = [] →
        HasAllOrNone exactly state fsc)
    (devices : List String)
    (requeue : Bool)
    (creating : Creating start fsc nodeName made devices state) :
    Ensures (interrupted fsc.key (Undisturbing fsc.key))
      (createLocalDisks fsc nodeName devices requeue)
      (fun _ final => Settled fsc.key final) state := by
  -- induction on the devices that remain; `creating` is the invariant of the loop
  induction devices generalizing made requeue state with
  | nil => exact creating.settled (stops _ _ _ creating.planned rfl)
  | cons devicePath devices inductionHypothesis =>
      have nameless : ∀ {state},
          Creating start fsc nodeName made (devicePath :: devices) state →
          localDiskName? start devicePath nodeName = none → Settled fsc.key state := by
        intro state creating none
        refine creating.settled (stops _ _ _ creating.planned ?_)
        rw [plannedDevices, none]
      rw [createLocalDisks, ensures_bind, ensures_attempt]
      refine Ensures.mono (ensures_getDeviceWWN_interrupted creating devicePath) ?_
      rintro (failure | wwn) state ⟨creating, found⟩
      · refine ensures_reportFailure_interrupted failure ?_
        rcases found with unknown | whole
        · exact nameless creating (by rw [localDiskName?, unknown, Option.bind_none])
        · exact ⟨whole, creating.recorded⟩
      rw [onSuccess_ok]
      dsimp only
      have known : knownWWN? start devicePath nodeName = some wwn := found
      cases generated : generateLocalDiskName wwn with
      | error err =>
          refine ensures_reportFailure_interrupted err (nameless creating ?_)
          rw [localDiskName?, known, Option.bind_some, generated]
          rfl
      | ok name =>
          have named : localDiskName? start devicePath nodeName = some name := by
            rw [localDiskName?, known, Option.bind_some, generated]
            rfl
          dsimp only
          rw [ensures_bind, ensures_attempt]
          refine ensures_read_interrupted rfl (fun before pick moved => ?_)
            fun before failure transient moved whole => ?_
          · have creating := creating.of_undisturbing _ _ moved
            cases stored : before.object? .localDisk ⟨fsc.metadata.ns, name⟩ with
            | some object =>
                simp only [Cluster.answer, stored, onSuccess_ok, ensures_pure]
                refine creating.settled (stops _ _ _ creating.planned ?_)
                have taken : ⟨fsc.metadata.ns, name⟩ ∈ localDiskNames before := by
                  by_contra free
                  rw [← object?_eq_none_iff, stored] at free
                  cases free
                rw [plannedDevices, named]
                exact if_pos taken
            | none =>
                simp only [Cluster.answer, stored, onSuccess_ok, ensures_ite]
                refine ⟨fun _ => ?_, fun present => absurd rfl present⟩
                rw [ensures_bind, ensures_attempt]
                refine Ensures.mono
                  (ensures_createResourceWithOwnership_interrupted creating named stored) ?_
                rintro (failure | _) final ⟨created, settled⟩
                · exact ensures_reportFailure_interrupted failure (settled rfl)
                · rw [onSuccess_ok]
                  dsimp only
                  rw [ensures_bind]
                  refine Ensures.mono (ensures_updateConditionIfChanged_interrupted
                    (created rfl)
                    (show reportsFailure .localDisk _ _ _ from ⟨rfl, Or.inl rfl⟩)
                    (fun _ _ reported => (reportsProgress_of_failure reported).1 rfl)
                    (fun _ _ reported => (reportsProgress_of_failure reported).2 rfl) _) ?_
                  rintro (failure | _) final known
                  · exact ⟨known.2 failure rfl, known.1.recorded⟩
                  · exact inductionHypothesis true known.1
          · simp only [onSuccess_ok, ensures_ite, ensures_throw]
            refine ⟨fun absent => absurd absent transient.1, fun _ => ⟨whole, ?_⟩⟩
            exact (creating.of_undisturbing _ _ moved).recorded

end Loop

/-! ## The pass -/

section Pass

variable {fsc : FileSystemClaim} {state : Cluster}

/-- `getRandomStorageNode` picks one of the storage nodes, and the claim is still
settled. -/
theorem ensures_getRandomStorageNode_interrupted
    (settled : Settled fsc.key state)
    (creating : ∀ nodeName, Creating state fsc nodeName [] fsc.devices state) :
    Ensures (interrupted fsc.key (Undisturbing fsc.key)) getRandomStorageNode
      (fun result final => Settled fsc.key final ∧ ∀ nodeName, result = .ok nodeName →
        nodeName ∈ storageNodes state ∧
          Creating state fsc nodeName [] fsc.devices final) state := by
  have stable := (interrupts_undisturbing fsc.key).settled
  unfold getRandomStorageNode
  simp only [ensures_bind, ensures_mapError]
  refine ensures_read_interrupted rfl (fun before pick moved => ?_)
    fun before failure _ moved _ =>
      ⟨stable _ _ moved settled, fun _ impossible => by cases impossible⟩
  have settled := stable _ _ moved settled
  have creating := fun nodeName => (creating nodeName).of_undisturbing _ _ moved
  simp only [Cluster.answer, Except.mapError, onSuccess_ok, ensures_ite,
    ensures_throw, ensures_bind, ensures_mapError]
  refine ⟨fun _ => ⟨settled, fun _ impossible => by cases impossible⟩, fun some => ?_⟩
  refine ensures_read_interrupted rfl (fun next pick moved => ?_)
    fun next failure _ moved _ =>
      ⟨stable _ _ moved settled, fun _ impossible => by cases impossible⟩
  simp only [Cluster.answer, onSuccess_ok, ensures_pure]
  refine ⟨stable _ _ moved settled, ?_⟩
  rintro nodeName equal
  cases equal
  refine ⟨?_, (creating _).of_undisturbing _ _ moved⟩
  have nonempty : storageNodes before ≠ [] := fun none => some (by
    rw [← storageNodes, none, List.length_nil])
  have same : storageNodes before = storageNodes state := by
    rw [storageNodes, (creating "").planned.inventory.nodes, storageNodes]
  rw [← same]
  exact drawnNode_mem nonempty pick

/-- The creation of LocalDisks leaves a settled claim settled. -/
theorem ensures_ensureLocalDisks_creating
    (settled : Settled fsc.key state)
    (stored : state.claim? fsc.key = some fsc)
    (starts : startsCreation fsc = true)
    (creation : CreatesAllOrNone exactly state fsc) :
    Ensures (interrupted fsc.key (Undisturbing fsc.key)) (ensureLocalDisks fsc)
      (fun _ final => Settled fsc.key final) state := by
  have creating : ∀ nodeName, Creating state fsc nodeName [] fsc.devices state := by
    refine fun nodeName => ⟨planned_start state fsc nodeName, settled.recorded, ?_⟩
    intro cur found
    rw [stored] at found
    cases found
    exact Or.inr (Cluster.SameSpec.refl fsc)
  have starting := starts
  simp only [startsCreation, Bool.and_eq_true, Bool.not_eq_true'] at starting
  obtain ⟨⟨⟨⟨live, _⟩, notCreated⟩, notInProgress⟩, validated⟩ := starting
  have allOrNone : HasAllOrNone exactly state fsc :=
    (settled.whole fsc stored).resolve_left (by simp [live])
  unfold ensureLocalDisks
  rw [if_neg (by simp [notCreated]), if_neg (by simp [notInProgress]),
    if_neg (by simp [validated]), ensures_bind, ensures_attempt]
  refine Ensures.mono (ensures_getRandomStorageNode_interrupted settled creating) ?_
  rintro (failure | nodeName) final ⟨settled, drawn⟩
  · exact ensures_reportFailure_interrupted failure settled
  · obtain ⟨member, creating⟩ := drawn nodeName rfl
    refine ensures_createLocalDisks_interrupted ?_ _ _ creating
    intro made remaining between planned stopped
    exact planned.allOrNone stopped allOrNone fun none => creation starts none nodeName member

/-- The controller's check finds nothing to object to in a settled state. -/
theorem ensures_checkDevices_interrupted
    (settled : Settled fsc.key state)
    (stored : state.claim? fsc.key = some fsc)
    (live : isDeleting fsc = false)
    (created : isConditionTrue fsc .localDiskCreated = true) :
    Ensures (interrupted fsc.key (Tolerated fsc.key)) (checkDevices fsc)
      (fun _ final => Settled fsc.key final) state := by
  have owned : devicesOf state fsc ≠ [] := by
    rcases settled.recorded fsc stored with deleting | records
    · rw [live] at deleting
      cases deleting
    · exact fun none => records.2 created (List.map_eq_nil_iff.mp none)
  have same : exactly.fits (devicesOf state fsc) fsc.devices := by
    rcases settled.whole fsc stored with deleting | none | fits
    · rw [live] at deleting
      cases deleting
    · exact absurd none owned
    · exact fits
  unfold checkDevices listOwnedResources
  simp only [ensures_bind, ensures_mapError]
  refine ensures_read_interrupted rfl (fun before pick moved => ?_)
    fun before _ _ moved _ => moved.settled settled
  have listed : ownedDevices (ownedBy before fsc .localDisk) = fsc.devices.toFinset := by
    rw [← moved.localDisks fsc rfl] at same
    exact same
  simp only [Cluster.answer, Except.mapError, onSuccess_ok, ensures_pure]
  rw [if_neg (fun different => different listed), ensures_pure]
  exact moved.settled settled

/-- A pass that creates no LocalDisks may be interrupted by whatever the claim
tolerates. -/
theorem ensures_ensureLocalDisks_calm
    (settled : Settled fsc.key state)
    (stored : state.claim? fsc.key = some fsc)
    (live : isDeleting fsc = false)
    (finalized : hasFinalizer fsc = true)
    (quiet : startsCreation fsc = false) :
    Ensures (interrupted fsc.key (Tolerated fsc.key)) (ensureLocalDisks fsc)
      (fun _ final => Settled fsc.key final) state := by
  have interrupts := interrupts_tolerated fsc.key
  unfold ensureLocalDisks
  simp only [ensures_ite, ensures_pure]
  refine ⟨ensures_checkDevices_interrupted settled stored live,
    fun notCreated => ⟨fun _ => settled, fun notInProgress => ⟨fun _ => ?_, fun validated => ?_⟩⟩⟩
  · have allowed : AllowsReports (interrupted fsc.key (Tolerated fsc.key))
        (Settled fsc.key) fsc reportsValidation :=
      interrupts.allowsReports
        (fun _ _ reported => (reportsProgress_of_validation reported).1 rfl)
        fun _ _ reported => (reportsProgress_of_validation reported).2 rfl
    exact (safe_validation (readsSafely_interrupted interrupts.settled) allowed.ofPass
      state settled).mono fun _ _ ensured => ensured.2
  · simp_all [startsCreation]

/-- The teardown leaves the claim gone. -/
theorem allowsTeardown_interrupted :
    AllowsTeardown (interrupted fsc.key (Tolerated fsc.key)) (Gone fsc.key) fsc := by
  have stable : ∀ before after, Tolerated fsc.key before after → Gone fsc.key before →
      Gone fsc.key after := fun _ _ moved => moved.gone
  have reads : ReadsSafely (interrupted fsc.key (Tolerated fsc.key)) (Gone fsc.key) :=
    readsSafely_interrupted stable
  have elsewhere : ∀ {call : Call}, reportsModification call = false →
      call.part? ≠ some .claims →
        Safe (interrupted fsc.key (Tolerated fsc.key)) (Gone fsc.key) (request call) :=
    fun guarded claims => (safe_request_interrupted stable guarded fun _ gone =>
      gone.of_keepsSpec (Cluster.keepsSpec_afterCall claims _)).safe
  exact {
    reads := reads
    reports := allowsReports_interrupted (interrupts_tolerated fsc.key) stable
      (fun _ _ reported => by
        rcases reported with ⟨_, _, rfl⟩ | ⟨impossible, _⟩ | ⟨_, other⟩
        · simp
        · cases impossible
        · simp at other)
      fun _ _ _ gone _ _ => gone.of_keepsSpec (Cluster.keepsSpec_patchClaimStatus _ _ _ _)
    deletesStorageClass := elsewhere rfl (by simp [Call.part?])
    deletes := fun _ _ => elsewhere rfl (by simp [Call.part?])
    dropsFinalizer := safe_patchFSCSpec_of_calls reads fun _ _ =>
      (safe_request_interrupted stable rfl fun _ gone =>
        gone.of_keepsSpec (Cluster.keepsSpec_patchClaimFinalizers _ _ _ _)).safe }

end Pass

end FusionAccess
