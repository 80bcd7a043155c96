import FusionAccess.Controller.DeviceValidation
import FusionAccess.Controller.Readiness

/-!
# The exits of the provisioning steps

One rule for each step of the provisioning. A rule lists the ways in which the
step lets the pass go on, with what it has found there, and the writes with
which it ends the pass otherwise; a caller shows its postcondition for each of
them. Up to its first write a pass finds the cluster as it was at its start.
-/

namespace FusionAccess

open Kubernetes Interaction Fallible

/-! ## Writes that end a pass -/

/-- Patch one condition and end the pass. -/
abbrev reportCondition
    (fsc : FileSystemClaim) (conditionType : ConditionType)
    (status : ConditionStatus) (reason : Reason) (message : String) : Act Bool := do
  patchFSCStatus fsc (withCondition conditionType status reason message)
  return true

/-- A condition that is not kept is patched. -/
theorem updateConditionIfChanged_eq
    (fsc : FileSystemClaim) (conditionType : ConditionType)
    (status : ConditionStatus) (reason : Reason) (message : String) :
    updateConditionIfChanged fsc conditionType status reason message =
      if keepsCondition fsc conditionType status reason message then pure false
      else reportCondition fsc conditionType status reason message := by
  unfold updateConditionIfChanged keepsCondition
  cases alreadyRecorded fsc.conditions conditionType status reason message with
  | true => simp
  | false =>
      cases hasConditionWithReason fsc.conditions conditionType .migrationComplete &&
        decide (status = .isTrue) <;> simp

/-! ## LocalDisks -/

/-- The LocalDisks of a claim have its devices. -/
def devicesMatch (cluster : Cluster) (fsc : FileSystemClaim) : Bool :=
  ownedDevices (ownedBy cluster fsc .localDisk) = fsc.devices.toFinset

/-- The claim remembers that its LocalDisks are on their way. -/
def awaitsLocalDisks (fsc : FileSystemClaim) : Bool :=
  hasConditionWithReason fsc.conditions .localDiskCreated .localDiskCreationInProgress

section Exits

variable {C : Contract apiServer} {cluster : Cluster} {fsc : FileSystemClaim}
  {post : Except Failure Bool → Cluster → Prop}

theorem ensures_updateCondition
    {conditionType : ConditionType} {status : ConditionStatus} {reason : Reason}
    {message : String}
    (kept : keepsCondition fsc conditionType status reason message = true →
      post (.ok false) cluster)
    (reports : keepsCondition fsc conditionType status reason message = false →
      Ensures C (reportCondition fsc conditionType status reason message) post cluster) :
    Ensures C (updateConditionIfChanged fsc conditionType status reason message)
      post cluster := by
  rw [updateConditionIfChanged_eq, ensures_ite, ensures_pure]
  exact ⟨kept, fun changes => reports (by simpa using changes)⟩

/-- The exits of the loop at its first device. -/
theorem ensures_createLocalDisks_cons
    {nodeName devicePath : String} {devices : List String} {requeue : Bool}
    (admits : AdmitsReads C)
    (failed : FailsReads C → ∀ failure, post (.error failure) cluster)
    (unknown : localDiskName? cluster devicePath nodeName = none ∨ FailsReads C →
      ∀ err, Ensures C (reportFailure fsc .localDisk err) post cluster)
    (taken : ∀ name, localDiskName? cluster devicePath nodeName = some name →
      (cluster.object? .localDisk ⟨fsc.metadata.ns, name⟩).isSome →
      post (.ok false) cluster)
    (creates : ∀ name, localDiskName? cluster devicePath nodeName = some name →
      cluster.object? .localDisk ⟨fsc.metadata.ns, name⟩ = none →
      Ensures C (createLocalDisk fsc nodeName devicePath name devices) post cluster) :
    Ensures C (createLocalDisks fsc nodeName (devicePath :: devices) requeue)
      post cluster := by
  refine ensures_createLocalDisks_turn admits (fun call fails => failed ⟨_, _, fails⟩)
    (fun cause => unknown (cause.imp_right ?_)) taken creates
  rintro ⟨call, fails⟩
  exact ⟨_, _, fails⟩

/-- The exits of `ensureLocalDisks`. -/
theorem ensures_ensureLocalDisks_exits
    (admits : AdmitsReads C)
    (failed : FailsReads C → ∀ failure, post (.error failure) cluster)
    (matching : isConditionTrue fsc .localDiskCreated = true →
      devicesMatch cluster fsc = true → post (.ok false) cluster)
    (modified : isConditionTrue fsc .localDiskCreated = true →
      devicesMatch cluster fsc = false →
      Ensures C (reportCondition fsc .ready .isFalse .immutableFieldModified
        (immutableMessage fsc (ownedBy cluster fsc .localDisk))) post cluster)
    (awaiting : isConditionTrue fsc .localDiskCreated = false →
      awaitsLocalDisks fsc = true → post (.ok false) cluster)
    (validation : isConditionTrue fsc .localDiskCreated = false →
      awaitsLocalDisks fsc = false → isConditionTrue fsc .deviceValidated = false →
      Ensures C (recordValidation fsc) post cluster)
    (creation : isConditionTrue fsc .localDiskCreated = false →
      awaitsLocalDisks fsc = false → isConditionTrue fsc .deviceValidated = true →
      (storageNodes cluster = [] ∨ FailsReads C →
        ∀ err, Ensures C (reportFailure fsc .localDisk err) post cluster) ∧
      ∀ nodeName ∈ storageNodes cluster, MayDraw C cluster nodeName →
        Ensures C (createLocalDisks fsc nodeName fsc.devices false) post cluster) :
    Ensures C (ensureLocalDisks fsc) post cluster := by
  unfold ensureLocalDisks
  rw [ensures_ite]
  refine ⟨fun created => ?_, fun notCreated => ?_⟩
  · rw [ensures_bind, ensures_mapError]
    refine ensures_listOwnedResources admits ?_
      fun failure call _ fails => failed ⟨_, _, fails⟩ _
    simp only [Except.mapError, onSuccess_ok, ensures_ite, ensures_pure]
    refine ⟨fun different => modified created ?_, fun same => matching created ?_⟩
    · simpa [devicesMatch] using different
    · simpa [devicesMatch] using same
  have created : isConditionTrue fsc .localDiskCreated = false := by simpa using notCreated
  rw [ensures_ite]
  refine ⟨fun awaits => awaiting created awaits, fun notAwaiting => ?_⟩
  have awaits : awaitsLocalDisks fsc = false := by simpa [awaitsLocalDisks] using notAwaiting
  rw [ensures_ite]
  refine ⟨fun invalid => validation created awaits (by simpa using invalid),
    fun validated => ?_⟩
  obtain ⟨nodeless, creates⟩ := creation created awaits (by simpa using validated)
  rw [ensures_bind, ensures_attempt]
  refine ensures_getRandomStorageNode admits creates fun reason failure => ?_
  exact nodeless reason failure

/-! ## Conditions of LocalDisks -/

/-- Status, reason and message that `syncLocalDiskConditions` wants when the
Filesystems of the given names may use the LocalDisks. -/
def wantedLocalDiskCondition
    (cluster : Cluster) (fsc : FileSystemClaim) (users : List String) :
    ConditionStatus × Reason × String :=
  if ownedBy cluster fsc .localDisk = [] then
    (.isFalse, .localDiskCreationInProgress, "Waiting for LocalDisk objects to appear")
  else localDiskCondition (ownedBy cluster fsc .localDisk) (fsc.metadata.name :: users)

/-- The condition of the LocalDisks stays as it is. -/
def keepsLocalDiskCondition
    (cluster : Cluster) (fsc : FileSystemClaim) (users : List String) : Bool :=
  ((ownedBy cluster fsc .localDisk).isEmpty &&
      !isConditionTrue fsc .deviceValidated) ||
    keepsCondition fsc .localDiskCreated
      (wantedLocalDiskCondition cluster fsc users).1
      (wantedLocalDiskCondition cluster fsc users).2.1
      (wantedLocalDiskCondition cluster fsc users).2.2

/-- The exits of `syncLocalDiskConditions`: the Filesystems of the claim may
use its LocalDisks, unless they cannot be listed. -/
theorem ensures_syncLocalDiskConditions_exits
    (admits : AdmitsReads C)
    (failed : FailsReads C → ∀ failure, post (.error failure) cluster)
    (exits : ∀ users, users = ownFilesystems cluster fsc ∨ FailsReads C ∧ users = [] →
      (keepsLocalDiskCondition cluster fsc users = true → post (.ok false) cluster) ∧
      (keepsLocalDiskCondition cluster fsc users = false →
        Ensures C (reportCondition fsc .localDiskCreated
          (wantedLocalDiskCondition cluster fsc users).1
          (wantedLocalDiskCondition cluster fsc users).2.1
          (wantedLocalDiskCondition cluster fsc users).2.2) post cluster)) :
    Ensures C (syncLocalDiskConditions fsc) post cluster := by
  unfold syncLocalDiskConditions
  rw [ensures_bind]
  refine ensures_listOwnedResources admits ?_
    fun failure call _ fails => failed ⟨_, _, fails⟩ _
  simp only [onSuccess_ok, ensures_ite, ensures_pure]
  refine ⟨fun none => ?_, fun some => ?_⟩
  · have empty : ownedBy cluster fsc .localDisk = [] := List.length_eq_zero_iff.mp none
    obtain ⟨kept, reports⟩ := exits _ (Or.inl rfl)
    simp only [keepsLocalDiskCondition, wantedLocalDiskCondition, empty, if_true,
      List.isEmpty_nil, Bool.true_and] at kept reports
    refine ⟨fun validated => ?_, fun unvalidated => kept (by simp [unvalidated])⟩
    simp only [validated, Bool.not_true, Bool.false_or] at kept reports
    exact ensures_updateCondition kept reports
  · have nonempty : ownedBy cluster fsc .localDisk ≠ [] := by simpa using some
    have reported : ∀ users, users = ownFilesystems cluster fsc ∨ FailsReads C ∧ users = [] →
        Ensures C (updateConditionIfChanged fsc .localDiskCreated
          (localDiskCondition (ownedBy cluster fsc .localDisk)
            (fsc.metadata.name :: users)).1
          (localDiskCondition (ownedBy cluster fsc .localDisk)
            (fsc.metadata.name :: users)).2.1
          (localDiskCondition (ownedBy cluster fsc .localDisk)
            (fsc.metadata.name :: users)).2.2) post cluster := by
      intro users known
      obtain ⟨kept, reports⟩ := exits users known
      simp only [keepsLocalDiskCondition, wantedLocalDiskCondition, if_neg nonempty,
        List.isEmpty_eq_false_iff.mpr nonempty, Bool.false_and, Bool.false_or]
        at kept reports
      exact ensures_updateCondition kept reports
    rw [ensures_bind, ensures_attempt]
    refine ensures_listOwnedResources admits (reported _ (Or.inl rfl)) ?_
    exact fun failure call _ fails => reported [] (Or.inr ⟨⟨_, _, fails⟩, rfl⟩)

/-! ## The Filesystem -/

/-- The spec that a Filesystem has to have. -/
def wantedFilesystemSpec (cluster : Cluster) (fsc : FileSystemClaim) : Value :=
  buildFilesystemSpec ((ownedBy cluster fsc .localDisk).map fun ld => ld.metadata.name)

/-- Create the Filesystem of a claim and end the pass. -/
abbrev createFilesystem (fsc : FileSystemClaim) (spec : Value) : Act Bool := do
  match ← (createResourceWithOwnership fsc .filesystem fsc.metadata.name
      spec).attempt with
  | .error err => reportFailure fsc .filesystem err
  | .ok _ => do
      let _ ← updateConditionIfChanged fsc .fileSystemCreated .isFalse
        .fileSystemCreationInProgress "Filesystem created; waiting to become Ready"
      return true

/-- Patch the spec of a Filesystem and end the pass. -/
abbrev patchFilesystem (fs : Unstructured) (spec : Value) : Act Bool := do
  (request (.patchSpec .filesystem fs.key spec)).mapError
    (Failure.wrap "patch Filesystem: patch resource: ")
  return true

/-- The exits of `ensureFileSystem`. -/
theorem ensures_ensureFileSystem_exits
    (admits : AdmitsReads C)
    (failed : FailsReads C → ∀ failure, post (.error failure) cluster)
    (skipped : isConditionTrue fsc .localDiskCreated = false ∨
      ownedBy cluster fsc .localDisk = [] → post (.ok false) cluster)
    (creates : isConditionTrue fsc .localDiskCreated = true →
      ownedBy cluster fsc .localDisk ≠ [] → ownedBy cluster fsc .filesystem = [] →
      Ensures C (createFilesystem fsc (wantedFilesystemSpec cluster fsc)) post cluster)
    (found : ∀ fs, isConditionTrue fsc .localDiskCreated = true →
      ownedBy cluster fsc .localDisk ≠ [] → ownedBy cluster fsc .filesystem = [fs] →
      (fs.spec = some (wantedFilesystemSpec cluster fsc) → post (.ok false) cluster) ∧
      (fs.spec ≠ some (wantedFilesystemSpec cluster fsc) →
        Ensures C (patchFilesystem fs (wantedFilesystemSpec cluster fsc)) post cluster))
    (several : isConditionTrue fsc .localDiskCreated = true →
      ownedBy cluster fsc .localDisk ≠ [] →
      1 < (ownedBy cluster fsc .filesystem).length →
      ∀ err, Ensures C (reportFailure fsc .filesystem err) post cluster) :
    Ensures C (ensureFileSystem fsc) post cluster := by
  unfold ensureFileSystem
  rw [ensures_ite, ensures_pure]
  refine ⟨fun notCreated => skipped (Or.inl (by simpa using notCreated)),
    fun isCreated => ?_⟩
  have created : isConditionTrue fsc .localDiskCreated = true := by simpa using isCreated
  rw [ensures_bind, ensures_mapError]
  refine ensures_listOwnedResources admits ?_
    fun failure call _ fails => failed ⟨_, _, fails⟩ _
  simp only [Except.mapError, onSuccess_ok, List.length_map]
  rw [ensures_ite, ensures_pure]
  refine ⟨fun none => skipped (Or.inr (List.length_eq_zero_iff.mp none)),
    fun some => ?_⟩
  have nonempty : ownedBy cluster fsc .localDisk ≠ [] := by simpa using some
  rw [ensures_bind, ensures_mapError]
  refine ensures_listOwnedResources admits ?_
    fun failure call _ fails => failed ⟨_, _, fails⟩ _
  simp only [Except.mapError, onSuccess_ok]
  match owned : ownedBy cluster fsc .filesystem with
  | [] => exact creates created nonempty owned
  | [fs] =>
      dsimp only
      rw [ensures_ite, ensures_pure]
      obtain ⟨same, drifted⟩ := found fs created nonempty owned
      exact ⟨drifted, fun equal => same (not_not.mp equal)⟩
  | _ :: _ :: _ => exact several created nonempty (by simp [owned]) _

/-- The condition of the Filesystem stays as it is. -/
def keepsFilesystemCondition (cluster : Cluster) (fsc : FileSystemClaim) : Bool :=
  !isConditionTrue fsc .localDiskCreated ||
    keepsCondition fsc .fileSystemCreated
      (filesystemCondition (ownedBy cluster fsc .filesystem)).1
      (filesystemCondition (ownedBy cluster fsc .filesystem)).2.1
      (filesystemCondition (ownedBy cluster fsc .filesystem)).2.2

/-- The exits of `syncFilesystemConditions`. -/
theorem ensures_syncFilesystemConditions_exits
    (admits : AdmitsReads C)
    (failed : FailsReads C → ∀ failure, post (.error failure) cluster)
    (kept : keepsFilesystemCondition cluster fsc = true → post (.ok false) cluster)
    (reports : keepsFilesystemCondition cluster fsc = false →
      Ensures C (reportCondition fsc .fileSystemCreated
        (filesystemCondition (ownedBy cluster fsc .filesystem)).1
        (filesystemCondition (ownedBy cluster fsc .filesystem)).2.1
        (filesystemCondition (ownedBy cluster fsc .filesystem)).2.2) post cluster) :
    Ensures C (syncFilesystemConditions fsc) post cluster := by
  unfold keepsFilesystemCondition at kept reports
  unfold syncFilesystemConditions
  rw [ensures_ite, ensures_pure]
  refine ⟨fun notCreated => kept (by simp [notCreated]), fun isCreated => ?_⟩
  have created : isConditionTrue fsc .localDiskCreated = true := by simpa using isCreated
  simp only [created, Bool.not_true, Bool.false_or] at kept reports
  rw [ensures_bind, ensures_mapError]
  refine ensures_listOwnedResources admits ?_
    fun failure call _ fails => failed ⟨_, _, fails⟩ _
  simp only [Except.mapError, onSuccess_ok]
  exact ensures_updateCondition kept reports

/-! ## The StorageClass -/

/-- The StorageClass that a claim has to have. -/
def wantedStorageClass (fsc : FileSystemClaim) : StorageClass :=
  buildStorageClass fsc fsc.metadata.name fsc.metadata.name

/-- Create the StorageClass of a claim. -/
abbrev createStorageClass (fsc : FileSystemClaim) : Act Bool := do
  match ← (request (.createStorageClass (wantedStorageClass fsc))).attempt with
  | .error err => reportFailure fsc .storageClass err
  | .ok _ =>
      updateConditionIfChanged fsc .storageClassCreated .isTrue
        .storageClassCreationSucceeded "StorageClass created"

/-- Patch the StorageClass of a claim and end the pass. -/
abbrev repairStorageClass (fsc : FileSystemClaim) (current : StorageClass) :
    Act Bool := do
  ((request (.patchStorageClass
    (withRelevantFields current (wantedStorageClass fsc)))).mapError
      (Failure.wrap "patch resource: ")).mapError
        (Failure.wrap s!"patch StorageClass \"{fsc.metadata.name}\": ")
  let _ ← updateConditionIfChanged fsc .storageClassCreated .isTrue
    .storageClassCreationSucceeded "StorageClass present"
  return true

/-- The claim remembers that its StorageClass is present. -/
def keepsStorageClassCondition (fsc : FileSystemClaim) (message : String) : Bool :=
  keepsCondition fsc .storageClassCreated .isTrue .storageClassCreationSucceeded message

/-- The exits of `ensureStorageClass`. -/
theorem ensures_ensureStorageClass_exits
    (admits : AdmitsReads C)
    (failed : FailsReads C → ∀ failure, post (.error failure) cluster)
    (skipped : isConditionTrue fsc .fileSystemCreated = false → post (.ok false) cluster)
    (creates : isConditionTrue fsc .fileSystemCreated = true →
      cluster.storageClass? fsc.metadata.name = none →
      Ensures C (createStorageClass fsc) post cluster)
    (present : ∀ current, isConditionTrue fsc .fileSystemCreated = true →
      cluster.storageClass? fsc.metadata.name = some current →
      sameRelevantFields current (wantedStorageClass fsc) = true →
      (keepsStorageClassCondition fsc "StorageClass present" = true →
        post (.ok false) cluster) ∧
      (keepsStorageClassCondition fsc "StorageClass present" = false →
        Ensures C (reportCondition fsc .storageClassCreated .isTrue
          .storageClassCreationSucceeded "StorageClass present") post cluster))
    (drifted : ∀ current, isConditionTrue fsc .fileSystemCreated = true →
      cluster.storageClass? fsc.metadata.name = some current →
      sameRelevantFields current (wantedStorageClass fsc) = false →
      Ensures C (repairStorageClass fsc current) post cluster) :
    Ensures C (ensureStorageClass fsc) post cluster := by
  unfold ensureStorageClass
  rw [ensures_ite, ensures_pure]
  refine ⟨fun notCreated => skipped (by simpa using notCreated), fun isCreated => ?_⟩
  have created : isConditionTrue fsc .fileSystemCreated = true := by simpa using isCreated
  rw [ensures_bind, ensures_attempt]
  refine ensures_read admits rfl (fun pick => ?_) fun failure transient mayFail => ?_
  · cases stored : cluster.storageClass? fsc.metadata.name with
    | none =>
        simp only [Cluster.answer, stored, onSuccess_ok, ensures_ite]
        refine ⟨fun _ => ?_, fun present => absurd rfl present⟩
        have creation := creates created stored
        rw [ensures_bind, ensures_attempt] at creation ⊢
        refine creation.mono ?_
        rintro (failure | _) final holds
        · exact holds
        · exact holds
    | some current =>
        simp only [Cluster.answer, stored, onSuccess_ok]
        rw [ensures_bind, ensures_mapError,
          show buildStorageClass fsc fsc.metadata.name fsc.metadata.name =
            wantedStorageClass fsc from rfl]
        unfold reconcileExistingStorageClass
        cases same : sameRelevantFields current (wantedStorageClass fsc) with
        | true =>
            rw [if_pos rfl, ensures_pure]
            obtain ⟨kept, reports⟩ := present current created stored same
            simp only [Except.mapError, onSuccess_ok, ensures_bind]
            refine Ensures.mono (ensures_updateCondition kept reports) ?_
            rintro (failure | changed) final holds
            · exact holds
            · simpa using holds
        | false =>
            rw [if_neg (by simp)]
            have repaired := drifted current created stored same
            simp only [ensures_bind, ensures_mapError] at repaired ⊢
            refine repaired.mono ?_
            rintro (failure | _) final holds
            · exact holds
            · simpa [Except.mapError] using holds
  · simp only [onSuccess_ok, ensures_ite, ensures_throw]
    exact ⟨fun absent => absurd absent transient.1,
      fun _ => failed ⟨_, _, rfl, mayFail⟩ _⟩

/-! ## The claim as a whole -/

/-- `Ready` stays as it is. -/
def keepsReady (fsc : FileSystemClaim) : Bool :=
  if readyNow fsc then
    keepsCondition fsc .ready .isTrue .provisioningSucceeded
      "All resources created and ready"
  else
    keepsCondition fsc .ready .isFalse .provisioningInProgress
      "Provisioning in progress"

/-- Status, reason and message that `syncFSCReady` wants. -/
def wantedReady (fsc : FileSystemClaim) : ConditionStatus × Reason × String :=
  if readyNow fsc then
    (.isTrue, .provisioningSucceeded, "All resources created and ready")
  else (.isFalse, .provisioningInProgress, "Provisioning in progress")

theorem keepsReady_eq (fsc : FileSystemClaim) :
    keepsReady fsc = keepsCondition fsc .ready (wantedReady fsc).1
      (wantedReady fsc).2.1 (wantedReady fsc).2.2 := by
  unfold keepsReady wantedReady
  split <;> rfl

/-- The exits of `syncFSCReady`. -/
theorem ensures_syncFSCReady_exits
    (kept : keepsReady fsc = true → post (.ok false) cluster)
    (reports : keepsReady fsc = false →
      Ensures C (reportCondition fsc .ready (wantedReady fsc).1 (wantedReady fsc).2.1
        (wantedReady fsc).2.2) post cluster) :
    Ensures C (syncFSCReady fsc) post cluster := by
  unfold keepsReady wantedReady at *
  unfold syncFSCReady
  rw [ensures_ite]
  refine ⟨fun ready => ?_, fun notReady => ?_⟩
  · simp only [ready, if_true] at kept reports
    exact ensures_updateCondition kept reports
  · simp only [notReady, Bool.false_eq_true, if_false] at kept reports
    exact ensures_updateCondition kept reports

/-! ## The pass -/

/-- Continue when a step has written nothing, and end the pass otherwise. -/
def orElse
    (next : Cluster → Prop) (post : Except Failure Bool → Cluster → Prop) :
    Except Failure Bool → Cluster → Prop
  | .ok false, state => next state
  | result, state => post result state

theorem ensures_orElse
    {step next : Act Bool}
    (ensures : Ensures C step (orElse (Ensures C next post) post) cluster) :
    Ensures C (do
      let wrote ← step
      if wrote then return true else next) post cluster := by
  rw [ensures_bind]
  refine ensures.mono ?_
  rintro (failure | _ | _) final holds
  · exact holds
  · exact holds
  · exact holds

/-- A safe step keeps the invariant, whether it ends the pass or not. -/
theorem ensures_orElse_of_safe
    {invariant next : Cluster → Prop} {step : Act Bool}
    (safe : Safe C invariant step)
    (holds : invariant cluster)
    (continues : ∀ state, invariant state → next state) :
    Ensures C step (orElse next fun _ final => invariant final) cluster := by
  refine (safe cluster holds).mono ?_
  rintro (failure | _ | _) final ⟨_, kept⟩
  · exact kept
  · exact continues final kept
  · exact kept

/-- Provisioning takes its steps until one of them writes something. -/
theorem ensures_provision_orElse
    (steps : Ensures C (ensureLocalDisks fsc)
      (orElse (Ensures C (syncLocalDiskConditions fsc)
        (orElse (Ensures C (ensureFileSystem fsc)
          (orElse (Ensures C (syncFilesystemConditions fsc)
            (orElse (Ensures C (ensureStorageClass fsc) post) post)) post)) post)) post)
      cluster) :
    Ensures C (provision fsc) post cluster := by
  have continues : ∀ {step next : Act Bool} {later : Cluster → Prop}
      {cluster : Cluster}, (∀ state, later state → Ensures C next post state) →
      Ensures C step (orElse later post) cluster →
      Ensures C step (orElse (Ensures C next post) post) cluster := by
    intro step next later cluster shown ensures
    refine ensures.mono ?_
    rintro (failure | _ | _) final holds
    · exact holds
    · exact shown final holds
    · exact holds
  unfold provision
  exact ensures_orElse (continues (fun _ ensures => ensures_orElse
    (continues (fun _ ensures => ensures_orElse
      (continues (fun _ ensures => ensures_orElse ensures) ensures)) ensures)) steps)

end Exits

/-! ## What lets a pass go on -/

section GoesOn

variable {cluster : Cluster} {fsc : FileSystemClaim} {fact : Prop}

/-- Without a creation, `ensureLocalDisks` lets a pass go on when the devices
match, or when the LocalDisks are awaited. -/
def localDisksGoOn (cluster : Cluster) (fsc : FileSystemClaim) : Bool :=
  if isConditionTrue fsc .localDiskCreated then devicesMatch cluster fsc
  else awaitsLocalDisks fsc

/-- `ensureFileSystem` lets a pass go on: there is nothing to do yet, or the one
Filesystem of the claim has the wanted spec. -/
def filesystemGoesOn (cluster : Cluster) (fsc : FileSystemClaim) : Bool :=
  !isConditionTrue fsc .localDiskCreated ||
    (ownedBy cluster fsc .localDisk).isEmpty ||
    match ownedBy cluster fsc .filesystem with
    | [fs] => fs.spec = some (wantedFilesystemSpec cluster fsc)
    | _ => false

/-- What follows an attempt and always ends the pass. -/
theorem goesOn_afterAttempt {α : Type}
    {program : Act α} {next : Except Failure α → Act Bool} {state : Cluster}
    (ends : ∀ result final, Ensures free (next result) (GoesOn cluster fact) final) :
    Ensures free (do
      let result ← program.attempt
      next result) (GoesOn cluster fact) state :=
  ensures_bind_of_free (fun _ _ => trivial) _ _ _ _ (fun _ _ => goesOn_error _ _) ends

theorem goesOn_localDisks
    (noCreation : isConditionTrue fsc .localDiskCreated = false →
      awaitsLocalDisks fsc = false → isConditionTrue fsc .deviceValidated = false) :
    Ensures free (ensureLocalDisks fsc)
      (GoesOn cluster (localDisksGoOn cluster fsc = true)) cluster := by
  refine ensures_ensureLocalDisks_exits admitsReads_free
    (fun _ failure => goesOn_error failure _) (fun created same _ => ?_)
    (fun _ _ => goesOn_after _ _) (fun notCreated awaits _ => ?_)
    (fun _ _ _ => goesOn_afterAttempt ?_) fun notCreated notAwaiting validated => ?_
  · exact ⟨rfl, by rw [localDisksGoOn, if_pos created, same]⟩
  · exact ⟨rfl, by rw [localDisksGoOn, notCreated, if_neg (by simp), awaits]⟩
  · rintro (failure | _) final
    · exact goesOn_after _ _
    · exact goesOn_after _ _
  · rw [noCreation notCreated notAwaiting] at validated
    cases validated

theorem goesOn_localDiskConditions :
    Ensures free (syncLocalDiskConditions fsc)
      (GoesOn cluster
        (keepsLocalDiskCondition cluster fsc (ownFilesystems cluster fsc) = true ∨
          keepsLocalDiskCondition cluster fsc [] = true)) cluster := by
  refine ensures_syncLocalDiskConditions_exits admitsReads_free
    (fun _ failure => goesOn_error failure _) fun users known =>
      ⟨fun kept _ => ⟨rfl, ?_⟩, fun _ => goesOn_after _ _⟩
  rcases known with rfl | ⟨_, rfl⟩
  · exact Or.inl kept
  · exact Or.inr kept

theorem goesOn_fileSystem :
    Ensures free (ensureFileSystem fsc)
      (GoesOn cluster (filesystemGoesOn cluster fsc = true)) cluster := by
  refine ensures_ensureFileSystem_exits admitsReads_free
    (fun _ failure => goesOn_error failure _) (fun skipped _ => ⟨rfl, ?_⟩)
    (fun _ _ _ => goesOn_afterAttempt ?_) (fun fs _ _ owned =>
      ⟨fun same _ => ⟨rfl, ?_⟩, fun _ => goesOn_after _ _⟩)
    fun _ _ _ _ => goesOn_after _ _
  · rcases skipped with notCreated | none
    · simp [filesystemGoesOn, notCreated]
    · simp [filesystemGoesOn, none]
  · rintro (failure | _) final
    · exact goesOn_after _ _
    · exact goesOn_after _ _
  · simp [filesystemGoesOn, owned, same]

theorem goesOn_filesystemConditions :
    Ensures free (syncFilesystemConditions fsc)
      (GoesOn cluster (keepsFilesystemCondition cluster fsc = true)) cluster :=
  ensures_syncFilesystemConditions_exits admitsReads_free
    (fun _ failure => goesOn_error failure _) (fun kept _ => ⟨rfl, kept⟩)
    fun _ => goesOn_after _ _

/-- When the step lets the pass go on, the state is of a kind. -/
def Passes
    (kind : Cluster → Prop) (result : Except Failure Bool) (final : Cluster) : Prop :=
  result = .ok false → kind final

/-- A step that ends the pass passes in no state. -/
theorem passes_of_ends
    {kind : Cluster → Prop} {step : Act Bool} {state : Cluster}
    (ends : Ensures free step (GoesOn state False) state) :
    Ensures free step (Passes kind) state :=
  ends.mono fun _ _ goesOn passes => absurd (goesOn passes).2 id

/-- A safe step, and what follows in the states in which it lets the pass go on. -/
theorem ensures_orElse_of_passes
    {C : Contract apiServer} {invariant next kind : Cluster → Prop} {step : Act Bool}
    (safe : Safe C invariant step)
    (holds : invariant cluster)
    (passes : Ensures free step (Passes kind) cluster)
    (continues : ∀ state, invariant state → kind state → next state) :
    Ensures C step (orElse next fun _ final => invariant final) cluster := by
  have both := Program.Ensures.and_of_relies (fun _ _ _ _ => trivial) (safe cluster holds)
    passes
  refine Ensures.mono both ?_
  rintro (failure | _ | _) final ⟨⟨_, kept⟩, passed⟩
  · exact kept
  · exact continues final kept (passed rfl)
  · exact kept

/-- The same for a step that has changed nothing then. -/
theorem ensures_orElse_of_goesOn
    {C : Contract apiServer} {invariant next : Cluster → Prop} {step : Act Bool}
    (safe : Safe C invariant step)
    (holds : invariant cluster)
    (goesOn : Ensures free step (GoesOn cluster fact) cluster)
    (continues : fact → next cluster) :
    Ensures C step (orElse next fun _ final => invariant final) cluster := by
  refine ensures_orElse_of_passes safe holds goesOn ?_
  rintro state kept ⟨rfl, known⟩
  exact continues known

end GoesOn

end FusionAccess
