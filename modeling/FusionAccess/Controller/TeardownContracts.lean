import FusionAccess.Controller.Passes
import FusionAccess.Kubernetes.Frames

/-!
# Contracts of the teardown

What the steps of the teardown have found out when they let the pass go on,
and what has been found out when one of them deletes something or takes the
finalizer off.
-/

namespace FusionAccess

open Kubernetes Interaction Fallible

/-! ## What lets a step go on -/

/-- At most one Filesystem, and its deletion is permitted. -/
def isReleased : List Unstructured → Bool
  | [] => true
  | [fs] => (fs.metadata.labels.get? fileSystemDeletionLabel).isSome
  | _ => false

/-- The deletion is marked and the two checks let it go on. -/
def isUnblocked (cluster : Cluster) (fsc : FileSystemClaim) : Bool :=
  hasConditionWithReason fsc.conditions .ready .deletionRequested &&
    (!isConditionTrue fsc .storageClassCreated ||
      !cluster.persistentVolumes.any (blocksDeletion fsc.metadata.name)) &&
    (!isConditionTrue fsc .fileSystemCreated ||
      isReleased (ownedBy cluster fsc .filesystem))

/-- The message that marks a deletion. -/
def deletionMessage : String :=
  "FileSystemClaim deletion was requested, proceeding with cleanup in this order: " ++
    "StorageClass, Filesystem, LocalDisk"

/-- Reason and message with which the deletion is blocked. -/
def wantedBlock (cluster : Cluster) (fsc : FileSystemClaim) : Option (Reason × String) :=
  let offending := (cluster.persistentVolumes.filter
    (blocksDeletion fsc.metadata.name)).map offendingPV
  if isConditionTrue fsc .storageClassCreated && 0 < offending.length then
    some (.storageClassInUse, offendingMessage offending)
  else if isConditionTrue fsc .fileSystemCreated then
    match ownedBy cluster fsc .filesystem with
    | [fs] =>
        if (fs.metadata.labels.get? fileSystemDeletionLabel).isNone then
          some (.fileSystemLabelNotPresent, deletionLabelMessage fs)
        else none
    | _ => none
  else none

/-- A step that deletes objects passes when its condition is not true, or when
there are none and the claim says so already. -/
def stepPasses
    (fsc : FileSystemClaim) (conditionType : ConditionType) (reason : Reason)
    (message : String) (present : Bool) : Bool :=
  !isConditionTrue fsc conditionType ||
    !present && keepsCondition fsc conditionType .isFalse reason message

/-- `deleteStorageClass` passes. -/
def storageClassPasses (cluster : Cluster) (fsc : FileSystemClaim) : Bool :=
  stepPasses fsc .storageClassCreated .storageClassDeleted
    "StorageClass deleted, proceeding with Filesystem deletion"
    (cluster.storageClass? fsc.metadata.name).isSome

/-- `deleteFilesystem` passes. -/
def filesystemPasses (cluster : Cluster) (fsc : FileSystemClaim) : Bool :=
  stepPasses fsc .fileSystemCreated .filesystemDeleted
    "Filesystem deleted, proceeding with LocalDisk deletion"
    !(ownedBy cluster fsc .filesystem).isEmpty

/-- `deleteLocalDisks` passes. -/
def localDisksPass (cluster : Cluster) (fsc : FileSystemClaim) : Bool :=
  stepPasses fsc .localDiskCreated .localDiskDeleted
    "LocalDisks deleted, proceeding with finalizer removal"
    !(ownedBy cluster fsc .localDisk).isEmpty

/-! ## The steps -/

section Steps

variable {C : Contract apiServer} {fsc : FileSystemClaim} {cluster : Cluster}

/-- The contract lets the claim's status be written in every state. -/
def AdmitsReports (C : Contract apiServer) (fsc : FileSystemClaim) : Prop :=
  ∀ state original modified,
    C.guard state (.patchClaimStatus fsc.key original modified)

/-- The contract lets a condition be reported that is not kept. -/
def AdmitsReport
    (C : Contract apiServer) (cluster : Cluster) (fsc : FileSystemClaim)
    (conditionType : ConditionType) (status : ConditionStatus) (reason : Reason)
    (message : String) : Prop :=
  keepsCondition fsc conditionType status reason message = false →
    C.guard cluster (.patchClaimStatus fsc.key fsc.conditions
      (withCondition conditionType status reason message cluster.clock fsc).conditions)

/-- Without volumes in use only a Filesystem that is not released blocks the
deletion. -/
theorem wantedBlock_of_unused
    (unused : (!isConditionTrue fsc .storageClassCreated ||
        !cluster.persistentVolumes.any (blocksDeletion fsc.metadata.name)) = true) :
    wantedBlock cluster fsc =
      if isConditionTrue fsc .fileSystemCreated then
        match ownedBy cluster fsc .filesystem with
        | [fs] =>
            if (fs.metadata.labels.get? fileSystemDeletionLabel).isNone then
              some (.fileSystemLabelNotPresent, deletionLabelMessage fs)
            else none
        | _ => none
      else none := by
  refine if_neg fun blocked => ?_
  simp only [Bool.and_eq_true, decide_eq_true_eq, List.length_pos_iff, ne_eq,
    List.map_eq_nil_iff, List.filter_eq_nil_iff] at blocked
  rw [blocked.1, Bool.not_true, Bool.false_or, Bool.not_eq_true', List.any_eq_false]
    at unused
  exact blocked.2 unused

/-- Nothing blocks the deletion when both checks let it go on. -/
theorem wantedBlock_of_released
    (unused : (!isConditionTrue fsc .storageClassCreated ||
        !cluster.persistentVolumes.any (blocksDeletion fsc.metadata.name)) = true)
    (released : (!isConditionTrue fsc .fileSystemCreated ||
        isReleased (ownedBy cluster fsc .filesystem)) = true) :
    wantedBlock cluster fsc = none := by
  rw [wantedBlock_of_unused unused]
  by_cases created : isConditionTrue fsc .fileSystemCreated = true
  · rw [created, Bool.not_true, Bool.false_or] at released
    rw [if_pos created]
    match owned : ownedBy cluster fsc .filesystem with
    | [] => rfl
    | [fs] =>
        rw [owned, isReleased] at released
        exact if_neg (by simp [Option.isSome_iff_ne_none.mp released])
    | _ :: _ :: _ => rfl
  · exact if_neg created

theorem calculateDeletionBackoff_pos
    (fsc : FileSystemClaim) (reason : Reason) (now : Nat) :
    0 < calculateDeletionBackoff fsc reason now := by
  unfold calculateDeletionBackoff
  grind

/-- Recording a condition has no other exits than to keep it, to write it and
to fail. -/
theorem ensures_report
    {conditionType : ConditionType} {status : ConditionStatus}
    {reason : Reason} {message : String}
    {post : Except Failure Bool → Cluster → Prop}
    (admits : AdmitsReads C)
    (report : AdmitsReport C cluster fsc conditionType status reason message)
    (stored : cluster.claim? fsc.key = some fsc)
    (kept : keepsCondition fsc conditionType status reason message = true →
      post (.ok false) cluster)
    (written : ∀ final, post (.ok true) final)
    (failed : ∀ failure final, post (.error failure) final) :
    Ensures C
      (updateConditionIfChanged fsc conditionType status reason message) post
      cluster :=
  ensures_updateConditionIfChanged admits stored kept report (fun _ => written _)
    (fun failure _ _ _ => failed failure _)
    (fun failure _ _ _ _ => failed failure _)

theorem ensures_markDeletionRequested
    {post : Except Failure Bool → Cluster → Prop}
    (admits : AdmitsReads C)
    (report : hasConditionWithReason fsc.conditions .ready .deletionRequested = false →
      AdmitsReport C cluster fsc .ready .isFalse .deletionRequested deletionMessage)
    (stored : cluster.claim? fsc.key = some fsc)
    (written : ∀ final, post (.ok true) final)
    (failed : ∀ failure final, post (.error failure) final)
    (marked : hasConditionWithReason fsc.conditions .ready .deletionRequested =
      true → post (.ok false) cluster) :
    Ensures C (markDeletionRequested fsc) post cluster := by
  unfold markDeletionRequested
  simp only [ensures_ite, ensures_pure]
  refine ⟨fun unmarked => ?_, fun already => marked (by simpa using already)⟩
  exact ensures_report admits (report (by simpa using unmarked)) stored
    (fun kept => marked (hasConditionWithReason_of_keepsCondition kept))
    written failed

theorem ensures_blockDeletion
    {reason : Reason} {message : String}
    {post : Except Failure Verdict → Cluster → Prop}
    (admits : AdmitsReads C)
    (report : AdmitsReport C cluster fsc .deletionBlocked .isTrue reason message)
    (stored : cluster.claim? fsc.key = some fsc)
    (stops : ∀ result final, EndsPass result → post result final) :
    Ensures C (blockDeletion fsc reason message) post cluster := by
  have waits : ∀ changed final, Ensures C
      (do
        let now ← request .now
        return (⟨calculateDeletionBackoff fsc reason now, changed⟩ : Verdict))
      post final := by
    intro changed final
    rw [ensures_bind]
    refine ensures_local (admits _ _ rfl) rfl rfl fun pick => stops _ _ (endsPass_ok ?_)
    have positive := calculateDeletionBackoff_pos fsc reason final.clock
    simp [Verdict.stops, positive]
  unfold blockDeletion
  rw [ensures_bind]
  exact ensures_report admits report stored (fun _ => waits false cluster)
    (waits true) (fun failure final => stops _ _ (endsPass_error failure))

/-- The exits of `checkStorageClassUsage`. -/
theorem ensures_checkStorageClassUsage_exits
    {post : Except Failure Verdict → Cluster → Prop}
    (admits : AdmitsReads C)
    (blocks : ∀ reason message, wantedBlock cluster fsc = some (reason, message) →
      Ensures C (blockDeletion fsc reason message) post cluster)
    (failed : FailsReads C → ∀ failure, post (.error failure) cluster)
    (passes : (!isConditionTrue fsc .storageClassCreated ||
        !cluster.persistentVolumes.any (blocksDeletion fsc.metadata.name)) =
      true → post (.ok {}) cluster) :
    Ensures C (checkStorageClassUsage fsc) post cluster := by
  unfold checkStorageClassUsage isStorageClassInUse
  simp only [ensures_ite, ensures_pure, ensures_bind,
    ensures_attempt]
  refine ⟨fun skipped => passes (by simp [skipped]), fun created => ?_⟩
  refine ensures_read admits rfl (fun pick => ?_) ?_
  · simp only [Cluster.answer, onSuccess_ok, ensures_ite,
      ensures_pure]
    refine ⟨fun inUse => blocks _ _ ?_, fun free => passes ?_⟩
    · have classed : isConditionTrue fsc .storageClassCreated = true := by
        simpa using created
      refine if_pos ?_
      rw [classed, Bool.true_and]
      exact decide_eq_true inUse
    have none : cluster.persistentVolumes.filter
        (blocksDeletion fsc.metadata.name) = [] := by
      simpa using free
    rw [List.filter_eq_nil_iff] at none
    simpa using Or.inr none
  · intro failure transient mayFail
    simp only [onSuccess_ok, ensures_ite, ensures_pure,
      ensures_throw]
    exact ⟨fun absent => absurd absent transient.1,
      fun _ => failed ⟨_, _, rfl, mayFail⟩ failure⟩

theorem ensures_checkStorageClassUsage
    {post : Except Failure Verdict → Cluster → Prop}
    (admits : AdmitsReads C)
    (report : ∀ block, wantedBlock cluster fsc = some block →
      AdmitsReport C cluster fsc .deletionBlocked .isTrue block.1 block.2)
    (stored : cluster.claim? fsc.key = some fsc)
    (stops : ∀ result final, EndsPass result → post result final)
    (passes : (!isConditionTrue fsc .storageClassCreated ||
        !cluster.persistentVolumes.any (blocksDeletion fsc.metadata.name)) =
      true → post (.ok {}) cluster) :
    Ensures C (checkStorageClassUsage fsc) post cluster :=
  ensures_checkStorageClassUsage_exits admits
    (fun _ _ wanted => ensures_blockDeletion admits (report (_, _) wanted) stored stops)
    (fun _ failure => stops _ _ (endsPass_error failure)) passes

/-- The exits of `checkFilesystemDeletionLabel`. -/
theorem ensures_checkFilesystemDeletionLabel_exits
    {post : Except Failure Verdict → Cluster → Prop}
    (admits : AdmitsReads C)
    (unused : (!isConditionTrue fsc .storageClassCreated ||
        !cluster.persistentVolumes.any (blocksDeletion fsc.metadata.name)) = true)
    (blocks : ∀ reason message, wantedBlock cluster fsc = some (reason, message) →
      Ensures C (blockDeletion fsc reason message) post cluster)
    (failed : FailsReads C ∨ isConditionTrue fsc .fileSystemCreated = true ∧
        isReleased (ownedBy cluster fsc .filesystem) = false →
      ∀ failure, post (.error failure) cluster)
    (passes : (!isConditionTrue fsc .fileSystemCreated ||
        isReleased (ownedBy cluster fsc .filesystem)) = true →
      post (.ok {}) cluster) :
    Ensures C (checkFilesystemDeletionLabel fsc) post cluster := by
  unfold checkFilesystemDeletionLabel
  simp only [ensures_ite, ensures_pure, ensures_bind]
  refine ⟨fun skipped => passes (by simp [skipped]), fun created => ?_⟩
  refine ensures_listOwnedResources admits ?_ fun failure _ _ fails =>
    failed (Or.inl ⟨_, _, fails⟩) failure
  rw [onSuccess_ok]
  rcases owned : ownedBy cluster fsc .filesystem with _ | ⟨fs, _ | ⟨second, others⟩⟩
  · exact passes (by simp [owned, isReleased])
  · simp only [ensures_ite, ensures_pure]
    refine ⟨fun unlabelled => blocks _ _ ?_, fun labelled => passes ?_⟩
    · rw [wantedBlock_of_unused unused, if_pos (by simpa using created), owned]
      exact if_pos unlabelled
    · rw [owned, isReleased, Bool.or_eq_true]
      exact Or.inr (by simpa [Option.isSome_iff_ne_none] using labelled)
  · exact failed (Or.inr ⟨by simpa using created, by rw [owned]; rfl⟩) _

theorem ensures_checkFilesystemDeletionLabel
    {post : Except Failure Verdict → Cluster → Prop}
    (admits : AdmitsReads C)
    (report : ∀ block, wantedBlock cluster fsc = some block →
      AdmitsReport C cluster fsc .deletionBlocked .isTrue block.1 block.2)
    (stored : cluster.claim? fsc.key = some fsc)
    (unused : (!isConditionTrue fsc .storageClassCreated ||
        !cluster.persistentVolumes.any (blocksDeletion fsc.metadata.name)) = true)
    (stops : ∀ result final, EndsPass result → post result final)
    (passes : (!isConditionTrue fsc .fileSystemCreated ||
        isReleased (ownedBy cluster fsc .filesystem)) = true →
      post (.ok {}) cluster) :
    Ensures C (checkFilesystemDeletionLabel fsc) post cluster :=
  ensures_checkFilesystemDeletionLabel_exits admits unused
    (fun _ _ wanted => ensures_blockDeletion admits (report (_, _) wanted) stored stops)
    (fun _ failure => stops _ _ (endsPass_error failure)) passes

theorem ensures_deleteStorageClass
    {post : Except Failure Bool → Cluster → Prop}
    (admits : AdmitsReads C)
    (report : isConditionTrue fsc .storageClassCreated = true →
      AdmitsReport C cluster fsc .storageClassCreated .isFalse .storageClassDeleted
        "StorageClass deleted, proceeding with Filesystem deletion")
    (stored : cluster.claim? fsc.key = some fsc)
    (guarded : C.guard cluster (.deleteStorageClass fsc.metadata.name))
    (written : ∀ final, post (.ok true) final)
    (failed : ∀ failure final, post (.error failure) final)
    (passes : storageClassPasses cluster fsc = true → post (.ok false) cluster) :
    Ensures C (deleteStorageClass fsc) post cluster := by
  unfold deleteStorageClass
  simp only [ensures_ite, ensures_pure, ensures_bind,
    ensures_attempt]
  refine ⟨fun skipped => passes ?_, fun created => ?_⟩
  · rw [storageClassPasses, stepPasses, skipped, Bool.true_or]
  refine ensures_read admits rfl (fun pick => ?_) ?_
  · cases found : cluster.storageClass? fsc.metadata.name with
    | none =>
        simp only [Cluster.answer, found, onSuccess_ok,
          ensures_ite, ensures_throw]
        refine ⟨fun present => absurd rfl present, fun _ => ?_⟩
        refine ensures_report admits (report (by simpa using created)) stored
          (fun kept => passes ?_) written failed
        simp [storageClassPasses, stepPasses, found, kept]
    | some sc =>
        have named : sc.name = fsc.metadata.name := (Registry.find?_eq_some found).2
        rw [← named] at guarded
        simp only [Cluster.answer, found, onSuccess_ok,
          ensures_bind]
        refine ensures_request guarded (fun pick => ?_)
          (fun failure _ _ => failed failure _) (fun failure _ _ => failed failure _)
        rcases (cluster.answer pick (.deleteStorageClass sc.name)).2 with
          failure | ⟨⟩
        · exact failed failure _
        · exact written _
  · intro failure transient _
    simp only [onSuccess_ok, ensures_ite, ensures_throw]
    exact ⟨fun _ => failed failure _, fun absent => by
      simp [transient.1] at absent⟩

theorem ensures_deleteFilesystem
    {post : Except Failure Verdict → Cluster → Prop}
    (admits : AdmitsReads C)
    (report : isConditionTrue fsc .fileSystemCreated = true →
      AdmitsReport C cluster fsc .fileSystemCreated .isFalse .filesystemDeleted
        "Filesystem deleted, proceeding with LocalDisk deletion")
    (stored : cluster.claim? fsc.key = some fsc)
    (guarded : isConditionTrue fsc .fileSystemCreated = true →
      ∀ fs rest, ownedBy cluster fsc .filesystem = fs :: rest →
        C.guard cluster (.delete .filesystem fs.key))
    (stops : ∀ result final, EndsPass result → post result final)
    (passes : filesystemPasses cluster fsc = true → post (.ok {}) cluster) :
    Ensures C (deleteFilesystem fsc) post cluster := by
  unfold deleteFilesystem
  simp only [ensures_ite, ensures_pure, ensures_bind]
  refine ⟨fun skipped => passes ?_, fun created => ?_⟩
  · rw [filesystemPasses, stepPasses, skipped, Bool.true_or]
  refine ensures_listOwnedResources admits ?_
    fun failure _ _ _ => stops _ _ (endsPass_error failure)
  rw [onSuccess_ok]
  cases owned : ownedBy cluster fsc .filesystem with
  | nil =>
      simp only [ensures_bind]
      refine ensures_report admits (report (by simpa using created)) stored
        (fun kept => passes ?_)
        (fun final => stops _ _ (endsPass_ok (by simp [Verdict.stops])))
        (fun failure final => stops _ _ (endsPass_error failure))
      simp [filesystemPasses, stepPasses, owned, kept]
  | cons fs rest =>
      simp only [ensures_bind]
      refine ensures_request (guarded (by simpa using created) fs rest owned)
        (fun pick => ?_)
        (fun failure _ _ => stops _ _ (endsPass_error failure))
        (fun failure _ _ => stops _ _ (endsPass_error failure))
      rcases (cluster.answer pick (.delete .filesystem fs.key)).2 with failure | ⟨⟩
      · exact stops _ _ (endsPass_error failure)
      · exact stops _ _ (endsPass_ok (by simp [Verdict.stops]))

/-- Two clusters that may differ in their LocalDisks only. -/
structure SameButLocalDisks (before after : Cluster) : Prop where
  claims : after.claims = before.claims
  filesystems : after.objects .filesystem = before.objects .filesystem
  surroundings : Cluster.SameSurroundings before after

theorem SameButLocalDisks.delete
    {before after : Cluster}
    (same : SameButLocalDisks before after)
    (key : NamespacedName) :
    SameButLocalDisks before (after.afterCall (.delete .localDisk key)) where
  claims := by rw [after.claims_afterCall (by simp [Call.part?]), same.claims]
  filesystems := by
    rw [after.objects_afterCall (by simp [Call.part?]), same.filesystems]
  surroundings := same.surroundings.trans (after.sameSurroundings_afterCall _)

/-- Deleting LocalDisks leaves everything else as it was. -/
theorem ensures_deleteEach
    {post : Except Failure Unit → Cluster → Prop}
    (lds : List Unstructured)
    (guarded : ∀ state, SameButLocalDisks cluster state →
      ∀ ld ∈ lds, C.guard state (.delete .localDisk ld.key))
    (exits : ∀ result final, post result final) :
    Ensures C (deleteEach lds) post cluster := by
  suffices from_ : ∀ state : Cluster, SameButLocalDisks cluster state →
      Ensures C (deleteEach lds) post state from
    from_ cluster ⟨rfl, rfl, Cluster.SameSurroundings.refl cluster⟩
  induction lds with
  | nil => exact fun state _ => exits _ _
  | cons ld lds inductionHypothesis =>
      intro state same
      rw [deleteEach, ensures_bind]
      refine ensures_request (guarded state same ld (by simp)) (fun pick => ?_)
        (fun _ _ _ => exits _ _) (fun _ _ _ => exits _ _)
      rcases (state.answer pick (.delete .localDisk ld.key)).2 with failure | ⟨⟩
      · exact exits _ _
      · exact inductionHypothesis (fun state same other member =>
          guarded state same other (List.mem_cons_of_mem _ member)) _ (same.delete _)

theorem ensures_deleteLocalDisks
    {post : Except Failure Verdict → Cluster → Prop}
    (admits : AdmitsReads C)
    (report : isConditionTrue fsc .localDiskCreated = true →
      AdmitsReport C cluster fsc .localDiskCreated .isFalse .localDiskDeleted
        "LocalDisks deleted, proceeding with finalizer removal")
    (stored : cluster.claim? fsc.key = some fsc)
    (guarded : isConditionTrue fsc .localDiskCreated = true →
      ∀ state, SameButLocalDisks cluster state →
        ∀ ld ∈ ownedBy cluster fsc .localDisk,
          C.guard state (.delete .localDisk ld.key))
    (stops : ∀ result final, EndsPass result → post result final)
    (passes : localDisksPass cluster fsc = true → post (.ok {}) cluster) :
    Ensures C (deleteLocalDisks fsc) post cluster := by
  unfold deleteLocalDisks
  simp only [ensures_ite, ensures_pure, ensures_bind]
  refine ⟨fun skipped => passes ?_, fun created => ?_⟩
  · rw [localDisksPass, stepPasses, skipped, Bool.true_or]
  refine ensures_listOwnedResources admits ?_
    fun failure _ _ _ => stops _ _ (endsPass_error failure)
  simp only [onSuccess_ok, ensures_ite, ensures_bind]
  refine ⟨fun _ => ?_, fun none => ?_⟩
  · refine ensures_deleteEach _ (guarded (by simpa using created)) ?_
    rintro (failure | ⟨⟩) final
    · exact stops _ _ (endsPass_error failure)
    · exact stops _ _ (endsPass_ok (by simp [Verdict.stops]))
  · have owned : ownedBy cluster fsc .localDisk = [] := by simpa using none
    refine ensures_report admits (report (by simpa using created)) stored
      (fun kept => passes ?_)
      (fun final => stops _ _ (endsPass_ok (by simp [Verdict.stops])))
      (fun failure final => stops _ _ (endsPass_error failure))
    simp [localDisksPass, stepPasses, owned, kept]

end Steps

/-! ## The whole teardown -/

/-- The call takes the operator's finalizer off a claim. -/
def dropsOwnFinalizer (original modified : List String) : Bool :=
  original.contains fileSystemClaimFinalizer &&
    !modified.contains fileSystemClaimFinalizer

/-- The call belongs to the teardown: it deletes something or takes the
operator's finalizer off. -/
def tearsDown : Call → Bool
  | .delete _ _ | .deleteStorageClass _ => true
  | .patchClaimFinalizers _ original modified => dropsOwnFinalizer original modified
  | _ => false

/-- The destructive calls of the teardown are guarded by what the steps before
them have found out. -/
structure GuardsTeardown
    (C : Contract apiServer) (cluster : Cluster) (fsc : FileSystemClaim) : Prop where
  storageClass : isUnblocked cluster fsc = true →
    C.guard cluster (.deleteStorageClass fsc.metadata.name)
  filesystem : isUnblocked cluster fsc = true →
    storageClassPasses cluster fsc = true →
    isConditionTrue fsc .fileSystemCreated = true →
    ∀ fs rest, ownedBy cluster fsc .filesystem = fs :: rest →
      C.guard cluster (.delete .filesystem fs.key)
  localDisks : isUnblocked cluster fsc = true →
    storageClassPasses cluster fsc = true →
    filesystemPasses cluster fsc = true →
    isConditionTrue fsc .localDiskCreated = true →
    ∀ state, SameButLocalDisks cluster state →
      ∀ ld ∈ ownedBy cluster fsc .localDisk,
        C.guard state (.delete .localDisk ld.key)
  finalizer : isUnblocked cluster fsc = true →
    storageClassPasses cluster fsc = true →
    filesystemPasses cluster fsc = true →
    localDisksPass cluster fsc = true →
    C.guard cluster (.patchClaimFinalizers fsc.key fsc.metadata.finalizers
      (dropFinalizer fsc).metadata.finalizers)

/-- The reports of the teardown are guarded in the same way. -/
structure GuardsTeardownReports
    (C : Contract apiServer) (cluster : Cluster) (fsc : FileSystemClaim) : Prop where
  marks : hasConditionWithReason fsc.conditions .ready .deletionRequested = false →
    AdmitsReport C cluster fsc .ready .isFalse .deletionRequested deletionMessage
  blocks : hasConditionWithReason fsc.conditions .ready .deletionRequested = true →
    ∀ block, wantedBlock cluster fsc = some block →
      AdmitsReport C cluster fsc .deletionBlocked .isTrue block.1 block.2
  storageClass : isUnblocked cluster fsc = true →
    isConditionTrue fsc .storageClassCreated = true →
    AdmitsReport C cluster fsc .storageClassCreated .isFalse .storageClassDeleted
      "StorageClass deleted, proceeding with Filesystem deletion"
  filesystem : isUnblocked cluster fsc = true →
    storageClassPasses cluster fsc = true →
    isConditionTrue fsc .fileSystemCreated = true →
    AdmitsReport C cluster fsc .fileSystemCreated .isFalse .filesystemDeleted
      "Filesystem deleted, proceeding with LocalDisk deletion"
  localDisks : isUnblocked cluster fsc = true →
    storageClassPasses cluster fsc = true →
    filesystemPasses cluster fsc = true →
    isConditionTrue fsc .localDiskCreated = true →
    AdmitsReport C cluster fsc .localDiskCreated .isFalse .localDiskDeleted
      "LocalDisks deleted, proceeding with finalizer removal"

variable {C : Contract apiServer} {fsc : FileSystemClaim} {cluster : Cluster}

theorem AdmitsReports.guards (reports : AdmitsReports C fsc) :
    GuardsTeardownReports C cluster fsc where
  marks := fun _ _ => reports _ _ _
  blocks := fun _ _ _ _ => reports _ _ _
  storageClass := fun _ _ _ => reports _ _ _
  filesystem := fun _ _ _ _ => reports _ _ _
  localDisks := fun _ _ _ _ _ => reports _ _ _

/-- The teardown of a claim ends the pass, and its reports and its destructive
calls are guarded. -/
theorem ensures_handleDeletion
    (admits : AdmitsReads C)
    (reports : GuardsTeardownReports C cluster fsc)
    (stored : cluster.claim? fsc.key = some fsc)
    (deleting : isDeleting fsc = true)
    (present : hasFinalizer fsc = true)
    (guards : GuardsTeardown C cluster fsc) :
    Ensures C (handleDeletion fsc) (fun result _ => EndsPass result)
      cluster := by
  have failed : ∀ (failure : Failure) (_ : Cluster), EndsPass (.error failure) :=
    fun failure _ => endsPass_error failure
  have changed : EndsPass (.ok ⟨0, true⟩) := endsPass_ok (by simp [Verdict.stops])
  have ends : ∀ (next : Verdict → Act Verdict) (result : Except Failure Verdict)
      (final : Cluster), EndsPass result →
        onSuccess
          (fun verdict => Ensures C
            (if verdict.stops = true then return verdict else next verdict)
            fun result _ => EndsPass result)
          (fun (result : Except Failure Verdict) _ => EndsPass result)
          result final := by
    rintro next (failure | verdict) final stops
    · exact stops
    · rw [onSuccess_ok, if_pos (stops verdict rfl)]
      exact stops
  unfold handleDeletion
  rw [if_neg (by simp [deleting]), if_neg (by simp [present]), ensures_bind]
  refine ensures_markDeletionRequested admits reports.marks stored ?_ failed
    fun marked => ?_
  · intro final
    rw [onSuccess_ok, if_pos rfl]
    exact changed
  rw [onSuccess_ok, if_neg (by simp), ensures_bind]
  refine ensures_checkStorageClassUsage admits (reports.blocks marked) stored (ends _)
    fun unused => ?_
  rw [onSuccess_ok, if_neg (by simp [Verdict.stops]), ensures_bind]
  refine ensures_checkFilesystemDeletionLabel admits (reports.blocks marked) stored unused
    (ends _) fun released => ?_
  have unblocked : isUnblocked cluster fsc = true := by
    rw [isUnblocked, marked, unused, released]
    rfl
  rw [onSuccess_ok, if_neg (by simp [Verdict.stops]), ensures_bind]
  refine ensures_deleteStorageClass admits (reports.storageClass unblocked) stored
    (guards.storageClass unblocked) ?_ failed fun storageClassPassed => ?_
  · intro final
    rw [onSuccess_ok, if_pos rfl]
    exact changed
  rw [onSuccess_ok, if_neg (by simp), ensures_bind]
  refine ensures_deleteFilesystem admits
    (reports.filesystem unblocked storageClassPassed) stored
    (guards.filesystem unblocked storageClassPassed) (ends _) fun filesystemPassed => ?_
  rw [onSuccess_ok, if_neg (by simp [Verdict.stops]), ensures_bind]
  refine ensures_deleteLocalDisks admits
    (reports.localDisks unblocked storageClassPassed filesystemPassed) stored
    (guards.localDisks unblocked storageClassPassed filesystemPassed) (ends _)
    fun localDisksPassed => ?_
  rw [onSuccess_ok, if_neg (by simp [Verdict.stops])]
  unfold removeFinalizer
  simp only [ensures_bind]
  exact ensures_patchFSCSpec admits stored
    (guards.finalizer unblocked storageClassPassed filesystemPassed localDisksPassed)
    changed (fun failure _ _ _ => failed failure cluster)
    (fun failure _ _ _ => failed failure cluster)

/-- Whatever is not part of the teardown. -/
abbrev SparesTeardown (call : Call) : Prop := tearsDown call = false

theorem sparesTeardown_of_isRead :
    ∀ call : Call, call.isRead = true → SparesTeardown call := by
  intro call reads
  cases call <;> simp_all [SparesTeardown, Call.isRead, tearsDown]

section Others

variable (others : ∀ state call, SparesTeardown call → C.guard state call)

include others

theorem admitsReads_of_others : AdmitsReads C :=
  fun state call reads => others state call (sparesTeardown_of_isRead call reads)

theorem safe_of_others {call : Call} (spares : SparesTeardown call) :
    Safe C (fun _ => True) (request call) :=
  (safe_request (fun state _ => others state call spares) fun _ _ => trivial).safe

theorem allowsProvisioning_of_others (fsc : FileSystemClaim) :
    AllowsProvisioning C (fun _ => True) fsc where
  reads := admitsReads_of_others others
  reports := allowsReports_of_patch (admitsReads_of_others others)
    fun state _ _ _ _ _ => ⟨others state _ rfl, trivial⟩
  confirms := allowsReports_owning (admitsReads_of_others others)
    fun state _ _ _ _ _ => ⟨others state _ rfl, trivial⟩
  createsFilesystem := fun _ => safe_of_others others rfl
  patchesFilesystem := fun _ _ => safe_of_others others rfl
  createsStorageClass := safe_of_others others rfl
  patchesStorageClass := fun _ _ => safe_of_others others rfl

theorem safe_addFinalizer_of_others (fsc : FileSystemClaim) :
    Safe C (fun _ => True) (patchFSCSpec fsc addFinalizer) := by
  refine safe_patchFSCSpec (admitsReads_of_others others) fun state cur _ _ =>
    ⟨others state _ ?_, trivial⟩
  have added : (addFinalizer cur).metadata.finalizers.contains
      fileSystemClaimFinalizer = true := by
    unfold addFinalizer
    split
    next present => simpa [hasFinalizer, List.contains_iff_exists_mem_beq] using present
    next => simp
  simp only [SparesTeardown, tearsDown, dropsOwnFinalizer, added, Bool.not_true,
    Bool.and_false]

/-- A pass is guarded when its teardown is and everything else is. -/
theorem ensures_reconcile_of_teardown
    {r : FileSystemClaimReconciler}
    {key : NamespacedName}
    (teardown : ∀ fsc, cluster.claim? key = some fsc → isDeleting fsc = true →
      hasFinalizer fsc = true → GuardsTeardown C cluster fsc) :
    Ensures C (reconcile r key) (fun _ _ => True) cluster := by
  have admits := admitsReads_of_others others
  refine ensures_reconcile admits (fun _ => trivial) (fun fsc found => ?_)
    (fun _ _ _ _ => trivial)
  have stored : cluster.claim? fsc.key = some fsc := by
    rw [show fsc.key = key from (Registry.find?_eq_some found).2]
    exact found
  by_cases leaving : isDeleting fsc = true ∧ hasFinalizer fsc = true
  · have reports : AdmitsReports C fsc := fun state original modified => others state _ rfl
    exact ensures_reconcileClaim_of_teardown leaving.1
      (ensures_handleDeletion admits reports.guards stored leaving.1 leaving.2
        (teardown fsc found leaving.1 leaving.2))
  · have reports : ∀ {reports}, AllowsReports C (fun _ => True) fsc reports :=
      allowsReports_of_patch admits fun state _ _ _ _ _ => ⟨others state _ rfl, trivial⟩
    have safe : Safe C (fun _ => True) (reconcileClaim r fsc) :=
      safe_reconcileClaim (fun _ => safe_addFinalizer_of_others others fsc)
        (fun deleting present => absurd ⟨deleting, present⟩ leaving)
        (safe_ensureLocalDisks (readsSafely_of_admits admits) reports reports reports
          fun _ _ _ => safe_of_others others rfl)
        (allowsProvisioning_of_others others fsc)
    exact (safe cluster trivial).mono fun _ _ _ => trivial

end Others

end FusionAccess
