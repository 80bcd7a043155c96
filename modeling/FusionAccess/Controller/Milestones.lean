import FusionAccess.Controller.FallingPasses
import FusionAccess.Controller.Recovery
import FusionAccess.Interaction.Progress

/-!
# The milestones of a claim

What the controller has to see to, in the order in which the steps of a pass come to
it: the finalizer, the validation of the devices, LocalDisks, Filesystem and
StorageClass with the conditions that record them, and `Ready`. A pass takes the
claim past the first milestone that it has not reached yet; how it then stands with
the later ones does not matter.
-/

namespace FusionAccess

open Kubernetes Interaction Fallible

/-! ## Milestones -/

/-- All children of the claim are healthy. -/
def childrenHealthy (cluster : Cluster) (fsc : FileSystemClaim) : Bool :=
  !unhealthyLocalDisk cluster fsc && !unhealthyFilesystem cluster fsc

/-- The LocalDisks are healthy, and the claim records it. -/
def localDisksDone (cluster : Cluster) (fsc : FileSystemClaim) : Bool :=
  !unhealthyLocalDisk cluster fsc &&
    keepsLocalDiskCondition cluster fsc (ownFilesystems cluster fsc)

/-- All Filesystems of the claim are for its LocalDisks. -/
def filesystemsMatch (cluster : Cluster) (fsc : FileSystemClaim) : Bool :=
  (ownedBy cluster fsc .filesystem).all fun fs =>
    fs.spec = some (wantedFilesystemSpec cluster fsc)

/-- The Filesystem is healthy, and the claim records it. -/
def filesystemDone (cluster : Cluster) (fsc : FileSystemClaim) : Bool :=
  !unhealthyFilesystem cluster fsc && !pendingFilesystemCondition cluster fsc

/-- The StorageClass is there and as it should be. -/
def storageClassMatches (cluster : Cluster) (fsc : FileSystemClaim) : Bool :=
  (cluster.storageClass? fsc.metadata.name).any fun current =>
    sameRelevantFields current (wantedStorageClass fsc)

/-- Which milestones a claim has reached. -/
def milestones (cluster : Cluster) (fsc : FileSystemClaim) : List Bool := [
  hasFinalizer fsc,
  isConditionTrue fsc .deviceValidated,
  !(ownedBy cluster fsc .localDisk).isEmpty,
  localDisksDone cluster fsc,
  !(ownedBy cluster fsc .filesystem).isEmpty,
  filesystemsMatch cluster fsc,
  filesystemDone cluster fsc,
  storageClassMatches cluster fsc,
  keepsStorageClassCondition fsc "StorageClass present",
  keepsReady fsc]

/-- How far a claim has to go. -/
def distance (cluster : Cluster) (fsc : FileSystemClaim) : Nat :=
  stepsLeft (milestones cluster fsc)

theorem distance_le (cluster : Cluster) (fsc : FileSystemClaim) :
    distance cluster fsc ≤ 10 :=
  stepsLeft_le _

/-- The claim comes no further from its end, and nearer to it when its children are
healthy and it is not there yet. -/
abbrev Nears (cluster later : Cluster) (fsc patched : FileSystemClaim) : Prop :=
  Approaches (childrenHealthy cluster fsc = true) (milestones cluster fsc)
    (milestones later patched)

section Milestones

variable {cluster later : Cluster} {fsc patched : FileSystemClaim}

/-- A claim that passes one milestone nears its end if it has reached all earlier
ones. -/
theorem nears_of_milestone
    (index : Nat)
    (same : (milestones later patched).take index = (milestones cluster fsc).take index)
    (pending : (milestones cluster fsc)[index]? = some false)
    (passes : childrenHealthy cluster fsc = true →
      (milestones later patched)[index]? = some true ∧
        ∀ milestone ∈ (milestones cluster fsc).take index, milestone = true) :
    Nears cluster later fsc patched :=
  approaches_of_step index rfl same pending passes

/-- A claim that has reached all milestones stays at its end. -/
theorem nears_of_reached
    (reached : childrenHealthy cluster fsc = true →
      ∀ milestone ∈ milestones cluster fsc, milestone = true) :
    Nears cluster cluster fsc fsc where
  stays := Nat.le_refl _
  falls := fun healthy => Or.inl (stepsLeft_eq_zero.mpr (reached healthy))

end Milestones

/-! ## A claim after a report -/

/-- A claim after a report of the controller, in a cluster that is otherwise the
same. -/
structure Reported
    (conditionType : ConditionType) (status : ConditionStatus) (reason : Reason)
    (message : String) (cluster later : Cluster) (fsc patched : FileSystemClaim) : Prop
    extends Patched cluster later fsc patched where
  finalized : hasFinalizer patched = hasFinalizer fsc
  deleting : isDeleting patched = isDeleting fsc
  conditions : ∃ now, patched.conditions =
    (withCondition conditionType status reason message now fsc).conditions

section Report

variable {conditionType : ConditionType} {status : ConditionStatus} {reason : Reason}
  {message nodeName : String} {start cluster later : Cluster}
  {fsc patched : FileSystemClaim}

/-- When no call fails a report is made. -/
theorem ensures_reportCondition_drawing
    {post : Except Failure Bool → Cluster → Prop}
    (stored : cluster.claim? fsc.key = some fsc)
    (changes : keepsCondition fsc conditionType status reason message = false)
    (reports : ∀ later patched,
      Reported conditionType status reason message cluster later fsc patched →
        post (.ok true) later) :
    Ensures (drawing start nodeName) (reportCondition fsc conditionType status reason
      message) post cluster := by
  have different := @conditions_ne_of_changes fsc conditionType status reason message
    cluster.clock changes
  have after := Cluster.claim?_patchClaimStatus_of_different stored different
  obtain ⟨patched, isPatched, written⟩ := exists_patched stored different
  have same := isPatched.stored
  rw [after] at same
  cases same
  rw [ensures_bind]
  refine ensures_patchFSCStatus admitsReads_drawing stored trivial ?_
    (fun _ _ _ mayFail => absurd ⟨_, _, _, mayFail⟩ not_faulty_drawing)
    fun _ _ _ mayFail => absurd ⟨_, _, _, mayFail⟩ not_faulty_drawing
  exact reports _ _ ⟨isPatched, rfl, rfl, _, written⟩

variable (after : Reported conditionType status reason message cluster later fsc patched)

include after

theorem Reported.isConditionTrue_of_ne
    {other : ConditionType} (different : other ≠ conditionType) :
    isConditionTrue patched other = isConditionTrue fsc other := by
  obtain ⟨now, reported⟩ := after.conditions
  exact isConditionTrue_of_reported reported different

theorem Reported.unhealthyLocalDisk :
    unhealthyLocalDisk later patched = unhealthyLocalDisk cluster fsc := by
  rw [FusionAccess.unhealthyLocalDisk, after.ownedBy, after.name, after.ownFilesystems,
    FusionAccess.unhealthyLocalDisk]

theorem Reported.localDisksDone
    (notValidation : conditionType ≠ .deviceValidated)
    (notLocalDisks : conditionType ≠ .localDiskCreated) :
    localDisksDone later patched = localDisksDone cluster fsc := by
  obtain ⟨now, reported⟩ := after.conditions
  rw [FusionAccess.localDisksDone, after.unhealthyLocalDisk,
    after.keepsLocalDiskCondition reported notValidation notLocalDisks,
    FusionAccess.localDisksDone]

theorem Reported.filesystemsMatch :
    filesystemsMatch later patched = filesystemsMatch cluster fsc := by
  rw [FusionAccess.filesystemsMatch, wantedFilesystemSpec, after.ownedBy, after.ownedBy,
    FusionAccess.filesystemsMatch, wantedFilesystemSpec]

theorem Reported.unhealthyFilesystem :
    unhealthyFilesystem later patched = unhealthyFilesystem cluster fsc := by
  rw [FusionAccess.unhealthyFilesystem, after.ownedBy, FusionAccess.unhealthyFilesystem]

theorem Reported.filesystemDone
    (notFilesystem : conditionType ≠ .fileSystemCreated) :
    filesystemDone later patched = filesystemDone cluster fsc := by
  obtain ⟨now, reported⟩ := after.conditions
  rw [FusionAccess.filesystemDone, after.unhealthyFilesystem,
    after.pendingFilesystemCondition reported notFilesystem, FusionAccess.filesystemDone]

theorem Reported.storageClassMatches :
    storageClassMatches later patched = storageClassMatches cluster fsc := by
  have wanted : wantedStorageClass patched = wantedStorageClass fsc := by
    simp only [wantedStorageClass, buildStorageClass, after.name, after.ns]
  rw [FusionAccess.storageClassMatches, after.storageClass?, wanted,
    FusionAccess.storageClassMatches]

theorem Reported.keepsStorageClassCondition
    (notStorageClass : conditionType ≠ .storageClassCreated) :
    keepsStorageClassCondition patched "StorageClass present" =
      keepsStorageClassCondition fsc "StorageClass present" := by
  obtain ⟨now, reported⟩ := after.conditions
  exact keepsCondition_of_reported reported notStorageClass.symm

theorem Reported.keeps :
    keepsCondition patched conditionType status reason message = true := by
  obtain ⟨now, reported⟩ := after.conditions
  exact keepsCondition_reported reported

end Report

/-- What is reported as true is true. -/
theorem Reported.isTrue
    {conditionType : ConditionType} {reason : Reason} {message : String}
    {cluster later : Cluster} {fsc patched : FileSystemClaim}
    (after : Reported conditionType .isTrue reason message cluster later fsc patched) :
    isConditionTrue patched conditionType = true := by
  obtain ⟨now, reported⟩ := after.conditions
  have found := findStatusCondition_withCondition conditionType .isTrue reason message now
    fsc conditionType
  rw [if_pos rfl, ← reported] at found
  exact List.any_eq_true.mpr ⟨_, (Registry.find?_eq_some found).1, by simp⟩

/-- The first milestone that a report may touch. -/
def milestoneOf : ConditionType → Nat
  | .deviceValidated => 1
  | .localDiskCreated => 3
  | .fileSystemCreated => 6
  | .storageClassCreated => 8
  | _ => 9

/-- A report leaves the milestones before its own as they are. -/
theorem Reported.take_milestones
    {conditionType : ConditionType} {status : ConditionStatus} {reason : Reason}
    {message : String} {cluster later : Cluster} {fsc patched : FileSystemClaim}
    (after : Reported conditionType status reason message cluster later fsc patched) :
    (milestones later patched).take (milestoneOf conditionType) =
      (milestones cluster fsc).take (milestoneOf conditionType) := by
  have finalized := after.finalized
  have classed := after.storageClassMatches
  have validated : conditionType ≠ .deviceValidated → isConditionTrue patched
      .deviceValidated = isConditionTrue fsc .deviceValidated :=
    fun different => after.isConditionTrue_of_ne different.symm
  have disked := after.localDisksDone
  have filed := after.filesystemDone
  have recorded := after.keepsStorageClassCondition
  cases conditionType <;>
    simp_all [milestones, milestoneOf, after.ownedBy, after.filesystemsMatch]

theorem Reported.take_milestones_of_le
    {conditionType : ConditionType} {status : ConditionStatus} {reason : Reason}
    {message : String} {cluster later : Cluster} {fsc patched : FileSystemClaim}
    {count : Nat}
    (after : Reported conditionType status reason message cluster later fsc patched)
    (earlier : count ≤ milestoneOf conditionType) :
    (milestones later patched).take count = (milestones cluster fsc).take count := by
  have same := congrArg (List.take count) after.take_milestones
  rwa [List.take_take, List.take_take, Nat.min_eq_left earlier] at same

/-- Who may use a LocalDisk matters for its health, and not in which order. -/
theorem checkResourceHealthy_of_users
    {users others : List String}
    (same : ∀ name, name ∈ users ↔ name ∈ others)
    (resource : Unstructured) (required : List ConditionType) :
    checkResourceHealthy resource required users =
      checkResourceHealthy resource required others := by
  have checked : ∀ conditions, checkRequiredCondition resource conditions users =
      checkRequiredCondition resource conditions others := by
    intro conditions
    funext conditionType
    cases conditionType <;> simp only [checkRequiredCondition, same]
  simp only [checkResourceHealthy, checked]

/-- The Filesystem of the claim may use the LocalDisks before it is created. -/
theorem unhealthyLocalDisk_of_filesystem
    {cluster later : Cluster} {fsc : FileSystemClaim} {object : Unstructured}
    (none : ownedBy cluster fsc .filesystem = [])
    (some : ownedBy later fsc .filesystem = [object])
    (named : object.metadata.name = fsc.metadata.name)
    (localDisks : ownedBy later fsc .localDisk = ownedBy cluster fsc .localDisk) :
    unhealthyLocalDisk later fsc = unhealthyLocalDisk cluster fsc := by
  have users : ∀ name, name ∈ fsc.metadata.name :: ownFilesystems later fsc ↔
      name ∈ fsc.metadata.name :: ownFilesystems cluster fsc := by
    simp [ownFilesystems, none, some, named]
  simp only [unhealthyLocalDisk, localDisks, checkResourceHealthy_of_users users]

/-! ## What a pass has found when it comes to a step -/

section Found

variable {cluster : Cluster} {fsc : FileSystemClaim}

/-- The claim has its finalizer, validated devices and LocalDisks. -/
structure HasLocalDisks (cluster : Cluster) (fsc : FileSystemClaim) : Prop where
  coherent : Coherent fsc.conditions
  finalized : hasFinalizer fsc = true
  validated : isConditionTrue fsc .deviceValidated = true
  some : ownedBy cluster fsc .localDisk ≠ []

/-- The pass has come past the condition of the LocalDisks. -/
structure KeepsLocalDisks (cluster : Cluster) (fsc : FileSystemClaim) : Prop
    extends HasLocalDisks cluster fsc where
  kept : keepsLocalDiskCondition cluster fsc (ownFilesystems cluster fsc) = true

/-- It has come past the Filesystem. -/
structure HasFilesystem (cluster : Cluster) (fsc : FileSystemClaim) : Prop
    extends KeepsLocalDisks cluster fsc where
  goesOn : filesystemGoesOn cluster fsc = true

/-- It has come past the condition of the Filesystem. -/
structure KeepsFilesystem (cluster : Cluster) (fsc : FileSystemClaim) : Prop
    extends HasFilesystem cluster fsc where
  keptFilesystem : keepsFilesystemCondition cluster fsc = true

/-- It has come past the StorageClass. -/
structure HasStorageClass (cluster : Cluster) (fsc : FileSystemClaim) : Prop
    extends KeepsFilesystem cluster fsc where
  classed : storageClassGoesOn cluster fsc = true

theorem unhealthyLocalDisk_of_healthy (healthy : childrenHealthy cluster fsc = true) :
    unhealthyLocalDisk cluster fsc = false := by
  simp only [childrenHealthy, Bool.and_eq_true, Bool.not_eq_true'] at healthy
  exact healthy.1

theorem unhealthyFilesystem_of_healthy (healthy : childrenHealthy cluster fsc = true) :
    unhealthyFilesystem cluster fsc = false := by
  simp only [childrenHealthy, Bool.and_eq_true, Bool.not_eq_true'] at healthy
  exact healthy.2

/-- Healthy LocalDisks are wanted to be recorded as created. -/
theorem HasLocalDisks.wanted
    (found : HasLocalDisks cluster fsc) (healthy : childrenHealthy cluster fsc = true) :
    (wantedLocalDiskCondition cluster fsc (ownFilesystems cluster fsc)).1 = .isTrue := by
  rw [wantedLocalDiskCondition_isTrue_iff]
  refine ⟨found.some, fun ld member => ?_⟩
  have checked := List.any_eq_false.mp (unhealthyLocalDisk_of_healthy healthy) ld member
  simpa using checked

theorem HasLocalDisks.reached (found : HasLocalDisks cluster fsc) :
    ∀ milestone ∈ (milestones cluster fsc).take 3, milestone = true := by
  simp [milestones, found.finalized, found.validated, found.some]

theorem KeepsLocalDisks.done
    (found : KeepsLocalDisks cluster fsc) (healthy : childrenHealthy cluster fsc = true) :
    localDisksDone cluster fsc = true := by
  rw [localDisksDone, unhealthyLocalDisk_of_healthy healthy, found.kept]
  rfl

theorem KeepsLocalDisks.created
    (found : KeepsLocalDisks cluster fsc) (healthy : childrenHealthy cluster fsc = true) :
    isConditionTrue fsc .localDiskCreated = true := by
  have kept := (keeps_or_unvalidated found.kept).resolve_left fun none =>
    found.some none.1
  rw [found.wanted healthy] at kept
  exact found.coherent.isConditionTrue_of_kept kept

theorem KeepsLocalDisks.reached
    (found : KeepsLocalDisks cluster fsc) (healthy : childrenHealthy cluster fsc = true) :
    ∀ milestone ∈ (milestones cluster fsc).take 4, milestone = true := by
  simp [milestones, found.finalized, found.validated, found.some, found.done healthy]

theorem HasFilesystem.exists_filesystem
    (found : HasFilesystem cluster fsc) (healthy : childrenHealthy cluster fsc = true) :
    ∃ fs, ownedBy cluster fsc .filesystem = [fs] ∧
      fs.spec = some (wantedFilesystemSpec cluster fsc) := by
  have goesOn := found.goesOn
  simp only [filesystemGoesOn, found.created healthy, Bool.not_true,
    List.isEmpty_eq_false_iff.mpr found.some, Bool.false_or] at goesOn
  split at goesOn
  next fs owned => exact ⟨fs, owned, by simpa using goesOn⟩
  next => cases goesOn

theorem HasFilesystem.reached
    (found : HasFilesystem cluster fsc) (healthy : childrenHealthy cluster fsc = true) :
    ∀ milestone ∈ (milestones cluster fsc).take 6, milestone = true := by
  obtain ⟨fs, owned, spec⟩ := found.exists_filesystem healthy
  simp [milestones, found.finalized, found.validated, found.some, found.done healthy,
    owned, filesystemsMatch, spec]

theorem KeepsFilesystem.doneFilesystem
    (found : KeepsFilesystem cluster fsc) (healthy : childrenHealthy cluster fsc = true) :
    filesystemDone cluster fsc = true := by
  have kept : pendingFilesystemCondition cluster fsc = false := by
    simpa [keepsFilesystemCondition, found.created healthy, pendingFilesystemCondition]
      using found.keptFilesystem
  rw [filesystemDone, unhealthyFilesystem_of_healthy healthy, kept]
  rfl

theorem KeepsFilesystem.createdFilesystem
    (found : KeepsFilesystem cluster fsc) (healthy : childrenHealthy cluster fsc = true) :
    isConditionTrue fsc .fileSystemCreated = true := by
  obtain ⟨fs, owned, _⟩ := found.exists_filesystem healthy
  have kept : keepsCondition fsc .fileSystemCreated
      (filesystemCondition (ownedBy cluster fsc .filesystem)).1
      (filesystemCondition (ownedBy cluster fsc .filesystem)).2.1
      (filesystemCondition (ownedBy cluster fsc .filesystem)).2.2 = true := by
    simpa [keepsFilesystemCondition, found.created healthy] using found.keptFilesystem
  have sound : checkAllResourcesHealthy (ownedBy cluster fsc .filesystem)
      filesystemRequirements [] = none := by
    refine checkAllResourcesHealthy_iff.mpr fun resource member => ?_
    have checked := List.any_eq_false.mp (unhealthyFilesystem_of_healthy healthy) resource
      member
    simpa using checked
  rw [filesystemCondition, if_neg (by simp [owned]), sound] at kept
  exact found.coherent.isConditionTrue_of_kept kept

theorem KeepsFilesystem.reached
    (found : KeepsFilesystem cluster fsc) (healthy : childrenHealthy cluster fsc = true) :
    ∀ milestone ∈ (milestones cluster fsc).take 7, milestone = true := by
  have earlier := found.toHasFilesystem.reached healthy
  simp only [milestones, List.take_succ_cons, List.take_zero, List.forall_mem_cons]
    at earlier ⊢
  simp [earlier, found.doneFilesystem healthy]

theorem HasStorageClass.reached
    (found : HasStorageClass cluster fsc) (healthy : childrenHealthy cluster fsc = true) :
    ∀ milestone ∈ (milestones cluster fsc).take 9, milestone = true := by
  have classed := found.classed
  simp only [storageClassGoesOn, found.createdFilesystem healthy, Bool.not_true,
    Bool.false_or, Option.any_eq_true, Bool.and_eq_true] at classed
  obtain ⟨current, stored, same, kept⟩ := classed
  have earlier := found.toKeepsFilesystem.reached healthy
  simp only [milestones, List.take_succ_cons, List.take_zero, List.forall_mem_cons]
    at earlier ⊢
  simp [earlier, storageClassMatches, stored, same, kept]

end Found

end FusionAccess
