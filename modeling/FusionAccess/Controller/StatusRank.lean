import FusionAccess.Controller.Stalls
import FusionAccess.Controller.TeardownContracts
import FusionAccess.Interaction.Ranking
import Mathlib.Data.Prod.Lex

/-!
# A rank of what is left to be done for a claim

The steps of a pass come in a fixed order, and each of them is done when its
object exists or its condition is recorded. The rank counts what is not done
yet, earlier steps first, so that a step may set later ones back.
-/

namespace FusionAccess

open Kubernetes Interaction Fallible

/-! ## What is left to be done -/

/-- The claim is being deleted and still has the operator's finalizer. -/
def isTornDown (fsc : FileSystemClaim) : Bool :=
  isDeleting fsc && hasFinalizer fsc

/-- The names of LocalDisks for the devices of a claim, on one node after the
other. -/
def candidateNames (cluster : Cluster) (fsc : FileSystemClaim) : List String :=
  (storageNodes cluster).flatMap fun nodeName =>
    fsc.devices.filterMap fun devicePath => localDiskName? cluster devicePath nodeName

/-- How many of these name no LocalDisk. -/
def missingLocalDisks (cluster : Cluster) (fsc : FileSystemClaim) : Nat :=
  (candidateNames cluster fsc).countP fun name =>
    (cluster.object? .localDisk ⟨fsc.metadata.ns, name⟩).isNone

/-- The condition of the Filesystem is not recorded as wanted. -/
def pendingFilesystemCondition (cluster : Cluster) (fsc : FileSystemClaim) : Bool :=
  !keepsCondition fsc .fileSystemCreated
    (filesystemCondition (ownedBy cluster fsc .filesystem)).1
    (filesystemCondition (ownedBy cluster fsc .filesystem)).2.1
    (filesystemCondition (ownedBy cluster fsc .filesystem)).2.2

/-- What is left to be done once the LocalDisks are created, one binary digit
for each step; the first step has the most significant digit, which stands
last. -/
def pendingSteps (cluster : Cluster) (fsc : FileSystemClaim) : Nat :=
  binary [
    !keepsReady fsc,
    !keepsStorageClassCondition fsc "StorageClass present",
    (cluster.storageClass? fsc.metadata.name).isNone,
    pendingFilesystemCondition cluster fsc,
    (ownedBy cluster fsc .filesystem).isEmpty,
    !keepsLocalDiskCondition cluster fsc (ownFilesystems cluster fsc)]

/-- The block of the deletion is not recorded. -/
def pendingBlock (cluster : Cluster) (fsc : FileSystemClaim) : Bool :=
  (wantedBlock cluster fsc).any fun block =>
    !keepsCondition fsc .deletionBlocked .isTrue block.1 block.2

/-- A deletion that is remembered as not done, and not recorded as done. -/
def pendingDeletion
    (fsc : FileSystemClaim) (conditionType : ConditionType) (reason : Reason)
    (message : String) : Bool :=
  isConditionTrue fsc conditionType &&
    !keepsCondition fsc conditionType .isFalse reason message

/-- What is left to be recorded in the teardown, in the same way. -/
def pendingTeardown (cluster : Cluster) (fsc : FileSystemClaim) : Nat :=
  binary [
    pendingBlock cluster fsc,
    pendingDeletion fsc .localDiskCreated .localDiskDeleted
      "LocalDisks deleted, proceeding with finalizer removal",
    pendingDeletion fsc .fileSystemCreated .filesystemDeleted
      "Filesystem deleted, proceeding with LocalDisk deletion",
    pendingDeletion fsc .storageClassCreated .storageClassDeleted
      "StorageClass deleted, proceeding with Filesystem deletion",
    !hasConditionWithReason fsc.conditions .ready .deletionRequested]

/-- The claim records that its devices are valid. -/
def recordsValidation (fsc : FileSystemClaim) : Bool :=
  (findStatusCondition fsc.conditions .deviceValidated).any fun condition =>
    condition.status = .isTrue

/-- The rank of a claim: a teardown comes first, then the validation of the
devices, then the LocalDisks that are missing, then all other steps. -/
def claimRank (cluster : Cluster) (fsc : FileSystemClaim) : Nat ×ₗ Nat ×ₗ Nat :=
  if isTornDown fsc then toLex (3, toLex (0, pendingTeardown cluster fsc))
  else toLex (1 + (!recordsValidation fsc).toNat,
    toLex (missingLocalDisks cluster fsc, pendingSteps cluster fsc))

/-- The rank of the claim that is stored under a key. -/
def rank (key : NamespacedName) (cluster : Cluster) : Nat ×ₗ Nat ×ₗ Nat :=
  match cluster.claim? key with
  | some fsc => claimRank cluster fsc
  | none => toLex (0, toLex (0, 0))

/-! ## Reading conditions after a report -/

section Reports

variable {fsc patched : FileSystemClaim} {conditionType other : ConditionType}
  {status : ConditionStatus} {reason : Reason} {message : String} {now : Nat}

theorem any_upsert_of_ne
    {α κ : Type} [DecidableEq κ] {key : α → κ} {holds : α → Bool} {record : α}
    (elsewhere : ∀ entry, key entry = key record → holds entry = false)
    (records : List α) :
    (Registry.upsert key record records).any holds = records.any holds := by
  induction records with
  | nil => simp [Registry.upsert, elsewhere record rfl]
  | cons head tail inductionHypothesis =>
      rw [Registry.upsert]
      by_cases replaced : key head = key record
      · rw [if_pos replaced]
        simp [elsewhere record rfl, elsewhere head replaced]
      · rw [if_neg replaced, List.any_cons, List.any_cons, inductionHypothesis]

/-- A report leaves conditions of other types alone. -/
theorem isConditionTrue_of_reported
    (reported : patched.conditions =
      (withCondition conditionType status reason message now fsc).conditions)
    (different : other ≠ conditionType) :
    isConditionTrue patched other = isConditionTrue fsc other := by
  unfold isConditionTrue
  rw [reported]
  refine any_upsert_of_ne (fun entry same => ?_) fsc.conditions
  have foreign : entry.type ≠ other := fun equal => different (equal.symm.trans same)
  simp [foreign]

theorem findStatusCondition_of_reported
    (reported : patched.conditions =
      (withCondition conditionType status reason message now fsc).conditions)
    (different : other ≠ conditionType) :
    findStatusCondition patched.conditions other =
      findStatusCondition fsc.conditions other := by
  rw [reported, findStatusCondition_withCondition, if_neg different.symm]

theorem keepsCondition_of_reported
    {status' : ConditionStatus} {reason' : Reason} {message' : String}
    (reported : patched.conditions =
      (withCondition conditionType status reason message now fsc).conditions)
    (different : other ≠ conditionType) :
    keepsCondition patched other status' reason' message' =
      keepsCondition fsc other status' reason' message' := by
  unfold keepsCondition alreadyRecorded hasConditionWithReason
  rw [findStatusCondition_of_reported reported different]

theorem recordsValidation_of_reported
    (reported : patched.conditions =
      (withCondition conditionType status reason message now fsc).conditions)
    (different : conditionType ≠ .deviceValidated) :
    recordsValidation patched = recordsValidation fsc := by
  rw [recordsValidation, findStatusCondition_of_reported reported different.symm,
    recordsValidation]

/-- Validated devices are recorded. -/
theorem recordsValidation_reported
    (reported : patched.conditions = (withCondition .deviceValidated .isTrue reason
      message now fsc).conditions) :
    recordsValidation patched = true := by
  rw [recordsValidation, reported, findStatusCondition_withCondition, if_pos rfl]
  rfl

theorem recordsValidation_of_invalid
    (invalid : isConditionTrue fsc .deviceValidated = false) :
    recordsValidation fsc = false := by
  unfold isConditionTrue at invalid
  rw [List.any_eq_false] at invalid
  rw [recordsValidation]
  cases found : findStatusCondition fsc.conditions .deviceValidated with
  | none => rfl
  | some condition =>
      have listed := Registry.find?_eq_some found
      simpa [listed.2] using invalid condition listed.1

/-- What has been reported is kept. -/
theorem keepsCondition_reported
    (reported : patched.conditions =
      (withCondition conditionType status reason message now fsc).conditions) :
    keepsCondition patched conditionType status reason message = true := by
  unfold keepsCondition alreadyRecorded
  rw [reported, findStatusCondition_withCondition, if_pos rfl]
  simp

/-- A report that is not kept changes the conditions. -/
theorem conditions_ne_of_changes
    (changes : keepsCondition fsc conditionType status reason message = false) :
    fsc.conditions ≠
      (withCondition conditionType status reason message now fsc).conditions := by
  intro same
  rw [keepsCondition_reported same] at changes
  cases changes

end Reports

/-! ## A claim after a report -/

/-- A claim after a patch of its conditions, in a cluster that is otherwise the
same. -/
structure Patched
    (cluster later : Cluster) (fsc patched : FileSystemClaim) : Prop where
  stored : later.claim? fsc.key = some patched
  key : patched.key = fsc.key
  devices : patched.devices = fsc.devices
  tornDown : isTornDown patched = isTornDown fsc
  objects : ∀ kind, later.objects kind = cluster.objects kind
  storageClasses : later.storageClasses = cluster.storageClasses
  surroundings : Cluster.SameSurroundings cluster later

theorem exists_patched
    {cluster : Cluster} {fsc cur : FileSystemClaim} {modified : List Condition}
    (stored : cluster.claim? fsc.key = some cur)
    (different : cur.conditions ≠ modified) :
    ∃ patched, Patched cluster
        (cluster.afterCall (.patchClaimStatus fsc.key cur.conditions modified))
        cur patched ∧ patched.conditions = modified := by
  have key : cur.key = fsc.key := (Registry.find?_eq_some stored).2
  refine ⟨{ cur with metadata := cluster.stamp cur.metadata, conditions := modified },
    ⟨?_, rfl, rfl, rfl, fun kind => cluster.objects_afterCall (by simp [Call.part?]),
      cluster.storageClasses_afterCall (by simp [Call.part?]),
      cluster.sameSurroundings_afterCall _⟩, rfl⟩
  rw [key]
  exact Cluster.claim?_patchClaimStatus_of_different stored different

section Patched

variable {cluster later : Cluster} {fsc patched : FileSystemClaim}

theorem Patched.name (after : Patched cluster later fsc patched) :
    patched.metadata.name = fsc.metadata.name :=
  congrArg NamespacedName.name after.key

theorem Patched.ns (after : Patched cluster later fsc patched) :
    patched.metadata.ns = fsc.metadata.ns :=
  congrArg NamespacedName.ns after.key

theorem Patched.ownedBy (after : Patched cluster later fsc patched) (kind : Kind) :
    ownedBy later patched kind = ownedBy cluster fsc kind := by
  rw [ownedBy_of_key_eq after.key, FusionAccess.ownedBy, after.objects kind,
    FusionAccess.ownedBy]

theorem Patched.ownFilesystems (after : Patched cluster later fsc patched) :
    ownFilesystems later patched = ownFilesystems cluster fsc := by
  rw [FusionAccess.ownFilesystems, after.ownedBy, FusionAccess.ownFilesystems]

theorem Patched.storageClass? (after : Patched cluster later fsc patched) :
    later.storageClass? patched.metadata.name =
      cluster.storageClass? fsc.metadata.name := by
  rw [Cluster.storageClass?, after.name, after.storageClasses, Cluster.storageClass?]

theorem candidateNames_of_same
    (devices : patched.devices = fsc.devices)
    (surroundings : Cluster.SameSurroundings cluster later) :
    candidateNames later patched = candidateNames cluster fsc := by
  simp only [candidateNames, storageNodes, surroundings.nodes, devices,
    localDiskName?_of_sameSurroundings surroundings]

/-- The number of missing LocalDisks depends on devices, discovery results and
stored LocalDisks only. -/
theorem missingLocalDisks_of_same
    (ns : patched.metadata.ns = fsc.metadata.ns)
    (devices : patched.devices = fsc.devices)
    (objects : later.objects .localDisk = cluster.objects .localDisk)
    (surroundings : Cluster.SameSurroundings cluster later) :
    missingLocalDisks later patched = missingLocalDisks cluster fsc := by
  simp only [missingLocalDisks, candidateNames_of_same devices surroundings,
    Cluster.object?, objects, ns]

theorem Patched.missingLocalDisks (after : Patched cluster later fsc patched) :
    missingLocalDisks later patched = missingLocalDisks cluster fsc :=
  missingLocalDisks_of_same after.ns after.devices (after.objects _) after.surroundings

/-! ## What the conditions of children depend on -/

/-- Which names may use a LocalDisk matters, and not their order. -/
theorem keepsLocalDiskCondition_of_users
    {users others : List String}
    (same : ∀ name, name ∈ fsc.metadata.name :: users ↔
      name ∈ fsc.metadata.name :: others) :
    keepsLocalDiskCondition cluster fsc users =
      keepsLocalDiskCondition cluster fsc others := by
  have required : ∀ resource conditions, checkRequiredCondition resource conditions
      (fsc.metadata.name :: users) =
        checkRequiredCondition resource conditions (fsc.metadata.name :: others) := by
    intro resource conditions
    funext conditionType
    cases conditionType <;> simp only [checkRequiredCondition, same]
  have checked : checkAllResourcesHealthy (ownedBy cluster fsc .localDisk)
      localDiskRequirements (fsc.metadata.name :: users) =
        checkAllResourcesHealthy (ownedBy cluster fsc .localDisk)
          localDiskRequirements (fsc.metadata.name :: others) := by
    simp only [checkAllResourcesHealthy, checkResourceHealthy, required]
  have wanted : wantedLocalDiskCondition cluster fsc users =
      wantedLocalDiskCondition cluster fsc others := by
    simp only [wantedLocalDiskCondition, localDiskCondition, checked]
  rw [keepsLocalDiskCondition, wanted, keepsLocalDiskCondition]

/-- The Filesystem of the claim may use the LocalDisks before it is created. -/
theorem keepsLocalDiskCondition_of_filesystem
    {object : Unstructured}
    (none : ownedBy cluster fsc .filesystem = [])
    (some : ownedBy later fsc .filesystem = [object])
    (named : object.metadata.name = fsc.metadata.name)
    (localDisks : later.objects .localDisk = cluster.objects .localDisk) :
    keepsLocalDiskCondition later fsc (ownFilesystems later fsc) =
      keepsLocalDiskCondition cluster fsc (ownFilesystems cluster fsc) := by
  have owned : ownedBy later fsc .localDisk = ownedBy cluster fsc .localDisk := by
    rw [ownedBy, localDisks, ownedBy]
  have users : keepsLocalDiskCondition cluster fsc (ownFilesystems later fsc) =
      keepsLocalDiskCondition cluster fsc (ownFilesystems cluster fsc) := by
    refine keepsLocalDiskCondition_of_users fun name => ?_
    simp [ownFilesystems, none, some, named]
  rw [← users]
  simp only [keepsLocalDiskCondition, wantedLocalDiskCondition, owned]

/-- A patch of the spec leaves alone by what objects are known and judged. -/
theorem exists_ownedBy_patchSpec
    (cluster : Cluster) (fsc : FileSystemClaim) (kind : Kind) (key : NamespacedName)
    (spec : Value) :
    ∃ change : Unstructured → Unstructured,
      (∀ object, (change object).metadata.name = object.metadata.name ∧
        (change object).conditions = object.conditions ∧
          (change object).filesystem = object.filesystem) ∧
      ownedBy (cluster.afterCall (.patchSpec kind key spec)) fsc kind =
        (ownedBy cluster fsc kind).map change := by
  cases found : cluster.object? kind key with
  | none =>
      refine ⟨id, fun object => ⟨rfl, rfl, rfl⟩, ?_⟩
      simp only [Cluster.afterCall, Cluster.answer, Cluster.patchSpec, found, List.map_id]
  | some object =>
      refine ⟨fun stored => if stored.key = key then { stored with
          metadata := cluster.stamp stored.metadata, spec := some spec } else stored,
        fun object => ?_, ?_⟩
      · dsimp only
        split <;> exact ⟨rfl, rfl, rfl⟩
      · exact ownedBy_patchSpec found fsc spec

/-- What is wanted of a Filesystem does not depend on its spec. -/
theorem filesystemCondition_map
    {change : Unstructured → Unstructured}
    (keeps : ∀ object, (change object).metadata.name = object.metadata.name ∧
      (change object).conditions = object.conditions ∧
        (change object).filesystem = object.filesystem)
    (owned : List Unstructured) :
    filesystemCondition (owned.map change) = filesystemCondition owned := by
  have required : ∀ object conditions,
      checkRequiredCondition (change object) conditions [] =
        checkRequiredCondition object conditions [] := by
    intro object conditions
    funext conditionType
    cases conditionType <;> simp only [checkRequiredCondition, (keeps object).2.2]
  have checked : checkAllResourcesHealthy (owned.map change) filesystemRequirements [] =
      checkAllResourcesHealthy owned filesystemRequirements [] := by
    rw [checkAllResourcesHealthy, List.findSome?_map]
    simp only [checkAllResourcesHealthy, checkResourceHealthy, Function.comp_def, required,
      (keeps _).1, (keeps _).2.1]
  simp only [filesystemCondition, List.length_map, checked]

/-- All but the StorageClass is the same to the steps of a claim. -/
structure SameSteps (cluster later : Cluster) (fsc : FileSystemClaim) : Prop where
  missing : missingLocalDisks later fsc = missingLocalDisks cluster fsc
  localDisks : keepsLocalDiskCondition later fsc (ownFilesystems later fsc) =
    keepsLocalDiskCondition cluster fsc (ownFilesystems cluster fsc)
  filesystems : ownedBy later fsc .filesystem = ownedBy cluster fsc .filesystem
  condition : pendingFilesystemCondition later fsc = pendingFilesystemCondition cluster fsc

theorem sameSteps_afterCall
    {call : Call}
    (fsc : FileSystemClaim)
    (elsewhere : ∀ kind, call.part? ≠ some (.objects kind)) :
    SameSteps cluster (cluster.afterCall call) fsc := by
  have owned : ∀ kind, ownedBy (cluster.afterCall call) fsc kind =
      ownedBy cluster fsc kind := fun kind => ownedBy_afterCall (elsewhere kind) fsc
  refine ⟨missingLocalDisks_of_same rfl rfl (cluster.objects_afterCall (elsewhere _))
    (cluster.sameSurroundings_afterCall call), ?_, owned _, ?_⟩
  · simp only [keepsLocalDiskCondition, wantedLocalDiskCondition, ownFilesystems, owned]
  · simp only [pendingFilesystemCondition, owned]

/-! ## What lowers the rank -/

section Standing

variable (standing : isTornDown fsc = false) (standingLater : isTornDown patched = false)

include standing standingLater

/-- Lower ranks of the later steps make a lower rank of the claim. -/
theorem claimRank_lt_of_steps
    (validated : recordsValidation patched = recordsValidation fsc)
    (localDisks : missingLocalDisks later patched = missingLocalDisks cluster fsc)
    (falls : pendingSteps later patched < pendingSteps cluster fsc) :
    claimRank later patched < claimRank cluster fsc := by
  rw [claimRank, standingLater, claimRank, standing, validated, localDisks]
  simp only [Bool.false_eq_true, if_false]
  exact Prod.Lex.toLex_lt_toLex.mpr (Or.inr ⟨rfl,
    Prod.Lex.toLex_lt_toLex.mpr (Or.inr ⟨rfl, falls⟩)⟩)

/-- Fewer missing LocalDisks make a lower rank. -/
theorem claimRank_lt_of_localDisks
    (validated : recordsValidation patched = recordsValidation fsc)
    (falls : missingLocalDisks later patched < missingLocalDisks cluster fsc) :
    claimRank later patched < claimRank cluster fsc := by
  rw [claimRank, standingLater, claimRank, standing, validated]
  simp only [Bool.false_eq_true, if_false]
  exact Prod.Lex.toLex_lt_toLex.mpr (Or.inr ⟨rfl,
    Prod.Lex.toLex_lt_toLex.mpr (Or.inl falls)⟩)

/-- The validation of the devices makes a lower rank. -/
theorem claimRank_lt_of_validation
    (invalid : recordsValidation fsc = false)
    (validated : recordsValidation patched = true) :
    claimRank later patched < claimRank cluster fsc := by
  rw [claimRank, standingLater, claimRank, standing, validated, invalid]
  simp only [Bool.false_eq_true, if_false]
  exact Prod.Lex.toLex_lt_toLex.mpr (Or.inl (by simp))

end Standing

/-- A claim that is provisioned ranks below every claim that is torn down. -/
theorem claimRank_lt_of_standing
    (tornDown : isTornDown fsc = true)
    (standing : isTornDown patched = false) :
    claimRank later patched < claimRank cluster fsc := by
  rw [claimRank, standing, claimRank, tornDown]
  simp only [Bool.false_eq_true, if_false, if_true]
  refine Prod.Lex.toLex_lt_toLex.mpr (Or.inl ?_)
  cases recordsValidation patched <;> simp

theorem claimRank_lt_of_teardown
    (tornDown : isTornDown fsc = true)
    (tornDownLater : isTornDown patched = true)
    (falls : pendingTeardown later patched < pendingTeardown cluster fsc) :
    claimRank later patched < claimRank cluster fsc := by
  rw [claimRank, tornDownLater, claimRank, tornDown]
  simp only [if_true]
  exact Prod.Lex.toLex_lt_toLex.mpr (Or.inr ⟨rfl,
    Prod.Lex.toLex_lt_toLex.mpr (Or.inr ⟨rfl, falls⟩)⟩)

/-- The Filesystem has been created. -/
theorem pendingSteps_lt_of_filesystem_created
    (localDisks : keepsLocalDiskCondition later patched (ownFilesystems later patched) =
      keepsLocalDiskCondition cluster fsc (ownFilesystems cluster fsc))
    (none : ownedBy cluster fsc .filesystem = [])
    (some : ownedBy later patched .filesystem ≠ []) :
    pendingSteps later patched < pendingSteps cluster fsc := by
  rw [pendingSteps, pendingSteps, localDisks, none, List.isEmpty_eq_false_iff.mpr some]
  exact @binary_falls [_, _, _, _] [_, _, _, _] (by rfl) [_]

/-- The StorageClass has been created. -/
theorem pendingSteps_lt_of_storageClass_created
    (localDisks : keepsLocalDiskCondition later patched (ownFilesystems later patched) =
      keepsLocalDiskCondition cluster fsc (ownFilesystems cluster fsc))
    (filesystems : ownedBy later patched .filesystem = ownedBy cluster fsc .filesystem)
    (condition : pendingFilesystemCondition later patched =
      pendingFilesystemCondition cluster fsc)
    (none : (cluster.storageClass? fsc.metadata.name).isNone = true)
    (some : (later.storageClass? patched.metadata.name).isNone = false) :
    pendingSteps later patched < pendingSteps cluster fsc := by
  rw [pendingSteps, pendingSteps, localDisks, filesystems, condition, none, some]
  exact @binary_falls [_, _] [_, _] (by rfl) [_, _, _]

/-! ## Reports of the provisioning -/

section Provisioning

variable {conditionType : ConditionType} {status : ConditionStatus} {reason : Reason}
  {message : String} {now : Nat}

theorem Patched.wantedLocalDiskCondition
    (after : Patched cluster later fsc patched) (users : List String) :
    wantedLocalDiskCondition later patched users =
      wantedLocalDiskCondition cluster fsc users := by
  rw [FusionAccess.wantedLocalDiskCondition, after.ownedBy, after.name,
    FusionAccess.wantedLocalDiskCondition]

/-- A claim with the same conditions has the same rank. -/
theorem Patched.claimRank
    (after : Patched cluster later fsc patched)
    (same : patched.conditions = fsc.conditions) :
    claimRank later patched = claimRank cluster fsc := by
  have keeps : ∀ conditionType status reason message,
      keepsCondition patched conditionType status reason message =
        keepsCondition fsc conditionType status reason message := by
    intro conditionType status reason message
    rw [keepsCondition, same, keepsCondition]
  have isTrue : ∀ conditionType, isConditionTrue patched conditionType =
      isConditionTrue fsc conditionType := by
    intro conditionType
    rw [isConditionTrue, same, isConditionTrue]
  have classes : later.storageClass? fsc.metadata.name =
      cluster.storageClass? fsc.metadata.name := after.name ▸ after.storageClass?
  have now : readyNow patched = readyNow fsc := by simp only [readyNow, isTrue]
  have ready : keepsReady patched = keepsReady fsc := by
    rw [keepsReady, now, keeps, keeps, keepsReady]
  have steps : pendingSteps later patched = pendingSteps cluster fsc := by
    simp only [pendingSteps, ready, keepsStorageClassCondition,
      FusionAccess.pendingFilesystemCondition, FusionAccess.keepsLocalDiskCondition,
      after.wantedLocalDiskCondition, after.ownFilesystems, after.ownedBy, after.name,
      classes, keeps, isTrue]
  have teardown : pendingTeardown later patched = pendingTeardown cluster fsc := by
    simp only [pendingTeardown, pendingBlock, pendingDeletion, wantedBlock, after.ownedBy,
      after.name, after.surroundings.persistentVolumes, keeps, isTrue, same]
  rw [FusionAccess.claimRank, after.tornDown, recordsValidation, same,
    after.missingLocalDisks, steps, teardown, FusionAccess.claimRank, recordsValidation]

theorem Patched.keepsLocalDiskCondition
    (after : Patched cluster later fsc patched)
    (reported : patched.conditions =
      (withCondition conditionType status reason message now fsc).conditions)
    (notValidation : conditionType ≠ .deviceValidated)
    (notLocalDisks : conditionType ≠ .localDiskCreated) :
    keepsLocalDiskCondition later patched (FusionAccess.ownFilesystems later patched) =
      keepsLocalDiskCondition cluster fsc
        (FusionAccess.ownFilesystems cluster fsc) := by
  rw [FusionAccess.keepsLocalDiskCondition, after.ownedBy, after.ownFilesystems,
    after.wantedLocalDiskCondition, isConditionTrue_of_reported reported notValidation.symm,
    keepsCondition_of_reported reported notLocalDisks.symm,
    FusionAccess.keepsLocalDiskCondition]

theorem Patched.pendingFilesystemCondition
    (after : Patched cluster later fsc patched)
    (reported : patched.conditions =
      (withCondition conditionType status reason message now fsc).conditions)
    (notFilesystem : conditionType ≠ .fileSystemCreated) :
    pendingFilesystemCondition later patched =
      pendingFilesystemCondition cluster fsc := by
  rw [FusionAccess.pendingFilesystemCondition, after.ownedBy,
    keepsCondition_of_reported reported notFilesystem.symm,
    FusionAccess.pendingFilesystemCondition]

/-- The report of the LocalDisks lowers the rank. -/
theorem pendingSteps_lt_of_localDisks
    (after : Patched cluster later fsc patched)
    (reported : patched.conditions = (withCondition .localDiskCreated
      (wantedLocalDiskCondition cluster fsc (ownFilesystems cluster fsc)).1
      (wantedLocalDiskCondition cluster fsc (ownFilesystems cluster fsc)).2.1
      (wantedLocalDiskCondition cluster fsc (ownFilesystems cluster fsc)).2.2
      now fsc).conditions)
    (changes : keepsLocalDiskCondition cluster fsc (ownFilesystems cluster fsc) =
      false) :
    pendingSteps later patched < pendingSteps cluster fsc := by
  have kept : FusionAccess.keepsLocalDiskCondition later patched
      (ownFilesystems later patched) = true := by
    rw [FusionAccess.keepsLocalDiskCondition, after.ownFilesystems,
      after.wantedLocalDiskCondition, keepsCondition_reported reported, Bool.or_true]
  rw [pendingSteps, kept, pendingSteps, changes]
  simp only [Bool.not_true, Bool.not_false]
  exact @binary_falls [_, _, _, _, _] [_, _, _, _, _] (by rfl) []

/-- So does that of the Filesystem. -/
theorem pendingSteps_lt_of_filesystem
    (after : Patched cluster later fsc patched)
    (reported : patched.conditions = (withCondition .fileSystemCreated
      (filesystemCondition (ownedBy cluster fsc .filesystem)).1
      (filesystemCondition (ownedBy cluster fsc .filesystem)).2.1
      (filesystemCondition (ownedBy cluster fsc .filesystem)).2.2
      now fsc).conditions)
    (changes : pendingFilesystemCondition cluster fsc = true) :
    pendingSteps later patched < pendingSteps cluster fsc := by
  have kept : FusionAccess.pendingFilesystemCondition later patched = false := by
    rw [FusionAccess.pendingFilesystemCondition, after.ownedBy,
      keepsCondition_reported reported]
    rfl
  rw [pendingSteps, kept, after.ownedBy,
    after.keepsLocalDiskCondition reported (by simp) (by simp), pendingSteps, changes]
  exact @binary_falls [_, _, _] [_, _, _] (by rfl) [_, _]

/-- So does that of the StorageClass. -/
theorem pendingSteps_lt_of_storageClass
    (after : Patched cluster later fsc patched)
    (reported : patched.conditions = (withCondition .storageClassCreated .isTrue
      .storageClassCreationSucceeded "StorageClass present" now fsc).conditions)
    (changes : keepsStorageClassCondition fsc "StorageClass present" = false) :
    pendingSteps later patched < pendingSteps cluster fsc := by
  have kept : keepsStorageClassCondition patched "StorageClass present" = true :=
    keepsCondition_reported reported
  rw [pendingSteps, kept, after.ownedBy, after.storageClass?,
    after.keepsLocalDiskCondition reported (by simp) (by simp),
    after.pendingFilesystemCondition reported (by simp), pendingSteps, changes]
  simp only [Bool.not_true, Bool.not_false]
  exact @binary_falls [_] [_] (by rfl) [_, _, _, _]

/-- So does that of `Ready`. -/
theorem pendingSteps_lt_of_ready
    (after : Patched cluster later fsc patched)
    (reported : patched.conditions =
      (withCondition .ready status reason message now fsc).conditions)
    (kept : keepsReady patched = true)
    (changes : keepsReady fsc = false) :
    pendingSteps later patched < pendingSteps cluster fsc := by
  have storageClass : keepsStorageClassCondition patched "StorageClass present" =
      keepsStorageClassCondition fsc "StorageClass present" :=
    keepsCondition_of_reported reported (by simp)
  rw [pendingSteps, kept, storageClass, after.ownedBy, after.storageClass?,
    after.keepsLocalDiskCondition reported (by simp) (by simp),
    after.pendingFilesystemCondition reported (by simp), pendingSteps, changes]
  simp only [Bool.not_true, Bool.not_false]
  exact @binary_falls [] [] (by rfl) [_, _, _, _, _]

end Provisioning

/-! ## Reports of the teardown -/

section Teardown

variable {conditionType : ConditionType} {status : ConditionStatus} {reason : Reason}
  {message : String} {now : Nat}

theorem pendingDeletion_of_reported
    {other : ConditionType}
    (reported : patched.conditions =
      (withCondition conditionType status reason message now fsc).conditions)
    (different : other ≠ conditionType)
    (otherReason : Reason) (otherMessage : String) :
    pendingDeletion patched other otherReason otherMessage =
      pendingDeletion fsc other otherReason otherMessage := by
  rw [pendingDeletion, isConditionTrue_of_reported reported different,
    keepsCondition_of_reported reported different, pendingDeletion]

/-- A deletion that is recorded as done is pending no more. -/
theorem pendingDeletion_reported
    (reported : patched.conditions =
      (withCondition conditionType .isFalse reason message now fsc).conditions) :
    pendingDeletion patched conditionType reason message = false := by
  rw [pendingDeletion, keepsCondition_reported reported, Bool.not_true, Bool.and_false]

theorem marked_of_reported
    (reported : patched.conditions =
      (withCondition conditionType status reason message now fsc).conditions)
    (notReady : conditionType ≠ .ready) :
    hasConditionWithReason patched.conditions .ready .deletionRequested =
      hasConditionWithReason fsc.conditions .ready .deletionRequested := by
  rw [hasConditionWithReason, findStatusCondition_of_reported reported notReady.symm,
    hasConditionWithReason]

/-- The mark of the deletion lowers the rank. -/
theorem pendingTeardown_lt_of_mark
    (reported : patched.conditions = (withCondition .ready .isFalse .deletionRequested
      message now fsc).conditions)
    (unmarked : hasConditionWithReason fsc.conditions .ready .deletionRequested = false) :
    pendingTeardown later patched < pendingTeardown cluster fsc := by
  have marked := hasConditionWithReason_of_keepsCondition
    (keepsCondition_reported reported)
  rw [pendingTeardown, pendingTeardown, marked, unmarked]
  exact @binary_falls [_, _, _, _] [_, _, _, _] (by rfl) []

/-- So does the report of a StorageClass that is deleted. -/
theorem pendingTeardown_lt_of_storageClass
    (reported : patched.conditions = (withCondition .storageClassCreated .isFalse
      .storageClassDeleted "StorageClass deleted, proceeding with Filesystem deletion"
      now fsc).conditions)
    (pending : pendingDeletion fsc .storageClassCreated .storageClassDeleted
      "StorageClass deleted, proceeding with Filesystem deletion" = true) :
    pendingTeardown later patched < pendingTeardown cluster fsc := by
  rw [pendingTeardown, pendingTeardown, marked_of_reported reported (by simp),
    pendingDeletion_reported reported, pending]
  exact @binary_falls [_, _, _] [_, _, _] (by rfl) [_]

/-- So does that of a Filesystem. -/
theorem pendingTeardown_lt_of_filesystem
    (reported : patched.conditions = (withCondition .fileSystemCreated .isFalse
      .filesystemDeleted "Filesystem deleted, proceeding with LocalDisk deletion"
      now fsc).conditions)
    (pending : pendingDeletion fsc .fileSystemCreated .filesystemDeleted
      "Filesystem deleted, proceeding with LocalDisk deletion" = true) :
    pendingTeardown later patched < pendingTeardown cluster fsc := by
  rw [pendingTeardown, pendingTeardown, marked_of_reported reported (by simp),
    pendingDeletion_of_reported reported
      (show ConditionType.storageClassCreated ≠ .fileSystemCreated by simp),
    pendingDeletion_reported reported, pending]
  exact @binary_falls [_, _] [_, _] (by rfl) [_, _]

/-- So does that of the LocalDisks. -/
theorem pendingTeardown_lt_of_localDisks
    (reported : patched.conditions = (withCondition .localDiskCreated .isFalse
      .localDiskDeleted "LocalDisks deleted, proceeding with finalizer removal"
      now fsc).conditions)
    (pending : pendingDeletion fsc .localDiskCreated .localDiskDeleted
      "LocalDisks deleted, proceeding with finalizer removal" = true) :
    pendingTeardown later patched < pendingTeardown cluster fsc := by
  rw [pendingTeardown, pendingTeardown, marked_of_reported reported (by simp),
    pendingDeletion_of_reported reported
      (show ConditionType.storageClassCreated ≠ .localDiskCreated by simp),
    pendingDeletion_of_reported reported
      (show ConditionType.fileSystemCreated ≠ .localDiskCreated by simp),
    pendingDeletion_reported reported, pending]
  exact @binary_falls [_] [_] (by rfl) [_, _, _]

/-- So does the report of what blocks the deletion. -/
theorem pendingTeardown_lt_of_block
    {block : Reason × String}
    (after : Patched cluster later fsc patched)
    (reported : patched.conditions = (withCondition .deletionBlocked .isTrue block.1
      block.2 now fsc).conditions)
    (blocked : wantedBlock cluster fsc = some block)
    (changes : keepsCondition fsc .deletionBlocked .isTrue block.1 block.2 = false) :
    pendingTeardown later patched < pendingTeardown cluster fsc := by
  have classed : ConditionType.storageClassCreated ≠ .deletionBlocked := by simp
  have filed : ConditionType.fileSystemCreated ≠ .deletionBlocked := by simp
  have disked : ConditionType.localDiskCreated ≠ .deletionBlocked := by simp
  have wanted : wantedBlock later patched = some block := by
    rw [← blocked]
    simp only [wantedBlock, after.ownedBy, after.name,
      after.surroundings.persistentVolumes, isConditionTrue_of_reported reported classed,
      isConditionTrue_of_reported reported filed]
  have kept : pendingBlock later patched = false := by
    rw [pendingBlock, wanted, Option.any_some, keepsCondition_reported reported]
    rfl
  have pending : pendingBlock cluster fsc = true := by
    rw [pendingBlock, blocked, Option.any_some, changes]
    rfl
  rw [pendingTeardown, pendingTeardown, marked_of_reported reported (by simp), kept, pending,
    pendingDeletion_of_reported reported classed, pendingDeletion_of_reported reported filed,
    pendingDeletion_of_reported reported disked]
  exact @binary_falls [] [] (by rfl) [_, _, _, _]

end Teardown

end Patched

end FusionAccess
