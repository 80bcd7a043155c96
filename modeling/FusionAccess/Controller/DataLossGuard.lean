import FusionAccess.Controller.TeardownContracts

/-!
# The guard against loss of data

A Filesystem may only be deleted when its user has permitted it by a label and
no volume is in use. The label is checked whenever a Filesystem can be deleted.
The volumes are only looked at while the condition of the StorageClass is true:
a StorageClass whose creation could not be recorded takes the volumes in use
out of sight.
-/

namespace FusionAccess

open Kubernetes Interaction

/-- The claim records that the teardown deleted its StorageClass. -/
def recordsStorageClassDeleted (fsc : FileSystemClaim) : Bool :=
  match findStatusCondition fsc.conditions .storageClassCreated with
  | some condition =>
      condition.status = .isFalse && condition.reason = .storageClassDeleted
  | none => false

/-- Some volume of the claim's StorageClass is in use. -/
def hasVolumesInUse (cluster : Cluster) (fsc : FileSystemClaim) : Bool :=
  cluster.persistentVolumes.any (blocksDeletion fsc.metadata.name)

/-- The Filesystem with the given key may be deleted: it is the only one of the
claim, its deletion is permitted, and no volume is in use unless the deletion
of the StorageClass is on record. -/
def MayDeleteFilesystem
    (cluster : Cluster) (fsc : FileSystemClaim) (key : NamespacedName) : Prop :=
  match ownedBy cluster fsc .filesystem with
  | [fs] =>
      fs.key = key ∧
        (fs.metadata.labels.get? fileSystemDeletionLabel).isSome = true ∧
          (recordsStorageClassDeleted fsc = true ∨
            hasVolumesInUse cluster fsc = false)
  | _ => False

instance (cluster : Cluster) (fsc : FileSystemClaim) (key : NamespacedName) :
    Decidable (MayDeleteFilesystem cluster fsc key) := by
  unfold MayDeleteFilesystem
  split <;> infer_instance

/-- A call that deletes a Filesystem is permitted by what the pass has read. -/
def Permitted (cluster : Cluster) (fsc : FileSystemClaim) : Call → Prop
  | .delete .filesystem key => MayDeleteFilesystem cluster fsc key
  | _ => True

instance (cluster : Cluster) (fsc : FileSystemClaim) (call : Call) :
    Decidable (Permitted cluster fsc call) := by
  unfold Permitted
  split <;> infer_instance

/-- The pass deletes no Filesystem that must be kept. -/
def KeepsData
    (r : FileSystemClaimReconciler) (pass : Pass apiServer NamespacedName) : Prop :=
  ∀ fsc ∈ pass.start.claim? pass.index, ∀ event ∈ passLog r pass,
    Permitted pass.start fsc event.request

/-- Volumes are in use, and the condition of the StorageClass, which is neither
true nor records a deletion, keeps the teardown from looking at them although
it gets to a Filesystem. -/
def overlooksVolumes (cluster : Cluster) (fsc : FileSystemClaim) : Bool :=
  isDeleting fsc && hasFinalizer fsc && isUnblocked cluster fsc &&
    !isConditionTrue fsc .storageClassCreated &&
    !recordsStorageClassDeleted fsc &&
    hasVolumesInUse cluster fsc &&
    isConditionTrue fsc .fileSystemCreated &&
    !(ownedBy cluster fsc .filesystem).isEmpty

theorem permitted_of_sparesTeardown
    {cluster : Cluster} {fsc : FileSystemClaim} {call : Call}
    (spares : SparesTeardown call) :
    Permitted cluster fsc call := by
  unfold Permitted
  split
  next => simp [SparesTeardown, tearsDown] at spares
  next => trivial

/-- A claim that does not make its teardown overlook volumes keeps its data. -/
theorem guardsTeardown_permitted
    {cluster : Cluster} {fsc : FileSystemClaim}
    (deleting : isDeleting fsc = true)
    (present : hasFinalizer fsc = true)
    (seen : overlooksVolumes cluster fsc = false) :
    GuardsTeardown (onlyCalls (Permitted cluster fsc)) cluster fsc where
  storageClass := fun _ => trivial
  localDisks := fun _ _ _ _ _ _ _ _ => trivial
  finalizer := fun _ _ _ _ => trivial
  filesystem := by
    intro unblocked _ created fs rest owned
    have checks := unblocked
    simp only [isUnblocked, created, Bool.not_true, Bool.false_or,
      Bool.and_eq_true, Bool.or_eq_true] at checks
    obtain ⟨⟨_, unused⟩, released⟩ := checks
    rw [owned] at released
    change MayDeleteFilesystem cluster fsc fs.key
    rw [MayDeleteFilesystem, owned]
    cases rest with
    | cons second others => simp [isReleased] at released
    | nil =>
        refine ⟨rfl, released, ?_⟩
        cases classed : isConditionTrue fsc .storageClassCreated with
        | true =>
            -- the check has looked at the volumes
            rw [classed] at unused
            exact Or.inr (by simpa [hasVolumesInUse] using unused)
        | false =>
            simp only [overlooksVolumes, deleting, present, unblocked, classed,
              created, owned, List.isEmpty_cons, Bool.not_false, Bool.true_and,
              Bool.and_true, Bool.and_eq_false_iff, Bool.not_eq_false'] at seen
            exact seen

/-- No claim makes the teardown of the pass overlook volumes. -/
def SeesVolumes (pass : Pass apiServer NamespacedName) : Prop :=
  ∀ fsc ∈ pass.start.claim? pass.index, overlooksVolumes pass.start fsc = false

/-- In every run in which no teardown overlooks volumes, no Filesystem is
deleted that must be kept. -/
theorem data_kept
    (r : FileSystemClaimReconciler)
    (environment : Cluster → Cluster → Prop)
    (initial : Cluster) :
    Throughout (reconciler r) environment initial SeesVolumes (KeepsData r) := by
  refine throughout (fun _ => True) trivial (fun _ _ _ _ => trivial)
    (fun _ _ _ => trivial) ?_
  intro pass sees _ fsc stored
  have guards : ∀ other, pass.start.claim? pass.index = some other →
      isDeleting other = true → hasFinalizer other = true →
        GuardsTeardown (onlyCalls (Permitted pass.start fsc)) pass.start other := by
    intro other same deleting present
    rw [Option.mem_def, same] at stored
    cases stored
    exact guardsTeardown_permitted deleting present (sees fsc same)
  have ensures := ensures_reconcile_of_teardown (r := r)
    (fun _ _ spares => permitted_of_sparesTeardown spares) guards
  exact (passLog_of_ensures ensures fun _ _ => trivial).1

/-- A deleted claim whose Filesystem may go: its StorageClass is deleted and
recorded as such. -/
def releasedCluster : Cluster where
  claims := [{
    metadata := { readyClaim.metadata with deletionTimestamp := some 0 }
    devices := readyClaim.devices
    conditions := [
      { type := .ready, status := .isFalse, reason := .deletionRequested },
      { type := .storageClassCreated, status := .isFalse
        reason := .storageClassDeleted },
      { type := .fileSystemCreated, status := .isTrue
        reason := .fileSystemCreationSucceeded }] }]
  filesystems := [releasedFilesystem]

/-- A Filesystem that may be deleted is deleted. -/
theorem data_kept_released :
    KeepsData {} ⟨readyKey, calm, releasedCluster⟩ := by
  have released : Run (S := apiServer) (reconciler {}) undisturbed
    releasedCluster [] releasedCluster := .start
  refine data_kept {} undisturbed _ _ _ (released.pass readyKey calm) ?_ _
    (List.mem_singleton_self _)
  rw [List.nil_append, List.forall_mem_singleton]
  unfold SeesVolumes
  decide

/-! ## Overlooked volumes -/

/-- Users delete claims and bind volumes. -/
def usersAct (before after : Cluster) : Prop :=
  deletesClaims before after ∨
    ∃ volume, after =
      { before with persistentVolumes := volume :: before.persistentVolumes }

/-- A claim that still lacks its StorageClass. -/
def unclassedCluster : Cluster :=
  { readyCluster with
    claims := [{ readyClaim with
      conditions := readyClaim.conditions.filter fun condition =>
        condition.type ≠ .storageClassCreated && condition.type ≠ .ready }]
    filesystems := [releasedFilesystem]
    storageClasses := [] }

/-- The StorageClass is created, but the status update after it is refused. -/
def failsAfterCreation (index : Nat) : Choice :=
  if index < 9 then {} else { fault := .refused .unspecified "unavailable" }

/-- A volume in use. -/
def boundVolume : PersistentVolume where
  name := "pv"
  storageClassName := "fs"
  phase := .bound

/-- A StorageClass that could not be recorded, a volume bound with it, and the
deletion of the claim: its Filesystem is deleted under the volume. -/
theorem overlooked_volume :
    ¬ Throughout (reconciler {}) usersAct unclassedCluster (fun _ => True)
      (KeepsData {}) := by
  intro throughout
  have new : Run (S := apiServer) (reconciler {}) usersAct unclassedCluster []
    unclassedCluster := .start
  have unrecorded := new.pass readyKey failsAfterCreation
  have used := unrecorded.move (.inr ⟨boundVolume, rfl⟩)
  have marked := (used.move (.inl ⟨readyKey, rfl⟩)).pass readyKey calm
  have keeps := throughout _ _ (marked.pass readyKey calm) (fun _ _ => trivial)
    _ (List.mem_append_right _ (List.mem_singleton_self _))
  revert keeps
  unfold KeepsData
  decide

end FusionAccess
