import FusionAccess.Controller.TeardownContracts

/-!
# The order of the teardown

The teardown is meant to delete the StorageClass, then the Filesystem, then the
LocalDisks, and to take the finalizer off when nothing is left. Each step
decides from a condition of the claim whether its objects are gone already. The
order holds exactly as long as no step that matters is misled: a condition that
is not true for another reason than a deletion makes its step leave the objects
behind, and the next steps go on.
-/

namespace FusionAccess

open Kubernetes Interaction

/-- A destructive call of the teardown finds everything gone that has to go
before. -/
def Orderly (fsc : FileSystemClaim) (event : Event apiServer) : Prop :=
  match event.request with
  | .delete .filesystem _ =>
      event.before.storageClass? fsc.metadata.name = none
  | .delete .localDisk _ =>
      ownedBy event.before fsc .filesystem = []
  | .patchClaimFinalizers _ original modified =>
      dropsOwnFinalizer original modified = true →
        ownedBy event.before fsc .localDisk = [] ∧
          ownedBy event.before fsc .filesystem = [] ∧
            event.before.storageClass? fsc.metadata.name = none
  | _ => True

instance (fsc : FileSystemClaim) (event : Event apiServer) :
    Decidable (Orderly fsc event) := by
  unfold Orderly
  split <;> infer_instance

/-- All destructive calls of the pass are in order. -/
def TearsDownInOrder
    (r : FileSystemClaimReconciler) (pass : Pass apiServer NamespacedName) : Prop :=
  ∀ fsc ∈ pass.start.claim? pass.index, ∀ event ∈ passLog r pass,
    Orderly fsc event

/-- `deleteStorageClass` takes the StorageClass for deleted although it is
there. -/
def leavesStorageClass (cluster : Cluster) (fsc : FileSystemClaim) : Bool :=
  !isConditionTrue fsc .storageClassCreated &&
    (cluster.storageClass? fsc.metadata.name).isSome

/-- `deleteFilesystem` takes the Filesystem for deleted although there is one. -/
def leavesFilesystem (cluster : Cluster) (fsc : FileSystemClaim) : Bool :=
  !isConditionTrue fsc .fileSystemCreated &&
    !(ownedBy cluster fsc .filesystem).isEmpty

/-- `deleteLocalDisks` takes the LocalDisks for deleted although there are
some. -/
def leavesLocalDisks (cluster : Cluster) (fsc : FileSystemClaim) : Bool :=
  !isConditionTrue fsc .localDiskCreated &&
    !(ownedBy cluster fsc .localDisk).isEmpty

/-- The teardown gets to the Filesystem, to the LocalDisks or to the finalizer
after an earlier step has left something behind that has to go first. -/
def isMisled (cluster : Cluster) (fsc : FileSystemClaim) : Bool :=
  isDeleting fsc && hasFinalizer fsc && isUnblocked cluster fsc &&
    (leavesStorageClass cluster fsc &&
        (isConditionTrue fsc .fileSystemCreated &&
          !(ownedBy cluster fsc .filesystem).isEmpty) ||
      storageClassPasses cluster fsc && leavesFilesystem cluster fsc &&
        (isConditionTrue fsc .localDiskCreated &&
          !(ownedBy cluster fsc .localDisk).isEmpty) ||
      storageClassPasses cluster fsc && filesystemPasses cluster fsc &&
        localDisksPass cluster fsc &&
        (leavesStorageClass cluster fsc || leavesFilesystem cluster fsc ||
          leavesLocalDisks cluster fsc))

/-- A step that passes leaves its objects behind, unless there are none. -/
theorem absent_or_left_of_stepPasses
    {fsc : FileSystemClaim} {conditionType : ConditionType}
    {reason : Reason} {message : String} {present : Bool}
    (passes : stepPasses fsc conditionType reason message present = true) :
    present = false ∨ (!isConditionTrue fsc conditionType && present) = true := by
  cases present with
  | false => exact Or.inl rfl
  | true =>
      rw [stepPasses, Bool.not_true, Bool.false_and, Bool.or_false] at passes
      exact Or.inr (by rw [passes, Bool.true_and])

/-- The contract by which destructive calls are in order. -/
abbrev orderlyTeardown (fsc : FileSystemClaim) : Contract apiServer :=
  Contract.demand fun state call => Orderly fsc ⟨state, call, default⟩

/-- The destructive calls of a claim whose teardown is not misled are in
order. -/
theorem guardsTeardown_orderly
    {cluster : Cluster} {fsc : FileSystemClaim}
    (deleting : isDeleting fsc = true)
    (present : hasFinalizer fsc = true)
    (trusted : isMisled cluster fsc = false) :
    GuardsTeardown (orderlyTeardown fsc) cluster fsc where
  storageClass := fun _ => trivial
  filesystem := by
    intro unblocked storageClassPassed created fs rest owned
    rcases absent_or_left_of_stepPasses storageClassPassed with absent | left
    · simpa [Orderly] using absent
    · simp [isMisled, deleting, present, unblocked, leavesStorageClass, left,
        created, owned] at trusted
  localDisks := by
    intro unblocked storageClassPassed filesystemPassed created state same ld member
    have nonempty : (ownedBy cluster fsc .localDisk).isEmpty = false := by
      cases owned : ownedBy cluster fsc .localDisk with
      | nil => simp [owned] at member
      | cons head tail => rfl
    have sameOwned : ownedBy state fsc .filesystem = ownedBy cluster fsc .filesystem := by
      rw [ownedBy, same.filesystems, ownedBy]
    rcases absent_or_left_of_stepPasses filesystemPassed with absent | left
    · change ownedBy state fsc .filesystem = []
      rw [sameOwned]
      simpa using absent
    · simp [isMisled, deleting, present, unblocked, storageClassPassed,
        leavesFilesystem, left, created, nonempty] at trusted
  finalizer := by
    intro unblocked storageClassPassed filesystemPassed localDisksPassed _
    simp only [isMisled, deleting, present, unblocked, storageClassPassed,
      filesystemPassed, localDisksPassed, Bool.true_and, Bool.or_eq_false_iff]
      at trusted
    refine ⟨?_, ?_, ?_⟩
    · rcases absent_or_left_of_stepPasses localDisksPassed with absent | left
      · simpa using absent
      · simp [leavesLocalDisks, left] at trusted
    · rcases absent_or_left_of_stepPasses filesystemPassed with absent | left
      · simpa using absent
      · simp [leavesFilesystem, left] at trusted
    · rcases absent_or_left_of_stepPasses storageClassPassed with absent | left
      · simpa using absent
      · simp [leavesStorageClass, left] at trusted

theorem orderly_of_sparesTeardown
    {fsc : FileSystemClaim} {event : Event apiServer}
    (spares : SparesTeardown event.request) :
    Orderly fsc event := by
  unfold Orderly
  split
  next same => simp [SparesTeardown, tearsDown, same] at spares
  next same => simp [SparesTeardown, tearsDown, same] at spares
  next same =>
    intro drops
    simp [SparesTeardown, tearsDown, same, drops] at spares
  next => trivial

/-- The claim of the pass does not mislead its teardown. -/
def TrustsConditions (pass : Pass apiServer NamespacedName) : Prop :=
  ∀ fsc ∈ pass.start.claim? pass.index, isMisled pass.start fsc = false

/-- In every run without misled teardowns the destructive calls are in order. -/
theorem teardown_in_order
    (r : FileSystemClaimReconciler)
    (environment : Cluster → Cluster → Prop)
    (initial : Cluster) :
    Throughout (reconciler r) environment initial TrustsConditions
      (TearsDownInOrder r) := by
  refine throughout (fun _ => True) trivial (fun _ _ _ _ => trivial)
    (fun _ _ _ => trivial) ?_
  intro pass trusts _ fsc stored
  have guards : ∀ other, pass.start.claim? pass.index = some other →
      isDeleting other = true → hasFinalizer other = true →
        GuardsTeardown (orderlyTeardown fsc) pass.start other := by
    intro other same deleting present
    rw [Option.mem_def, same] at stored
    cases stored
    exact guardsTeardown_orderly deleting present (trusts fsc same)
  have ensures := ensures_reconcile_of_teardown (r := r)
    (fun _ _ spares => orderly_of_sparesTeardown spares) guards
  exact (passLog_of_ensures ensures fun _ _ => trivial).1

/-- The teardown of a provisioned claim deletes the StorageClass, the Filesystem and the
LocalDisk, and takes the finalizer off. -/
theorem teardown_in_order_finalizer :
    (∀ pass ∈ discardedPasses 8, TearsDownInOrder {} pass) ∧
      ((List.range 9).map fun index =>
        ((discarded index).storageClasses.length, (discarded index).filesystems.length,
          (discarded index).localDisks.length, (discarded index).claims.length)) =
        [(1, 1, 1, 1), (1, 1, 1, 1), (0, 1, 1, 1), (0, 1, 1, 1), (0, 0, 1, 1), (0, 0, 1, 1),
          (0, 0, 0, 1), (0, 0, 0, 1), (0, 0, 0, 0)] := by
  refine ⟨teardown_in_order {} undisturbed _ _ _ (run_discarded 8) ?_, by decide +kernel⟩
  unfold TrustsConditions discardedPasses
  rw [List.forall_mem_map]
  decide +kernel

/-! ## A misled teardown -/

/-- A provisioned claim whose Filesystem has become unhealthy. -/
def unhealthyCluster : Cluster :=
  { readyCluster with
    filesystems := [{ readyFilesystem with
      conditions := some [metCondition .success,
        { metCondition .healthy with status := .isFalse }] }] }

/-- The claim reports the unhealthy Filesystem as not created. After its
deletion the StorageClass goes, the Filesystem is taken for deleted, and the
LocalDisks under it are deleted. -/
theorem misled_teardown :
    ¬ Throughout (reconciler {}) deletesClaims unhealthyCluster (fun _ => True)
      (TearsDownInOrder {}) := by
  intro throughout
  have new : Run (S := apiServer) (reconciler {}) deletesClaims unhealthyCluster []
    unhealthyCluster := .start
  have reported := new.pass readyKey calm
  have marked := (reported.move ⟨readyKey, rfl⟩).pass readyKey calm
  have unclassed := (marked.pass readyKey calm).pass readyKey calm
  have inOrder := throughout _ _ (unclassed.pass readyKey calm)
    (fun _ _ => trivial) _ (List.mem_append_right _ (List.mem_singleton_self _))
  revert inOrder
  unfold TearsDownInOrder
  decide

end FusionAccess
