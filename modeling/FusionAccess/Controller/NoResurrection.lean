import FusionAccess.Controller.Passes

/-!
# Deletion and provisioning

A claim that is being deleted is not provisioned again as long as it carries
the finalizer of the operator: the teardown then always ends the pass. Once
that finalizer is gone and another one keeps the claim, the teardown has
nothing to do and the pass goes on to provision.
-/

namespace FusionAccess

open Kubernetes Interaction Fallible

/-- The call creates or changes a LocalDisk, a Filesystem or a StorageClass. -/
def provisions : Call → Bool
  | .create _ _ | .update _ _ | .patchSpec _ _ _ | .createStorageClass _
  | .patchStorageClass _ | .updateStorageClass _ => true
  | _ => false

theorem coversReports_not_provisions (fsc : FileSystemClaim) :
    CoversReports (fun call => provisions call = false) fsc where
  reads := by
    intro call reads
    cases call <;> simp_all [Call.isRead, provisions]
  reports := fun _ _ => rfl

theorem safe_not_provisions {call : Call} (spares : provisions call = false) :
    Safe (onlyCalls fun call => provisions call = false) (fun _ => True)
      (request call) :=
  (safe_call spares).safe

theorem allowsTeardown_not_provisions (fsc : FileSystemClaim) :
    AllowsTeardown (onlyCalls fun call => provisions call = false)
      (fun _ => True) fsc where
  reads := readsSafely_of_admits (coversReports_not_provisions fsc).admitsReads
  reports := (coversReports_not_provisions fsc).allowsReports _
  deletesStorageClass := safe_not_provisions rfl
  deletes := fun _ _ => safe_not_provisions rfl
  dropsFinalizer := (coversReports_not_provisions fsc).patchesFinalizers fun _ => rfl

/-- The pass creates and changes nothing while its claim is being deleted. -/
def SparesWhileDeleting
    (r : FileSystemClaimReconciler) (pass : Pass apiServer NamespacedName) : Prop :=
  ∀ fsc ∈ pass.start.claim? pass.index, isDeleting fsc = true →
    ∀ event ∈ passLog r pass, provisions event.request = false

/-- In every run in which no pass starts on a deleted claim without the
operator's finalizer, deleted claims are not provisioned. -/
theorem no_resurrection
    (r : FileSystemClaimReconciler)
    (environment : Cluster → Cluster → Prop)
    (initial : Cluster) :
    Throughout (reconciler r) environment initial RetainsFinalizer
      (SparesWhileDeleting r) := by
  refine throughout (fun _ => True) trivial (fun _ _ _ _ => trivial)
    (fun _ _ _ => trivial) ?_
  intro pass retains _ fsc stored deleting
  refine issued_of_safe (coversReports_not_provisions fsc).reads fun other same => ?_
  rw [Option.mem_def, same] at stored
  cases stored
  exact safe_reconcileClaim_of_teardown deleting (safe_handleDeletion deleting
    (retains fsc same deleting) (allowsTeardown_not_provisions fsc))

/-- The first pass after the deletion of a provisioned claim has the
finalizer and spares the children. -/
theorem no_resurrection_deleted_claim :
    SparesWhileDeleting {} ⟨readyKey, calm, readyCluster.deleteClaim readyKey⟩ := by
  have deleted : Run (S := apiServer) (reconciler {}) undisturbed
    (readyCluster.deleteClaim readyKey) [] (readyCluster.deleteClaim readyKey) :=
    .start
  refine no_resurrection {} undisturbed _ _ _ (deleted.pass readyKey calm) ?_ _
    (List.mem_singleton_self _)
  rw [List.nil_append, List.forall_mem_singleton]
  unfold RetainsFinalizer
  decide

/-! ## A claim that is provisioned again -/

/-- A new claim for a disk of the only storage node; a finalizer of another
controller is set on it. -/
def heldClaim : Cluster where
  claims := [{
    metadata := {
      name := "fs", ns := "ibm-spectrum-scale", finalizers := ["example.com/hold"] }
    devices := ["/dev/sdb"] }]
  nodes := [⟨"node", [(workerNodeRoleLabel, ""),
    (scaleStorageRoleLabel, scaleStorageRoleValue)]⟩]
  discoveryResults := [⟨{ name := "discovery-result-node", ns := "operator" },
    [⟨"/dev/sdb", "uuid.1"⟩]⟩]
  deploymentNamespace := some "operator"

/-- The key of that claim. -/
def heldKey : NamespacedName := ⟨"ibm-spectrum-scale", "fs"⟩

/-- The claim gets its finalizer and is validated, its user deletes it, the
teardown finds nothing to delete and takes the finalizer off, and the next pass
creates a LocalDisk. -/
theorem resurrection :
    ¬ Throughout (reconciler {}) deletesClaims heldClaim (fun _ => True)
      (SparesWhileDeleting {}) := by
  intro throughout
  have new : Run (S := apiServer) (reconciler {}) deletesClaims heldClaim []
    heldClaim := .start
  have validated := (new.pass heldKey calm).pass heldKey calm
  have tornDown := ((validated.move ⟨heldKey, rfl⟩).pass heldKey calm).pass
    heldKey calm
  have spares := throughout _ _ (tornDown.pass heldKey calm) (fun _ _ => trivial)
    _ (List.mem_append_right _ (List.mem_singleton_self _))
  revert spares
  unfold SparesWhileDeleting
  decide

end FusionAccess
