import FusionAccess.Controller.Deletion
import FusionAccess.Controller.Provisioning

/-!
# The reconcile pass

`Reconcile` reads the claim, sees to finalizers and deletion, and then works
through the provisioning steps until one of them writes something.
-/

namespace FusionAccess

open Kubernetes Interaction

/-- The configuration of `FileSystemClaimReconciler`. -/
structure FileSystemClaimReconciler where
  requeueDelay : Nat := 0

/-- The result of a pass. -/
structure Result where
  requeueAfter : Nat := 0
  deriving DecidableEq

/-- The provisioning steps of `Reconcile` up to the StorageClass; whether one
of them wrote something. -/
def provision (fsc : FileSystemClaim) : Act Bool := do
  let localDisks ← ensureLocalDisks fsc
  if localDisks then return true
  else do
    let localDiskConditions ← syncLocalDiskConditions fsc
    if localDiskConditions then return true
    else do
      let fileSystem ← ensureFileSystem fsc
      if fileSystem then return true
      else do
        let filesystemConditions ← syncFilesystemConditions fsc
        if filesystemConditions then return true
        else ensureStorageClass fsc

/-- `Reconcile` once the claim is read. -/
def reconcileClaim
    (r : FileSystemClaimReconciler) (fsc : FileSystemClaim) : Act Result := do
  let finalizers ← handleFinalizers fsc
  if finalizers then return ⟨r.requeueDelay⟩
  else do
    let deletion ← handleDeletion fsc
    if deletion.requeueAfter > 0 then return ⟨deletion.requeueAfter⟩
    else if deletion.changed then return ⟨r.requeueDelay⟩
    else do
      let provisioned ← provision fsc
      if provisioned then return ⟨r.requeueDelay⟩
      else do
        let ready ← syncFSCReady fsc
        if ready then return ⟨r.requeueDelay⟩
        else return {}

/-- `Reconcile`. -/
def reconcile (r : FileSystemClaimReconciler) (req : NamespacedName) :
    Act Result := do
  match ← (request (.getClaim req)).attempt with
  | .error err => if err.reason = .notFound then return {} else throw err
  | .ok fsc => reconcileClaim r fsc

end FusionAccess
