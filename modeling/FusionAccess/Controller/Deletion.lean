import FusionAccess.Controller.Helpers

/-!
# Finalizers and teardown

The deletion of a claim: mark it, hold it back while volumes are in use or the
data is not released, and delete StorageClass, Filesystem and LocalDisks one
after another before the finalizer goes. The delay returned by a step is
positive when the pass ends in waiting.
-/

namespace FusionAccess

open Kubernetes Interaction

/-- `ContainsFinalizer` for the operator's finalizer. -/
def hasFinalizer (fsc : FileSystemClaim) : Bool :=
  fsc.metadata.finalizers.any (· = fileSystemClaimFinalizer)

/-- `AddFinalizer` for the operator's finalizer. -/
def addFinalizer (fsc : FileSystemClaim) : FileSystemClaim :=
  if hasFinalizer fsc then fsc
  else { fsc with metadata := { fsc.metadata with
    finalizers := fsc.metadata.finalizers ++ [fileSystemClaimFinalizer] } }

/-- `RemoveFinalizer` for the operator's finalizer. -/
def dropFinalizer (fsc : FileSystemClaim) : FileSystemClaim :=
  { fsc with metadata := { fsc.metadata with
    finalizers := fsc.metadata.finalizers.filter (· ≠ fileSystemClaimFinalizer) } }

/-- The claim is being deleted. -/
def isDeleting (fsc : FileSystemClaim) : Bool :=
  fsc.metadata.deletionTimestamp.isSome

/-- `handleFinalizers`. -/
def handleFinalizers (fsc : FileSystemClaim) : Act Bool :=
  if isDeleting fsc then return false
  else if !hasFinalizer fsc then do
    patchFSCSpec fsc addFinalizer
    return true
  else return false

/-- `calculateDeletionBackoff`, in seconds: it grows with the time since the
condition was last written with this reason. -/
def calculateDeletionBackoff
    (fsc : FileSystemClaim) (reason : Reason) (now : Nat) : Nat :=
  match findStatusCondition fsc.conditions .deletionBlocked with
  | none => 30
  | some condition =>
      if condition.reason ≠ reason then 30
      else
        let elapsed : Int := now - condition.lastTransitionTime
        if elapsed < 30 then 30
        else if elapsed < 60 then 60
        else if elapsed < 180 then 120
        else if elapsed < 420 then 240
        else if elapsed < 900 then 480
        else 600

/-- The volume blocks the deletion of the StorageClass. -/
def blocksDeletion (scName : String) (pv : PersistentVolume) : Bool :=
  pv.storageClassName = scName && pv.deletionTimestamp.isNone &&
    (pv.phase = .bound || pv.phase = .released)

/-- A blocking volume in a message. -/
def offendingPV (pv : PersistentVolume) : String :=
  if pv.phase = .bound then s!"pv{pv.name} (BOUND)" else s!"pv{pv.name} (RELEASED)"

/-- The message about blocking volumes, of which five are shown. -/
def offendingMessage (offending : List String) : String :=
  "blocked because of the following PVs: " ++
    ", ".intercalate
      (if offending.length > 5 then
        offending.take 5 ++ [s!"... and {offending.length - 5} more"]
      else offending)

/-- `isStorageClassInUse`: the message about blocking volumes, if there are
any. -/
def isStorageClassInUse (fsc : FileSystemClaim) : Act (Option String) := do
  match ← (request .listPersistentVolumes).attempt with
  | .error err => if err.reason = .notFound then return none else throw err
  | .ok pvs =>
      let offending :=
        (pvs.filter (blocksDeletion fsc.metadata.name)).map offendingPV
      if offending.length > 0 then return some (offendingMessage offending)
      else return none

/-- `markDeletionRequested`. -/
def markDeletionRequested (fsc : FileSystemClaim) : Act Bool :=
  if !hasConditionWithReason fsc.conditions .ready .deletionRequested then
    updateConditionIfChanged fsc .ready .isFalse .deletionRequested
      ("FileSystemClaim deletion was requested, proceeding with cleanup in this order: " ++
        "StorageClass, Filesystem, LocalDisk")
  else return false

/-- What a step of the teardown returns: a delay, and whether it wrote. -/
structure Verdict where
  requeueAfter : Nat := 0
  changed : Bool := false
  deriving DecidableEq

/-- The verdict ends the pass. -/
def Verdict.stops (verdict : Verdict) : Bool :=
  verdict.requeueAfter > 0 || verdict.changed

/-- Block the deletion for a reason and compute when to try again. -/
def blockDeletion
    (fsc : FileSystemClaim) (reason : Reason) (message : String) :
    Act Verdict := do
  let changed ← updateConditionIfChanged fsc .deletionBlocked .isTrue reason message
  let now ← request .now
  return ⟨calculateDeletionBackoff fsc reason now, changed⟩

/-- `checkStorageClassUsage`. -/
def checkStorageClassUsage (fsc : FileSystemClaim) : Act Verdict :=
  if !isConditionTrue fsc .storageClassCreated then return {}
  else do
    match ← isStorageClassInUse fsc with
    | some who => blockDeletion fsc .storageClassInUse who
    | none => return {}

/-- The message that asks for the deletion label. -/
def deletionLabelMessage (fs : Unstructured) : String :=
  "WARNING: Deleting the filesystem resource will result in loss of data. " ++
    s!"To confirm this action, please label the filesystem ({fs.metadata.name}) with scale.spectrum.ibm.com/allowDelete and try again."

/-- `checkFilesystemDeletionLabel`. -/
def checkFilesystemDeletionLabel (fsc : FileSystemClaim) : Act Verdict :=
  if !isConditionTrue fsc .fileSystemCreated then return {}
  else do
    let fsList ← listOwnedResources fsc .filesystem
    match fsList with
    | [] => return {}
    | [fs] =>
        if (fs.metadata.labels.get? fileSystemDeletionLabel).isNone then
          blockDeletion fsc .fileSystemLabelNotPresent (deletionLabelMessage fs)
        else return {}
    | _ => throw (errorf s!"multiple Filesystems found for FSC {fsc.metadata.name}")

/-- `deleteStorageClass`. -/
def deleteStorageClass (fsc : FileSystemClaim) : Act Bool :=
  if !isConditionTrue fsc .storageClassCreated then return false
  else do
    match ← (request (.getStorageClass fsc.metadata.name)).attempt with
    | .ok sc => do
        request (.deleteStorageClass sc.name)
        return true
    | .error err =>
        if err.reason ≠ .notFound then throw err
        else
          updateConditionIfChanged fsc .storageClassCreated .isFalse
            .storageClassDeleted
            "StorageClass deleted, proceeding with Filesystem deletion"

/-- `deleteFilesystem`. -/
def deleteFilesystem (fsc : FileSystemClaim) : Act Verdict :=
  if !isConditionTrue fsc .fileSystemCreated then return {}
  else do
    let fsList ← listOwnedResources fsc .filesystem
    match fsList with
    | fs :: _ => do
        request (.delete .filesystem fs.key)
        return ⟨45, true⟩
    | [] => do
        let changed ← updateConditionIfChanged fsc .fileSystemCreated .isFalse
          .filesystemDeleted "Filesystem deleted, proceeding with LocalDisk deletion"
        return ⟨0, changed⟩

/-- Delete the given LocalDisks one after another. -/
def deleteEach : List Unstructured → Act Unit
  | [] => return ()
  | ld :: lds => do
      request (.delete .localDisk ld.key)
      deleteEach lds

/-- `deleteLocalDisks`. -/
def deleteLocalDisks (fsc : FileSystemClaim) : Act Verdict :=
  if !isConditionTrue fsc .localDiskCreated then return {}
  else do
    let ldList ← listOwnedResources fsc .localDisk
    if ldList.length > 0 then do
      deleteEach ldList
      return ⟨30, true⟩
    else do
      let changed ← updateConditionIfChanged fsc .localDiskCreated .isFalse
        .localDiskDeleted "LocalDisks deleted, proceeding with finalizer removal"
      return ⟨0, changed⟩

/-- `removeFinalizer`. -/
def removeFinalizer (fsc : FileSystemClaim) : Act Bool := do
  patchFSCSpec fsc dropFinalizer
  return true

/-- `handleDeletion`. -/
def handleDeletion (fsc : FileSystemClaim) : Act Verdict :=
  if !isDeleting fsc then return {}
  else if !hasFinalizer fsc then return {}
  else do
    let marked ← markDeletionRequested fsc
    if marked then return ⟨0, marked⟩
    else do
      let usage ← checkStorageClassUsage fsc
      if usage.stops then return usage
      else do
        let label ← checkFilesystemDeletionLabel fsc
        if label.stops then return label
        else do
          let storageClass ← deleteStorageClass fsc
          if storageClass then return ⟨0, storageClass⟩
          else do
            let filesystem ← deleteFilesystem fsc
            if filesystem.stops then return filesystem
            else do
              let localDisks ← deleteLocalDisks fsc
              if localDisks.stops then return localDisks
              else do
                let changed ← removeFinalizer fsc
                return ⟨0, changed⟩

end FusionAccess
