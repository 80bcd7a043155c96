import FusionAccess.Controller.Helpers
import Mathlib.Data.String.Basic

/-!
# The provisioning steps

The steps that bring a claim's LocalDisks, Filesystem and StorageClass into
being and report on them. Each step returns whether it wrote something, which
ends the pass.
-/

namespace FusionAccess

open Kubernetes Interaction

/-! ## LocalDisks -/

/-- The non-empty device paths of LocalDisks. -/
def ownedDevices (owned : List Unstructured) : Finset String :=
  ((owned.map fun ld => ld.specString "device").filter (· ≠ "")).toFinset

/-- A slice as `%v` prints it. -/
def printSlice (items : List String) : String :=
  "[" ++ " ".intercalate items ++ "]"

/-- The message of a claim whose devices were changed. -/
def immutableMessage (fsc : FileSystemClaim) (owned : List Unstructured) : String :=
  "spec.devices was modified after LocalDisks were created. " ++
    s!"Original: {printSlice ((ownedDevices owned).sort (· ≤ ·))}, Current: {printSlice fsc.devices}. " ++
    s!"Either delete this FileSystemClaim ({fsc.metadata.name}) and create new with desired devices, " ++
    "or create a new FileSystemClaim with UNUSED and AVAILABLE shared devices."

/-- The second phase of `ensureLocalDisks`: get or create one LocalDisk per
device. The flag tells whether an earlier device had one created. -/
def createLocalDisks
    (fsc : FileSystemClaim) (nodeName : String) : List String → Bool → Act Bool
  | [], requeue => return requeue
  | devicePath :: devices, _ => do
      match ← (getDeviceWWN devicePath nodeName).attempt with
      | .error err => do
          handleResourceCreationError fsc .localDisk err
          return true
      | .ok wwn =>
          match generateLocalDiskName wwn with
          | .error err => do
              handleResourceCreationError fsc .localDisk err
              return true
          | .ok localDiskName => do
              match ← (request (.get .localDisk
                  ⟨fsc.metadata.ns, localDiskName⟩)).attempt with
              | .error err =>
                  if err.reason = .notFound then do
                    match ← (createResourceWithOwnership fsc .localDisk
                        localDiskName (localDiskSpec devicePath nodeName)).attempt with
                    | .error err => do
                        handleResourceCreationError fsc .localDisk err
                        return true
                    | .ok _ => do
                        let _ ← updateConditionIfChanged fsc .localDiskCreated
                          .isFalse .localDiskCreationInProgress
                          "LocalDisks created, waiting for them to become ready"
                        createLocalDisks fsc nodeName devices true
                  else throw (err.wrap s!"failed to get LocalDisk {localDiskName}: ")
              | .ok _ =>
                  -- an existing LocalDisk ends the whole loop, not just its turn
                  return false

/-- `ensureLocalDisks`. -/
def ensureLocalDisks (fsc : FileSystemClaim) : Act Bool :=
  if isConditionTrue fsc .localDiskCreated then do
    let owned ← (listOwnedResources fsc .localDisk).mapError
      (Failure.wrap "failed to list owned LocalDisks: ")
    if ownedDevices owned ≠ fsc.devices.toFinset then do
      patchFSCStatus fsc (withCondition .ready .isFalse .immutableFieldModified
        (immutableMessage fsc owned))
      return true
    else return false
  else if hasConditionWithReason fsc.conditions .localDiskCreated
      .localDiskCreationInProgress then
    return false
  else if !isConditionTrue fsc .deviceValidated then do
    match ← (validateDevices fsc).attempt with
    | .error err => do
        handleValidationError fsc err
        return true
    | .ok _ => do
        let _ ← updateConditionIfChanged fsc .deviceValidated .isTrue
          .deviceValidationSucceeded "Device/s validation succeeded"
        return true
  else do
    match ← getRandomStorageNode.attempt with
    | .error selErr => do
        handleResourceCreationError fsc .localDisk selErr
        return true
    | .ok nodeName => createLocalDisks fsc nodeName fsc.devices false

/-- The conditions that a LocalDisk has to meet. -/
def localDiskRequirements : List ConditionType := [.ready, .used]

/-- The conditions that a Filesystem has to meet. -/
def filesystemRequirements : List ConditionType := [.success, .healthy]

/-- Status, reason and message that `syncLocalDiskConditions` wants. -/
def localDiskCondition
    (owned : List Unstructured) (ownedFS : List String) :
    ConditionStatus × Reason × String :=
  match checkAllResourcesHealthy owned localDiskRequirements ownedFS with
  | none => (.isTrue, .localDiskCreationSucceeded,
      s!"All {owned.length} LocalDisks are Ready; if used, they are used by this Filesystem.")
  | some (failingName, failure) =>
      (.isFalse,
        if failure.hardFailure then .localDiskCreationFailed
        else .localDiskCreationInProgress,
        s!"LocalDisk {failingName}: {failure.message}")

/-- `syncLocalDiskConditions`. -/
def syncLocalDiskConditions (fsc : FileSystemClaim) : Act Bool := do
  let owned ← listOwnedResources fsc .localDisk
  if owned.length = 0 then
    if isConditionTrue fsc .deviceValidated then
      updateConditionIfChanged fsc .localDiskCreated .isFalse
        .localDiskCreationInProgress "Waiting for LocalDisk objects to appear"
    else return false
  else do
    let ownedFS ← (listOwnedResources fsc .filesystem).attempt
    let ownedNames := fsc.metadata.name :: match ownedFS with
      | .ok ownedFilesystems => ownedFilesystems.map fun fs => fs.metadata.name
      | .error _ => []
    let desired := localDiskCondition owned ownedNames
    updateConditionIfChanged fsc .localDiskCreated desired.1 desired.2.1 desired.2.2

/-! ## The Filesystem -/

/-- `ensureFileSystem`. -/
def ensureFileSystem (fsc : FileSystemClaim) : Act Bool :=
  if !isConditionTrue fsc .localDiskCreated then return false
  else do
    let ownedLDs ← (listOwnedResources fsc .localDisk).mapError
      (Failure.wrap "list LocalDisks: ")
    let ldNames := ownedLDs.map fun ld => ld.metadata.name
    if ldNames.length = 0 then return false
    else do
      let desiredSpec := buildFilesystemSpec ldNames
      let owned ← (listOwnedResources fsc .filesystem).mapError
        (Failure.wrap "list Filesystems: ")
      match owned with
      | [] => do
          match ← (createResourceWithOwnership fsc .filesystem fsc.metadata.name
              desiredSpec).attempt with
          | .error err => do
              handleResourceCreationError fsc .filesystem err
              return true
          | .ok _ => do
              let _ ← updateConditionIfChanged fsc .fileSystemCreated .isFalse
                .fileSystemCreationInProgress
                "Filesystem created; waiting to become Ready"
              return true
      | [fs] =>
          if fs.spec ≠ some desiredSpec then do
            (request (.patchSpec .filesystem fs.key desiredSpec)).mapError
              (Failure.wrap "patch Filesystem: patch resource: ")
            return true
          else return false
      | _ => do
          handleResourceCreationError fsc .filesystem
            (errorf s!"found {owned.length} Filesystems owned by FSC; expected 1")
          return true

/-- Status, reason and message that `syncFilesystemConditions` wants. -/
def filesystemCondition (owned : List Unstructured) :
    ConditionStatus × Reason × String :=
  if owned.length = 0 then
    (.isFalse, .fileSystemCreationInProgress,
      "Waiting for Filesystem to be created")
  else
    match checkAllResourcesHealthy owned filesystemRequirements [] with
    | none => (.isTrue, .fileSystemCreationSucceeded,
        "Filesystem is Success=True and Healthy=True")
    | some (failingName, failure) =>
        (.isFalse, .fileSystemCreationInProgress,
          s!"Filesystem {failingName} not healthy: {failure.message}")

/-- `syncFilesystemConditions`. -/
def syncFilesystemConditions (fsc : FileSystemClaim) : Act Bool :=
  if !isConditionTrue fsc .localDiskCreated then return false
  else do
    let owned ← (listOwnedResources fsc .filesystem).mapError
      (Failure.wrap "list Filesystems: ")
    let desired := filesystemCondition owned
    updateConditionIfChanged fsc .fileSystemCreated desired.1 desired.2.1 desired.2.2

/-! ## The StorageClass -/

/-- `reconcileExistingStorageClass`: patch a class that has drifted. -/
def reconcileExistingStorageClass (current desired : StorageClass) : Act Bool :=
  if sameRelevantFields current desired then return false
  else do
    (request (.patchStorageClass (withRelevantFields current desired))).mapError
      (Failure.wrap "patch resource: ")
    return true

/-- `ensureStorageClass`. -/
def ensureStorageClass (fsc : FileSystemClaim) : Act Bool :=
  if !isConditionTrue fsc .fileSystemCreated then return false
  else do
    let scName := fsc.metadata.name
    let desired := buildStorageClass fsc scName fsc.metadata.name
    match ← (request (.getStorageClass scName)).attempt with
    | .error err =>
        if err.reason = .notFound then do
          match ← (request (.createStorageClass desired)).attempt with
          | .error err => do
              handleResourceCreationError fsc .storageClass err
              return true
          | .ok _ =>
              updateConditionIfChanged fsc .storageClassCreated .isTrue
                .storageClassCreationSucceeded "StorageClass created"
        else throw (err.wrap s!"get StorageClass \"{scName}\": ")
    | .ok current => do
        let changed ← (reconcileExistingStorageClass current desired).mapError
          (Failure.wrap s!"patch StorageClass \"{scName}\": ")
        let conditionChanged ← updateConditionIfChanged fsc .storageClassCreated
          .isTrue .storageClassCreationSucceeded "StorageClass present"
        return changed || conditionChanged

/-! ## The claim as a whole -/

/-- `syncFSCReady` computes that everything is in place. -/
def readyNow (fsc : FileSystemClaim) : Bool :=
  isConditionTrue fsc .deviceValidated &&
    isConditionTrue fsc .localDiskCreated &&
    isConditionTrue fsc .fileSystemCreated &&
    isConditionTrue fsc .storageClassCreated

/-- `syncFSCReady`. -/
def syncFSCReady (fsc : FileSystemClaim) : Act Bool :=
  if readyNow fsc then
    updateConditionIfChanged fsc .ready .isTrue .provisioningSucceeded
      "All resources created and ready"
  else
    updateConditionIfChanged fsc .ready .isFalse .provisioningInProgress
      "Provisioning in progress"

end FusionAccess
