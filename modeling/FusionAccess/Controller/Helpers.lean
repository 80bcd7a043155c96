import FusionAccess.Kubernetes.Cluster
import Mathlib.Data.Finset.Sort
import Mathlib.Data.Finset.Image
import Mathlib.Data.String.Defs

/-!
# Helpers of the FileSystemClaim controller

Ownership, conditions, status patches, device lookup and the specs of the
created objects, translated function by function from the controller.
-/

namespace FusionAccess

open Kubernetes Interaction

/-- The finalizer of the operator on a claim. -/
def fileSystemClaimFinalizer : String :=
  "fusion.storage.openshift.io/filesystemclaim-finalizer"

/-- `maxKubernetesNameLength`. -/
def maxKubernetesNameLength : Nat := 253

/-- Kind of the claims. -/
def fileSystemClaimKind : String := "FileSystemClaim"

/-- Group and version of the claims. -/
def fileSystemClaimAPIVersion : String := "fusion.storage.openshift.io/v1alpha1"

/-- Label of a node's role in the storage cluster. -/
def scaleStorageRoleLabel : String := "scale.spectrum.ibm.com/role"

/-- Value of that label on a storage node. -/
def scaleStorageRoleValue : String := "storage"

/-- Label of worker nodes. -/
def workerNodeRoleLabel : String := "node-role.kubernetes.io/worker"

/-- Ownership label: name of the claim. -/
def fileSystemClaimOwnedByNameLabel : String :=
  "fusion.storage.openshift.io/owned-by-fsc-name"

/-- Ownership label: namespace of the claim. -/
def fileSystemClaimOwnedByNamespaceLabel : String :=
  "fusion.storage.openshift.io/owned-by-fsc-namespace"

/-- Annotation of the default class for virtual machines. -/
def storageClassDefaultAnnotation : String :=
  "storageclass.kubevirt.io/is-default-virt-class"

/-- Label by which a user permits the deletion of a Filesystem. -/
def fileSystemDeletionLabel : String := "scale.spectrum.ibm.com/allowDelete"

/-! ## Conditions -/

/-- `UpdateCondition`: replace the first condition of the type, or append. -/
def updateCondition
    (now : Nat) (conditions : List Condition) (conditionType : ConditionType)
    (status : ConditionStatus) (reason : Reason) (message : String)
    (generation : Nat) : List Condition :=
  Registry.upsert Condition.type
    { type := conditionType, status, reason, message
      lastTransitionTime := now, observedGeneration := generation }
    conditions

/-- `isConditionTrue`: some condition of the type is true. -/
def isConditionTrue
    (fsc : FileSystemClaim) (conditionType : ConditionType) : Bool :=
  fsc.conditions.any fun condition =>
    condition.type = conditionType && condition.status = .isTrue

/-- `hasConditionWithReason`: the first condition of the type has the reason. -/
def hasConditionWithReason
    (conditions : List Condition) (conditionType : ConditionType)
    (reason : Reason) : Bool :=
  match findStatusCondition conditions conditionType with
  | some condition => condition.reason = reason
  | none => false

/-- The first condition of the type has the given status, reason and message. -/
def alreadyRecorded
    (conditions : List Condition) (conditionType : ConditionType)
    (status : ConditionStatus) (reason : Reason) (message : String) : Bool :=
  match findStatusCondition conditions conditionType with
  | some previous =>
      previous.status = status && previous.reason = reason &&
        previous.message = message
  | none => false

/-! ## Patches of the claim -/

/-- `DefaultRetry.Steps`. -/
def defaultRetrySteps : Nat := 5

/-- `RetryOnConflict`: try again while attempts are left and the error is a
conflict. -/
def retryOnConflict {α : Type} (attempted : Act α) : Nat → Act α
  | 0 => throw (errorf "timed out waiting for the condition")
  | 1 => attempted
  | steps + 2 => do
      match ← attempted.attempt with
      | .ok value => return value
      | .error err =>
          if err.reason = .conflict then retryOnConflict attempted (steps + 1)
          else throw err

/-- `patchFSCStatus`: read the claim afresh, change it, and send the merge
patch between the two versions; the change is given the current time. -/
def patchFSCStatus
    (fsc : FileSystemClaim)
    (mutate : Nat → FileSystemClaim → FileSystemClaim) : Act Unit :=
  retryOnConflict (do
    let cur ← request (.getClaim fsc.key)
    let now ← request .now
    request (.patchClaimStatus fsc.key cur.conditions (mutate now cur).conditions))
    defaultRetrySteps

/-- `patchFSCSpec`: the same for metadata, of which only finalizers change. -/
def patchFSCSpec
    (fsc : FileSystemClaim)
    (mutate : FileSystemClaim → FileSystemClaim) : Act Unit :=
  retryOnConflict (do
    let cur ← request (.getClaim fsc.key)
    request (.patchClaimFinalizers fsc.key cur.metadata.finalizers
      (mutate cur).metadata.finalizers))
    defaultRetrySteps

/-- Set one condition of a claim, as the patches of the controller do. -/
def withCondition
    (conditionType : ConditionType) (status : ConditionStatus)
    (reason : Reason) (message : String) (now : Nat)
    (cur : FileSystemClaim) : FileSystemClaim :=
  { cur with
    conditions := updateCondition now cur.conditions conditionType status reason
      message cur.metadata.generation }

/-- `updateConditionIfChanged`: patch one condition unless the claim read at
the start of the pass already has it, or keeps it from the migration. -/
def updateConditionIfChanged
    (fsc : FileSystemClaim) (conditionType : ConditionType)
    (status : ConditionStatus) (reason : Reason) (message : String) :
    Act Bool :=
  if alreadyRecorded fsc.conditions conditionType status reason message then
    return false
  else if hasConditionWithReason fsc.conditions conditionType .migrationComplete
      && status = .isTrue then
    return false
  else do
    patchFSCStatus fsc (withCondition conditionType status reason message)
    return true

/-- The resources whose creation can fail. -/
inductive ResourceType
  | localDisk
  | filesystem
  | storageClass
  deriving DecidableEq

/-- The name of a resource type in messages. -/
def ResourceType.text : ResourceType → String
  | .localDisk => "LocalDisk"
  | .filesystem => "Filesystem"
  | .storageClass => "StorageClass"

/-- The condition that reports on a resource type. -/
def ResourceType.conditionType : ResourceType → ConditionType
  | .localDisk => .localDiskCreated
  | .filesystem => .fileSystemCreated
  | .storageClass => .storageClassCreated

/-- The reason that reports a failed creation. -/
def ResourceType.failedReason : ResourceType → Reason
  | .localDisk => .localDiskCreationFailed
  | .filesystem => .fileSystemCreationFailed
  | .storageClass => .storageClassCreationFailed

/-- `handleResourceCreationError`: the condition of the resource and `Ready`
turn false in one patch. -/
def handleResourceCreationError
    (fsc : FileSystemClaim) (resourceType : ResourceType) (err : Failure) :
    Act Unit :=
  patchFSCStatus fsc fun now cur =>
    withCondition .ready .isFalse .provisioningFailed
      s!"{resourceType.text} creation failed" now
      (withCondition resourceType.conditionType .isFalse
        resourceType.failedReason err.message now cur)

/-- `handleValidationError`: `Ready` and `DeviceValidated` turn false in one
patch. -/
def handleValidationError (fsc : FileSystemClaim) (err : Failure) : Act Unit :=
  patchFSCStatus fsc fun now cur =>
    withCondition .deviceValidated .isFalse .deviceValidationFailed err.message
      now (withCondition .ready .isFalse .validationFailed err.message now cur)

/-! ## Ownership -/

/-- `isOwnedByThisFSC`: some owner reference names the claim. -/
def isOwnedByThisFSC (object : Unstructured) (fscName : String) : Bool :=
  object.metadata.ownerReferences.any fun reference =>
    reference.kind = fileSystemClaimKind &&
      reference.apiVersion = fileSystemClaimAPIVersion &&
        reference.name = fscName

/-- The objects of a kind that a claim owns, as stored in a cluster. -/
def ownedBy
    (cluster : Cluster) (fsc : FileSystemClaim) (kind : Kind) :
    List Unstructured :=
  ((cluster.objects kind).filter fun object =>
    object.metadata.ns = fsc.metadata.ns).filter fun object =>
      isOwnedByThisFSC object fsc.metadata.name

/-- `listOwnedResources`: list the objects of a kind in the namespace and keep
those that the claim owns. -/
def listOwnedResources (fsc : FileSystemClaim) (kind : Kind) :
    Act (List Unstructured) := do
  let items ← (request (.list kind fsc.metadata.ns)).mapError
    (Failure.wrap s!"list {kind.listKind}: ")
  return items.filter fun item => isOwnedByThisFSC item fsc.metadata.name

/-- The reference by which a claim owns an object. -/
def ownerReference (fsc : FileSystemClaim) : OwnerReference where
  apiVersion := fileSystemClaimAPIVersion
  kind := fileSystemClaimKind
  name := fsc.metadata.name
  uid := fsc.metadata.uid

/-- The group in an API version; `none` when it does not parse. -/
def groupOf (apiVersion : String) : Option (List Char) :=
  match apiVersion.toList.count '/' with
  | 0 => some []
  | 1 => some (apiVersion.toList.takeWhile (· ≠ '/'))
  | _ => none

/-- Two references name the same object: group, kind and name agree. -/
def referSameObject (first second : OwnerReference) : Bool :=
  (groupOf first.apiVersion).isSome &&
    groupOf first.apiVersion = groupOf second.apiVersion &&
    first.kind = second.kind && first.name = second.name

/-- Replace the reference to the same object, or append the reference. -/
def upsertOwnerRef (reference : OwnerReference) :
    List OwnerReference → List OwnerReference
  | [] => [reference]
  | head :: tail =>
      if referSameObject head reference then reference :: tail
      else head :: upsertOwnerRef reference tail

/-- `SetOwnerReference` on the metadata of an object. -/
def setOwnerReference (fsc : FileSystemClaim) (metadata : ObjectMeta) :
    Except Failure ObjectMeta :=
  if fsc.metadata.ns ≠ "" && metadata.ns = "" then
    .error (errorf ("cluster-scoped resource must not have a namespace-scoped owner, " ++
      s!"owner's namespace {fsc.metadata.ns}"))
  else if fsc.metadata.ns ≠ "" && fsc.metadata.ns ≠ metadata.ns then
    .error (errorf ("cross-namespace owner references are disallowed, " ++
      s!"owner's namespace {fsc.metadata.ns}, obj's namespace {metadata.ns}"))
  else
    .ok { metadata with
      ownerReferences :=
        upsertOwnerRef (ownerReference fsc) metadata.ownerReferences }

/-- The ownership labels of a claim set on labels of an object. -/
def ownershipLabels (fsc : FileSystemClaim) (labels : StringMap) : StringMap :=
  (labels.set fileSystemClaimOwnedByNameLabel fsc.metadata.name).set
    fileSystemClaimOwnedByNamespaceLabel fsc.metadata.ns

/-- `createResourceWithOwnership`: create an object of the given name that the
claim owns. -/
def createResourceWithOwnership
    (fsc : FileSystemClaim) (kind : Kind) (name : String) (spec : Value) :
    Act Unit := do
  match setOwnerReference fsc { name, ns := fsc.metadata.ns } with
  | .error err => throw (err.wrap "set ownerRef: ")
  | .ok metadata =>
      request (.create kind
        { metadata := { metadata with
            labels := ownershipLabels fsc metadata.labels }
          spec := some spec })

/-! ## Health of children -/

/-- `checkResourceCondition`: the message of a condition that is missing or
has another status, `none` when it matches. -/
def checkResourceCondition
    (conditions : List Condition) (conditionType : ConditionType)
    (expectedStatus : ConditionStatus) : Option String :=
  match findStatusCondition conditions conditionType with
  | none => some s!"{conditionType.text} condition not found"
  | some condition =>
      if condition.status ≠ expectedStatus then some condition.message else none

/-- How a resource fails its health check. -/
structure HealthFailure where
  message : String
  hardFailure : Bool
  deriving DecidableEq

/-- The check of one required condition of a resource. -/
def checkRequiredCondition
    (resource : Unstructured) (conditions : List Condition)
    (ownedFilesystems : List String) : ConditionType → Option HealthFailure
  | .used =>
      match findStatusCondition conditions .used with
      | none => some ⟨"Used condition not found", false⟩
      | some condition =>
          if condition.status = .isTrue then
            if resource.filesystem = "" then
              some ⟨"LocalDisk is used but status.filesystem is empty or missing", true⟩
            else if resource.filesystem ∉ ownedFilesystems then
              some ⟨s!"LocalDisk is used by different filesystem \"{resource.filesystem}\"",
                true⟩
            else none
          else none
  | .ready => (checkResourceCondition conditions .ready .isTrue).map (⟨·, false⟩)
  | .success => (checkResourceCondition conditions .success .isTrue).map (⟨·, false⟩)
  | .healthy => (checkResourceCondition conditions .healthy .isTrue).map (⟨·, false⟩)
  | _ => none

/-- The first required condition that a resource fails. -/
def checkResourceHealthy
    (resource : Unstructured) (requiredConditions : List ConditionType)
    (ownedFilesystems : List String) : Option HealthFailure :=
  match resource.conditions with
  | none => some ⟨"status.conditions missing", false⟩
  | some conditions =>
      requiredConditions.findSome?
        (checkRequiredCondition resource conditions ownedFilesystems)

/-- `checkAllResourcesHealthy`: the name and the failure of the first resource
that is not healthy, `none` when all are. -/
def checkAllResourcesHealthy
    (resources : List Unstructured) (requiredConditions : List ConditionType)
    (ownedFilesystems : List String) : Option (String × HealthFailure) :=
  resources.findSome? fun resource =>
    (checkResourceHealthy resource requiredConditions ownedFilesystems).map
      fun failure => (resource.metadata.name, failure)

/-! ## Nodes and devices -/

/-- A node with the worker label and the storage role. -/
def isStorageNode (node : Node) : Bool :=
  (node.labels.get? workerNodeRoleLabel).isSome &&
    node.labels.get? scaleStorageRoleLabel = some scaleStorageRoleValue

/-- The error when no node has both labels. -/
def noStorageNodes : Failure :=
  errorf s!"no nodes found with both {workerNodeRoleLabel} and {scaleStorageRoleLabel}={scaleStorageRoleValue} labels"

/-- `getRandomStorageNode`. -/
def getRandomStorageNode : Act String := do
  let allNodes ← (request .listNodes).mapError
    (Failure.wrap "failed to list nodes: ")
  let storageNodes := (allNodes.filter isStorageNode).map Node.name
  if storageNodes.length = 0 then throw noStorageNodes
  else do
    let index ← (request (.randomIndex storageNodes.length)).mapError
      (Failure.wrap "failed to select random storage node: ")
    return storageNodes.getD index ""

/-- `GetDeploymentNamespace`. -/
def getDeploymentNamespace : Act String := do
  match ← request .lookupDeploymentNamespace with
  | none => throw (errorf "DEPLOYMENT_NAMESPACE must be set")
  | some ns => return ns

/-- The name of the discovery result of a node. -/
def discoveryResultName (nodeName : String) : String :=
  s!"discovery-result-{nodeName}"

/-- The discovery results of the storage nodes among the given ones. -/
def collectDiscoveryResults :
    List Node → Act (List (String × LocalVolumeDiscoveryResult))
  | [] => return []
  | node :: nodes =>
      if isStorageNode node then do
        let operatorNamespace ← getDeploymentNamespace.mapError
          (Failure.wrap "failed to get operator deployment namespace: ")
        let lvdr ← (request (.getDiscoveryResult
            ⟨operatorNamespace, discoveryResultName node.name⟩)).mapError fun err =>
          if err.reason = .notFound then
            errorf ("LocalVolumeDiscoveryResult: " ++
              s!"{discoveryResultName node.name} not found for node: {node.name}")
          else
            err.wrap ("failed to get LocalVolumeDiscoveryResult for node " ++
              s!"{node.name}: ")
        let lvdrs ← collectDiscoveryResults nodes
        return (node.name, lvdr) :: lvdrs
      else collectDiscoveryResults nodes

/-- The error about one device on one node, if there is one. -/
def checkDeviceOnNode
    (device : String) (result : String × LocalVolumeDiscoveryResult) :
    Option Failure :=
  if result.2.discoveredDevices.length = 0 then
    some (errorf (s!"no discovered devices available for node {result.1}. " ++
      s!"Device: {device} may be in use in another filesystem or is not " ++
      "shared across all nodes"))
  else if result.2.discoveredDevices.any fun discovered =>
      discovered.path = device then
    none
  else
    some (errorf
      s!"device {device} not found in LocalVolumeDiscoveryResult for node {result.1}")

/-- `validateDevices`: every device is listed by every storage node. Only the
text of the error depends on the order in which nodes are visited. -/
def validateDevices (fsc : FileSystemClaim) : Act Unit := do
  let allNodes ← (request .listNodes).mapError
    (Failure.wrap "failed to list nodes: ")
  let lvdrs ← collectDiscoveryResults allNodes
  if lvdrs.length = 0 then throw noStorageNodes
  else
    match fsc.devices.findSome? fun device =>
        lvdrs.findSome? (checkDeviceOnNode device) with
    | some err => throw err
    | none => return ()

/-- The WWN that a discovery result gives for a device path. -/
def wwnOf
    (devicePath nodeName : String) (lvdr : LocalVolumeDiscoveryResult) :
    Except Failure String :=
  match lvdr.discoveredDevices.find? fun device => device.path = devicePath with
  | some device =>
      if device.wwn = "" then
        .error (errorf s!"device {devicePath} found but WWN is empty")
      else .ok device.wwn
  | none =>
      .error (errorf
        s!"device {devicePath} not found in LocalVolumeDiscoveryResult for node {nodeName}")

/-- `getDeviceWWN`: look up a device in the discovery result of a node. -/
def getDeviceWWN (devicePath nodeName : String) : Act String := do
  let operatorNamespace ← getDeploymentNamespace.mapError
    (Failure.wrap "failed to get operator deployment namespace: ")
  let lvdr ← (request (.getDiscoveryResult
      ⟨operatorNamespace, discoveryResultName nodeName⟩)).mapError fun err =>
    if err.reason = .notFound then
      errorf ("LocalVolumeDiscoveryResult " ++
        s!"{discoveryResultName nodeName} not found for node {nodeName}")
    else
      err.wrap s!"failed to get LocalVolumeDiscoveryResult for node {nodeName}: "
  match wwnOf devicePath nodeName lvdr with
  | .ok wwn => return wwn
  | .error err => throw err

/-- `isAlphanumeric`. -/
def isAlphanumeric (char : Char) : Bool :=
  ('a' ≤ char && char ≤ 'z') || ('A' ≤ char && char ≤ 'Z') ||
    ('0' ≤ char && char ≤ '9')

/-- `isValidKubernetesName`. -/
def isValidKubernetesName (name : String) : Bool :=
  if name = "" || name.utf8ByteSize > maxKubernetesNameLength then false
  else if !(name.toList.head?.any isAlphanumeric) ||
      !(name.toList.getLast?.any isAlphanumeric) then false
  else name.toList.all fun char =>
    isAlphanumeric char || char = '-' || char = '.'

/-- `generateLocalDiskName`: the raw WWN, if it can name an object. -/
def generateLocalDiskName (wwn : String) : Except Failure String :=
  if wwn = "" then .error (errorf "WWN cannot be empty")
  else if wwn.utf8ByteSize > maxKubernetesNameLength then
    .error (errorf
      s!"WWN too long for Kubernetes resource name: {wwn} (max {maxKubernetesNameLength} chars)")
  else if !isValidKubernetesName wwn then
    .error (errorf s!"WWN is not a valid Kubernetes resource name: {wwn}")
  else .ok wwn

/-! ## Specs of the created objects -/

/-- `buildFilesystemSpec`: one pool with all the disks. -/
def buildFilesystemSpec (ldNames : List String) : Value :=
  .object [
    ("local", .object [
      ("blockSize", .string "4M"),
      ("pools", .array [
        .object [
          ("disks", .array (ldNames.map .string)),
          ("name", .string "system")]]),
      ("replication", .string "1-way"),
      ("type", .string "shared")]),
    ("seLinuxOptions", .object [
      ("level", .string "s0"),
      ("role", .string "object_r"),
      ("type", .string "container_file_t"),
      ("user", .string "system_u")])]

/-- The spec of a LocalDisk. -/
def localDiskSpec (devicePath nodeName : String) : Value :=
  .object [("device", .string devicePath), ("node", .string nodeName)]

/-- `buildStorageClass`. -/
def buildStorageClass
    (fsc : FileSystemClaim) (scName fsName : String) : StorageClass where
  metadata := {
    name := scName
    annotations := [( storageClassDefaultAnnotation, "true")]
    labels := [
      (fileSystemClaimOwnedByNameLabel, fsc.metadata.name),
      (fileSystemClaimOwnedByNamespaceLabel, fsc.metadata.ns)] }
  provisioner := "spectrumscale.csi.ibm.com"
  allowVolumeExpansion := some true
  reclaimPolicy := some .delete
  volumeBindingMode := some .immediate
  parameters := [("volBackendFs", fsName)]

/-- The comparison of `storageClassRelevantFields` of two classes. -/
def sameRelevantFields (current desired : StorageClass) : Bool :=
  current.metadata.annotations.sameEntries desired.metadata.annotations &&
    current.metadata.labels.sameEntries desired.metadata.labels &&
    current.provisioner = desired.provisioner &&
    current.allowVolumeExpansion = desired.allowVolumeExpansion &&
    current.reclaimPolicy = desired.reclaimPolicy &&
    current.volumeBindingMode = desired.volumeBindingMode &&
    current.parameters.sameEntries desired.parameters

/-- A class with the relevant fields of another. -/
def withRelevantFields (current desired : StorageClass) : StorageClass where
  metadata := { current.metadata with
    annotations := desired.metadata.annotations
    labels := desired.metadata.labels }
  provisioner := desired.provisioner
  allowVolumeExpansion := desired.allowVolumeExpansion
  reclaimPolicy := desired.reclaimPolicy
  volumeBindingMode := desired.volumeBindingMode
  parameters := desired.parameters

end FusionAccess
