import FusionAccess.Controller.Helpers

/-!
# Migration from v1.0

`RunMigration` runs once before the controller starts. It looks for LocalDisks
that no claim owns, groups them by the filesystem that uses them, and puts a
claim over every group together with its Filesystem and StorageClass.
-/

namespace FusionAccess

open Kubernetes Interaction

/-- `MigrationLabelMigrated`. -/
def migrationLabelMigrated : String := "fusion.storage.openshift.io/migrated"

/-- `MigrationLabelSource`. -/
def migrationLabelSource : String :=
  "fusion.storage.openshift.io/migration-source"

/-- `MigrationAnnotationTimestamp`. -/
def migrationAnnotationTimestamp : String :=
  "fusion.storage.openshift.io/migration-timestamp"

/-- `MigrationLabelSkip`. -/
def migrationLabelSkip : String := "fusion.storage.openshift.io/skip-migration"

/-- `MigrationSourceV1`. -/
def migrationSourceV1 : String := "v1.0"

/-- `MigrationNamespace`. -/
def migrationNamespace : String := "ibm-spectrum-scale"

/-- `SpectrumScaleProvisioner`. -/
def spectrumScaleProvisioner : String := "spectrumscale.csi.ibm.com"

/-- `MigrationLabelValueTrue`. -/
def migrationLabelValueTrue : String := "true"

/-- The key of an object of the migration. -/
def migrationKey (name : String) : NamespacedName := ⟨migrationNamespace, name⟩

/-- `LegacyResourceGroup`: what belongs to one filesystem of v1.0. -/
structure LegacyResourceGroup where
  filesystemName : String
  localDisks : List Unstructured := []
  filesystem : Option Unstructured := none
  storageClass : Option StorageClass := none
  devicePaths : List String := []
  isValid : Bool := false

/-! ## Discovery -/

/-- `matchesWWNPattern`. -/
def matchesWWNPattern (name : String) : Bool :=
  ["uuid.", "eui.", "0x"].any fun pattern =>
    pattern.toList.isPrefixOf name.toList

/-- The label of migrated objects is set. -/
def isMigrated (metadata : ObjectMeta) : Bool :=
  metadata.labels.get? migrationLabelMigrated = some migrationLabelValueTrue

/-- `isV1LocalDisk`: the disk is a candidate for the migration. -/
def isV1LocalDisk (ld : Unstructured) : Bool :=
  if isMigrated ld.metadata then false
  else if ld.metadata.labels.get? migrationLabelSkip =
      some migrationLabelValueTrue then false
  else if ld.metadata.ownerReferences.any fun ownerRef =>
      ownerRef.kind = fileSystemClaimKind then false
  else if ld.metadata.ownerReferences.length > 0 then false
  else if !matchesWWNPattern ld.metadata.name then false
  else if ld.filesystem = "" then false
  else if ld.specString "device" = "" then false
  else ld.specString "node" ≠ ""

/-- `discoverLegacyLocalDisks`: the candidates, none where the kind of the
LocalDisks is unknown. -/
def discoverLegacyLocalDisks : Act (List Unstructured) := do
  match ← (request (.list .localDisk migrationNamespace)).attempt with
  | .error err =>
      if err.reason = .noKindMatch then return []
      else throw (err.wrap "failed to list LocalDisks: ")
  | .ok items => return items.filter isV1LocalDisk

/-- A group with one more disk. -/
def LegacyResourceGroup.add
    (group : LegacyResourceGroup) (ld : Unstructured) : LegacyResourceGroup :=
  { group with
    localDisks := group.localDisks ++ [ld]
    devicePaths :=
      if ld.specString "device" ≠ "" then
        group.devicePaths ++ [ld.specString "device"]
      else group.devicePaths }

/-- Put one disk into the group of its filesystem. -/
def addToGroups
    (groups : List LegacyResourceGroup) (ld : Unstructured) :
    List LegacyResourceGroup :=
  if ld.filesystem = "" then groups
  else
    let group :=
      (Registry.find? LegacyResourceGroup.filesystemName ld.filesystem groups).getD
        { filesystemName := ld.filesystem }
    Registry.upsert LegacyResourceGroup.filesystemName (group.add ld) groups

/-- `groupLocalDisksByFilesystem`. -/
def groupLocalDisksByFilesystem (localDisks : List Unstructured) :
    List LegacyResourceGroup :=
  localDisks.foldl addToGroups []

/-- An order in which the entries of a map are visited. -/
structure MapOrder where
  visit : List LegacyResourceGroup → List LegacyResourceGroup
  perm : ∀ groups, (visit groups).Perm groups

/-- The order of the list itself. -/
def MapOrder.asListed : MapOrder where
  visit := id
  perm := List.Perm.refl

/-! ## Validation -/

/-- `fetchRelatedResources`. -/
def fetchRelatedResources (group : LegacyResourceGroup) :
    Act LegacyResourceGroup := do
  match ← (request (.get .filesystem
      (migrationKey group.filesystemName))).attempt with
  | .error err =>
      if err.reason = .notFound then
        throw (errorf s!"filesystem {group.filesystemName} not found")
      else throw (err.wrap "failed to get filesystem: ")
  | .ok fs => do
      match ← (request (.getStorageClass group.filesystemName)).attempt with
      | .error err =>
          if err.reason = .notFound then
            return { group with filesystem := some fs }
          else throw (err.wrap "failed to get StorageClass: ")
      | .ok sc =>
          return { group with filesystem := some fs, storageClass := some sc }

/-- The checks of `validateResourceGroup` on a group with its resources. -/
def checkResourceGroup (group : LegacyResourceGroup) : Option Failure :=
  if group.filesystem.isNone then some (errorf "filesystem not found")
  else
    match group.storageClass.filter fun sc =>
        sc.provisioner ≠ spectrumScaleProvisioner with
    | some sc =>
        some (errorf s!"StorageClass has wrong provisioner: {sc.provisioner}")
    | none =>
        if group.devicePaths.length = 0 then
          some (errorf "no device paths found in LocalDisks")
        else none

/-- `validateResourceGroup`. -/
def validateResourceGroup (group : LegacyResourceGroup) :
    Act LegacyResourceGroup := do
  let group ← (fetchRelatedResources group).mapError
    (Failure.wrap "failed to fetch related resources: ")
  match checkResourceGroup group with
  | some err => throw err
  | none => return { group with isValid := true }

/-! ## The claim -/

/-- A condition of a migrated claim. -/
def migratedCondition
    (now : Nat) (conditionType : ConditionType) (message : String) :
    Condition where
  type := conditionType
  status := .isTrue
  reason := .migrationComplete
  message := message
  lastTransitionTime := now

/-- The conditions of a migrated claim. -/
def migrationConditions (now : Nat) (group : LegacyResourceGroup) :
    List Condition :=
  [migratedCondition now .deviceValidated
      "Devices validated during v1.0 to v1.1 migration",
    migratedCondition now .localDiskCreated
      s!"LocalDisks already exist from v1.0 ({group.localDisks.length} disks)",
    migratedCondition now .fileSystemCreated
      "Filesystem already exists from v1.0"] ++
  (if group.storageClass.isSome then
    [migratedCondition now .storageClassCreated
      "StorageClass already exists from v1.0"]
  else []) ++
  [migratedCondition now .ready
    "All resources migrated successfully from v1.0"]

/-- The claim that the migration creates. -/
def migrationClaim
    (timestamp : String) (group : LegacyResourceGroup) : FileSystemClaim where
  metadata := {
    name := group.filesystemName
    ns := migrationNamespace
    labels := [
      (migrationLabelMigrated, migrationLabelValueTrue),
      (migrationLabelSource, migrationSourceV1)]
    annotations := [(migrationAnnotationTimestamp, timestamp)] }
  devices := group.devicePaths

/-- `createOrGetFilesystemClaim`: an existing claim is taken as it is, and a
failed write of the status of a new one is ignored. -/
def createOrGetFilesystemClaim (group : LegacyResourceGroup) :
    Act FileSystemClaim := do
  match ← (request (.getClaim (migrationKey group.filesystemName))).attempt with
  | .ok fsc => return fsc
  | .error err =>
      if err.reason ≠ .notFound then
        throw (err.wrap "failed to get FilesystemClaim: ")
      else do
        let now ← request .now
        let fsc ← (request (.createClaim
            (migrationClaim (formatRFC3339 now) group))).mapError
          (Failure.wrap "failed to create FilesystemClaim: ")
        let now ← request .now
        let fsc := { fsc with conditions := migrationConditions now group }
        let _ ← (request (.updateClaimStatus fsc)).attempt
        return fsc

/-! ## Owner references and labels -/

/-- `hasOwnerRefToFSC`. -/
def hasOwnerRefToFSC (metadata : ObjectMeta) (fscName : String) : Bool :=
  metadata.ownerReferences.any fun ownerRef =>
    ownerRef.kind = fileSystemClaimKind && ownerRef.name = fscName

/-- `addOwnerRefAndStandardLabels`. -/
def addOwnerRefAndStandardLabels (metadata : ObjectMeta) (fsc : FileSystemClaim) :
    Except Failure ObjectMeta := do
  let metadata ← setOwnerReference fsc metadata
  return { metadata with labels := ownershipLabels fsc metadata.labels }

/-- `addMigrationLabels`. -/
def addMigrationLabels (metadata : ObjectMeta) (timestamp : String) :
    ObjectMeta :=
  { metadata with
    labels := (metadata.labels.set migrationLabelMigrated
      migrationLabelValueTrue).set migrationLabelSource migrationSourceV1
    annotations :=
      metadata.annotations.set migrationAnnotationTimestamp timestamp }

/-- One object of a kind gets its owner, unless it has it. -/
def adoptObject
    (fsc : FileSystemClaim) (timestamp : String) (kind : Kind)
    (object : Unstructured) (adding updating : String) : Act Unit :=
  if hasOwnerRefToFSC object.metadata fsc.metadata.name then return ()
  else
    match addOwnerRefAndStandardLabels object.metadata fsc with
    | .error err => throw (err.wrap adding)
    | .ok metadata =>
        (request (.update kind { object with
          metadata := addMigrationLabels metadata timestamp })).mapError
          (Failure.wrap updating)

/-- The LocalDisks of a group get their owner. -/
def adoptLocalDisks (fsc : FileSystemClaim) (timestamp : String) :
    List Unstructured → Act Unit
  | [] => return ()
  | ld :: lds => do
      adoptObject fsc timestamp .localDisk ld
        s!"failed to add ownerRef to LocalDisk {ld.metadata.name}: "
        s!"failed to update LocalDisk {ld.metadata.name}: "
      adoptLocalDisks fsc timestamp lds

/-- The Filesystem of a group gets its owner; a valid group has one. -/
def adoptFilesystem (fsc : FileSystemClaim) (timestamp : String) :
    Option Unstructured → Act Unit
  | none => return ()
  | some fs =>
      adoptObject fsc timestamp .filesystem fs
        "failed to add ownerRef to Filesystem: " "failed to update Filesystem: "

/-- The StorageClass of a group gets its labels, unless it is migrated. -/
def labelStorageClass (fsc : FileSystemClaim) (timestamp : String) :
    Option StorageClass → Act Unit
  | none => return ()
  | some sc =>
      if isMigrated sc.metadata then return ()
      else
        (request (.updateStorageClass { sc with
          metadata := addMigrationLabels
            { sc.metadata with labels := ownershipLabels fsc sc.metadata.labels }
            timestamp })).mapError
          (Failure.wrap "failed to update StorageClass labels and annotations: ")

/-- `updateOwnerRefsAndLabels`. -/
def updateOwnerRefsAndLabels
    (fsc : FileSystemClaim) (group : LegacyResourceGroup) : Act Unit := do
  let now ← request .now
  adoptLocalDisks fsc (formatRFC3339 now) group.localDisks
  adoptFilesystem fsc (formatRFC3339 now) group.filesystem
  labelStorageClass fsc (formatRFC3339 now) group.storageClass

/-- `createMigrationEvent`. -/
def createMigrationEvent
    (fsc : FileSystemClaim) (group : LegacyResourceGroup) : Act Unit :=
  request (.createEvent fsc.key
    (s!"Successfully migrated {group.localDisks.length} LocalDisks, 1 Filesystem, " ++
      s!"{if group.storageClass.isSome then 1 else 0} StorageClass from v1.0"))

/-! ## The whole migration -/

/-- `migrateResourceGroup`. -/
def migrateResourceGroup (group : LegacyResourceGroup) : Act Unit := do
  let fsc ← (createOrGetFilesystemClaim group).mapError
    (Failure.wrap "failed to create/get FilesystemClaim: ")
  (updateOwnerRefsAndLabels fsc group).mapError
    (Failure.wrap "failed to update ownerRefs and labels: ")
  let _ ← (createMigrationEvent fsc group).attempt
  return ()

/-- The turn of one group; what goes wrong with it is logged only. -/
def processGroup (dryRun : Bool) (group : LegacyResourceGroup) : Act Unit := do
  match ← (validateResourceGroup group).attempt with
  | .error _ => return ()
  | .ok group =>
      if !group.isValid then return ()
      else if dryRun then return ()
      else do
        let _ ← (migrateResourceGroup group).attempt
        return ()

/-- The turns of all groups. -/
def processGroups (dryRun : Bool) : List LegacyResourceGroup → Act Unit
  | [] => return ()
  | group :: groups => do
      processGroup dryRun group
      processGroups dryRun groups

/-- `RunMigration`; the flag tells whether `MIGRATION_DRY_RUN` is "true". -/
def runMigration (order : MapOrder) (dryRun : Bool) : Act Unit := do
  let localDisks ← discoverLegacyLocalDisks.mapError
    (Failure.wrap "failed to discover legacy LocalDisks: ")
  if localDisks.length = 0 then return ()
  else processGroups dryRun (order.visit (groupLocalDisksByFilesystem localDisks))

end FusionAccess
