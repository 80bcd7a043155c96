import FusionAccess.Kubernetes.Value
import FusionAccess.Registry.Keyed

/-!
# API objects

The objects the operator reads and writes, with the fields that its code
looks at: metadata, status conditions, the untyped custom resources of the
storage product, StorageClasses, PersistentVolumes, nodes and discovery
results. Points in time and durations are counted in seconds, which is the
precision with which the API server stores them.
-/

namespace Kubernetes

/-! ## Points in time -/

/-- Year, month and day that lie the given number of days after the first of
January 1970. -/
def civilDate (days : Nat) : Nat × Nat × Nat :=
  -- years are counted from March on, so that leap days come last
  let shifted := days + 719468
  let era := shifted / 146097
  let dayOfEra := shifted % 146097
  let yearOfEra :=
    (dayOfEra - dayOfEra / 1460 + dayOfEra / 36524 - dayOfEra / 146096) / 365
  let dayOfYear := dayOfEra - (365 * yearOfEra + yearOfEra / 4 - yearOfEra / 100)
  let shiftedMonth := (5 * dayOfYear + 2) / 153
  let day := dayOfYear - (153 * shiftedMonth + 2) / 5 + 1
  let month := if shiftedMonth < 10 then shiftedMonth + 3 else shiftedMonth - 9
  (era * 400 + yearOfEra + if month ≤ 2 then 1 else 0, month, day)

/-- A number with leading zeros. -/
def padded (width number : Nat) : String :=
  let digits := toString number
  String.ofList (List.replicate (width - digits.length) '0') ++ digits

/-- Date and time of day in UTC with the given separator and zone. -/
def formatPoint (separator zone : String) (seconds : Nat) : String :=
  let (year, month, day) := civilDate (seconds / 86400)
  let ofDay := seconds % 86400
  s!"{padded 4 year}-{padded 2 month}-{padded 2 day}{separator}" ++
    s!"{padded 2 (ofDay / 3600)}:{padded 2 (ofDay / 60 % 60)}:{padded 2 (ofDay % 60)}{zone}"

/-- A point in time as "2006-01-02 15:04:05 MST" formats it in UTC. -/
def formatTime : Nat → String := formatPoint " " " UTC"

/-- A point in time as `time.RFC3339` formats it in UTC. -/
def formatRFC3339 : Nat → String := formatPoint "T" "Z"

/-! ## Objects -/

/-- Namespace and name of a namespaced object. -/
structure NamespacedName where
  ns : String
  name : String
  deriving DecidableEq

/-- A map from strings to strings; the first entry of a key counts. -/
abbrev StringMap : Type := List (String × String)

namespace StringMap

/-- The value under a key. -/
def get? (entries : StringMap) (key : String) : Option String :=
  (Registry.find? Prod.fst key entries).map Prod.snd

/-- Set the entry of a key. -/
def set (entries : StringMap) (key value : String) : StringMap :=
  Registry.upsert Prod.fst (key, value) entries

/-- Two maps hold the same entries. -/
def sameEntries (first second : StringMap) : Bool :=
  (first ++ second).all fun entry => first.get? entry.1 = second.get? entry.1

/-- Reading a map after setting one entry. -/
theorem get?_set (entries : StringMap) (key value other : String) :
    (entries.set key value).get? other =
      if key = other then some value else entries.get? other := by
  rw [get?, set, Registry.find?_upsert]
  by_cases same : key = other
  · simp [same]
  · simp [same, get?]

/-- Maps with the same entries read the same under every key. -/
theorem sameEntries_iff (first second : StringMap) :
    first.sameEntries second = true ↔
      ∀ key, first.get? key = second.get? key := by
  simp only [sameEntries, List.all_eq_true, decide_eq_true_eq]
  constructor
  · intro agree key
    by_cases listed : ∃ entry ∈ first ++ second, entry.1 = key
    · obtain ⟨entry, member, rfl⟩ := listed
      exact agree entry member
    · have absent : ∀ entries : StringMap,
          (∀ entry ∈ entries, entry ∈ first ++ second) →
            entries.get? key = none := by
        intro entries included
        rw [get?, Option.map_eq_none_iff, Registry.find?_eq_none]
        intro entry member same
        exact listed ⟨entry, included entry member, same⟩
      rw [absent first fun entry => List.mem_append_left _,
        absent second fun entry => List.mem_append_right _]
  · intro agree entry _
    exact agree entry.1

end StringMap

/-- A reference from an object to the object that owns it. -/
structure OwnerReference where
  apiVersion : String
  kind : String
  name : String
  uid : Nat
  deriving DecidableEq

/-- Metadata of an object. -/
structure ObjectMeta where
  name : String
  ns : String := ""
  uid : Nat := 0
  generation : Nat := 0
  resourceVersion : Nat := 0
  labels : StringMap := []
  annotations : StringMap := []
  ownerReferences : List OwnerReference := []
  finalizers : List String := []
  deletionTimestamp : Option Nat := none
  deriving DecidableEq

/-- The key of a namespaced object. -/
def ObjectMeta.key (metadata : ObjectMeta) : NamespacedName :=
  ⟨metadata.ns, metadata.name⟩

/-- Status of a condition. -/
inductive ConditionStatus
  | isTrue
  | isFalse
  | isUnknown
  deriving DecidableEq

/-- Types of conditions: those of a FileSystemClaim, those of the storage
product's resources, and any other. -/
inductive ConditionType
  | deviceValidated
  | localDiskCreated
  | fileSystemCreated
  | storageClassCreated
  | deletionBlocked
  | ready
  | used
  | success
  | healthy
  | other (text : String)
  deriving DecidableEq

/-- The name of a condition type. -/
def ConditionType.text : ConditionType → String
  | .deviceValidated => "DeviceValidated"
  | .localDiskCreated => "LocalDiskCreated"
  | .fileSystemCreated => "FileSystemCreated"
  | .storageClassCreated => "StorageClassCreated"
  | .deletionBlocked => "DeletionBlocked"
  | .ready => "Ready"
  | .used => "Used"
  | .success => "Success"
  | .healthy => "Healthy"
  | .other text => text

/-- Reasons of conditions: those the operator gives, and any other. -/
inductive Reason
  | localDiskCreationFailed
  | localDiskCreationSucceeded
  | localDiskCreationInProgress
  | fileSystemCreationFailed
  | fileSystemCreationSucceeded
  | fileSystemCreationInProgress
  | storageClassCreationFailed
  | storageClassCreationSucceeded
  | deviceValidationFailed
  | deviceValidationSucceeded
  | storageClassInUse
  | fileSystemLabelNotPresent
  | storageClassDeleted
  | filesystemDeleted
  | localDiskDeleted
  | provisioningFailed
  | provisioningSucceeded
  | provisioningInProgress
  | validationFailed
  | deletionRequested
  | immutableFieldModified
  | migrationComplete
  | other (text : String)
  deriving DecidableEq

/-- A status condition. -/
structure Condition where
  type : ConditionType
  status : ConditionStatus
  reason : Reason
  message : String := ""
  lastTransitionTime : Nat := 0
  observedGeneration : Nat := 0
  deriving DecidableEq

/-- `FindStatusCondition`: the first condition of the given type. -/
def findStatusCondition
    (conditions : List Condition)
    (conditionType : ConditionType) : Option Condition :=
  Registry.find? Condition.type conditionType conditions

/-- A FileSystemClaim. -/
structure FileSystemClaim where
  metadata : ObjectMeta
  devices : List String
  conditions : List Condition := []
  deriving DecidableEq

/-- The key of a claim. -/
def FileSystemClaim.key (claim : FileSystemClaim) : NamespacedName :=
  claim.metadata.key

/-- The two custom resources of the storage product. -/
inductive Kind
  | localDisk
  | filesystem
  deriving DecidableEq

/-- The name of the list kind. -/
def Kind.listKind : Kind → String
  | .localDisk => "LocalDiskList"
  | .filesystem => "FilesystemList"

/-- The resource as the API server names it in errors. -/
def Kind.resource : Kind → String
  | .localDisk => "localdisks.scale.spectrum.ibm.com"
  | .filesystem => "filesystems.scale.spectrum.ibm.com"

/-- A LocalDisk or a Filesystem as an unstructured object. Of the status the
operator reads the conditions (`none` when `status.conditions` is missing) and
the name of the filesystem that uses a disk. -/
structure Unstructured where
  metadata : ObjectMeta
  spec : Option Value := none
  conditions : Option (List Condition) := none
  filesystem : String := ""
  deriving DecidableEq

/-- The key of an unstructured object. -/
def Unstructured.key (object : Unstructured) : NamespacedName :=
  object.metadata.key

/-- The string under `spec` and the given key; empty when there is none. -/
def Unstructured.specString (object : Unstructured) (key : String) : String :=
  match object.spec with
  | some spec => spec.nestedString [key]
  | none => ""

/-- What happens to the volume of a released PersistentVolume. -/
inductive ReclaimPolicy
  | delete
  | retain
  | recycle
  deriving DecidableEq

/-- When a volume is bound. -/
inductive VolumeBindingMode
  | immediate
  | waitForFirstConsumer
  deriving DecidableEq

/-- A StorageClass. -/
structure StorageClass where
  metadata : ObjectMeta
  provisioner : String
  allowVolumeExpansion : Option Bool := none
  reclaimPolicy : Option ReclaimPolicy := none
  volumeBindingMode : Option VolumeBindingMode := none
  parameters : StringMap := []
  deriving DecidableEq

/-- The name of a StorageClass, which is cluster scoped. -/
def StorageClass.name (storageClass : StorageClass) : String :=
  storageClass.metadata.name

/-- Phase of a PersistentVolume. -/
inductive VolumePhase
  | pending
  | available
  | bound
  | released
  | failed
  deriving DecidableEq

/-- A PersistentVolume. -/
structure PersistentVolume where
  name : String
  storageClassName : String
  deletionTimestamp : Option Nat := none
  phase : VolumePhase
  deriving DecidableEq

/-- A node. -/
structure Node where
  name : String
  labels : StringMap
  deriving DecidableEq

/-- A device as a discovery daemon reports it. -/
structure DiscoveredDevice where
  path : String
  wwn : String
  deriving DecidableEq

/-- A LocalVolumeDiscoveryResult. -/
structure LocalVolumeDiscoveryResult where
  metadata : ObjectMeta
  discoveredDevices : List DiscoveredDevice
  deriving DecidableEq

/-- The key of a discovery result. -/
def LocalVolumeDiscoveryResult.key
    (result : LocalVolumeDiscoveryResult) : NamespacedName :=
  result.metadata.key

end Kubernetes
