import FusionAccess.Controller.DeviceValidation
import FusionAccess.Discovery.Daemon
import FusionAccess.Registry.Groups

/-!
# LUNs in the console

The console offers the devices that are shared by all storage nodes and used by
no LocalDisk as LUNs, and creates a claim from those that a user selects. What
it takes for shared is compared with what the controller accepts.
-/

namespace Console

open Kubernetes Interaction FusionAccess Discovery

/-- `FUSION_ACCESS_NAMESPACE`. -/
def fusionAccessNamespace : String := "ibm-fusion-access"

/-- `SPECTRUM_SCALE_NAMESPACE`. -/
def spectrumScaleNamespace : String := "ibm-spectrum-scale"

/-- The labels by which the console selects storage nodes, `WORKER_NODE_ROLE_LABEL`
and `STORAGE_ROLE_LABEL`. -/
def matchLabels : StringMap :=
  [(workerNodeRoleLabel, ""), (scaleStorageRoleLabel, scaleStorageRoleValue)]

/-- The nodes that are watched. -/
def watchedNodes (cluster : Cluster) : List Node :=
  cluster.nodes.filter fun node =>
    matchLabels.all fun label => node.labels.get? label.1 = some label.2

/-- The discovery results that are watched. -/
def localVolumeDiscoveryResults (results : List DiscoveryResult) :
    List DiscoveryResult :=
  results.filter fun lvdr => lvdr.metadata.ns = fusionAccessNamespace

/-- The LocalDisks that are watched. -/
def watchedLocalDisks (cluster : Cluster) : List Unstructured :=
  cluster.localDisks.filter fun localDisk =>
    localDisk.metadata.ns = spectrumScaleNamespace

/-- `useStorageNodesLvdrs`. -/
def storageNodesLvdrs (cluster : Cluster) (results : List DiscoveryResult) :
    List DiscoveryResult :=
  (localVolumeDiscoveryResults results).filter fun lvdr =>
    (watchedNodes cluster).any fun node => node.name = lvdr.nodeName

/-- A discovered device and the node that lists it. -/
structure DeviceOnNode where
  device : Discovery.DiscoveredDevice
  nodeName : String
  deriving DecidableEq

/-- The WWN of the device. -/
def DeviceOnNode.wwn (dd : DeviceOnNode) : String := dd.device.wwn

/-- `toDiscoveredDeviceWithNodeName`. -/
def toDiscoveredDeviceWithNodeName
    (lvdr : DiscoveryResult) (dd : Discovery.DiscoveredDevice) :
    DeviceOnNode :=
  ⟨dd, lvdr.nodeName⟩

/-- The devices of a discovery result with its node. -/
def devicesOnNode (lvdr : DiscoveryResult) : List DeviceOnNode :=
  lvdr.discoveredDevices.map (toDiscoveredDeviceWithNodeName lvdr)

/-- `makeDiscoveredDevicesWithNodeName`. -/
def makeDiscoveredDevicesWithNodeName (lvdrs : List DiscoveryResult) :
    List DeviceOnNode :=
  lvdrs.flatMap devicesOnNode

/-- The array index that a key of an object stands for. -/
def arrayIndex? (key : String) : Option Nat :=
  key.toNat?.filter fun index => toString index = key && index < 2 ^ 32 - 1

/-- `Object.entries`: array indices come first, in ascending order. -/
def objectEntries {α : Type} (groups : List (String × α)) : List (String × α) :=
  ((groups.filter fun group => (arrayIndex? group.1).isSome).mergeSort
      fun first second =>
        (arrayIndex? first.1).getD 0 ≤ (arrayIndex? second.1).getD 0) ++
    groups.filter fun group => (arrayIndex? group.1).isNone

/-- `getSharedDiscoveredDevicesRepresentatives`: the first device of each group
with as many devices as there are discovery results. -/
def getSharedDiscoveredDevicesRepresentatives (lvdrs : List DiscoveryResult) :
    List DeviceOnNode :=
  let groupedByWwns :=
    Registry.groupBy DeviceOnNode.wwn (makeDiscoveredDevicesWithNodeName lvdrs)
  let onlySharedByAllStorageNodes :=
    (objectEntries groupedByWwns).filter fun group =>
      group.2.length = lvdrs.length
  onlySharedByAllStorageNodes.filterMap fun group => group.2.head?

/-- `outDevicesUsedByLocalDisks`. -/
def outDevicesUsedByLocalDisks
    (localDisks : List Unstructured) (dd : DeviceOnNode) : Bool :=
  !localDisks.any fun localDisk => localDisk.metadata.name = dd.wwn

/-- A LUN as the user sees it. -/
structure Lun where
  isSelected : Bool
  nodeName : String
  path : String
  wwn : String
  capacity : String
  deriving DecidableEq

section Offer

variable (gib : Int → String)

/-- `toLun`; the number of GiB is printed with two digits after the point. -/
def toLun (dd : DeviceOnNode) : Lun where
  isSelected := false
  nodeName := dd.nodeName
  path := dd.device.path
  wwn := dd.wwn
  capacity := gib dd.device.size ++ " GiB"

/-- `makeLuns`. -/
def makeLuns (lvdrs : List DiscoveryResult) (localDisks : List Unstructured) :
    List Lun :=
  ((getSharedDiscoveredDevicesRepresentatives lvdrs).filter
    (outDevicesUsedByLocalDisks localDisks)).map (toLun gib)

/-- The LUNs that a user of the cluster is offered. -/
def offeredLuns (cluster : Cluster) (results : List DiscoveryResult) : List Lun :=
  makeLuns gib (storageNodesLvdrs cluster results) (watchedLocalDisks cluster)

end Offer

/-- The LUNs after the user has selected some of them. -/
def selectLuns (chosen : Lun → Bool) (luns : List Lun) : List Lun :=
  luns.map fun lun => { lun with isSelected := chosen lun }

/-- The devices of the claim that `useFileSystemClaimsCreateUseCase` creates. -/
def selectedDevices (luns : List Lun) : List String :=
  (luns.filter Lun.isSelected).map Lun.path

/-! ## What is offered -/

theorem mem_objectEntries {α : Type} {groups : List (String × α)}
    {group : String × α} :
    group ∈ objectEntries groups ↔ group ∈ groups := by
  rw [objectEntries, List.mem_append, List.mem_mergeSort, List.mem_filter,
    List.mem_filter, ← and_or_left, and_iff_left_iff_imp]
  intro _
  cases arrayIndex? group.1 <;> simp

/-- A key with a letter is no array index. -/
theorem arrayIndex?_of_letter
    {key : String} (letter : ∃ character ∈ key.toList, character.isDigit = false) :
    arrayIndex? key = none := by
  rw [arrayIndex?, Option.filter_eq_none_iff]
  rintro index - indexed
  rw [Bool.and_eq_true, decide_eq_true_eq] at indexed
  obtain ⟨character, member, noDigit⟩ := letter
  rw [← indexed.1, Nat.toString_eq_repr, Nat.repr_eq_ofList_toDigits,
    String.toList_ofList] at member
  rw [Nat.isDigit_of_mem_toDigits (by decide) (by decide) member] at noDigit
  cases noDigit

/-- Keys that are no array indices keep their order. -/
theorem objectEntries_of_no_index
    {α : Type} {groups : List (String × α)}
    (names : ∀ group ∈ groups, arrayIndex? group.1 = none) :
    objectEntries groups = groups := by
  have none : (groups.filter fun group => (arrayIndex? group.1).isSome) = [] := by
    rw [List.filter_eq_nil_iff]
    intro group member
    rw [names group member]
    decide
  have all : (groups.filter fun group => (arrayIndex? group.1).isNone) = groups := by
    rw [List.filter_eq_self]
    intro group member
    rw [names group member]
    rfl
  rw [objectEntries, none, all, List.mergeSort_nil, List.nil_append]

/-- No discovery result lists a WWN twice. -/
def ListsOnce (results : List DiscoveryResult) : Prop :=
  ∀ lvdr ∈ results, (lvdr.discoveredDevices.map fun device => device.wwn).Nodup

/-- A discovery result lists the WWN. -/
def listsWWN (wwn : String) (lvdr : DiscoveryResult) : Bool :=
  lvdr.discoveredDevices.any fun device => device.wwn = wwn

theorem length_filter_devicesOnNode
    {lvdr : DiscoveryResult}
    (once : (lvdr.discoveredDevices.map fun device => device.wwn).Nodup)
    (wwn : String) :
    ((devicesOnNode lvdr).filter fun dd => dd.wwn = wwn).length ≤ 1 := by
  rw [devicesOnNode, List.filter_map, List.length_map, ← List.countP_eq_length_filter]
  have counted := List.nodup_iff_count_le_one.mp once wwn
  rw [List.count, List.countP_map] at counted
  exact counted

theorem any_devicesOnNode (lvdr : DiscoveryResult) (wwn : String) :
    ((devicesOnNode lvdr).any fun dd => dd.wwn = wwn) = listsWWN wwn lvdr := by
  rw [devicesOnNode, List.any_map]
  rfl

end Console
