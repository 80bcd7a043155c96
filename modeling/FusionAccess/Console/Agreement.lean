import FusionAccess.Console.Luns

/-!
# What the console offers and the controller accepts

The console finds shared devices by WWN among the discovery results that are
there; the controller looks up the path of a device in the discovery result of
every storage node. A claim for offered LUNs is accepted when both agree.
-/

namespace Console

open Kubernetes Interaction FusionAccess Discovery

/-! ## The devices behind the offered LUNs -/

/-- The console takes a device for shared and unused: its first discovery
result lists the device, all of them list its WWN, and no LocalDisk has its
name. -/
structure Offers
    (lvdrs : List DiscoveryResult) (localDisks : List Unstructured)
    (dd : DeviceOnNode) : Prop where
  listed : ∃ first ∈ lvdrs.head?, dd ∈ devicesOnNode first
  everywhere : ∀ lvdr ∈ lvdrs, listsWWN dd.wwn lvdr = true
  unused : ∀ localDisk ∈ localDisks, localDisk.metadata.name ≠ dd.wwn

theorem mem_getSharedDiscoveredDevicesRepresentatives
    {lvdrs : List DiscoveryResult}
    (once : ListsOnce lvdrs)
    {dd : DeviceOnNode} :
    dd ∈ getSharedDiscoveredDevicesRepresentatives lvdrs ↔
      (∃ first ∈ lvdrs.head?, dd ∈ devicesOnNode first) ∧
        ∀ lvdr ∈ lvdrs, listsWWN dd.wwn lvdr = true := by
  have counted : ∀ wwn : String, ∀ lvdr ∈ lvdrs,
      ((devicesOnNode lvdr).filter fun dd => dd.wwn = wwn).length ≤ 1 :=
    fun wwn lvdr member => length_filter_devicesOnNode (once lvdr member) wwn
  simp only [getSharedDiscoveredDevicesRepresentatives,
    makeDiscoveredDevicesWithNodeName, List.mem_filterMap, List.mem_filter,
    mem_objectEntries, Registry.mem_groupBy, decide_eq_true_eq]
  constructor
  · rintro ⟨group, ⟨⟨_, grouped⟩, complete⟩, head⟩
    rw [grouped] at complete head
    have everywhere :=
      (Registry.length_filter_flatMap_eq (counted group.1)).mp complete
    simp only [any_devicesOnNode] at everywhere
    cases lvdrs with
    | nil => simp at head
    | cons first rest =>
        rw [Registry.head?_filter_flatMap_cons (counted group.1 first (by simp))
          (by rw [any_devicesOnNode]; exact everywhere first (by simp))] at head
        obtain ⟨listed, same⟩ := head
        rw [← of_decide_eq_true same] at everywhere
        exact ⟨⟨first, rfl, listed⟩, everywhere⟩
  · rintro ⟨⟨first, isFirst, listed⟩, everywhere⟩
    obtain ⟨rest, rfl⟩ := List.head?_eq_some_iff.mp isFirst
    have head : (((first :: rest).flatMap devicesOnNode).filter fun other =>
        other.wwn = dd.wwn).head? = some dd :=
      (Registry.head?_filter_flatMap_cons (counted dd.wwn first (by simp))
        (by rw [any_devicesOnNode]; exact everywhere first (by simp))).mpr
          ⟨listed, by simp⟩
    refine ⟨(dd.wwn, _), ⟨⟨?_, rfl⟩, ?_⟩, head⟩
    · intro empty
      exact absurd (head.symm.trans (congrArg List.head? empty)) (by simp)
    · refine (Registry.length_filter_flatMap_eq (counted dd.wwn)).mpr ?_
      simpa only [any_devicesOnNode] using everywhere

/-- The offered LUNs are those of the devices that the console takes for shared
and unused. -/
theorem mem_makeLuns
    {gib : Int → String}
    {lvdrs : List DiscoveryResult}
    {localDisks : List Unstructured}
    (once : ListsOnce lvdrs)
    {lun : Lun} :
    lun ∈ makeLuns gib lvdrs localDisks ↔
      ∃ dd, Offers lvdrs localDisks dd ∧ toLun gib dd = lun := by
  have free : ∀ dd, outDevicesUsedByLocalDisks localDisks dd = true ↔
      ∀ localDisk ∈ localDisks, localDisk.metadata.name ≠ dd.wwn := by
    simp [outDevicesUsedByLocalDisks]
  rw [makeLuns, List.mem_map]
  refine exists_congr fun dd => and_congr_left fun _ => ?_
  rw [List.mem_filter, mem_getSharedDiscoveredDevicesRepresentatives once, free]
  exact ⟨fun ⟨⟨listed, everywhere⟩, unused⟩ => ⟨listed, everywhere, unused⟩,
    fun offers => ⟨⟨offers.listed, offers.everywhere⟩, offers.unused⟩⟩

/-- The devices of a claim are the paths of the LUNs that were selected. -/
theorem mem_selectedDevices
    {chosen : Lun → Bool} {luns : List Lun} {path : String} :
    path ∈ selectedDevices (selectLuns chosen luns) ↔
      ∃ lun ∈ luns, chosen lun = true ∧ lun.path = path := by
  simp only [selectedDevices, selectLuns, List.mem_map, List.mem_filter]
  constructor
  · rintro ⟨_, ⟨⟨lun, member, rfl⟩, selected⟩, rfl⟩
    exact ⟨lun, member, selected, rfl⟩
  · rintro ⟨lun, member, selected, rfl⟩
    exact ⟨_, ⟨⟨lun, member, rfl⟩, selected⟩, rfl⟩

/-! ## Agreement -/

/-- A discovery result with what the controller reads of it. -/
def observed (lvdr : DiscoveryResult) : LocalVolumeDiscoveryResult where
  metadata := lvdr.metadata
  discoveredDevices := lvdr.discoveredDevices.map fun device =>
    device.toDiscoveredDevice

/-- The cluster with the given discovery results. -/
def withResults (cluster : Cluster) (results : List DiscoveryResult) : Cluster :=
  { cluster with discoveryResults := results.map observed }

/-- The controller accepts devices, unless a call fails. -/
def Accepts (cluster : Cluster) (devices : List String) : Prop :=
  ∀ (fsc : FileSystemClaim) (choices : Nat → Choice), fsc.devices = devices →
    (∀ index, (choices index).fault = .none) →
      (Program.run apiServer (validateDevices fsc).run choices cluster).value = .ok ()

theorem accepts_iff {cluster : Cluster} {devices : List String} :
    Accepts cluster devices ↔ validates cluster devices = true := by
  constructor
  · intro accepts
    exact validates_of_validateDevices (accepts
      { metadata := { name := "" }, devices } (fun _ => {}) rfl fun _ => rfl)
  · rintro valid fsc choices rfl faultFree
    exact validateDevices_of_validates faultFree valid

/-- Each storage node has its discovery result, and each lists the path under
which the console's first result lists a device that the console offers. -/
def PathsAgree (cluster : Cluster) (results : List DiscoveryResult) : Prop :=
  ∀ dd, Offers (storageNodesLvdrs cluster results) (watchedLocalDisks cluster) dd →
    discoveryComplete (withResults cluster results) = true ∧
      ∀ nodeName ∈ storageNodes cluster,
        listsDevice (withResults cluster results) dd.device.path nodeName = true

/-- Whatever a user selects of the offered LUNs, the claim for it is
accepted. -/
def AcceptsSelections
    (gib : Int → String) (cluster : Cluster) (results : List DiscoveryResult) :
    Prop :=
  ∀ chosen : Lun → Bool,
    let devices := selectedDevices (selectLuns chosen (offeredLuns gib cluster results))
    devices ≠ [] → Accepts (withResults cluster results) devices

theorem pathsAgree_iff {cluster : Cluster} {results : List DiscoveryResult} :
    PathsAgree cluster results ↔
      ∀ dd, Offers (storageNodesLvdrs cluster results) (watchedLocalDisks cluster) dd →
        validates (withResults cluster results) [dd.device.path] = true := by
  refine forall₂_congr fun dd _ => ?_
  rw [validates_iff, List.forall_mem_singleton, isShared, List.all_eq_true]
  rfl

/-- Devices are fit when there are some and each of them is. -/
theorem validates_of_forall
    {cluster : Cluster} {devices : List String}
    (some : devices ≠ [])
    (each : ∀ device ∈ devices, validates cluster [device] = true) :
    validates cluster devices = true := by
  simp only [validates_iff, List.forall_mem_singleton] at each ⊢
  obtain ⟨device, member⟩ := List.exists_mem_of_ne_nil devices some
  exact ⟨(each device member).1, fun device member => (each device member).2⟩

theorem validates_of_mem
    {cluster : Cluster} {devices : List String} {device : String}
    (valid : validates cluster devices = true)
    (member : device ∈ devices) :
    validates cluster [device] = true := by
  rw [validates_iff] at valid ⊢
  exact ⟨valid.1, by simpa using valid.2 device member⟩

/-- The controller accepts every selection of the offered LUNs if and only if
the discovery results of all storage nodes are there and list the paths that
are offered. -/
theorem offered_luns_accepted
    (gib : Int → String)
    {cluster : Cluster}
    {results : List DiscoveryResult}
    (once : ListsOnce results) :
    AcceptsSelections gib cluster results ↔ PathsAgree cluster results := by
  have onceHere : ListsOnce (storageNodesLvdrs cluster results) :=
    fun lvdr member => once lvdr
      (List.mem_of_mem_filter (List.mem_of_mem_filter member))
  rw [pathsAgree_iff]
  constructor
  · intro accepted dd offers
    -- a user may select nothing but the LUNs with this path
    have listed : dd.device.path ∈ selectedDevices (selectLuns
        (fun lun => lun.path = dd.device.path) (offeredLuns gib cluster results)) :=
      mem_selectedDevices.mpr
        ⟨_, (mem_makeLuns onceHere).mpr ⟨dd, offers, rfl⟩, by simp [toLun], rfl⟩
    exact validates_of_mem
      (accepts_iff.mp (accepted _ (List.ne_nil_of_mem listed))) listed
  · intro agree chosen devices some
    refine accepts_iff.mpr (validates_of_forall some fun device member => ?_)
    obtain ⟨lun, offered, _, rfl⟩ := mem_selectedDevices.mp member
    obtain ⟨dd, offers, rfl⟩ := (mem_makeLuns onceHere).mp offered
    exact agree dd offers

/-! ## Two storage nodes -/

/-- A node with both labels. -/
def storageNode (name : String) : Node :=
  ⟨name, [(workerNodeRoleLabel, ""), (scaleStorageRoleLabel, scaleStorageRoleValue)]⟩

/-- A cluster of two storage nodes. -/
def pairCluster : Cluster where
  nodes := [storageNode "a", storageNode "b"]
  deploymentNamespace := some fusionAccessNamespace

/-- The discovery result of a node that sees one disk under the given path. -/
def resultOn (nodeName path : String) : DiscoveryResult where
  metadata := {
    name := discoveryResultName nodeName
    ns := fusionAccessNamespace }
  nodeName := nodeName
  discoveredDevices := [{ path, wwn := "uuid.1" }]

/-- The disk as the node lists it. -/
def diskOn (nodeName path : String) : DeviceOnNode :=
  ⟨{ path, wwn := "uuid.1" }, nodeName⟩

/-- The disk has one path on both nodes. -/
theorem offered_luns_accepted_pairCluster :
    AcceptsSelections toString pairCluster
      [resultOn "a" "/dev/sdb", resultOn "b" "/dev/sdb"] := by
  refine (offered_luns_accepted toString
    (by simp [ListsOnce, resultOn])).mpr ?_
  rintro dd ⟨⟨first, isFirst, listed⟩, _, _⟩
  have isDisk : dd = diskOn "a" "/dev/sdb" := by
    have onNode : first = resultOn "a" "/dev/sdb" := by
      have head : (storageNodesLvdrs pairCluster
          [resultOn "a" "/dev/sdb", resultOn "b" "/dev/sdb"]).head? =
            some (resultOn "a" "/dev/sdb") := by decide
      rw [head] at isFirst
      exact (Option.some.inj isFirst).symm
    subst onNode
    simpa [devicesOnNode, resultOn, toDiscoveredDeviceWithNodeName, diskOn] using listed
  subst isDisk
  exact ⟨by decide, by decide⟩

/-- The console offers the disk of the first result, under the path it has
there. -/
theorem not_acceptsSelections
    {results : List DiscoveryResult}
    (dd : DeviceOnNode)
    (once : ListsOnce (storageNodesLvdrs pairCluster results))
    (offers : Offers (storageNodesLvdrs pairCluster results)
      (watchedLocalDisks pairCluster) dd)
    (unfit : validates (withResults pairCluster results) [dd.device.path] = false) :
    ¬AcceptsSelections toString pairCluster results := by
  intro accepted
  have listed : dd.device.path ∈ selectedDevices (selectLuns (fun _ => true)
      (offeredLuns toString pairCluster results)) :=
    mem_selectedDevices.mpr
      ⟨_, (mem_makeLuns once).mpr ⟨dd, offers, rfl⟩, rfl, rfl⟩
  have valid := validates_of_mem
    (accepts_iff.mp (accepted _ (List.ne_nil_of_mem listed))) listed
  rw [unfit] at valid
  cases valid

/-- The disk has another path on the second node, or the second node has no
discovery result. -/
theorem offered_luns_rejected :
    ¬AcceptsSelections toString pairCluster
        [resultOn "a" "/dev/sdb", resultOn "b" "/dev/sdc"] ∧
      ¬AcceptsSelections toString pairCluster [resultOn "a" "/dev/sdb"] := by
  constructor
  · exact not_acceptsSelections (diskOn "a" "/dev/sdb")
      (by unfold ListsOnce; decide)
      ⟨⟨resultOn "a" "/dev/sdb", by decide, by decide⟩, by decide, by decide⟩
      (by decide)
  · exact not_acceptsSelections (diskOn "a" "/dev/sdb")
      (by unfold ListsOnce; decide)
      ⟨⟨resultOn "a" "/dev/sdb", by decide, by decide⟩, by decide, by decide⟩
      (by decide)

end Console
