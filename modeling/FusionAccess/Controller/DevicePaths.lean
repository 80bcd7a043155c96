import FusionAccess.Controller.DeviceValidation

/-!
# One path, several disks

`validateDevices` looks for the path of each device on every storage node. The
LocalDisk is named after the WWN that one of these nodes gives for the path. The
name does not depend on the node when the path leads to the same disk on all of
them, which nothing checks.
-/

namespace FusionAccess

open Kubernetes Interaction Fallible

/-- What any two storage nodes list under the path carries the same WWN. -/
def NamesOneDisk (cluster : Cluster) (devicePath : String) : Prop :=
  ∀ first ∈ storageNodes cluster, ∀ second ∈ storageNodes cluster, first ≠ second →
    ∀ lvdr ∈ nodeResult? cluster first, ∀ lvdr' ∈ nodeResult? cluster second,
      ∀ device ∈ lvdr.discoveredDevices, device.path = devicePath →
        ∀ device' ∈ lvdr'.discoveredDevices, device'.path = devicePath →
          device.wwn = device'.wwn

/-- Whatever numbers are drawn, the LocalDisk for the path has the same name. -/
def NamedAlike (cluster : Cluster) (devicePath : String) : Prop :=
  ∀ pick pick', localDiskName? cluster devicePath (drawnNode cluster pick) =
    localDiskName? cluster devicePath (drawnNode cluster pick')

/-- When `validateDevices` succeeds, each path names one disk and one LocalDisk. -/
def ValidatesDisks (cluster : Cluster) (fsc : FileSystemClaim) : Prop :=
  ∀ choices, (Program.run apiServer (validateDevices fsc).run choices cluster).value =
    .ok () →
      ∀ devicePath ∈ fsc.devices, NamesOneDisk cluster devicePath ∧
        NamedAlike cluster devicePath

variable {cluster : Cluster}

/-- A listed path has the WWN of its first entry. -/
theorem exists_wwnOf
    {devicePath : String} {lvdr : LocalVolumeDiscoveryResult}
    (listed : (lvdr.discoveredDevices.any fun device => device.path = devicePath) = true) :
    ∃ device ∈ lvdr.discoveredDevices, device.path = devicePath ∧
      ∀ nodeName, (wwnOf devicePath nodeName lvdr).toOption =
        if device.wwn = "" then none else some device.wwn := by
  cases found : lvdr.discoveredDevices.find? fun device => device.path = devicePath with
  | none =>
      rw [List.find?_eq_none] at found
      obtain ⟨device, member, named⟩ := List.any_eq_true.mp listed
      exact absurd named (found device member)
  | some device =>
      refine ⟨device, List.mem_of_find?_eq_some found,
        by simpa using List.find?_some found, fun nodeName => ?_⟩
      rw [wwnOf, found]
      dsimp only
      split <;> rfl

/-- The name of a LocalDisk comes from the discovery result of the node. -/
theorem localDiskName?_of_nodeResult
    {devicePath nodeName : String} {lvdr : LocalVolumeDiscoveryResult}
    (result : nodeResult? cluster nodeName = some lvdr) :
    localDiskName? cluster devicePath nodeName =
      ((wwnOf devicePath nodeName lvdr).toOption).bind fun wwn =>
        (generateLocalDiskName wwn).toOption := by
  obtain ⟨operatorNamespace, deployed, found⟩ := Option.bind_eq_some_iff.mp result
  rw [localDiskName?, knownWWN?, deployed, Option.bind_some, found, Option.bind_some]

/-- A path that all storage nodes list and that names one disk gives one name. -/
theorem namedAlike_of_namesOneDisk
    {devicePath : String}
    (nodes : storageNodes cluster ≠ [])
    (shared : isShared cluster devicePath = true)
    (oneDisk : NamesOneDisk cluster devicePath) :
    NamedAlike cluster devicePath := by
  have lists : ∀ nodeName ∈ storageNodes cluster, ∃ lvdr,
      nodeResult? cluster nodeName = some lvdr ∧
        (lvdr.discoveredDevices.any fun device => device.path = devicePath) = true := by
    intro nodeName member
    have found := List.all_eq_true.mp shared nodeName member
    unfold listsDevice at found
    cases result : nodeResult? cluster nodeName with
    | none =>
        rw [result] at found
        cases found
    | some lvdr =>
        rw [result, Option.any_some] at found
        exact ⟨lvdr, rfl, found⟩
  intro pick pick'
  have member := drawnNode_mem nodes pick
  have member' := drawnNode_mem nodes pick'
  by_cases same : drawnNode cluster pick = drawnNode cluster pick'
  · rw [same]
  obtain ⟨lvdr, result, listed⟩ := lists _ member
  obtain ⟨lvdr', result', listed'⟩ := lists _ member'
  obtain ⟨device, entry, named, wwn⟩ := exists_wwnOf listed
  obtain ⟨device', entry', named', wwn'⟩ := exists_wwnOf listed'
  have agree : device.wwn = device'.wwn :=
    oneDisk _ member _ member' same lvdr result lvdr' result' device entry named device'
      entry' named'
  rw [localDiskName?_of_nodeResult result, localDiskName?_of_nodeResult result', wwn, wwn',
    agree]

/-- Validation means one disk for each path if and only if the devices are not fit or
each of their paths leads to the same disk on all storage nodes. -/
theorem validation_means_one_disk (cluster : Cluster) (fsc : FileSystemClaim) :
    ValidatesDisks cluster fsc ↔
      (validates cluster fsc.devices = true →
        ∀ devicePath ∈ fsc.devices, NamesOneDisk cluster devicePath) := by
  constructor
  · intro validated valid devicePath member
    exact (validated calm (validateDevices_of_validates (fun _ => rfl) valid) devicePath
      member).1
  · intro oneDisk choices accepted devicePath member
    have valid := validates_of_validateDevices accepted
    obtain ⟨complete, shared⟩ := validates_iff.mp valid
    have nodes : storageNodes cluster ≠ [] := by
      rintro none
      simp [discoveryComplete, none] at complete
    have names := oneDisk valid devicePath member
    exact ⟨names, namedAlike_of_namesOneDisk nodes (shared devicePath member) names⟩

/-! ## Two disks -/

/-- Two storage nodes to which the same path leads to different disks. -/
def crossedCluster : Cluster where
  nodes := ["a", "b"].map fun name => ⟨name, [(workerNodeRoleLabel, ""),
    (scaleStorageRoleLabel, scaleStorageRoleValue)]⟩
  discoveryResults := [
    ⟨{ name := "discovery-result-a", ns := "operator" }, [⟨"/dev/sdb", "uuid.1"⟩]⟩,
    ⟨{ name := "discovery-result-b", ns := "operator" }, [⟨"/dev/sdb", "uuid.2"⟩]⟩]
  deploymentNamespace := some "operator"

/-- The path is accepted, although the name of the LocalDisk depends on the number that
is drawn. -/
theorem crossed_paths_accepted :
    (∀ lvdr ∈ crossedCluster.discoveryResults,
        (lvdr.discoveredDevices.map DiscoveredDevice.wwn).Nodup) ∧
      (Program.run apiServer (validateDevices readyClaim).run calm crossedCluster).value =
        .ok () ∧
      localDiskName? crossedCluster "/dev/sdb" (drawnNode crossedCluster 0) =
        some "uuid.1" ∧
      localDiskName? crossedCluster "/dev/sdb" (drawnNode crossedCluster 1) =
        some "uuid.2" ∧
      ¬ValidatesDisks crossedCluster readyClaim := by
  have valid : validates crossedCluster readyClaim.devices = true := by decide
  have accepted := @validateDevices_of_validates crossedCluster readyClaim calm (fun _ => rfl) valid
  refine ⟨by decide, accepted, by decide, by decide, fun validated => ?_⟩
  have alike := (validated calm accepted "/dev/sdb" (List.mem_singleton_self _)).2 0 1
  revert alike
  decide

end FusionAccess
