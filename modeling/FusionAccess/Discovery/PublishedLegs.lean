import FusionAccess.Discovery.BlockDevices

/-!
# Published block devices

A disk with several paths is listed once for each of them. Of the legs with one
WWN that are not left out the last one is published. What is published is
compared with the whole tree of the leg: whether anything that is built on it is
in use, and whether its path can be told.
-/

namespace Discovery

/-- The block devices that are not left out. -/
def eligible (blockDevices : List BlockDevice) : List BlockDevice :=
  blockDevices.filter fun device => !ignoreDevices device

/-- The last of these with a WWN. -/
def publishedLeg? (blockDevices : List BlockDevice) (wwn : String) :
    Option BlockDevice :=
  Registry.find? (fun device => device.attributes.wwn) wwn
    (eligible blockDevices).reverse

mutual

/-- The attributes of a device and of what is built on it, at any depth. -/
def BlockDevice.subtree : BlockDevice → List DeviceAttributes
  | .mk attributes children => attributes :: subtrees children

/-- The same for a list of devices. -/
def subtrees : List BlockDevice → List DeviceAttributes
  | [] => []
  | device :: others => device.subtree ++ subtrees others

end

/-- The attributes of what is built on a device. -/
def BlockDevice.descendants (device : BlockDevice) : List DeviceAttributes :=
  subtrees device.children

/-! ## One leg for each WWN -/

theorem mem_eligible
    {blockDevices : List BlockDevice} {device : BlockDevice} :
    device ∈ eligible blockDevices ↔
      device ∈ blockDevices ∧ ignoreDevices device = false := by
  simp [eligible]

theorem publishedLeg?_eq_some
    {blockDevices : List BlockDevice} {wwn : String} {device : BlockDevice}
    (published : publishedLeg? blockDevices wwn = some device) :
    device ∈ eligible blockDevices ∧ device.attributes.wwn = wwn := by
  obtain ⟨listed, sameWWN⟩ := Registry.find?_eq_some published
  exact ⟨List.mem_reverse.mp listed, sameWWN⟩

/-- Some leg of an eligible device is published. -/
theorem exists_publishedLeg?
    {blockDevices : List BlockDevice} {device : BlockDevice}
    (listed : device ∈ eligible blockDevices) :
    ∃ leg, publishedLeg? blockDevices device.attributes.wwn = some leg := by
  have found := @Registry.find?_isSome_of_mem _ _ _
    (fun device : BlockDevice => device.attributes.wwn) _ device
    (List.mem_reverse.mpr listed)
  exact Option.isSome_iff_exists.mp found

/-- The entries are those of the published legs. -/
theorem mem_getDiscoverdDevices_iff
    {blockDevices : List BlockDevice} {entry : DiscoveredDevice} :
    entry ∈ getDiscoverdDevices blockDevices ↔
      ∃ leg, publishedLeg? blockDevices entry.wwn = some leg ∧
        discoveredDevice leg = entry := by
  unfold getDiscoverdDevices uniqueDevices publishedLeg? Registry.find?
  rw [Registry.mem_foldl_upsert, Registry.find?, ← List.map_reverse, List.find?_map,
    Option.map_eq_some_iff]
  rfl

/-- No two entries have the same WWN. -/
theorem nodup_getDiscoverdDevices (blockDevices : List BlockDevice) :
    ((getDiscoverdDevices blockDevices).map fun entry => entry.wwn).Nodup := by
  apply Registry.nodup_foldl_upsert
  exact List.nodup_nil

end Discovery
