import FusionAccess.Discovery.PublishedLegs

/-!
# Published devices in use

A published device is meant to be free: nothing that is built on it is mounted,
a partition, a file system or needed to start the machine. The loop over the
children of a device looks at the first grandchild only, and at no child's mount
point.
-/

namespace Discovery

/-! ## Free devices -/

/-- A device below a free one: not mounted, no partition, without a file system
and without the label of a boot partition. -/
structure DeviceAttributes.IsIdle (attributes : DeviceAttributes) : Prop where
  mountpoint : attributes.mountpoint = ""
  partLabel : isBootLabel attributes.partLabel = false
  type : attributes.type ≠ "part"
  fsType : attributes.fsType = ""

/-- A device that may be published. -/
structure BlockDevice.IsFree (device : BlockDevice) : Prop where
  removable : device.attributes.removable = false
  readOnly : device.attributes.readOnly = false
  state : device.attributes.state ≠ stateSuspended
  size : device.attributes.size ≠ 0
  wwn : device.attributes.wwn ≠ ""
  type : device.attributes.type ∈ supportedDeviceTypes
  fsType : device.attributes.fsType = "" ∨ device.attributes.fsType = mpathMember
  mountpoint : device.attributes.mountpoint = ""
  partLabel : isBootLabel device.attributes.partLabel = false
  descendants : ∀ attributes ∈ device.descendants, attributes.IsIdle

/-- Every entry is that of a free device. -/
def OnlyFreePublished (blockDevices : List BlockDevice) : Prop :=
  ∀ entry ∈ getDiscoverdDevices blockDevices,
    ∃ device ∈ blockDevices,
      publishedLeg? blockDevices entry.wwn = some device ∧
        discoveredDevice device = entry ∧ device.IsFree

mutual

/-- What the checks of a device do not look at is idle. -/
def BlockDevice.UncheckedIdle : BlockDevice → Prop
  | .mk _ children => ChildrenUncheckedIdle children

/-- The same for the loop over the children: the mount points of the children up
to the first one with children, the file system of the first of these and what
its own checks do not look at, and all that comes after. -/
def ChildrenUncheckedIdle : List BlockDevice → Prop
  | [] => True
  | .mk attributes grandchildren :: children =>
      attributes.mountpoint = "" ∧
        match grandchildren with
        | [] => ChildrenUncheckedIdle children
        | grandchild :: others =>
            grandchild.attributes.fsType = "" ∧ grandchild.UncheckedIdle ∧
              ∀ other ∈ subtrees others ++ subtrees children, other.IsIdle

end

/-! ## What the checks establish -/

/-- The checks on a device alone. -/
theorem isUnusable_eq_false
    {device : BlockDevice}
    (usable : isUnusable device = false) :
    device.attributes.removable = false ∧
      device.attributes.readOnly = false ∧
      device.attributes.state ≠ stateSuspended ∧
      device.attributes.size ≠ 0 ∧
      device.attributes.wwn ≠ "" ∧
      device.attributes.type ∈ supportedDeviceTypes ∧
      (device.attributes.fsType = "" ∨ device.attributes.fsType = mpathMember) ∧
      device.attributes.mountpoint = "" ∧
      isBootLabel device.attributes.partLabel = false ∧
      ∀ child ∈ device.children, isBootLabel child.attributes.partLabel = false := by
  unfold isUnusable BlockDevice.biosPartition at usable
  simp only [Bool.or_eq_false_iff, Bool.and_eq_false_iff, decide_eq_false_iff_not,
    not_not, List.any_eq_false, Bool.not_eq_true] at usable
  obtain ⟨⟨⟨⟨⟨⟨⟨⟨readOnly, state⟩, type⟩, removable⟩, children, partLabel⟩,
    mountpoint⟩, size⟩, wwn⟩, fsType⟩ := usable
  exact ⟨removable, readOnly, state, size, wwn, type, fsType, mountpoint, partLabel,
    children⟩

theorem ignoreDevices_eq_false
    {attributes : DeviceAttributes} {children : List BlockDevice} :
    ignoreDevices (.mk attributes children) = false ↔
      isUnusable (.mk attributes children) = false ∧
        ignoreChildren children = false := by
  rw [ignoreDevices]
  cases isUnusable (.mk attributes children) <;> simp

/-- A supported device is no partition. -/
theorem ne_part_of_supported
    {attributes : DeviceAttributes}
    (supported : attributes.type ∈ supportedDeviceTypes) :
    attributes.type ≠ "part" := by
  intro partition
  rw [partition] at supported
  exact absurd supported (by decide)

/-- Where the loop over the children finds nothing, all that is below is idle
just if what it does not look at is. The labels of the children are checked
before the loop. -/
theorem idle_iff_childrenUncheckedIdle :
    ∀ children : List BlockDevice,
      ignoreChildren children = false →
      (∀ child ∈ children, isBootLabel child.attributes.partLabel = false) →
      ((∀ attributes ∈ subtrees children, attributes.IsIdle) ↔
        ChildrenUncheckedIdle children)
  | [], _, _ => by
      simp [subtrees, ChildrenUncheckedIdle]
  | .mk attributes [] :: children, passed, labels => by
      rw [List.forall_mem_cons] at labels
      rw [ignoreChildren] at passed
      split at passed
      · cases passed
      next noPartition =>
      split at passed
      · cases passed
      next noFileSystem =>
      have others := idle_iff_childrenUncheckedIdle children passed labels.2
      rw [subtrees, BlockDevice.subtree, subtrees, List.cons_append, List.nil_append,
        List.forall_mem_cons, ChildrenUncheckedIdle, others]
      constructor
      · rintro ⟨idle, unchecked⟩
        exact ⟨idle.mountpoint, unchecked⟩
      · rintro ⟨mountpoint, unchecked⟩
        exact ⟨⟨mountpoint, labels.1, noPartition, not_not.mp noFileSystem⟩, unchecked⟩
  | .mk attributes (.mk grandchild below :: grandchildren) :: children, passed,
      labels => by
      rw [List.forall_mem_cons] at labels
      rw [ignoreChildren] at passed
      split at passed
      · cases passed
      next noPartition =>
      split at passed
      · cases passed
      next noFileSystem =>
      -- the loop returns what it finds on the first grandchild
      obtain ⟨usable, belowPassed⟩ := ignoreDevices_eq_false.mp passed
      obtain ⟨-, -, -, -, -, supported, -, unmounted, label, belowLabels⟩ :=
        isUnusable_eq_false usable
      have deeper := idle_iff_childrenUncheckedIdle below belowPassed belowLabels
      rw [subtrees, BlockDevice.subtree, subtrees, BlockDevice.subtree,
        List.cons_append, List.cons_append, List.cons_append, List.forall_mem_cons,
        List.forall_mem_cons, List.append_assoc, List.forall_mem_append, deeper, ChildrenUncheckedIdle,
        BlockDevice.UncheckedIdle]
      constructor
      · rintro ⟨idle, grandchildIdle, unchecked, others⟩
        exact ⟨idle.mountpoint, grandchildIdle.fsType, unchecked, others⟩
      · rintro ⟨mountpoint, fsType, unchecked, others⟩
        exact ⟨⟨mountpoint, labels.1, noPartition, not_not.mp noFileSystem⟩,
          ⟨unmounted, label, ne_part_of_supported supported, fsType⟩, unchecked, others⟩

/-- A device that is not left out is free just if what is not looked at is
idle. -/
theorem isFree_iff_uncheckedIdle
    {device : BlockDevice}
    (passed : ignoreDevices device = false) :
    device.IsFree ↔ device.UncheckedIdle := by
  obtain ⟨attributes, children⟩ := device
  obtain ⟨usable, childrenPassed⟩ := ignoreDevices_eq_false.mp passed
  obtain ⟨removable, readOnly, state, size, wwn, type, fsType, mountpoint, partLabel,
    labels⟩ := isUnusable_eq_false usable
  have below := idle_iff_childrenUncheckedIdle children childrenPassed labels
  constructor
  · intro free
    exact below.mp free.descendants
  · intro unchecked
    exact ⟨removable, readOnly, state, size, wwn, type, fsType, mountpoint, partLabel,
      below.mpr unchecked⟩

/-! ## Published devices -/

/-- Only free devices are published just if what the loop does not look at is
idle on every leg that is published. -/
theorem only_free_published_iff
    (blockDevices : List BlockDevice) :
    OnlyFreePublished blockDevices ↔
      ∀ wwn device, publishedLeg? blockDevices wwn = some device →
        device.UncheckedIdle := by
  constructor
  · intro free wwn device published
    obtain ⟨eligible, sameWWN⟩ := publishedLeg?_eq_some published
    have listed : discoveredDevice device ∈ getDiscoverdDevices blockDevices := by
      rw [mem_getDiscoverdDevices_iff]
      refine ⟨device, ?_, rfl⟩
      rw [← published, ← sameWWN]
      rfl
    obtain ⟨leg, -, sameLeg, -, legFree⟩ := free _ listed
    have same : leg = device := by
      have published' : publishedLeg? blockDevices device.attributes.wwn = some leg :=
        sameLeg
      rw [sameWWN, published] at published'
      exact (Option.some.inj published').symm
    subst same
    exact (isFree_iff_uncheckedIdle (mem_eligible.mp eligible).2).mp legFree
  · intro idle entry listed
    obtain ⟨device, published, same⟩ := mem_getDiscoverdDevices_iff.mp listed
    obtain ⟨present, passed⟩ := mem_eligible.mp (publishedLeg?_eq_some published).1
    refine ⟨device, present, published, same, ?_⟩
    exact (isFree_iff_uncheckedIdle passed).mpr (idle entry.wwn device published)

/-- A disk under a multipath device on which a second volume is mounted. -/
def diskInUse : BlockDevice :=
  .mk { name := "sda", type := "disk", size := 1024, wwn := "0x5000", path := "/dev/sda",
        fsType := mpathMember }
    [.mk { name := "mpatha", type := "mpath", size := 1024, wwn := "0x5000" }
      [.mk { name := "vol1", type := "mpath", size := 512, wwn := "0x5001" } [],
       .mk { name := "vol2", type := "part", size := 512, fsType := "xfs",
             mountpoint := "/data" } []]]

/-- It is published. -/
theorem disk_in_use_published : ¬ OnlyFreePublished [diskInUse] := by
  intro free
  have listed : discoveredDevice diskInUse ∈ getDiscoverdDevices [diskInUse] := by
    decide
  obtain ⟨device, present, -, -, deviceFree⟩ := free _ listed
  rw [List.mem_singleton.mp present] at deviceFree
  have mounted : ∃ attributes ∈ diskInUse.descendants, attributes.mountpoint = "/data" := by
    decide
  obtain ⟨attributes, below, mountpoint⟩ := mounted
  have idle := (deviceFree.descendants attributes below).mountpoint
  rw [mountpoint] at idle
  exact absurd idle (by decide)

end Discovery
