import FusionAccess.Discovery.PublishedLegs

/-!
# Paths of published devices

The path of a leg of a multipath device is that of its first child, and there is
none while the child is missing. Such a leg is published without a path, also in
place of another one whose path can be told.
-/

namespace Discovery

/-- The path of a device can be told. -/
def BlockDevice.HasPath (device : BlockDevice) : Prop :=
  if device.attributes.fsType = mpathMember then device.children ≠ []
  else device.attributes.path ≠ ""

/-- Every listed device has a path and a kernel name. -/
def NamesGiven (blockDevices : List BlockDevice) : Prop :=
  ∀ attributes ∈ subtrees blockDevices,
    attributes.path ≠ "" ∧ attributes.kName ≠ ""

/-- Some eligible leg of a WWN has a path. -/
def SomeLegResolves (blockDevices : List BlockDevice) (wwn : String) : Prop :=
  ∃ leg ∈ eligible blockDevices, leg.attributes.wwn = wwn ∧
    ∃ path, leg.getDevPath = .ok path ∧ path ≠ ""

/-- Every entry has a path where names are given, and the one entry of a WWN has
one where some leg has. -/
def EveryPublishedHasPath (blockDevices : List BlockDevice) : Prop :=
  (NamesGiven blockDevices →
    ∀ entry ∈ getDiscoverdDevices blockDevices, entry.path ≠ "") ∧
  ∀ wwn, SomeLegResolves blockDevices wwn →
    ∃ entry, (getDiscoverdDevices blockDevices).filter
        (fun entry => entry.wwn = wwn) = [entry] ∧
      entry.path ≠ ""

/-! ## Paths -/

/-- A text that begins with a slash is not empty. -/
theorem dev_append_ne_empty (name : String) : "/dev/" ++ name ≠ "" := by
  intro equal
  have lengths := congrArg String.length equal
  rw [String.length_append] at lengths
  exact absurd lengths (by simp)

theorem exists_getDevPath_iff
    {device : BlockDevice} :
    (∃ path, device.getDevPath = .ok path ∧ path ≠ "") ↔ device.HasPath := by
  obtain ⟨attributes, children⟩ := device
  unfold BlockDevice.getDevPath BlockDevice.HasPath
  split
  next member =>
    cases children with
    | nil => simp [BlockDevice.children]
    | cons child others =>
        constructor
        · intro _
          exact List.cons_ne_nil _ _
        · intro _
          exact ⟨_, rfl, dev_append_ne_empty child.attributes.kName⟩
  · constructor
    · rintro ⟨path, resolved, given⟩
      cases resolved
      exact given
    · intro given
      exact ⟨_, rfl, given⟩

/-- The entry of a device has a path just if one can be told. -/
theorem path_discoveredDevice_ne_empty_iff
    {device : BlockDevice} :
    (discoveredDevice device).path ≠ "" ↔ device.HasPath := by
  rw [← exists_getDevPath_iff]
  change device.getDevPath.toOption.getD "" ≠ "" ↔ _
  cases device.getDevPath with
  | error _ => simp [Except.toOption]
  | ok path => simp [Except.toOption]

/-! ## Published devices -/

/-- The leg that is published makes the one entry of its WWN. -/
theorem filter_getDiscoverdDevices
    {blockDevices : List BlockDevice} {wwn : String} {leg : BlockDevice}
    (published : publishedLeg? blockDevices wwn = some leg) :
    (getDiscoverdDevices blockDevices).filter (fun entry => entry.wwn = wwn) =
      [discoveredDevice leg] := by
  obtain ⟨-, sameWWN⟩ := publishedLeg?_eq_some published
  have listed : discoveredDevice leg ∈ getDiscoverdDevices blockDevices := by
    rw [mem_getDiscoverdDevices_iff]
    refine ⟨leg, ?_, rfl⟩
    rw [← published, ← sameWWN]
    rfl
  have single := Registry.filter_eq_singleton (nodup_getDiscoverdDevices blockDevices)
    listed
  rw [← single, ← sameWWN]
  rfl

/-- A leg with a path belongs to a WWN with a published leg. -/
theorem SomeLegResolves.published
    {blockDevices : List BlockDevice} {wwn : String}
    (resolves : SomeLegResolves blockDevices wwn) :
    ∃ leg, publishedLeg? blockDevices wwn = some leg := by
  obtain ⟨leg, listed, rfl, -⟩ := resolves
  exact exists_publishedLeg? listed

/-- Every published device has its path just if the last eligible leg of every
WWN has one where names are given or another leg has one. -/
theorem every_published_has_path_iff
    (blockDevices : List BlockDevice) :
    EveryPublishedHasPath blockDevices ↔
      ∀ wwn leg, publishedLeg? blockDevices wwn = some leg →
        NamesGiven blockDevices ∨ SomeLegResolves blockDevices wwn →
          leg.HasPath := by
  constructor
  · rintro ⟨named, resolved⟩ wwn leg published (given | resolves)
    · have single := filter_getDiscoverdDevices published
      have listed : discoveredDevice leg ∈ getDiscoverdDevices blockDevices := by
        apply List.mem_of_mem_filter
        rw [single]
        exact List.mem_singleton_self _
      exact path_discoveredDevice_ne_empty_iff.mp (named given _ listed)
    · obtain ⟨entry, single, path⟩ := resolved wwn resolves
      rw [filter_getDiscoverdDevices published] at single
      cases single
      exact path_discoveredDevice_ne_empty_iff.mp path
  · intro hasPath
    constructor
    · intro given entry listed
      obtain ⟨leg, published, rfl⟩ := mem_getDiscoverdDevices_iff.mp listed
      exact path_discoveredDevice_ne_empty_iff.mpr
        (hasPath _ leg published (Or.inl given))
    · intro wwn resolves
      obtain ⟨leg, published⟩ := resolves.published
      refine ⟨discoveredDevice leg, filter_getDiscoverdDevices published, ?_⟩
      exact path_discoveredDevice_ne_empty_iff.mpr
        (hasPath wwn leg published (Or.inr resolves))

/-- Two legs of one WWN, of which only the first shows the multipath device. -/
def flappingLegs : List BlockDevice :=
  [.mk { name := "sda", kName := "sda", path := "/dev/sda", type := "disk", size := 1024,
         wwn := "0x5000", fsType := mpathMember }
     [.mk { name := "mpatha", kName := "dm-0", path := "/dev/mapper/mpatha",
            type := "mpath", size := 1024, wwn := "0x5000" } []],
   .mk { name := "sdb", kName := "sdb", path := "/dev/sdb", type := "disk", size := 1024,
         wwn := "0x5000", fsType := mpathMember } []]

/-- The one without is published. -/
theorem flapping_leg_published_without_path :
    ¬ EveryPublishedHasPath flappingLegs := by
  rintro ⟨named, -⟩
  have given : NamesGiven flappingLegs := by
    unfold NamesGiven
    decide
  have listed : ∃ entry ∈ getDiscoverdDevices flappingLegs, entry.path = "" := by
    decide
  obtain ⟨entry, listed, without⟩ := listed
  exact named given entry listed without

end Discovery
