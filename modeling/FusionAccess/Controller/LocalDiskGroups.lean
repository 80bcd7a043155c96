import FusionAccess.Controller.Migration
import FusionAccess.Registry.Entries
import FusionAccess.Registry.Groups

/-!
# Groups of LocalDisks

The migration files each LocalDisk under the filesystem that uses it. Its loop is the
grouping of records by a key, after the disks that no filesystem uses are dropped: the
groups are a partition of the others, and each of them tells the device paths of its
own disks.
-/

namespace FusionAccess

open Kubernetes

/-! ## The map -/

/-- One turn of the loop, with the keys of its map. -/
def fileLocalDisk
    (groups : Registry.Entries String LegacyResourceGroup) (ld : Unstructured) :
    Registry.Entries String LegacyResourceGroup :=
  if ld.filesystem = "" then groups
  else
    let group := (groups.get? ld.filesystem).getD { filesystemName := ld.filesystem }
    groups.set ld.filesystem (group.add ld)

/-- `groupLocalDisksByFilesystem`, with the keys of its map. -/
def localDiskGroups (localDisks : List Unstructured) :
    Registry.Entries String LegacyResourceGroup :=
  localDisks.foldl fileLocalDisk []

/-- The map has each group under its name. -/
theorem get?_localDiskGroups (localDisks : List Unstructured) (name : String) :
    (localDiskGroups localDisks).get? name =
      Registry.find? LegacyResourceGroup.filesystemName name
        (groupLocalDisksByFilesystem localDisks) := by
  induction localDisks using List.reverseRecOn generalizing name with
  | nil => rfl
  | append_singleton lds ld inductionHypothesis =>
      have same := inductionHypothesis ld.filesystem
      unfold localDiskGroups groupLocalDisksByFilesystem at same inductionHypothesis ⊢
      rw [List.foldl_append, List.foldl_append]
      simp only [List.foldl_cons, List.foldl_nil]
      rw [fileLocalDisk, addToGroups]
      split
      · exact inductionHypothesis name
      next used =>
        rw [same]
        dsimp only
        rw [Registry.Entries.get?_set, Registry.find?_upsert, inductionHypothesis name]
        -- the group that gets the disk is named after its filesystem
        have named : ((Registry.find? LegacyResourceGroup.filesystemName ld.filesystem
            (lds.foldl addToGroups [])).getD
              { filesystemName := ld.filesystem }).filesystemName = ld.filesystem := by
          cases found : Registry.find? LegacyResourceGroup.filesystemName ld.filesystem
              (lds.foldl addToGroups []) with
          | none => rfl
          | some group => exact (Registry.find?_eq_some found).2
        have named' : ∀ group : LegacyResourceGroup,
            (group.add ld).filesystemName = group.filesystemName := fun _ => rfl
        rw [named', named]

/-! ## The partition -/

/-- The LocalDisks that a filesystem uses. -/
def usedBy (name : String) (localDisks : List Unstructured) : List Unstructured :=
  localDisks.filter fun ld => ld.filesystem = name

/-- The LocalDisks that some filesystem uses. -/
def inUse (localDisks : List Unstructured) : List Unstructured :=
  localDisks.filter fun ld => ld.filesystem ≠ ""

/-- The group of a filesystem with the given disks. -/
def filesystemGroup (name : String) (localDisks : List Unstructured) :
    LegacyResourceGroup where
  filesystemName := name
  localDisks := localDisks
  devicePaths := (localDisks.map fun ld => ld.specString "device").filter (· ≠ "")

theorem add_filesystemGroup
    (name : String) (localDisks : List Unstructured) (ld : Unstructured) :
    (filesystemGroup name localDisks).add ld =
      filesystemGroup name (localDisks ++ [ld]) := by
  unfold LegacyResourceGroup.add filesystemGroup
  by_cases device : ld.specString "device" = ""
  · simp [device]
  · simp [device]

/-- The groups that are made of disks by filesystem. -/
def filesystemGroups (groups : List (String × List Unstructured)) :
    List LegacyResourceGroup :=
  groups.map fun group => filesystemGroup group.1 group.2

theorem find?_filesystemGroups
    (groups : List (String × List Unstructured)) (name : String) :
    Registry.find? LegacyResourceGroup.filesystemName name (filesystemGroups groups) =
      (Registry.find? Prod.fst name groups).map fun group =>
        filesystemGroup group.1 group.2 :=
  Registry.find?_map _ groups

/-- The turn for a disk in use puts it into the group of its key. -/
theorem addToGroups_filesystemGroups
    (groups : List (String × List Unstructured)) {ld : Unstructured}
    (used : ld.filesystem ≠ "") :
    addToGroups (filesystemGroups groups) ld =
      filesystemGroups (Registry.addToGroup Unstructured.filesystem groups ld) := by
  have current : (Registry.find? LegacyResourceGroup.filesystemName ld.filesystem
      (filesystemGroups groups)).getD { filesystemName := ld.filesystem } =
        filesystemGroup ld.filesystem
          ((Registry.find? Prod.fst ld.filesystem groups).elim [] Prod.snd) := by
    rw [find?_filesystemGroups]
    cases found : Registry.find? Prod.fst ld.filesystem groups with
    | none => rfl
    | some group =>
        have named : group.1 = ld.filesystem := (Registry.find?_eq_some found).2
        rw [Option.map_some, Option.getD_some, named]
        rfl
  unfold addToGroups
  rw [if_neg used, current]
  dsimp only
  rw [add_filesystemGroup]
  exact Registry.upsert_map (fun group : String × List Unstructured =>
    filesystemGroup group.1 group.2) (ld.filesystem, _) groups

/-- The loop groups the disks in use by their filesystems. -/
theorem groupLocalDisksByFilesystem_eq (localDisks : List Unstructured) :
    groupLocalDisksByFilesystem localDisks =
      filesystemGroups (Registry.groupBy Unstructured.filesystem (inUse localDisks)) := by
  unfold groupLocalDisksByFilesystem Registry.groupBy
  induction localDisks using List.reverseRecOn with
  | nil => rfl
  | append_singleton lds ld inductionHypothesis =>
      rw [List.foldl_append, List.foldl_cons, List.foldl_nil, inductionHypothesis]
      by_cases used : ld.filesystem = ""
      · have dropped : inUse (lds ++ [ld]) = inUse lds := by
          simp [inUse, List.filter_append, used]
        rw [dropped, addToGroups, if_pos used]
      · have kept : inUse (lds ++ [ld]) = inUse lds ++ [ld] := by
          simp [inUse, List.filter_append, used]
        rw [addToGroups_filesystemGroups _ used, kept, List.foldl_append]
        rfl

theorem filter_inUse
    {name : String} (named : name ≠ "") (localDisks : List Unstructured) :
    ((inUse localDisks).filter fun ld => ld.filesystem = name) =
      usedBy name localDisks := by
  unfold inUse usedBy
  rw [List.filter_filter]
  congr 1
  funext ld
  by_cases same : ld.filesystem = name
  · simp [same, named]
  · simp [same]

/-- Each filesystem that is used by a disk has one group, with all of its disks. -/
theorem find?_groupLocalDisks (localDisks : List Unstructured) (name : String) :
    Registry.find? LegacyResourceGroup.filesystemName name
        (groupLocalDisksByFilesystem localDisks) =
      if name = "" ∨ usedBy name localDisks = [] then none
      else some (filesystemGroup name (usedBy name localDisks)) := by
  rw [groupLocalDisksByFilesystem_eq, find?_filesystemGroups, Registry.find?_groupBy]
  by_cases named : name = ""
  · have unused : ((inUse localDisks).filter fun ld => ld.filesystem = name) = [] := by
      rw [List.filter_eq_nil_iff]
      intro ld member same
      exact of_decide_eq_true (List.mem_filter.mp member).2
        ((of_decide_eq_true same).trans named)
    rw [unused, if_pos rfl, if_pos (Or.inl named), Option.map_none]
  · rw [filter_inUse named]
    simp only [or_iff_right named]
    split <;> rfl

/-- The groups are a partition of the disks in use: each of them is in the group under
the name of its filesystem and in no other, as often and in the order in which it is
listed, and the group tells the device paths of its disks. -/
theorem groupLocalDisks_partitions (localDisks : List Unstructured) :
    (∀ name, (localDiskGroups localDisks).get? name =
      if name = "" ∨ usedBy name localDisks = [] then none
      else some (filesystemGroup name (usedBy name localDisks))) ∧
      (∀ ld ∈ localDisks, ∀ name,
        (∃ group, (localDiskGroups localDisks).get? name = some group ∧
          ld ∈ group.localDisks) ↔ name ≠ "" ∧ name = ld.filesystem) ∧
      ((groupLocalDisksByFilesystem localDisks).flatMap
        LegacyResourceGroup.localDisks).Perm (inUse localDisks) := by
  have lookup : ∀ name, (localDiskGroups localDisks).get? name =
      if name = "" ∨ usedBy name localDisks = [] then none
      else some (filesystemGroup name (usedBy name localDisks)) := by
    intro name
    rw [get?_localDiskGroups, find?_groupLocalDisks]
  refine ⟨lookup, fun ld listed name => ?_, ?_⟩
  · rw [lookup]
    constructor
    · rintro ⟨group, found, member⟩
      split at found
      · cases found
      next both =>
        cases found
        rw [not_or] at both
        exact ⟨both.1, (of_decide_eq_true (List.mem_filter.mp member).2).symm⟩
    · rintro ⟨named, same⟩
      have member : ld ∈ usedBy name localDisks :=
        List.mem_filter.mpr ⟨listed, decide_eq_true same.symm⟩
      have notNone : ¬(name = "" ∨ usedBy name localDisks = []) := by
        rw [not_or]
        exact ⟨named, List.ne_nil_of_mem member⟩
      rw [if_neg notNone]
      exact ⟨_, rfl, member⟩
  · rw [groupLocalDisksByFilesystem_eq, filesystemGroups, List.flatMap_map]
    exact Registry.perm_flatMap_groupBy Unstructured.filesystem (inUse localDisks)

end FusionAccess
