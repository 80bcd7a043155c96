import FusionAccess.Controller.HelperContracts
import FusionAccess.Controller.LocalDiskGroups
import FusionAccess.Registry.Versions

/-!
# Groups of legacy resources

Which groups a migration finds in a cluster, and which of them it migrates.
The grouping loop is described by what it computes: one group for each
filesystem in use, with the candidates that it uses in the order of the list.
-/

namespace FusionAccess

open Kubernetes Interaction

/-! ## Candidates -/

/-- A candidate has no owner and tells its filesystem, device and node. -/
theorem isV1LocalDisk_eq_true
    {ld : Unstructured}
    (candidate : isV1LocalDisk ld = true) :
    isMigrated ld.metadata = false ∧ ld.metadata.ownerReferences = [] ∧
      ld.filesystem ≠ "" ∧ ld.specString "device" ≠ "" := by
  simp only [isV1LocalDisk, Bool.if_false_left, Bool.and_eq_true,
    Bool.not_eq_true', decide_eq_false_iff_not, decide_eq_true_eq] at candidate
  obtain ⟨notMigrated, _, _, unowned, _, filesystem, device, _⟩ := candidate
  refine ⟨by simpa using notMigrated, ?_, filesystem, device⟩
  simpa using unowned

/-- The candidates of a cluster. -/
def candidates (cluster : Cluster) : List Unstructured :=
  (cluster.localDisks.filter fun ld =>
    ld.metadata.ns = migrationNamespace).filter isV1LocalDisk

/-- The candidates that a filesystem uses. -/
def legacyDisks (cluster : Cluster) (name : String) : List Unstructured :=
  (candidates cluster).filter fun ld => ld.filesystem = name

theorem mem_legacyDisks
    {cluster : Cluster} {name : String} {ld : Unstructured} :
    ld ∈ legacyDisks cluster name ↔
      ld ∈ cluster.localDisks ∧ ld.metadata.ns = migrationNamespace ∧
        isV1LocalDisk ld = true ∧ ld.filesystem = name := by
  simp only [legacyDisks, candidates, List.mem_filter, decide_eq_true_eq]
  tauto

/-! ## Groups -/

/-- The group of a filesystem among the given disks. -/
def groupFor (name : String) (localDisks : List Unstructured) :
    LegacyResourceGroup where
  filesystemName := name
  localDisks := localDisks.filter fun ld => ld.filesystem = name
  devicePaths := (localDisks.filter fun ld => ld.filesystem = name).map
    fun ld => ld.specString "device"

/-- Disks with a filesystem and a device fall into the groups of their
filesystems. -/
theorem find?_groupLocalDisksByFilesystem
    {localDisks : List Unstructured}
    (complete : ∀ ld ∈ localDisks,
      ld.filesystem ≠ "" ∧ ld.specString "device" ≠ "")
    (name : String) :
    Registry.find? LegacyResourceGroup.filesystemName name
        (groupLocalDisksByFilesystem localDisks) =
      if (localDisks.filter fun ld => ld.filesystem = name) = [] then none
      else some (groupFor name localDisks) := by
  have devices : (groupFor name localDisks).devicePaths =
      (filesystemGroup name (usedBy name localDisks)).devicePaths := by
    refine (List.filter_eq_self.mpr fun devicePath listed => ?_).symm
    obtain ⟨ld, member, rfl⟩ := List.mem_map.mp listed
    exact decide_eq_true (complete ld (List.mem_of_mem_filter member)).2
  have group : groupFor name localDisks =
      filesystemGroup name (usedBy name localDisks) := by
    rw [groupFor, filesystemGroup]
    exact congrArg (LegacyResourceGroup.mk name (usedBy name localDisks) none none · false)
      devices
  have unnamed : name = "" → usedBy name localDisks = [] := by
    rintro rfl
    rw [usedBy, List.filter_eq_nil_iff]
    intro ld member same
    exact (complete ld member).1 (of_decide_eq_true same)
  rw [find?_groupLocalDisks, group]
  simp only [or_iff_right_of_imp unnamed]
  rfl

theorem nodup_groupLocalDisksByFilesystem (localDisks : List Unstructured) :
    ((groupLocalDisksByFilesystem localDisks).map
      LegacyResourceGroup.filesystemName).Nodup := by
  unfold groupLocalDisksByFilesystem
  induction localDisks using List.reverseRecOn with
  | nil => simp
  | append_singleton lds ld inductionHypothesis =>
      rw [List.foldl_append, List.foldl_cons, List.foldl_nil, addToGroups]
      split
      · exact inductionHypothesis
      · exact Registry.nodup_upsert _ inductionHypothesis

/-- The group that discovery finds for a filesystem. -/
def legacyGroup (cluster : Cluster) (name : String) : LegacyResourceGroup :=
  groupFor name (candidates cluster)

@[simp] theorem legacyGroup_filesystemName (cluster : Cluster) (name : String) :
    (legacyGroup cluster name).filesystemName = name := rfl

/-- The groups that a migration visits, each once. -/
theorem mem_visited
    {cluster : Cluster}
    (order : MapOrder)
    {group : LegacyResourceGroup} :
    group ∈ order.visit (groupLocalDisksByFilesystem (candidates cluster)) ↔
      ∃ name, legacyDisks cluster name ≠ [] ∧ group = legacyGroup cluster name := by
  have complete : ∀ ld ∈ candidates cluster,
      ld.filesystem ≠ "" ∧ ld.specString "device" ≠ "" := fun ld member =>
    (isV1LocalDisk_eq_true (List.mem_filter.mp member).2).2.2
  rw [(order.perm _).mem_iff]
  constructor
  · intro member
    have found := Registry.find?_eq_some_of_mem
      (nodup_groupLocalDisksByFilesystem _) member
    rw [find?_groupLocalDisksByFilesystem complete] at found
    split at found
    · cases found
    next some =>
      exact ⟨_, some, (Option.some.inj found).symm⟩
  · rintro ⟨name, some, rfl⟩
    have found := find?_groupLocalDisksByFilesystem complete name
    rw [if_neg (by exact some)] at found
    exact (Registry.find?_eq_some found).1

theorem nodup_visited (cluster : Cluster) (order : MapOrder) :
    ((order.visit (groupLocalDisksByFilesystem (candidates cluster))).map
      LegacyResourceGroup.filesystemName).Nodup :=
  (((order.perm _).map _).nodup_iff).mpr (nodup_groupLocalDisksByFilesystem _)

/-! ## Valid groups -/

/-- The Filesystem of a group. -/
def legacyFilesystem? (cluster : Cluster) (name : String) : Option Unstructured :=
  cluster.object? .filesystem (migrationKey name)

/-- The group of a filesystem once it is validated. -/
def validGroup (cluster : Cluster) (name : String) : LegacyResourceGroup :=
  { legacyGroup cluster name with
    filesystem := legacyFilesystem? cluster name
    storageClass := cluster.storageClass? name
    isValid := true }

@[simp] theorem validGroup_filesystemName (cluster : Cluster) (name : String) :
    (validGroup cluster name).filesystemName = name := rfl

@[simp] theorem validGroup_localDisks (cluster : Cluster) (name : String) :
    (validGroup cluster name).localDisks = legacyDisks cluster name := rfl

/-- A migration of the cluster migrates the group of a filesystem. -/
def migrates (cluster : Cluster) (name : String) : Bool :=
  !(legacyDisks cluster name).isEmpty &&
    (legacyFilesystem? cluster name).isSome &&
    (cluster.storageClass? name).all fun sc =>
      sc.provisioner = spectrumScaleProvisioner

/-- The checks of a group with candidates decide whether it is migrated. -/
theorem checkResourceGroup_eq_none
    {cluster : Cluster} {name : String}
    (inUse : legacyDisks cluster name ≠ []) :
    checkResourceGroup (validGroup cluster name) = none ↔
      migrates cluster name = true := by
  have devices : (validGroup cluster name).devicePaths.length ≠ 0 := by
    simpa [validGroup, legacyGroup, groupFor, legacyDisks] using inUse
  unfold checkResourceGroup migrates
  rw [if_neg devices]
  cases filesystem : legacyFilesystem? cluster name with
  | none => simp [validGroup, filesystem]
  | some fs =>
      cases storageClass : cluster.storageClass? name with
      | none => simp [validGroup, filesystem, storageClass, inUse]
      | some sc =>
          by_cases scale : sc.provisioner = spectrumScaleProvisioner <;>
            simp [validGroup, filesystem, storageClass, inUse, scale, Option.filter]

end FusionAccess
