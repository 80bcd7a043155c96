import FusionAccess.Controller.MigrationRun
import FusionAccess.Controller.Passes

/-!
# Resuming a migration

A migration is cut short, by failing calls or by the end of the operator, and
run again. The second run finds its work through LocalDisks that are not
migrated yet, so it brings the cluster to the state of one uninterrupted run
when every group that has anything left to do still has such a disk.
-/

namespace FusionAccess

open Kubernetes Interaction Fallible Registry

/-! ## The same outcome -/

/-- Two references to owners mean the same: the same object, or the claims that
are stored under the same key. -/
structure SameReference
    (first second : Cluster) (left right : OwnerReference) : Prop where
  apiVersion : right.apiVersion = left.apiVersion
  kind : right.kind = left.kind
  name : right.name = left.name
  owner : right.uid = left.uid ∨ ∃ key claim claim',
    first.claim? key = some claim ∧ second.claim? key = some claim' ∧
      left.uid = claim.metadata.uid ∧ right.uid = claim'.metadata.uid

/-- Metadata without version, owners and the time of the migration. -/
def withoutTimes (metadata : ObjectMeta) : ObjectMeta :=
  { metadata with
    resourceVersion := 0
    ownerReferences := []
    annotations := metadata.annotations.map fun entry =>
      if entry.1 = migrationAnnotationTimestamp then (entry.1, "") else entry }

/-- The same metadata up to versions and times. -/
structure SameMetadata
    (first second : Cluster) (left right : ObjectMeta) : Prop where
  timeless : withoutTimes right = withoutTimes left
  owners : List.Forall₂ (SameReference first second)
    left.ownerReferences right.ownerReferences

/-- The same object up to versions and times. -/
structure SameObject
    (first second : Cluster) (left right : Unstructured) : Prop where
  metadata : SameMetadata first second left.metadata right.metadata
  content : { right with metadata := left.metadata } = left

/-- The same StorageClass up to versions and times. -/
structure SameStorageClass
    (first second : Cluster) (left right : StorageClass) : Prop where
  metadata : SameMetadata first second left.metadata right.metadata
  content : { right with metadata := left.metadata } = left

/-- The same claim up to identity, versions and times. -/
structure SameClaim
    (first second : Cluster) (left right : FileSystemClaim) : Prop where
  metadata : SameMetadata first second
    { left.metadata with uid := 0 } { right.metadata with uid := 0 }
  devices : right.devices = left.devices
  conditions : right.conditions.map ({ · with lastTransitionTime := 0 }) =
    left.conditions.map ({ · with lastTransitionTime := 0 })

/-- Two clusters hold the same up to identities of claims, versions, times and
events. -/
structure SameOutcome (first second : Cluster) : Prop where
  claims : ∀ key, Option.Rel (SameClaim first second)
    (first.claim? key) (second.claim? key)
  localDisks : List.Forall₂ (SameObject first second)
    first.localDisks second.localDisks
  filesystems : List.Forall₂ (SameObject first second)
    first.filesystems second.filesystems
  storageClasses : List.Forall₂ (SameStorageClass first second)
    first.storageClasses second.storageClasses

section Reflexivity

variable (first second : Cluster)

theorem SameMetadata.refl (metadata : ObjectMeta) :
    SameMetadata first second metadata metadata where
  timeless := rfl
  owners := List.forall₂_same.mpr fun _ _ => ⟨rfl, rfl, rfl, Or.inl rfl⟩

theorem SameObject.refl (object : Unstructured) :
    SameObject first second object object :=
  ⟨SameMetadata.refl first second _, rfl⟩

theorem SameStorageClass.refl (storageClass : StorageClass) :
    SameStorageClass first second storageClass storageClass :=
  ⟨SameMetadata.refl first second _, rfl⟩

theorem SameClaim.refl (claim : FileSystemClaim) :
    SameClaim first second claim claim :=
  ⟨SameMetadata.refl first second _, rfl, rfl⟩

end Reflexivity

/-! ## What is left after a step -/

/-- Setting the time of the migration does not show without times. -/
theorem timeless_set (annotations : StringMap) (first second : String) :
    (annotations.set migrationAnnotationTimestamp first).map (fun entry =>
        if entry.1 = migrationAnnotationTimestamp then (entry.1, "") else entry) =
      (annotations.set migrationAnnotationTimestamp second).map fun entry =>
        if entry.1 = migrationAnnotationTimestamp then (entry.1, "") else entry := by
  unfold StringMap.set
  induction annotations with
  | nil => simp [Registry.upsert]
  | cons head tail inductionHypothesis =>
      by_cases same : head.1 = migrationAnnotationTimestamp
      · simp [Registry.upsert, same]
      · simp only [Registry.upsert, same, if_false, List.map_cons]
        rw [inductionHypothesis]

/-- Adopted and labelled metadata carries the label of the migration. -/
theorem isMigrated_addMigrationLabels
    (metadata : ObjectMeta) (timestamp : String) (version : Nat) :
    isMigrated { addMigrationLabels metadata timestamp with
      resourceVersion := version } = true := by
  have different : migrationLabelSource ≠ migrationLabelMigrated := by decide
  simp [isMigrated, addMigrationLabels, StringMap.get?_set, different]

/-- The reference that is put into a list of owners is in it. -/
theorem mem_upsertOwnerRef
    (reference : OwnerReference) (references : List OwnerReference) :
    reference ∈ upsertOwnerRef reference references := by
  induction references with
  | nil => simp [upsertOwnerRef]
  | cons head tail inductionHypothesis =>
      rw [upsertOwnerRef]
      split
      · simp
      · exact List.mem_cons_of_mem _ inductionHypothesis

/-- Adopted metadata names its owner. -/
theorem hasOwnerRefToFSC_adoption
    (fsc : FileSystemClaim) (timestamp : String) (metadata : ObjectMeta)
    (version : Nat) :
    hasOwnerRefToFSC { adoption fsc timestamp metadata with
      resourceVersion := version } fsc.metadata.name = true := by
  rw [hasOwnerRefToFSC, List.any_eq_true]
  exact ⟨ownerReference fsc, mem_upsertOwnerRef _ _, by simp [ownerReference]⟩

/-- Who has an owner shows it in the same outcome as well. -/
theorem SameMetadata.hasOwnerRefToFSC_eq
    {first second : Cluster} {left right : ObjectMeta}
    (same : SameMetadata first second left right)
    (name : String) :
    hasOwnerRefToFSC right name = hasOwnerRefToFSC left name := by
  have owners := same.owners
  unfold hasOwnerRefToFSC
  generalize left.ownerReferences = lefts at owners ⊢
  generalize right.ownerReferences = rights at owners ⊢
  induction owners with
  | nil => rfl
  | cons head _ inductionHypothesis =>
      rw [List.any_cons, List.any_cons, head.kind, head.name, inductionHypothesis]

theorem SameMetadata.isMigrated_eq
    {first second : Cluster} {left right : ObjectMeta}
    (same : SameMetadata first second left right) :
    isMigrated right = isMigrated left := by
  have labels := congrArg ObjectMeta.labels same.timeless
  simp only [withoutTimes] at labels
  rw [isMigrated, labels, isMigrated]

theorem SameMetadata.key_eq
    {first second : Cluster} {left right : ObjectMeta}
    (same : SameMetadata first second left right) :
    right.key = left.key := by
  have name := congrArg ObjectMeta.name same.timeless
  have ns := congrArg ObjectMeta.ns same.timeless
  simp only [withoutTimes] at name ns
  rw [ObjectMeta.key, name, ns, ObjectMeta.key]

/-- References to two versions of a claim in lists of owners. -/
theorem forall₂_upsertOwnerRef
    {first second : Cluster} {left right : OwnerReference}
    (same : SameReference first second left right)
    (references : List OwnerReference) :
    List.Forall₂ (SameReference first second)
      (upsertOwnerRef left references) (upsertOwnerRef right references) := by
  have sameObject : ∀ head, referSameObject head right = referSameObject head left := by
    intro head
    rw [referSameObject, referSameObject, same.apiVersion, same.kind, same.name]
  induction references with
  | nil => exact .cons same .nil
  | cons head tail inductionHypothesis =>
      rw [upsertOwnerRef, upsertOwnerRef, sameObject]
      have unchanged : ∀ reference, SameReference first second reference reference :=
        fun reference => ⟨rfl, rfl, rfl, Or.inl rfl⟩
      split
      · exact .cons same (List.forall₂_same.mpr fun reference _ => unchanged reference)
      · exact .cons (unchanged head) inductionHypothesis

section Touched

variable {first second : Cluster} {name : String}

/-- What the stored claims of a group have adopted is the same. -/
theorem sameObject_of_adopted
    {old left right : Unstructured}
    (adoptedLeft : Adopted first name old left)
    (adoptedRight : Adopted second name old right) :
    SameObject first second left right := by
  obtain ⟨fsc, timestamp, version, stored, rfl⟩ := adoptedLeft
  obtain ⟨fsc', timestamp', version', stored', rfl⟩ := adoptedRight
  have key := (find?_eq_some stored).2
  have key' := (find?_eq_some stored').2
  have sameName : fsc'.metadata.name = fsc.metadata.name :=
    (congrArg NamespacedName.name key').trans (congrArg NamespacedName.name key).symm
  have sameNs : fsc'.metadata.ns = fsc.metadata.ns :=
    (congrArg NamespacedName.ns key').trans (congrArg NamespacedName.ns key).symm
  refine ⟨⟨?_, ?_⟩, rfl⟩
  · simp only [withoutTimes, adoption, addMigrationLabels, ownershipLabels, sameName, sameNs,
      timeless_set old.metadata.annotations timestamp' timestamp]
  · have sameOwner : SameReference first second (ownerReference fsc)
        (ownerReference fsc') :=
      ⟨rfl, rfl, sameName, Or.inr ⟨_, fsc, fsc', stored, stored', rfl, rfl⟩⟩
    exact forall₂_upsertOwnerRef sameOwner _

/-- What the stored claims of a group have labelled is the same. -/
theorem sameStorageClass_of_labelled
    {old left right : StorageClass}
    (labelledLeft : Labelled first old left)
    (labelledRight : Labelled second old right) :
    SameStorageClass first second left right := by
  obtain ⟨fsc, timestamp, version, stored, rfl⟩ := labelledLeft
  obtain ⟨fsc', timestamp', version', stored', rfl⟩ := labelledRight
  have key := (find?_eq_some stored).2
  have key' := (find?_eq_some stored').2
  have sameName : fsc'.metadata.name = fsc.metadata.name :=
    (congrArg NamespacedName.name key').trans (congrArg NamespacedName.name key).symm
  have sameNs : fsc'.metadata.ns = fsc.metadata.ns :=
    (congrArg NamespacedName.ns key').trans (congrArg NamespacedName.ns key).symm
  refine ⟨⟨?_, ?_⟩, rfl⟩
  · simp only [withoutTimes, labelling, addMigrationLabels, ownershipLabels, sameName, sameNs,
      timeless_set old.metadata.annotations timestamp' timestamp]
  · exact (SameMetadata.refl first second old.metadata).owners

end Touched

/-! ## Unfinished migrations -/

section Unfinished

variable {base cut : Cluster} {progress : Progress} {name : String}

theorem Reached.distinctNames
    (reached : Reached base progress cut)
    (distinct : DistinctNames base) :
    DistinctNames cut where
  localDisks := by
    rw [reached.represents.localDisks.map_key fun _ _ adopted => adopted.key_eq]
    exact distinct.localDisks
  filesystems := by
    rw [reached.represents.filesystems.map_key fun _ _ adopted => adopted.key_eq]
    exact distinct.filesystems
  storageClasses := by
    rw [reached.represents.storageClasses.map_key fun _ _ labelled => labelled.name_eq]
    exact distinct.storageClasses

/-- An adopted disk is a candidate of a migrated group. -/
theorem Reached.adopted_mem
    (reached : Reached base progress cut)
    (distinct : DistinctNames base)
    {ld : Unstructured}
    (listed : ld ∈ base.localDisks)
    (adopted : ld.key ∈ (progress ld.filesystem).adopted) :
    migrates base ld.filesystem = true ∧ ld ∈ legacyDisks base ld.filesystem := by
  obtain ⟨migrated, ⟨other, member, sameKey⟩, _⟩ :=
    (reached.sound ld.filesystem).adopted _ adopted
  have same : other = ld := List.inj_on_of_nodup_map distinct.localDisks
    (mem_legacyDisks.mp member).1 listed sameKey
  exact ⟨migrated, same ▸ member⟩

/-- A disk that is not adopted is still there as it was. -/
theorem Reached.mem_legacyDisks_of_unadopted
    (reached : Reached base progress cut)
    {ld : Unstructured}
    (member : ld ∈ legacyDisks base name)
    (unadopted : ld.key ∉ (progress name).adopted) :
    ld ∈ legacyDisks cut name := by
  obtain ⟨listed, spaced, candidate, inGroup⟩ := mem_legacyDisks.mp member
  obtain ⟨later, listedLater, version⟩ :=
    exists_of_forall₂ reached.represents.localDisks listed
  rw [← inGroup] at unadopted
  have same : later = ld := version.2 unadopted
  subst same
  exact mem_legacyDisks.mpr ⟨listedLater, spaced, candidate, inGroup⟩

/-- Candidates of an unfinished migration are candidates that it has not
adopted. -/
theorem Reached.unadopted_of_mem_legacyDisks
    (reached : Reached base progress cut)
    {ld : Unstructured}
    (member : ld ∈ legacyDisks cut name) :
    ld ∈ legacyDisks base name ∧ ld.key ∉ (progress name).adopted := by
  obtain ⟨listed, spaced, candidate, inGroup⟩ := mem_legacyDisks.mp member
  obtain ⟨old, listedOld, version⟩ :=
    exists_of_forall₂ reached.represents.localDisks.flip listed
  by_cases adopted : old.key ∈ (progress old.filesystem).adopted
  · obtain ⟨fsc, timestamp, number, _, rfl⟩ := version.1 adopted
    have migrated := isMigrated_addMigrationLabels
      { old.metadata with
        ownerReferences :=
          upsertOwnerRef (ownerReference fsc) old.metadata.ownerReferences
        labels := ownershipLabels fsc old.metadata.labels } timestamp number
    have notMigrated := (isV1LocalDisk_eq_true candidate).1
    rw [adoption, migrated] at notMigrated
    cases notMigrated
  · have same : ld = old := version.2 adopted
    subst same
    rw [inGroup] at adopted
    exact ⟨mem_legacyDisks.mpr ⟨listedOld, spaced, candidate, inGroup⟩, adopted⟩

/-- Whether a Filesystem exists and who provisions the StorageClass does not
depend on the progress. -/
theorem Reached.migrates_iff
    (reached : Reached base progress cut) :
    migrates cut name = true ↔
      migrates base name = true ∧ legacyDisks cut name ≠ [] := by
  have inUse : legacyDisks cut name ≠ [] → legacyDisks base name ≠ [] := by
    intro inUse
    obtain ⟨ld, member⟩ := List.exists_mem_of_ne_nil _ inUse
    exact List.ne_nil_of_mem (reached.unadopted_of_mem_legacyDisks member).1
  have filesystem : (legacyFilesystem? cut name).isSome =
      (legacyFilesystem? base name).isSome := by
    cases found : legacyFilesystem? base name with
    | none =>
        have missing : legacyFilesystem? cut name = none :=
          reached.represents.filesystems.find?_eq_none
            (fun _ _ adopted => adopted.key_eq) found
        rw [missing]
    | some fs =>
        obtain ⟨later, foundLater, _⟩ := reached.represents.filesystems.find?
          (fun _ _ adopted => adopted.key_eq) found
        rw [show legacyFilesystem? cut name = some later from foundLater]
        rfl
  have storageClass : ((cut.storageClass? name).all fun sc =>
      sc.provisioner = spectrumScaleProvisioner) =
        (base.storageClass? name).all fun sc =>
          sc.provisioner = spectrumScaleProvisioner := by
    cases found : base.storageClass? name with
    | none =>
        have missing : cut.storageClass? name = none :=
          reached.represents.storageClasses.find?_eq_none
            (fun _ _ labelled => labelled.name_eq) found
        rw [missing]
    | some sc =>
        obtain ⟨later, foundLater, version⟩ := reached.represents.storageClasses.find?
          (fun _ _ labelled => labelled.name_eq) found
        rw [show cut.storageClass? name = some later from foundLater]
        by_cases done : (progress sc.name).storageClass = true
        · obtain ⟨_, _, _, _, rfl⟩ := version.1 done
          rfl
        · rw [version.2 done]
  unfold migrates
  rw [filesystem, storageClass]
  simp only [Bool.and_eq_true, Bool.not_eq_true', List.isEmpty_eq_false_iff]
  tauto

/-- What has been adopted once owns for the claim that is still stored. -/
theorem Reached.adopted_later
    {final : Cluster} {later : Progress} {old new : Unstructured}
    (reached : Reached cut later final)
    (adopted : Adopted cut name old new) :
    Adopted final name old new := by
  obtain ⟨fsc, timestamp, version, stored, rfl⟩ := adopted
  exact ⟨fsc, timestamp, version, reached.represents.kept _ _ stored, rfl⟩

theorem Reached.labelled_later
    {final : Cluster} {later : Progress} {old new : StorageClass}
    (reached : Reached cut later final)
    (labelled : Labelled cut old new) :
    Labelled final old new := by
  obtain ⟨fsc, timestamp, version, stored, rfl⟩ := labelled
  exact ⟨fsc, timestamp, version, reached.represents.kept _ _ stored, rfl⟩

end Unfinished

/-! ## Two ways to the end -/

/-- Everything that a cluster needs is migrated. -/
def AllDone (base : Cluster) (progress : Progress) : Prop :=
  ∀ name, migrates base name = true → GroupDone base name (progress name)

/-- A group of the base can still be brought to its end: its claim, unless it
was there already or is missing, has conditions, and what is not done is found
through a disk that is a candidate. -/
structure Recoverable (base cut : Cluster) (name : String) : Prop where
  claim : base.claim? (migrationKey name) = none →
    ∀ claim ∈ cut.claim? (migrationKey name), claim.conditions ≠ []
  resources : legacyDisks cut name ≠ [] ∨
    (∀ fs ∈ legacyFilesystem? cut name,
      hasOwnerRefToFSC fs.metadata name = true) ∧
    ∀ sc ∈ cut.storageClass? name, isMigrated sc.metadata = true

section Compare

variable {base cut final other : Cluster}
  {interrupted resumed straight : Progress}

/-- The LocalDisks are the same on both ways. -/
theorem sameLocalDisks
    (distinct : DistinctNames base)
    (first : Reached base interrupted cut)
    (second : Reached cut resumed final)
    (secondDone : AllDone cut resumed)
    (direct : Reached base straight other)
    (directDone : AllDone base straight) :
    List.Forall₂ (SameObject final other) final.localDisks other.localDisks := by
  have distinctCut := first.distinctNames distinct
  refine first.represents.localDisks.compare second.represents.localDisks
    direct.represents.localDisks ?_ ?_ (SameObject.refl final other) ?_ ?_
  · -- what the first run has adopted is no candidate of the second
    intro old listed middle listedMiddle version adopted marked
    have candidate := (second.adopted_mem distinctCut listedMiddle marked).2
    obtain ⟨member, unadopted⟩ := first.unadopted_of_mem_legacyDisks candidate
    obtain ⟨fsc, timestamp, number, _, rfl⟩ := version.1 adopted
    exact unadopted adopted
  · intro old listed middle listedMiddle version
    constructor
    · intro marked
      obtain ⟨migrated, member⟩ := direct.adopted_mem distinct listed marked
      by_cases adopted : old.key ∈ (interrupted old.filesystem).adopted
      · exact Or.inl adopted
      · have same : middle = old := version.2 adopted
        subst same
        have candidate := first.mem_legacyDisks_of_unadopted member adopted
        have again := first.migrates_iff.mpr ⟨migrated, List.ne_nil_of_mem candidate⟩
        exact Or.inr ((secondDone _ again).resources.adopted _ candidate)
    · rintro (marked | marked)
      · obtain ⟨migrated, member⟩ := first.adopted_mem distinct listed marked
        exact (directDone _ migrated).resources.adopted _ member
      · obtain ⟨migrated, candidate⟩ :=
          second.adopted_mem distinctCut listedMiddle marked
        by_cases adopted : old.key ∈ (interrupted old.filesystem).adopted
        · obtain ⟨migrated, member⟩ := first.adopted_mem distinct listed adopted
          exact (directDone _ migrated).resources.adopted _ member
        · have same : middle = old := version.2 adopted
          subst same
          exact (directDone _ (first.migrates_iff.mp migrated).1).resources.adopted _
            (first.unadopted_of_mem_legacyDisks candidate).1
  · intro old middle last adopted direct
    exact sameObject_of_adopted (second.adopted_later adopted) direct
  · exact fun old last direct => sameObject_of_adopted

/-- A Filesystem of the migration is the one that is found by its name. -/
theorem legacyFilesystem?_eq_some
    {cluster : Cluster}
    (distinct : DistinctNames cluster)
    {fs : Unstructured}
    (listed : fs ∈ cluster.filesystems)
    (spaced : fs.metadata.ns = migrationNamespace) :
    legacyFilesystem? cluster fs.metadata.name = some fs := by
  have found := find?_eq_some_of_mem distinct.filesystems listed
  have key : fs.key = migrationKey fs.metadata.name := by
    rw [Unstructured.key, ObjectMeta.key, spaced]
    rfl
  rwa [key] at found

/-- Whether the Filesystem of a group is done on the way without a break. -/
theorem filesystem_marked_iff
    (distinct : DistinctNames base)
    (direct : Reached base straight other)
    (directDone : AllDone base straight)
    {fs : Unstructured}
    (listed : fs ∈ base.filesystems)
    (spaced : fs.metadata.ns = migrationNamespace) :
    (straight fs.metadata.name).filesystem = true ↔
      migrates base fs.metadata.name = true ∧
        hasOwnerRefToFSC fs.metadata fs.metadata.name = false := by
  have found := legacyFilesystem?_eq_some distinct listed spaced
  constructor
  · intro marked
    obtain ⟨migrated, _, unowned⟩ := (direct.sound _).filesystem marked
    exact ⟨migrated, unowned fs found⟩
  · rintro ⟨migrated, unowned⟩
    exact (directDone _ migrated).resources.filesystem fs found unowned

/-- Whether the StorageClass of a group is done on the way without a break. -/
theorem storageClass_marked_iff
    (distinct : DistinctNames base)
    (direct : Reached base straight other)
    (directDone : AllDone base straight)
    {sc : StorageClass}
    (listed : sc ∈ base.storageClasses) :
    (straight sc.name).storageClass = true ↔
      migrates base sc.name = true ∧ isMigrated sc.metadata = false := by
  have found : base.storageClass? sc.name = some sc :=
    find?_eq_some_of_mem distinct.storageClasses listed
  constructor
  · intro marked
    obtain ⟨migrated, _, unlabelled⟩ := (direct.sound _).storageClass marked
    exact ⟨migrated, unlabelled sc found⟩
  · rintro ⟨migrated, unlabelled⟩
    exact (directDone _ migrated).resources.storageClass sc found unlabelled

/-- The Filesystems are the same on both ways if all groups can be recovered. -/
theorem sameFilesystems
    (distinct : DistinctNames base)
    (first : Reached base interrupted cut)
    (second : Reached cut resumed final)
    (secondDone : AllDone cut resumed)
    (direct : Reached base straight other)
    (directDone : AllDone base straight)
    (recoverable : ∀ name, migrates base name = true → Recoverable base cut name) :
    List.Forall₂ (SameObject final other) final.filesystems other.filesystems := by
  have distinctCut := first.distinctNames distinct
  have owned : ∀ {old middle : Unstructured},
      Adopted cut old.metadata.name old middle →
      middle.metadata.name = old.metadata.name ∧
        hasOwnerRefToFSC middle.metadata old.metadata.name = true := by
    rintro old middle ⟨fsc, timestamp, number, stored, rfl⟩
    have named := hasOwnerRefToFSC_adoption fsc timestamp old.metadata number
    rw [show fsc.metadata.name = old.metadata.name from
      congrArg NamespacedName.name (find?_eq_some stored).2] at named
    exact ⟨rfl, named⟩
  refine first.represents.filesystems.compare second.represents.filesystems
    direct.represents.filesystems ?_ ?_ (SameObject.refl final other) ?_ ?_
  · intro old listed middle listedMiddle version marked again
    obtain ⟨sameName, named⟩ := owned (version.1 marked)
    have unowned := ((filesystem_marked_iff distinctCut second secondDone listedMiddle
      again.1).mp again.2).2
    rw [sameName, named] at unowned
    cases unowned
  · intro old listed middle listedMiddle version
    by_cases marked : old.metadata.ns = migrationNamespace ∧
        (interrupted old.metadata.name).filesystem = true
    · -- done before the break
      refine iff_of_true ⟨marked.1, ?_⟩ (Or.inl marked)
      obtain ⟨migrated, _, unowned⟩ := (first.sound _).filesystem marked.2
      exact (filesystem_marked_iff distinct direct directDone listed marked.1).mpr
        ⟨migrated, unowned old (legacyFilesystem?_eq_some distinct listed marked.1)⟩
    · have same : middle = old := version.2 marked
      subst same
      rw [or_iff_right marked]
      refine and_congr_right fun spaced => ?_
      rw [filesystem_marked_iff distinct direct directDone listed spaced,
        filesystem_marked_iff distinctCut second secondDone listedMiddle spaced]
      refine and_congr_left fun unowned => ?_
      rw [first.migrates_iff]
      refine ⟨fun migrated => ⟨migrated, ?_⟩, And.left⟩
      rcases (recoverable _ migrated).resources with inUse | ⟨done, _⟩
      · exact inUse
      · rw [done middle (legacyFilesystem?_eq_some distinctCut listedMiddle spaced)]
          at unowned
        cases unowned
  · intro old middle last adopted direct
    exact sameObject_of_adopted (second.adopted_later adopted) direct
  · exact fun old last direct => sameObject_of_adopted

/-- The same for the StorageClasses. -/
theorem sameStorageClasses
    (distinct : DistinctNames base)
    (first : Reached base interrupted cut)
    (second : Reached cut resumed final)
    (secondDone : AllDone cut resumed)
    (direct : Reached base straight other)
    (directDone : AllDone base straight)
    (recoverable : ∀ name, migrates base name = true → Recoverable base cut name) :
    List.Forall₂ (SameStorageClass final other)
      final.storageClasses other.storageClasses := by
  have distinctCut := first.distinctNames distinct
  refine first.represents.storageClasses.compare second.represents.storageClasses
    direct.represents.storageClasses ?_ ?_ (SameStorageClass.refl final other) ?_ ?_
  · intro old listed middle listedMiddle version marked again
    obtain ⟨fsc, timestamp, number, _, rfl⟩ := version.1 marked
    have unlabelled := ((storageClass_marked_iff distinctCut second secondDone
      listedMiddle).mp again).2
    rw [labelling, isMigrated_addMigrationLabels] at unlabelled
    cases unlabelled
  · intro old listed middle listedMiddle version
    by_cases marked : (interrupted old.name).storageClass = true
    · refine iff_of_true ?_ (Or.inl marked)
      obtain ⟨migrated, _, unlabelled⟩ := (first.sound _).storageClass marked
      exact (storageClass_marked_iff distinct direct directDone listed).mpr
        ⟨migrated, unlabelled old (find?_eq_some_of_mem distinct.storageClasses listed)⟩
    · have same : middle = old := version.2 marked
      subst same
      rw [or_iff_right marked, storageClass_marked_iff distinct direct directDone listed,
        storageClass_marked_iff distinctCut second secondDone listedMiddle]
      refine and_congr_left fun unlabelled => ?_
      rw [first.migrates_iff]
      refine ⟨fun migrated => ⟨migrated, ?_⟩, And.left⟩
      rcases (recoverable _ migrated).resources with inUse | ⟨_, done⟩
      · exact inUse
      · rw [done middle (find?_eq_some_of_mem distinctCut.storageClasses listedMiddle)]
          at unlabelled
        cases unlabelled
  · intro old middle last labelled direct
    exact sameStorageClass_of_labelled (second.labelled_later labelled) direct
  · exact fun old last direct => sameStorageClass_of_labelled

/-- As long as none of its disks is adopted, a group has the same disks. -/
theorem Reached.legacyDisks_eq
    {name : String}
    (reached : Reached base interrupted cut)
    (unadopted : (interrupted name).adopted = []) :
    legacyDisks cut name = legacyDisks base name := by
  simp only [legacyDisks, candidates, List.filter_filter]
  refine filter_eq_of_forall₂ reached.represents.localDisks fun old _ new version => ?_
  by_cases adopted : old.key ∈ (interrupted old.filesystem).adopted
  · have elsewhere : old.filesystem ≠ name := by
      rintro rfl
      rw [unadopted] at adopted
      exact List.not_mem_nil adopted
    obtain ⟨_, _, _, _, rfl⟩ := version.1 adopted
    simp [elsewhere]
  · rw [version.2 adopted]
    exact ⟨rfl, fun _ => rfl⟩

/-- A StorageClass is there at the break if it was there before. -/
theorem Reached.storageClass?_isSome
    {name : String}
    (reached : Reached base interrupted cut) :
    (cut.storageClass? name).isSome = (base.storageClass? name).isSome := by
  cases found : base.storageClass? name with
  | none =>
      have missing : cut.storageClass? name = none :=
        reached.represents.storageClasses.find?_eq_none
          (fun _ _ labelled => labelled.name_eq) found
      rw [missing]
  | some sc =>
      obtain ⟨later, foundLater, _⟩ := reached.represents.storageClasses.find?
        (fun _ _ labelled => labelled.name_eq) found
      rw [show cut.storageClass? name = some later from foundLater]
      rfl

/-- Claims created for the same disks are the same. -/
theorem sameClaim_of_created
    {name : String} {claim claim' : FileSystemClaim} {now now' : Nat}
    (disks : legacyDisks cut name = legacyDisks base name)
    (storageClass : (cut.storageClass? name).isSome =
      (base.storageClass? name).isSome)
    (created : CreatedFrom cut name claim)
    (conditions : claim.conditions = migrationConditions now (validGroup cut name))
    (created' : CreatedFrom base name claim')
    (conditions' : claim'.conditions =
      migrationConditions now' (validGroup base name)) :
    SameClaim final other claim claim' := by
  obtain ⟨timestamp, uid, version, metadata, devices⟩ := created
  obtain ⟨timestamp', uid', version', metadata', devices'⟩ := created'
  refine ⟨⟨?_, ?_⟩, ?_, ?_⟩
  · rw [metadata, metadata']
    simp [withoutTimes, migrationClaim]
  · rw [metadata, metadata']
    exact .nil
  · rw [devices, devices']
    change (legacyDisks base name).map _ = (legacyDisks cut name).map _
    rw [disks]
  · rw [conditions, conditions']
    have present : (validGroup cut name).storageClass.isSome =
        (validGroup base name).storageClass.isSome := storageClass
    by_cases some : (validGroup base name).storageClass.isSome = true <;>
      simp [migrationConditions, migratedCondition, disks, present, some]

/-- No claim is made for a group that is not migrated. -/
theorem Reached.claim_eq_absent
    (reached : Reached base progress cut) {name : String}
    (unmigrated : ¬migrates base name = true) : (progress name).claim = .absent := by
  by_contra present
  exact unmigrated ((reached.sound name).claim present).1

/-- The claim of a migrated group is the same on both ways if it can be recovered. -/
theorem sameClaim_of_migrated
    (first : Reached base interrupted cut)
    (second : Reached cut resumed final)
    (secondDone : AllDone cut resumed)
    (direct : Reached base straight other)
    (directDone : AllDone base straight)
    {name : String}
    (migrated : migrates base name = true)
    (recoverable : Recoverable base cut name)
    (stored : base.claim? (migrationKey name) = none) :
    ∃ claim claim', final.claim? (migrationKey name) = some claim ∧
      other.claim? (migrationKey name) = some claim' ∧ SameClaim final other claim claim' := by
  have atBreak := first.represents.created name stored
  have atEnd := direct.represents.created name stored
  rw [(directDone name migrated).claim stored] at atEnd
  obtain ⟨claim', now', foundOther, created', conditions'⟩ := atEnd
  cases stage : (interrupted name).claim with
  | absent =>
      rw [stage] at atBreak
      -- the second run starts afresh with this group
      have unadopted : (interrupted name).adopted = [] := by
        refine List.eq_nil_iff_forall_not_mem.mpr fun other member => ?_
        rcases ((first.sound name).adopted other member).2.2 with some | present
        · rw [stored] at some
          cases some
        · exact present stage
      have disks := first.legacyDisks_eq unadopted
      have again : migrates cut name = true := first.migrates_iff.mpr
        ⟨migrated, disks ▸ legacyDisks_ne_nil_of_migrates migrated⟩
      have created := second.represents.created name atBreak
      rw [(secondDone name again).claim atBreak] at created
      obtain ⟨claim, now, found, created, conditions⟩ := created
      exact ⟨claim, claim', found, foundOther, sameClaim_of_created disks
        first.storageClass?_isSome created conditions created' conditions'⟩
  | bare =>
      rw [stage] at atBreak
      obtain ⟨claim, found, _, bare⟩ := atBreak
      exact absurd bare (recoverable.claim stored claim found)
  | recorded =>
      rw [stage] at atBreak
      obtain ⟨claim, now, found, created, conditions⟩ := atBreak
      exact ⟨claim, claim', second.represents.kept _ _ found, foundOther,
        sameClaim_of_created rfl rfl created conditions created' conditions'⟩

/-- The claims are the same on both ways if all groups can be recovered. -/
theorem sameClaims
    (first : Reached base interrupted cut)
    (second : Reached cut resumed final)
    (secondDone : AllDone cut resumed)
    (direct : Reached base straight other)
    (directDone : AllDone base straight)
    (recoverable : ∀ name, migrates base name = true → Recoverable base cut name)
    (key : NamespacedName) :
    Option.Rel (SameClaim final other) (final.claim? key) (other.claim? key) := by
  have neither : final.claim? key = none → other.claim? key = none →
      Option.Rel (SameClaim final other) (final.claim? key) (other.claim? key) := by
    intro left right
    rw [left, right]
    exact .none
  have both : ∀ claim claim', final.claim? key = some claim →
      other.claim? key = some claim' → SameClaim final other claim claim' →
      Option.Rel (SameClaim final other) (final.claim? key) (other.claim? key) := by
    intro claim claim' left right same
    rw [left, right]
    exact .some same
  cases stored : base.claim? key with
  | some claim =>
      have kept := second.represents.kept _ _ (first.represents.kept _ _ stored)
      exact both claim claim kept (direct.represents.kept _ _ stored)
        (SameClaim.refl final other claim)
  | none =>
      by_cases spaced : key.ns = migrationNamespace
      · obtain ⟨ns, name⟩ := key
        cases spaced
        change base.claim? (migrationKey name) = none at stored
        have atBreak := first.represents.created name stored
        have atEnd := direct.represents.created name stored
        by_cases migrated : migrates base name = true
        · obtain ⟨claim, claim', found, foundOther, same⟩ := sameClaim_of_migrated first second
            secondDone direct directDone migrated (recoverable name migrated) stored
          exact both claim claim' found foundOther same
        · have unmigrated : ¬migrates cut name = true := fun again =>
            migrated (first.migrates_iff.mp again).1
          rw [first.claim_eq_absent migrated] at atBreak
          have created := second.represents.created name atBreak
          rw [second.claim_eq_absent unmigrated] at created
          rw [direct.claim_eq_absent migrated] at atEnd
          exact neither created atEnd
      · have missing := first.represents.elsewhere key stored spaced
        exact neither (second.represents.elsewhere key missing spaced)
          (direct.represents.elsewhere key stored spaced)

/-- Both ways lead to the same when all groups can be recovered. -/
theorem sameOutcome_of_recoverable
    (distinct : DistinctNames base)
    (first : Reached base interrupted cut)
    (second : Reached cut resumed final)
    (secondDone : AllDone cut resumed)
    (direct : Reached base straight other)
    (directDone : AllDone base straight)
    (recoverable : ∀ name, migrates base name = true → Recoverable base cut name) :
    SameOutcome final other where
  claims := sameClaims first second secondDone direct directDone recoverable
  localDisks := sameLocalDisks distinct first second secondDone direct directDone
  filesystems :=
    sameFilesystems distinct first second secondDone direct directDone recoverable
  storageClasses :=
    sameStorageClasses distinct first second secondDone direct directDone recoverable

/-- On the way without a break a migrated Filesystem has its owner in the end. -/
theorem AllDone.hasOwner
    {name : String} {fs : Unstructured}
    (distinct : DistinctNames base)
    (directDone : AllDone base straight)
    (direct : Reached base straight other)
    (migrated : migrates base name = true)
    (found : legacyFilesystem? other name = some fs) :
    hasOwnerRefToFSC fs.metadata name = true := by
  have present : (legacyFilesystem? base name).isSome := by
    simp only [migrates, Bool.and_eq_true] at migrated
    exact migrated.1.2
  obtain ⟨old, foundOld⟩ := Option.isSome_iff_exists.mp present
  obtain ⟨later, foundLater, version⟩ := direct.represents.filesystems.find?
    (fun _ _ adopted => adopted.key_eq) foundOld
  have same : later = fs := Option.some.inj (foundLater.symm.trans found)
  subst same
  obtain ⟨listed, key⟩ := find?_eq_some foundOld
  have named : old.metadata.name = name := congrArg NamespacedName.name key
  have spaced : old.metadata.ns = migrationNamespace := congrArg NamespacedName.ns key
  subst named
  have marked := filesystem_marked_iff distinct direct directDone listed spaced
  by_cases owned : hasOwnerRefToFSC old.metadata old.metadata.name = true
  · have undone : later = old := version.2 fun done => by
      have unowned := (marked.mp done.2).2
      rw [owned] at unowned
      cases unowned
    rw [undone]
    exact owned
  · have done := marked.mpr ⟨migrated, by simpa using owned⟩
    obtain ⟨fsc, timestamp, number, stored, rfl⟩ := version.1 ⟨spaced, done⟩
    have owner := hasOwnerRefToFSC_adoption fsc timestamp old.metadata number
    rwa [show fsc.metadata.name = old.metadata.name from
      congrArg NamespacedName.name (find?_eq_some stored).2] at owner

/-- The same for the label of its StorageClass. -/
theorem AllDone.isMigrated
    {name : String} {sc : StorageClass}
    (distinct : DistinctNames base)
    (directDone : AllDone base straight)
    (direct : Reached base straight other)
    (migrated : migrates base name = true)
    (found : other.storageClass? name = some sc) :
    isMigrated sc.metadata = true := by
  have present : (base.storageClass? name).isSome := by
    rw [← direct.storageClass?_isSome, found]
    rfl
  obtain ⟨old, foundOld⟩ := Option.isSome_iff_exists.mp present
  obtain ⟨later, foundLater, version⟩ := direct.represents.storageClasses.find?
    (fun _ _ labelled => labelled.name_eq) foundOld
  have same : later = sc := Option.some.inj (foundLater.symm.trans found)
  subst same
  obtain ⟨listed, named⟩ := find?_eq_some foundOld
  subst named
  have marked := storageClass_marked_iff distinct direct directDone listed
  by_cases labelled : FusionAccess.isMigrated old.metadata = true
  · have undone : later = old := version.2 fun done => by
      have unlabelled := (marked.mp done).2
      rw [labelled] at unlabelled
      cases unlabelled
    rw [undone]
    exact labelled
  · have done := marked.mpr ⟨migrated, by simpa using labelled⟩
    obtain ⟨fsc, timestamp, number, _, rfl⟩ := version.1 done
    rw [labelling, isMigrated_addMigrationLabels]

/-- When both ways lead to the same, all groups could be recovered. -/
theorem recoverable_of_sameOutcome
    (distinct : DistinctNames base)
    (second : Reached cut resumed final)
    (direct : Reached base straight other)
    (directDone : AllDone base straight)
    (outcome : SameOutcome final other)
    (name : String)
    (migrated : migrates base name = true) :
    Recoverable base cut name where
  claim := by
    intro missing claim found bare
    have created := direct.represents.created name missing
    rw [(directDone name migrated).claim missing] at created
    obtain ⟨claim', now, foundOther, _, conditions⟩ := created
    have related := outcome.claims (migrationKey name)
    rw [second.represents.kept _ _ found, foundOther] at related
    cases related with
    | some same =>
        have empty := same.conditions
        rw [bare, conditions] at empty
        simp [migrationConditions] at empty
  resources := by
    refine or_iff_not_imp_left.mpr fun unused => ?_
    have notAgain : migrates cut name ≠ true := fun again =>
      unused (legacyDisks_ne_nil_of_migrates again)
    constructor
    · intro fs found
      have undone : (resumed name).filesystem = false := by
        by_contra done
        exact notAgain ((second.sound name).filesystem (by simpa using done)).1
      obtain ⟨right, foundOther, same⟩ := find?_of_forall₂ outcome.filesystems
        (fun left right same => same.metadata.key_eq)
        ((second.represents.legacyFilesystem?_eq undone).trans found)
      rw [← same.metadata.hasOwnerRefToFSC_eq]
      exact directDone.hasOwner distinct direct migrated foundOther
    · intro sc found
      have undone : (resumed name).storageClass = false := by
        by_contra done
        exact notAgain ((second.sound name).storageClass (by simpa using done)).1
      obtain ⟨right, foundOther, same⟩ := find?_of_forall₂ outcome.storageClasses
        (fun left right same => congrArg NamespacedName.name same.metadata.key_eq)
        ((second.represents.storageClass?_eq undone).trans found)
      rw [← same.metadata.isMigrated_eq]
      exact directDone.isMigrated distinct direct migrated foundOther

end Compare

/-! ## Interrupted runs -/

/-- A run of the migration under an environment. -/
abbrev migrationRun (order : MapOrder) (choices : Nat → Choice) (base : Cluster) :
    Outcome apiServer (Except Failure Unit) :=
  (runMigration order false).run.run apiServer choices base

/-- The state that a migration leaves when no call fails. -/
def migrated (order : MapOrder) (base : Cluster) : Cluster :=
  (migrationRun order calm base).state

/-- A state that a migration leaves behind when any of its calls may fail and
the operator may stop at any time. -/
def Interrupted (order : MapOrder) (base cut : Cluster) : Prop :=
  ∃ choices : Nat → Choice,
    (migrationRun order choices base).state = cut ∨
      ∃ event ∈ (migrationRun order choices base).log, event.before = cut

/-- The contract under which the states of a migration can be observed. -/
def observing (base : Cluster) : Contract apiServer :=
  Contract.demand fun state _ => ∃ progress, Reached base progress state

/-- An interrupted migration leaves a state of an unfinished migration. -/
theorem reached_of_interrupted
    {order : MapOrder} {base cut : Cluster}
    (distinct : DistinctNames base)
    (interrupted : Interrupted order base cut) :
    ∃ progress, Reached base progress cut := by
  obtain ⟨choices, final⟩ := interrupted
  have ensured := ensures_runMigration (C := observing base)
    (fun progress state _ reached => ⟨progress, reached⟩) distinct order
  have sound := Program.Ensures.sound ensured choices fun _ _ => trivial
  rcases final with rfl | ⟨event, member, rfl⟩
  · obtain ⟨progress, reached, _⟩ := sound.2
    exact ⟨progress, reached⟩
  · exact sound.1 event member

/-- A migration in which no call fails is finished. -/
theorem reached_migrated
    {base : Cluster}
    (distinct : DistinctNames base)
    (order : MapOrder) :
    ∃ progress, Reached base progress (migrated order base) ∧
      AllDone base progress := by
  have ensured := ensures_runMigration (C := faultless)
    (fun _ _ _ _ => trivial) distinct order
  have sound := Program.Ensures.sound ensured calm fun event member => ?_
  · obtain ⟨progress, reached, done⟩ := sound.2
    exact ⟨progress, reached, done.resolve_left not_faulty_faultless⟩
  · obtain ⟨index, chosen⟩ := Program.choice_of_mem_log member
    rw [Contract.Relied, chosen]
    rfl

/-- A migration that was interrupted and is run again, possibly at a later
time, brings the cluster to the state of one uninterrupted run if and only if
the interrupted run left every migrated group recoverable. -/
theorem migration_resumes
    {base cut : Cluster}
    (distinct : DistinctNames base)
    {order : MapOrder}
    (interrupted : Interrupted order base cut)
    (second uninterrupted : MapOrder)
    (later : Nat) :
    SameOutcome (migrated second { cut with clock := later })
        (migrated uninterrupted base) ↔
      ∀ name, migrates base name = true → Recoverable base cut name := by
  obtain ⟨progress, reached⟩ := reached_of_interrupted distinct interrupted
  have reachedLater : Reached base progress { cut with clock := later } :=
    ⟨⟨reached.represents.kept, reached.represents.elsewhere,
      reached.represents.created, reached.represents.localDisks,
      reached.represents.filesystems, reached.represents.storageClasses⟩,
      reached.sound⟩
  obtain ⟨resumed, reachedEnd, secondDone⟩ :=
    reached_migrated (reachedLater.distinctNames distinct) second
  obtain ⟨straight, direct, directDone⟩ := reached_migrated distinct uninterrupted
  constructor
  · intro outcome name migrated
    have recoverable := recoverable_of_sameOutcome distinct reachedEnd direct directDone
      outcome name migrated
    exact ⟨recoverable.claim, recoverable.resources⟩
  · intro recoverable
    exact sameOutcome_of_recoverable distinct reachedLater reachedEnd secondDone direct
      directDone fun name migrated =>
        ⟨(recoverable name migrated).claim, (recoverable name migrated).resources⟩

/-- A disk of v1.0. -/
def legacyDisk : Unstructured where
  metadata := { name := "uuid.1", ns := migrationNamespace, resourceVersion := 1 }
  spec := some (localDiskSpec "/dev/sdb" "node")
  filesystem := "fs"

/-- A cluster of v1.0 with one filesystem. -/
def legacyCluster : Cluster where
  localDisks := [legacyDisk]
  filesystems := [{
    metadata := { name := "fs", ns := migrationNamespace, resourceVersion := 2 }
    spec := some (buildFilesystemSpec ["uuid.1"]) }]
  storageClasses := [{
    metadata := { name := "fs", resourceVersion := 3 }
    provisioner := spectrumScaleProvisioner }]
  revision := 3

/-- The choices of an environment that refuses one call. -/
def refusing (number index : Nat) : Choice :=
  if index = number then { fault := .refused .unspecified "connection refused" } else {}

/-- What is left when the update of the LocalDisk is refused. -/
def disklessCluster : Cluster :=
  (migrationRun .asListed (refusing 9) legacyCluster).state

/-- What is left when the update of the Filesystem is refused. -/
def ownerlessCluster : Cluster :=
  (migrationRun .asListed (refusing 10) legacyCluster).state

theorem distinctNames_legacyCluster : DistinctNames legacyCluster :=
  ⟨by decide, by decide, by decide⟩

/-- A migration that could not update the LocalDisk is finished by the next. -/
theorem migration_resumes_diskless :
    SameOutcome (migrated .asListed { disklessCluster with clock := 60 })
      (migrated .asListed legacyCluster) := by
  refine (migration_resumes distinctNames_legacyCluster
    ⟨refusing 9, Or.inl rfl⟩ .asListed .asListed 60).mpr fun name migrated => ?_
  obtain ⟨ld, member⟩ := List.exists_mem_of_ne_nil _
    (legacyDisks_ne_nil_of_migrates migrated)
  obtain ⟨listed, _, _, inGroup⟩ := mem_legacyDisks.mp member
  have onlyDisk : ld = legacyDisk := List.mem_singleton.mp listed
  subst onlyDisk
  subst inGroup
  refine ⟨fun _ claim found bare => ?_, Or.inl (by decide)⟩
  have recorded : (disklessCluster.claim? (migrationKey legacyDisk.filesystem)).all
      fun claim => claim.conditions ≠ [] := by decide
  rw [show disklessCluster.claim? _ = some claim from found] at recorded
  simp [bare] at recorded

/-- A migration that could not update the Filesystem is never finished: the
next one finds no candidate, and the Filesystem stays without its owner. -/
theorem migration_gives_up :
    DistinctNames legacyCluster ∧ migrates legacyCluster "fs" = true ∧
      Interrupted .asListed legacyCluster ownerlessCluster ∧
        ¬SameOutcome (migrated .asListed ownerlessCluster)
          (migrated .asListed legacyCluster) := by
  refine ⟨distinctNames_legacyCluster, by decide, ⟨refusing 10, Or.inl rfl⟩, ?_⟩
  intro outcome
  have left : (legacyFilesystem? (migrated .asListed ownerlessCluster) "fs").any
      (fun fs => !hasOwnerRefToFSC fs.metadata "fs") = true := by decide
  have right : (legacyFilesystem? (migrated .asListed legacyCluster) "fs").all
      (fun fs => hasOwnerRefToFSC fs.metadata "fs") = true := by decide
  cases found : legacyFilesystem? (migrated .asListed ownerlessCluster) "fs" with
  | none => simp [found] at left
  | some fs =>
      have named : find? Unstructured.key (migrationKey "fs")
          (migrated .asListed ownerlessCluster).filesystems = some fs := found
      obtain ⟨other, foundOther, same⟩ := find?_of_forall₂ outcome.filesystems
        (fun left right same => same.metadata.key_eq) named
      rw [show legacyFilesystem? (migrated .asListed legacyCluster) "fs" = some other
        from foundOther] at right
      rw [found] at left
      simp only [Option.any_some, Option.all_some, same.metadata.hasOwnerRefToFSC_eq]
        at left right
      rw [right] at left
      cases left

end FusionAccess
