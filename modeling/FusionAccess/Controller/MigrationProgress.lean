import FusionAccess.Controller.LegacyGroups

/-!
# Progress of a migration

A migration that is cut short leaves a state that is told by how far it got
with each group: whether the claim is there and has its conditions, which
LocalDisks have their owner, and whether Filesystem and StorageClass are done.
Every call of a migration moves from one such state to the next.
-/

namespace FusionAccess

open Kubernetes Interaction Registry

/-! ## What the migration writes -/

/-- The metadata of an object after its adoption by a claim. -/
def adoption
    (fsc : FileSystemClaim) (timestamp : String) (metadata : ObjectMeta) :
    ObjectMeta :=
  addMigrationLabels
    { metadata with
      ownerReferences :=
        upsertOwnerRef (ownerReference fsc) metadata.ownerReferences
      labels := ownershipLabels fsc metadata.labels }
    timestamp

/-- The metadata of a StorageClass after it got its labels. -/
def labelling
    (fsc : FileSystemClaim) (timestamp : String) (metadata : ObjectMeta) :
    ObjectMeta :=
  addMigrationLabels
    { metadata with labels := ownershipLabels fsc metadata.labels } timestamp

/-- In its own namespace a claim can own every object. -/
theorem addOwnerRefAndStandardLabels_eq
    {metadata : ObjectMeta} {fsc : FileSystemClaim}
    (sameNamespace : metadata.ns = fsc.metadata.ns) :
    addOwnerRefAndStandardLabels metadata fsc =
      .ok { metadata with
        ownerReferences :=
          upsertOwnerRef (ownerReference fsc) metadata.ownerReferences
        labels := ownershipLabels fsc metadata.labels } := by
  have allowed : setOwnerReference fsc metadata =
      .ok { metadata with
        ownerReferences :=
          upsertOwnerRef (ownerReference fsc) metadata.ownerReferences } := by
    unfold setOwnerReference
    rw [if_neg (by simp [sameNamespace]), if_neg (by simp [sameNamespace])]
  unfold addOwnerRefAndStandardLabels
  rw [allowed]
  rfl

/-- Two versions of a claim that own the same objects. -/
structure SameOwner (first second : FileSystemClaim) : Prop where
  key : second.key = first.key
  uid : second.metadata.uid = first.metadata.uid

theorem SameOwner.refl (fsc : FileSystemClaim) : SameOwner fsc fsc := ⟨rfl, rfl⟩

theorem SameOwner.adoption_eq
    {first second : FileSystemClaim}
    (same : SameOwner first second)
    (timestamp : String)
    (metadata : ObjectMeta) :
    adoption second timestamp metadata = adoption first timestamp metadata := by
  have key := same.key
  simp only [FileSystemClaim.key, ObjectMeta.key, NamespacedName.mk.injEq] at key
  simp only [adoption, ownerReference, ownershipLabels, key.1, key.2, same.uid]

theorem SameOwner.labelling_eq
    {first second : FileSystemClaim}
    (same : SameOwner first second)
    (timestamp : String)
    (metadata : ObjectMeta) :
    labelling second timestamp metadata = labelling first timestamp metadata := by
  have key := same.key
  simp only [FileSystemClaim.key, ObjectMeta.key, NamespacedName.mk.injEq] at key
  simp only [labelling, ownershipLabels, key.1, key.2]

/-- Object and version that the stored claim of a group has adopted. -/
def Adopted (state : Cluster) (name : String) (old new : Unstructured) : Prop :=
  ∃ fsc timestamp version, state.claim? (migrationKey name) = some fsc ∧
    new = { old with
      metadata := { adoption fsc timestamp old.metadata with
        resourceVersion := version } }

/-- StorageClass and version with the labels of the stored claim. -/
def Labelled (state : Cluster) (old new : StorageClass) : Prop :=
  ∃ fsc timestamp version, state.claim? (migrationKey old.name) = some fsc ∧
    new = { old with
      metadata := { labelling fsc timestamp old.metadata with
        resourceVersion := version } }

theorem Adopted.key_eq
    {state : Cluster} {name : String} {old new : Unstructured}
    (adopted : Adopted state name old new) :
    new.key = old.key := by
  obtain ⟨fsc, timestamp, version, _, rfl⟩ := adopted
  rfl

theorem Labelled.name_eq
    {state : Cluster} {old new : StorageClass}
    (labelled : Labelled state old new) :
    new.name = old.name := by
  obtain ⟨fsc, timestamp, version, _, rfl⟩ := labelled
  rfl

/-- The claims that own objects are still there. -/
def KeepsOwners (before after : Cluster) : Prop :=
  ∀ name fsc, before.claim? (migrationKey name) = some fsc →
    ∃ fsc', after.claim? (migrationKey name) = some fsc' ∧ SameOwner fsc fsc'

theorem keepsOwners_of_claims_eq
    {before after : Cluster}
    (same : after.claims = before.claims) :
    KeepsOwners before after := by
  intro name fsc stored
  refine ⟨fsc, ?_, SameOwner.refl fsc⟩
  rwa [Cluster.claim?, same]

theorem Adopted.mono
    {before after : Cluster} {name : String} {old new : Unstructured}
    (adopted : Adopted before name old new)
    (keeps : KeepsOwners before after) :
    Adopted after name old new := by
  obtain ⟨fsc, timestamp, version, stored, rfl⟩ := adopted
  obtain ⟨fsc', stored', same⟩ := keeps name fsc stored
  refine ⟨fsc', timestamp, version, stored', ?_⟩
  rw [same.adoption_eq]

theorem Labelled.mono
    {before after : Cluster} {old new : StorageClass}
    (labelled : Labelled before old new)
    (keeps : KeepsOwners before after) :
    Labelled after old new := by
  obtain ⟨fsc, timestamp, version, stored, rfl⟩ := labelled
  obtain ⟨fsc', stored', same⟩ := keeps _ fsc stored
  refine ⟨fsc', timestamp, version, stored', ?_⟩
  rw [same.labelling_eq]

/-- A claim that a migration of the cluster has created. -/
def CreatedFrom (base : Cluster) (name : String) (claim : FileSystemClaim) : Prop :=
  ∃ timestamp uid version,
    claim.metadata = {
      (migrationClaim timestamp (legacyGroup base name)).metadata with
      uid := uid, generation := 1, resourceVersion := version } ∧
    claim.devices = (legacyGroup base name).devicePaths

/-! ## States of an unfinished migration -/

/-- How far a migration is with the claim of a group. -/
inductive Stage
  | absent
  | bare
  | recorded
  deriving DecidableEq

/-- How far a migration is with a group. -/
structure GroupProgress where
  claim : Stage := .absent
  adopted : List NamespacedName := []
  filesystem : Bool := false
  storageClass : Bool := false

/-- How far a migration is with each group. -/
abbrev Progress : Type := String → GroupProgress

/-- The claim of a group at a stage. -/
def ClaimAt (base : Cluster) (name : String) :
    Stage → Option FileSystemClaim → Prop
  | .absent, found => found = none
  | .bare, found => ∃ claim, found = some claim ∧ CreatedFrom base name claim ∧
      claim.conditions = []
  | .recorded, found => ∃ claim now, found = some claim ∧
      CreatedFrom base name claim ∧
        claim.conditions = migrationConditions now (validGroup base name)

/-- A state shows the progress of a migration of the base. -/
structure Represents
    (base : Cluster) (progress : Progress) (state : Cluster) : Prop where
  kept : ∀ key claim, base.claim? key = some claim →
    state.claim? key = some claim
  elsewhere : ∀ key, base.claim? key = none → key.ns ≠ migrationNamespace →
    state.claim? key = none
  created : ∀ name, base.claim? (migrationKey name) = none →
    ClaimAt base name (progress name).claim (state.claim? (migrationKey name))
  localDisks : Versions
    (fun ld => ld.key ∈ (progress ld.filesystem).adopted)
    (fun ld => Adopted state ld.filesystem ld)
    base.localDisks state.localDisks
  filesystems : Versions
    (fun fs => fs.metadata.ns = migrationNamespace ∧
      (progress fs.metadata.name).filesystem = true)
    (fun fs => Adopted state fs.metadata.name fs)
    base.filesystems state.filesystems
  storageClasses : Versions
    (fun sc => (progress sc.name).storageClass = true)
    (Labelled state)
    base.storageClasses state.storageClasses

/-- A group gets its Filesystem and StorageClass done only after its disks,
and nothing of it is done before it has a claim. -/
structure GroupSound
    (base : Cluster) (name : String) (group : GroupProgress) : Prop where
  claim : group.claim ≠ .absent →
    migrates base name = true ∧ base.claim? (migrationKey name) = none
  adopted : ∀ key ∈ group.adopted, migrates base name = true ∧
    (∃ ld ∈ legacyDisks base name, ld.key = key) ∧
      ((base.claim? (migrationKey name)).isSome ∨ group.claim ≠ .absent)
  filesystem : group.filesystem = true → migrates base name = true ∧
    (∀ ld ∈ legacyDisks base name, ld.key ∈ group.adopted) ∧
      ∀ fs ∈ legacyFilesystem? base name, hasOwnerRefToFSC fs.metadata name = false
  storageClass : group.storageClass = true → migrates base name = true ∧
    (∀ ld ∈ legacyDisks base name, ld.key ∈ group.adopted) ∧
      ∀ sc ∈ base.storageClass? name, isMigrated sc.metadata = false

theorem groupSound_empty (base : Cluster) (name : String) :
    GroupSound base name {} where
  claim := fun present => absurd rfl present
  adopted := by simp
  filesystem := by simp
  storageClass := by simp

/-- A state that a migration of the base may leave behind. -/
structure Reached
    (base : Cluster) (progress : Progress) (state : Cluster) : Prop where
  represents : Represents base progress state
  sound : ∀ name, GroupSound base name (progress name)

/-- Names tell objects of a kind apart. -/
structure DistinctNames (cluster : Cluster) : Prop where
  localDisks : (cluster.localDisks.map Unstructured.key).Nodup
  filesystems : (cluster.filesystems.map Unstructured.key).Nodup
  storageClasses : (cluster.storageClasses.map StorageClass.name).Nodup

/-- A migration has not begun. -/
def untouched : Progress := fun _ => {}

theorem reached_untouched (base : Cluster) : Reached base untouched base where
  represents := {
    kept := fun _ _ stored => stored
    elsewhere := fun _ missing _ => missing
    created := fun _ missing => missing
    localDisks := Versions.refl fun _ _ => List.not_mem_nil
    filesystems := Versions.refl (by simp [untouched])
    storageClasses := Versions.refl (by simp [untouched]) }
  sound := fun name => groupSound_empty base name

/-! ## One call further -/

section Steps

variable {base state final : Cluster} {progress : Progress} {name : String}

/-- A group that is not done yet is read as it is in the base. -/
theorem Represents.legacyFilesystem?_eq
    (represents : Represents base progress state)
    (undone : (progress name).filesystem = false) :
    legacyFilesystem? state name = legacyFilesystem? base name := by
  refine represents.filesystems.find?_unmarked
    (fun _ _ adopted => adopted.key_eq) fun fs found marked => ?_
  have named := (find?_eq_some found).2
  have sameName : fs.metadata.name = name := congrArg NamespacedName.name named
  rw [sameName, undone] at marked
  cases marked.2

theorem Represents.storageClass?_eq
    (represents : Represents base progress state)
    (undone : (progress name).storageClass = false) :
    state.storageClass? name = base.storageClass? name := by
  refine represents.storageClasses.find?_unmarked
    (fun _ _ labelled => labelled.name_eq) fun sc found marked => ?_
  have named : sc.name = name := (find?_eq_some found).2
  rw [named, undone] at marked
  cases marked

theorem Represents.localDisk?_eq
    (represents : Represents base progress state)
    (distinct : DistinctNames base)
    {ld : Unstructured}
    (listed : ld ∈ base.localDisks)
    (undone : ld.key ∉ (progress ld.filesystem).adopted) :
    state.object? .localDisk ld.key = some ld := by
  have found := find?_eq_some_of_mem distinct.localDisks listed
  refine Eq.trans (represents.localDisks.find?_unmarked
    (fun _ _ adopted => adopted.key_eq) fun old foundOld => ?_) found
  rw [found] at foundOld
  cases foundOld
  exact undone

/-- What a change of one group leaves alone is the same for all groups. -/
theorem view_update {β : Type}
    (progress : Progress)
    (group : GroupProgress)
    (view : GroupProgress → β)
    (same : view group = view (progress name))
    (other : String) :
    view (Function.update progress name group other) = view (progress other) := by
  by_cases named : other = name
  · rw [named, Function.update_self, same]
  · rw [Function.update_of_ne named]

/-- The state of the claims is one thing, the state of the objects another:
a step of the claim of one group. -/
theorem Represents.claimStep
    (represents : Represents base progress state)
    (stage : Stage)
    (objects : ∀ kind, final.objects kind = state.objects kind)
    (storageClasses : final.storageClasses = state.storageClasses)
    (keeps : KeepsOwners state final)
    (others : ∀ key, key ≠ migrationKey name →
      final.claim? key = state.claim? key)
    (missing : base.claim? (migrationKey name) = none)
    (created : ClaimAt base name stage (final.claim? (migrationKey name))) :
    Represents base
      (Function.update progress name { progress name with claim := stage })
      final := by
  constructor
  case kept =>
    intro key claim stored
    rw [others key (by rintro rfl; rw [missing] at stored; cases stored)]
    exact represents.kept key claim stored
  case elsewhere =>
    intro key absent outside
    rw [others key (by rintro rfl; exact outside rfl)]
    exact represents.elsewhere key absent outside
  case created =>
    intro other absent
    by_cases same : other = name
    · subst same
      rw [Function.update_self]
      exact created
    · rw [Function.update_of_ne same, others _ fun sameKey =>
        same (congrArg NamespacedName.name sameKey)]
      exact represents.created other absent
  case localDisks =>
    rw [show final.localDisks = state.localDisks from objects .localDisk]
    refine represents.localDisks.congr (fun ld _ => ?_)
      fun _ _ _ _ changed => changed.mono keeps
    rw [view_update progress { progress name with claim := stage }
      GroupProgress.adopted rfl]
  case filesystems =>
    rw [show final.filesystems = state.filesystems from objects .filesystem]
    refine represents.filesystems.congr (fun fs _ => ?_)
      fun _ _ _ _ changed => changed.mono keeps
    rw [view_update progress { progress name with claim := stage }
      GroupProgress.filesystem rfl]
  case storageClasses =>
    rw [storageClasses]
    refine represents.storageClasses.congr (fun sc _ => ?_)
      fun _ _ _ _ changed => changed.mono keeps
    rw [view_update progress { progress name with claim := stage }
      GroupProgress.storageClass rfl]

/-- The claim of a group is created. -/
theorem Represents.createClaim
    (represents : Represents base progress state)
    (fresh : (progress name).claim = .absent)
    (missing : base.claim? (migrationKey name) = none)
    (timestamp : String) :
    state.claim? (migrationKey name) = none ∧
      Represents base
        (Function.update progress name { progress name with claim := .bare })
        (state.afterCall
          (.createClaim (migrationClaim timestamp (validGroup base name)))) := by
  have free : state.claim? (migrationKey name) = none := by
    have created := represents.created name missing
    rwa [fresh] at created
  refine ⟨free, ?_⟩
  have after := state.claim?_createClaim
    (migrationClaim timestamp (validGroup base name)) free
  have key : (migrationClaim timestamp (validGroup base name)).key =
      migrationKey name := rfl
  refine represents.claimStep .bare (fun kind => ?_) ?_ ?_ ?_ missing ?_
  · exact state.objects_afterCall (by simp [Call.part?])
  · exact state.storageClasses_afterCall (by simp [Call.part?])
  · intro other fsc stored
    refine ⟨fsc, ?_, SameOwner.refl fsc⟩
    rw [after, key, if_neg (by rintro same; rw [← same, free] at stored; cases stored)]
    exact stored
  · intro other different
    rw [after, key, if_neg (Ne.symm different)]
  · rw [after, key, if_pos rfl]
    exact ⟨_, rfl, ⟨timestamp, _, _, rfl, rfl⟩, rfl⟩

/-- The claim of a group gets its conditions. -/
theorem Represents.updateClaimStatus
    (represents : Represents base progress state)
    (missing : base.claim? (migrationKey name) = none)
    {claim : FileSystemClaim}
    (stored : state.claim? (migrationKey name) = some claim)
    (created : CreatedFrom base name claim)
    (bare : claim.conditions = [])
    (now : Nat) :
    Represents base
        (Function.update progress name { progress name with claim := .recorded })
        (state.afterCall (.updateClaimStatus
          { claim with
            conditions := migrationConditions now (validGroup base name) })) ∧
      KeepsOwners state (state.afterCall (.updateClaimStatus
          { claim with
            conditions := migrationConditions now (validGroup base name) })) := by
  have named : claim.key = migrationKey name := (find?_eq_some stored).2
  have current : state.claim? claim.key = some claim := by rw [named]; exact stored
  have after := Cluster.claim?_updateClaimStatus
    { claim with conditions := migrationConditions now (validGroup base name) }
    current rfl (by simp [bare, migrationConditions])
  have key : ({ claim with
      conditions := migrationConditions now (validGroup base name) } :
        FileSystemClaim).key = migrationKey name := named
  have keeps : KeepsOwners state (state.afterCall (.updateClaimStatus
      { claim with
        conditions := migrationConditions now (validGroup base name) })) := by
    intro other fsc storedOther
    rw [after, key]
    by_cases same : migrationKey name = migrationKey other
    · rw [if_pos same]
      rw [← same, stored] at storedOther
      cases storedOther
      exact ⟨_, rfl, rfl, rfl⟩
    · rw [if_neg same]
      exact ⟨fsc, storedOther, SameOwner.refl fsc⟩
  refine ⟨represents.claimStep .recorded (fun kind => ?_) ?_ keeps ?_ missing ?_, keeps⟩
  · exact state.objects_afterCall (by simp [Call.part?])
  · exact state.storageClasses_afterCall (by simp [Call.part?])
  · intro other different
    rw [after, key, if_neg (Ne.symm different)]
  · rw [after, key, if_pos rfl]
    obtain ⟨timestamp, uid, version, metadata, devices⟩ := created
    refine ⟨_, now, rfl, ⟨timestamp, uid, state.revision + 1, ?_, devices⟩, rfl⟩
    simp only [Cluster.stamp, metadata]

/-- A step of the objects of one group. -/
theorem Represents.objectStep
    (represents : Represents base progress state)
    {group : GroupProgress}
    (sameClaim : group.claim = (progress name).claim)
    (claims : final.claims = state.claims)
    (localDisks : Versions
      (fun ld => ld.key ∈
        (Function.update progress name group ld.filesystem).adopted)
      (fun ld => Adopted state ld.filesystem ld)
      base.localDisks final.localDisks)
    (filesystems : Versions
      (fun fs => fs.metadata.ns = migrationNamespace ∧
        (Function.update progress name group fs.metadata.name).filesystem = true)
      (fun fs => Adopted state fs.metadata.name fs)
      base.filesystems final.filesystems)
    (storageClasses : Versions
      (fun sc => (Function.update progress name group sc.name).storageClass = true)
      (Labelled state)
      base.storageClasses final.storageClasses) :
    Represents base (Function.update progress name group) final := by
  have claim? : ∀ key, final.claim? key = state.claim? key := by
    intro key
    rw [Cluster.claim?, claims, Cluster.claim?]
  have keeps := keepsOwners_of_claims_eq claims
  constructor
  case kept => exact fun key claim stored => (claim? key).trans (represents.kept key claim stored)
  case elsewhere =>
    exact fun key absent outside =>
      (claim? key).trans (represents.elsewhere key absent outside)
  case created =>
    intro other absent
    rw [claim?, view_update progress group GroupProgress.claim sameClaim]
    exact represents.created other absent
  case localDisks =>
    exact localDisks.congr (fun _ _ => Iff.rfl) fun _ _ _ _ changed => changed.mono keeps
  case filesystems =>
    exact filesystems.congr (fun _ _ => Iff.rfl) fun _ _ _ _ changed => changed.mono keeps
  case storageClasses =>
    exact storageClasses.congr (fun _ _ => Iff.rfl)
      fun _ _ _ _ changed => changed.mono keeps

/-- The versions of the disks do not tell a group with the same disks apart. -/
theorem Represents.sameLocalDisks
    (represents : Represents base progress state)
    {group : GroupProgress}
    (same : group.adopted = (progress name).adopted) :
    Versions
      (fun ld => ld.key ∈
        (Function.update progress name group ld.filesystem).adopted)
      (fun ld => Adopted state ld.filesystem ld)
      base.localDisks state.localDisks := by
  refine represents.localDisks.congr (fun ld _ => ?_) fun _ _ _ _ => id
  rw [view_update progress group GroupProgress.adopted same]

theorem Represents.sameFilesystems
    (represents : Represents base progress state)
    {group : GroupProgress}
    (same : group.filesystem = (progress name).filesystem) :
    Versions
      (fun fs => fs.metadata.ns = migrationNamespace ∧
        (Function.update progress name group fs.metadata.name).filesystem = true)
      (fun fs => Adopted state fs.metadata.name fs)
      base.filesystems state.filesystems := by
  refine represents.filesystems.congr (fun fs _ => ?_) fun _ _ _ _ => id
  rw [view_update progress group GroupProgress.filesystem same]

theorem Represents.sameStorageClasses
    (represents : Represents base progress state)
    {group : GroupProgress}
    (same : group.storageClass = (progress name).storageClass) :
    Versions
      (fun sc => (Function.update progress name group sc.name).storageClass = true)
      (Labelled state)
      base.storageClasses state.storageClasses := by
  refine represents.storageClasses.congr (fun sc _ => ?_) fun _ _ _ _ => id
  rw [view_update progress group GroupProgress.storageClass same]

variable {fsc stored : FileSystemClaim}

/-- A disk of a group gets its owner. -/
theorem Represents.adoptLocalDisk
    (represents : Represents base progress state)
    (distinct : DistinctNames base)
    {ld : Unstructured}
    (listed : ld ∈ base.localDisks)
    (undone : ld.key ∉ (progress ld.filesystem).adopted)
    (claim : state.claim? (migrationKey ld.filesystem) = some stored)
    (same : SameOwner stored fsc)
    (timestamp : String) :
    (∀ pick, (state.answer pick (.update .localDisk
        { ld with metadata := adoption fsc timestamp ld.metadata })).2 = .ok ()) ∧
      Represents base
        (Function.update progress ld.filesystem
          { progress ld.filesystem with
            adopted := ld.key :: (progress ld.filesystem).adopted })
        (state.afterCall (.update .localDisk
          { ld with metadata := adoption fsc timestamp ld.metadata })) := by
  have current := represents.localDisk?_eq distinct listed undone
  have unique : ∀ old ∈ base.localDisks, old.key = ld.key → old = ld :=
    fun old member sameKey =>
      List.inj_on_of_nodup_map distinct.localDisks member listed sameKey
  have answered := state.answer_update current
    (adoption fsc timestamp ld.metadata) rfl rfl
  refine ⟨fun pick => by rw [answered], ?_⟩
  rw [Cluster.afterCall, answered]
  refine represents.objectStep rfl rfl ?_ ?_ ?_
  · refine represents.localDisks.amend (fun _ _ adopted => adopted.key_eq) ?_ ?_ ?_
    · intro old member
      by_cases sameGroup : old.filesystem = ld.filesystem
      · rw [sameGroup, Function.update_self, List.mem_cons, or_comm]
      · rw [Function.update_of_ne sameGroup]
        refine ⟨Or.inl, fun marked => marked.resolve_right fun sameKey => ?_⟩
        rw [unique old member sameKey] at sameGroup
        exact sameGroup rfl
    · intro old member sameKey
      rw [unique old member sameKey]
      exact undone
    · intro old member sameKey
      rw [unique old member sameKey]
      refine ⟨stored, timestamp, state.revision + 1, claim, ?_⟩
      rw [← same.adoption_eq]
      rfl
  · exact represents.sameFilesystems rfl
  · exact represents.sameStorageClasses rfl

/-- The Filesystem of a group gets its owner. -/
theorem Represents.adoptFilesystem
    (represents : Represents base progress state)
    (distinct : DistinctNames base)
    {fs : Unstructured}
    (found : legacyFilesystem? base name = some fs)
    (undone : (progress name).filesystem = false)
    (claim : state.claim? (migrationKey name) = some stored)
    (same : SameOwner stored fsc)
    (timestamp : String) :
    (∀ pick, (state.answer pick (.update .filesystem
        { fs with metadata := adoption fsc timestamp fs.metadata })).2 = .ok ()) ∧
      Represents base
        (Function.update progress name { progress name with filesystem := true })
        (state.afterCall (.update .filesystem
          { fs with metadata := adoption fsc timestamp fs.metadata })) := by
  have key : fs.key = migrationKey name := (find?_eq_some found).2
  have current : state.object? .filesystem fs.key = some fs := by
    rw [key]
    exact (represents.legacyFilesystem?_eq undone).trans found
  have unique : ∀ old ∈ base.filesystems, old.key = fs.key → old = fs :=
    fun old member sameKey => List.inj_on_of_nodup_map distinct.filesystems member
      (find?_eq_some found).1 sameKey
  have answered := state.answer_update current
    (adoption fsc timestamp fs.metadata) rfl rfl
  have named : fs.metadata.name = name := congrArg NamespacedName.name key
  have spaced : fs.metadata.ns = migrationNamespace := congrArg NamespacedName.ns key
  refine ⟨fun pick => by rw [answered], ?_⟩
  rw [Cluster.afterCall, answered]
  refine represents.objectStep rfl rfl ?_ ?_ ?_
  · exact represents.sameLocalDisks rfl
  · refine represents.filesystems.amend (fun _ _ adopted => adopted.key_eq) ?_ ?_ ?_
    · intro old member
      by_cases sameName : old.metadata.name = name
      · rw [sameName, Function.update_self, undone]
        have sameKey : old.key = fs.key ↔ old.metadata.ns = migrationNamespace := by
          rw [key]
          simp [Unstructured.key, ObjectMeta.key, migrationKey, sameName]
        rw [sameKey]
        simp
      · rw [Function.update_of_ne sameName]
        refine ⟨Or.inl, fun marked => marked.resolve_right fun sameKey => ?_⟩
        rw [unique old member sameKey] at sameName
        exact sameName named
    · intro old member sameKey marked
      rw [unique old member sameKey, named, undone] at marked
      cases marked.2
    · intro old member sameKey
      rw [unique old member sameKey]
      refine ⟨stored, timestamp, state.revision + 1, by rw [named]; exact claim, ?_⟩
      rw [← same.adoption_eq]
      rfl
  · exact represents.sameStorageClasses rfl

/-- The StorageClass of a group gets its labels. -/
theorem Represents.labelStorageClass
    (represents : Represents base progress state)
    (distinct : DistinctNames base)
    {sc : StorageClass}
    (found : base.storageClass? name = some sc)
    (undone : (progress name).storageClass = false)
    (claim : state.claim? (migrationKey name) = some stored)
    (same : SameOwner stored fsc)
    (timestamp : String) :
    (∀ pick, (state.answer pick (.updateStorageClass
        { sc with metadata := labelling fsc timestamp sc.metadata })).2 = .ok ()) ∧
      Represents base
        (Function.update progress name { progress name with storageClass := true })
        (state.afterCall (.updateStorageClass
          { sc with metadata := labelling fsc timestamp sc.metadata })) := by
  have named : sc.name = name := (find?_eq_some found).2
  have current : state.storageClass? sc.name = some sc := by
    rw [named]
    exact (represents.storageClass?_eq undone).trans found
  have unique : ∀ old ∈ base.storageClasses, old.name = sc.name → old = sc :=
    fun old member sameName => List.inj_on_of_nodup_map distinct.storageClasses member
      (find?_eq_some found).1 sameName
  have answered := state.answer_updateStorageClass current
    (labelling fsc timestamp sc.metadata) rfl rfl
  refine ⟨fun pick => by rw [answered], ?_⟩
  rw [Cluster.afterCall, answered]
  refine represents.objectStep rfl rfl ?_ ?_ ?_
  · exact represents.sameLocalDisks rfl
  · exact represents.sameFilesystems rfl
  · refine represents.storageClasses.amend (fun _ _ labelled => labelled.name_eq) ?_ ?_ ?_
    · intro old member
      by_cases sameName : old.name = name
      · rw [sameName, Function.update_self, undone, named]
        simp
      · rw [Function.update_of_ne sameName, named]
        simp [sameName]
    · intro old member sameName marked
      rw [unique old member sameName, named, undone] at marked
      cases marked
    · intro old member sameName
      rw [unique old member sameName]
      refine ⟨stored, timestamp, state.revision + 1, by rw [named]; exact claim, ?_⟩
      rw [← same.labelling_eq]
      rfl

end Steps

end FusionAccess
