import FusionAccess.Controller.MigratedDevices
import FusionAccess.Controller.SharedDisks

/-!
# Pools of migrated Filesystems

Once a Filesystem belongs to a claim, the passes on the claim write its spec
from the LocalDisks that the claim owns. The migration hands over only those
LocalDisks that are candidates of the group, so the others leave the pools,
unless all listed disks are handed over together with the Filesystem.
-/

namespace FusionAccess

open Kubernetes Interaction Fallible Registry

/-! ## Runs without users -/

/-- No claim is being deleted. -/
def NoneDeleting (cluster : Cluster) : Prop :=
  ∀ key claim, cluster.claim? key = some claim → isDeleting claim = false

/-- What keeps the spec of all claims deletes none. -/
theorem NoneDeleting.of_keepsSpec
    {before after : Cluster}
    (live : NoneDeleting before)
    (keeps : ∀ key, Cluster.KeepsSpec key before after) :
    NoneDeleting after := by
  intro key claim stored
  obtain ⟨cur, storedBefore, spec⟩ := keeps key claim stored
  have before := live key cur storedBefore
  rwa [isDeleting, spec.deletionTimestamp, ← isDeleting]

/-- The cluster changes without its users: claims stay as they are, and
LocalDisks and Filesystems keep specs and owners. -/
structure Unedited (before after : Cluster) : Prop where
  claims : after.claims = before.claims
  objects : ∀ kind, List.Forall₂ SameOwned (before.objects kind) (after.objects kind)

/-- A cluster of v1.0: no claim is being deleted, and no Filesystem belongs to
a claim. -/
structure IsLegacy (cluster : Cluster) : Prop where
  names : DistinctNames cluster
  live : NoneDeleting cluster
  filesystems : ∀ fs ∈ cluster.filesystems, ∀ owner,
    isOwnedByThisFSC fs owner = false

/-! ## Pools that keep their disks -/

/-- The Filesystem of the name still lists all disks that it listed. -/
def KeepsPools (base : Cluster) (name : String) (state : Cluster) : Prop :=
  ∀ fs, legacyFilesystem? base name = some fs →
    ∃ later, legacyFilesystem? state name = some later ∧
      ∀ disk ∈ listedDisks fs, disk ∈ listedDisks later

/-- Every disk that the Filesystem of the name lists is handed over with it: it
is a candidate of the group, or it names the claim as its owner already. -/
def handsOverPools (cluster : Cluster) (name : String) : Bool :=
  (legacyFilesystem? cluster name).all fun fs =>
    (listedDisks fs).all fun disk =>
      (cluster.object? .localDisk (migrationKey disk)).any (endsOwned name)

/-- If the Filesystem belongs to a claim, it is the claim of its name, and all
the disks belong to this claim as well. -/
def BelongsWith (state : Cluster) (disks : List String) (fs : Unstructured) : Prop :=
  ∀ owner, isOwnedByThisFSC fs owner = true →
    fs.metadata.name = owner ∧ ∀ disk ∈ disks, OwnsDisk state fs.key disk

/-- The Filesystem with the key lists the disks, and they belong together. -/
structure Lists
    (key : NamespacedName) (disks : List String) (state : Cluster) : Prop where
  live : NoneDeleting state
  stored : ∃ fs, state.object? .filesystem key = some fs ∧
    ∀ disk ∈ disks, disk ∈ listedDisks fs
  together : ∀ fs ∈ state.objects .filesystem, fs.key = key →
    BelongsWith state disks fs

section Calls

variable {key : NamespacedName} {disks : List String} {state after : Cluster}

theorem BelongsWith.mono
    {fs : Unstructured}
    (belongs : BelongsWith state disks fs)
    (keeps : RetainsOwners state after) :
    BelongsWith after disks fs :=
  fun owner owned => ⟨(belongs owner owned).1, fun disk member =>
    ((belongs owner owned).2 disk member).mono keeps⟩

/-- The later version of a Filesystem belongs with the disks as before. -/
theorem BelongsWith.of_sameOwned
    {old new : Unstructured}
    (belongs : BelongsWith state disks old)
    (key : new.key = old.key)
    (owners : new.metadata.ownerReferences = old.metadata.ownerReferences) :
    BelongsWith state disks new := by
  intro owner owned
  rw [isOwnedByThisFSC_of_owners_eq owners] at owned
  have name : new.metadata.name = old.metadata.name :=
    congrArg NamespacedName.name key
  rw [name, key]
  exact belongs owner owned

/-- What leaves LocalDisks and Filesystems alone. -/
theorem Lists.of_objects_eq
    (lists : Lists key disks state)
    (live : NoneDeleting after)
    (same : ∀ kind, after.objects kind = state.objects kind) :
    Lists key disks after := by
  have lookup : ∀ kind key, after.object? kind key = state.object? kind key :=
    fun kind key => by rw [Cluster.object?, same, Cluster.object?]
  refine ⟨live, by rw [lookup]; exact lists.stored, fun fs listed named => ?_⟩
  rw [same] at listed
  intro owner owned
  refine ⟨(lists.together fs listed named owner owned).1, fun disk member => ?_⟩
  rw [OwnsDisk, lookup]
  exact (lists.together fs listed named owner owned).2 disk member

/-- A call that writes claims leaves their specs. -/
theorem Lists.claimCall
    {call : Call}
    (lists : Lists key disks state)
    (claims : call.part? = some .claims)
    (keeps : ∀ other, Cluster.KeepsSpec other state (state.afterCall call)) :
    Lists key disks (state.afterCall call) :=
  lists.of_objects_eq (lists.live.of_keepsSpec keeps) fun kind =>
    state.objects_afterCall (by simp [claims])

/-- A call that writes neither claims nor LocalDisks nor Filesystems. -/
theorem Lists.elsewhere
    {call : Call}
    (lists : Lists key disks state)
    (claims : call.part? ≠ some .claims)
    (objects : ∀ kind, call.part? ≠ some (.objects kind)) :
    Lists key disks (state.afterCall call) :=
  lists.of_objects_eq (lists.live.of_keepsSpec (Cluster.keepsSpec_afterCall claims))
    fun kind => state.objects_afterCall (objects kind)

/-- A created LocalDisk displaces no other. -/
theorem Lists.createLocalDisk
    (lists : Lists key disks state) (object : Unstructured) :
    Lists key disks (state.afterCall (.create .localDisk object)) := by
  have live : NoneDeleting (state.afterCall (.create .localDisk object)) :=
    lists.live.of_keepsSpec (Cluster.keepsSpec_afterCall (by simp [Call.part?]))
  have filesystems : (state.afterCall (.create .localDisk object)).objects .filesystem =
      state.objects .filesystem := state.objects_afterCall (by simp [Call.part?])
  have keeps : RetainsOwners state (state.afterCall (.create .localDisk object)) := by
    refine ⟨fun other stored => ?_, fun other ld stored => ⟨ld, ?_, rfl⟩⟩
    · rwa [state.claim?_afterCall (by simp [Call.part?])]
    · cases taken : state.object? .localDisk object.key with
      | some present =>
          simpa only [Cluster.afterCall, Cluster.answer, Cluster.create, taken]
            using stored
      | none =>
          rw [Cluster.object?, state.objects_create taken, find?_append,
            show find? Unstructured.key other (state.objects .localDisk) = some ld
              from stored, Option.some_or]
  refine ⟨live, ?_, fun fs listed named => ?_⟩
  · rw [Cluster.object?, filesystems]
    exact lists.stored
  · rw [filesystems] at listed
    exact (lists.together fs listed named).mono keeps

/-- A Filesystem is created under another name only. -/
theorem Lists.createFilesystem
    (lists : Lists key disks state) (object : Unstructured) :
    Lists key disks (state.afterCall (.create .filesystem object)) := by
  have live : NoneDeleting (state.afterCall (.create .filesystem object)) :=
    lists.live.of_keepsSpec (Cluster.keepsSpec_afterCall (by simp [Call.part?]))
  have localDisks : (state.afterCall (.create .filesystem object)).objects .localDisk =
      state.objects .localDisk := state.objects_afterCall (by simp [Call.part?])
  cases taken : state.object? .filesystem object.key with
  | some present =>
      have unchanged : state.afterCall (.create .filesystem object) = state := by
        simp only [Cluster.afterCall, Cluster.answer, Cluster.create, taken]
      rwa [unchanged]
  | none =>
      have added := state.objects_create taken
      obtain ⟨fs, stored, disksListed⟩ := lists.stored
      have keeps : RetainsOwners state
          (state.afterCall (.create .filesystem object)) := by
        refine ⟨fun other stored => ?_, fun other ld stored => ⟨ld, ?_, rfl⟩⟩
        · rwa [state.claim?_afterCall (by simp [Call.part?])]
        · rwa [Cluster.object?, localDisks]
      refine ⟨live, ⟨fs, ?_, disksListed⟩, fun other listed named => ?_⟩
      · rw [Cluster.object?, added, find?_append,
          show find? Unstructured.key key (state.objects .filesystem) = some fs
            from stored, Option.some_or]
      · rw [added] at listed
        rcases List.mem_append.mp listed with earlier | new
        · exact (lists.together other earlier named).mono keeps
        · rw [List.mem_singleton.mp new] at named
          rw [show object.key = key from named, stored] at taken
          cases taken

/-- A Filesystem is given the LocalDisks of the claim it belongs to. -/
theorem Lists.patchFilesystem
    {fsc : FileSystemClaim} {fs : Unstructured}
    (lists : Lists key disks state)
    (owned : fs ∈ ownedBy state fsc .filesystem) :
    Lists key disks (state.afterCall (.patchSpec .filesystem fs.key
      (buildFilesystemSpec ((ownedBy state fsc .localDisk).map
        fun ld => ld.metadata.name)))) := by
  let spec := buildFilesystemSpec ((ownedBy state fsc .localDisk).map
    fun ld => ld.metadata.name)
  have live : NoneDeleting (state.afterCall (.patchSpec .filesystem fs.key spec)) :=
    lists.live.of_keepsSpec (Cluster.keepsSpec_afterCall (by simp [Call.part?]))
  have localDisks : (state.afterCall (.patchSpec .filesystem fs.key spec)).objects
      .localDisk = state.objects .localDisk :=
    state.objects_afterCall (by simp [Call.part?])
  have keeps : RetainsOwners state
      (state.afterCall (.patchSpec .filesystem fs.key spec)) := by
    refine ⟨fun other stored => ?_, fun other ld stored => ⟨ld, ?_, rfl⟩⟩
    · rwa [state.claim?_afterCall (by simp [Call.part?])]
    · rwa [Cluster.object?, localDisks]
  simp only [ownedBy, List.mem_filter, decide_eq_true_eq] at owned
  obtain ⟨⟨listedFs, sameNamespace⟩, ownedFs⟩ := owned
  have written : (state.afterCall (.patchSpec .filesystem fs.key spec)).objects
      .filesystem = amend Unstructured.key fs.key
        (fun stored => { stored with
          metadata := state.stamp stored.metadata, spec := some spec })
        (state.objects .filesystem) := by
    have isSome : (state.object? .filesystem fs.key).isSome :=
      find?_isSome_of_mem listedFs
    obtain ⟨found, present⟩ := Option.isSome_iff_exists.mp isSome
    simp only [Cluster.afterCall, Cluster.answer, Cluster.patchSpec, present,
      Cluster.objects_withObjects]
  refine ⟨live, ?_, fun other listed named => ?_⟩
  · obtain ⟨current, stored, disksListed⟩ := lists.stored
    rw [Cluster.object?, written]
    by_cases same : key = fs.key
    · -- the disks belong to the claim, so the new spec lists them
      have found : find? Unstructured.key fs.key (state.objects .filesystem) =
          some current := by rw [← same]; exact stored
      refine ⟨{ current with
        metadata := state.stamp current.metadata, spec := some spec }, ?_,
        fun disk member => ?_⟩
      · rw [same, find?_amend_self, found, Option.map_some]
        exact fun _ named => named
      rw [listedDisks_of_spec rfl, List.mem_map]
      obtain ⟨ownName, ownDisks⟩ := lists.together fs listedFs same.symm _ ownedFs
      obtain ⟨ld, storedDisk, ownedDisk⟩ := ownDisks disk member
      have diskKey := (find?_eq_some storedDisk).2
      refine ⟨ld, ?_, congrArg NamespacedName.name diskKey⟩
      have diskNamespace : ld.metadata.ns = fs.metadata.ns :=
        congrArg NamespacedName.ns diskKey
      simp only [ownedBy, List.mem_filter, decide_eq_true_eq]
      refine ⟨⟨(find?_eq_some storedDisk).1, diskNamespace.trans sameNamespace⟩, ?_⟩
      rw [← ownName]
      exact ownedDisk
    · rw [find?_amend_of_ne _ same]
      · exact ⟨current, stored, disksListed⟩
      · exact fun _ named => named
  · rw [written, mem_amend] at listed
    rcases listed with ⟨listed, _⟩ | ⟨old, listed, sameKey, rfl⟩
    · exact (lists.together other listed named).mono keeps
    · exact ((lists.together old listed named).mono keeps).of_sameOwned rfl rfl

/-- Reports of the storage product. -/
theorem Lists.of_unedited
    (lists : Lists key disks state)
    (unedited : Unedited state after) :
    Lists key disks after := by
  have sameKey : ∀ old new, SameOwned old new → new.key = old.key :=
    fun _ _ same => same.key
  have keeps : RetainsOwners state after := by
    refine ⟨fun other stored => ?_, fun other ld stored => ?_⟩
    · rwa [Cluster.claim?, unedited.claims]
    · obtain ⟨later, found, same⟩ :=
        find?_of_forall₂ (unedited.objects .localDisk) sameKey stored
      exact ⟨later, found, same.owners⟩
  refine ⟨fun other claim stored => ?_, ?_, fun fs listed named => ?_⟩
  · rw [Cluster.claim?, unedited.claims] at stored
    exact lists.live other claim stored
  · obtain ⟨fs, stored, disksListed⟩ := lists.stored
    obtain ⟨later, found, same⟩ :=
      find?_of_forall₂ (unedited.objects .filesystem) sameKey stored
    refine ⟨later, found, fun disk member => ?_⟩
    rw [listedDisks, same.spec, ← listedDisks]
    exact disksListed disk member
  · obtain ⟨old, listedOld, same⟩ :=
      exists_of_forall₂ (unedited.objects .filesystem).flip listed
    exact ((lists.together old listedOld (same.key.symm.trans named)).mono
      keeps).of_sameOwned same.key same.owners

end Calls

/-! ## Passes -/

section Pass

variable {key : NamespacedName} {disks : List String} {fsc : FileSystemClaim}

theorem safe_lists
    {call : Call}
    (keeps : ∀ state, Lists key disks state → Lists key disks (state.afterCall call)) :
    Safe free (Lists key disks) (request call) :=
  (safe_request (fun _ _ => trivial) keeps).safe

theorem allowsReports_lists
    (reports : ConditionType → ConditionStatus → Reason → Prop) :
    AllowsReports free (Lists key disks) fsc reports :=
  allowsReports_of_patch admitsReads_free fun _ _ _ lists _ _ =>
    ⟨trivial, lists.claimCall rfl fun _ => Cluster.keepsSpec_patchClaimStatus _ _ _ _⟩

/-- The disks are listed, and the LocalDisks are those of the claim. -/
def ListsOwned
    (key : NamespacedName) (disks : List String) (fsc : FileSystemClaim)
    (owned : List Unstructured) (state : Cluster) : Prop :=
  Lists key disks state ∧ owned = ownedBy state fsc .localDisk

/-- The Filesystems are those of the claim as well. -/
def ListsBoth
    (key : NamespacedName) (disks : List String) (fsc : FileSystemClaim)
    (owned fss : List Unstructured) (state : Cluster) : Prop :=
  ListsOwned key disks fsc owned state ∧ fss = ownedBy state fsc .filesystem

/-- The Filesystem of a claim gets the LocalDisks of the claim. -/
theorem safe_ensureFileSystem_lists :
    Safe free (Lists key disks) (ensureFileSystem fsc) := by
  refine @safe_ensureFileSystem_of_listed _ _ _ _ (ListsOwned key disks fsc)
    (ListsBoth key disks fsc)
    (fun state lists => ?_) (fun owned state stage => ?_) (allowsReports_lists _)
    (fun owned state _ stage => ?_) fun owned fs state _ stage => ?_
  · refine ensures_listOwnedResources admitsReads_free ⟨lists, ?_⟩
      fun _ _ _ _ => ⟨lists, fun _ impossible => by cases impossible⟩
    rintro owned equal
    cases equal
    exact ⟨lists, rfl⟩
  · refine ensures_listOwnedResources admitsReads_free ⟨stage.1, ?_⟩
      fun _ _ _ _ => ⟨stage.1, fun _ impossible => by cases impossible⟩
    rintro fss equal
    cases equal
    exact ⟨stage, rfl⟩
  · exact (safe_lists (fun _ lists => lists.createFilesystem _) state stage.1.1).mono
      fun _ _ ensured => ensured.2
  · obtain ⟨⟨lists, rfl⟩, listed⟩ := stage
    have owned : fs ∈ ownedBy state fsc .filesystem := by
      rw [← listed]
      exact List.mem_singleton_self fs
    have patched := lists.patchFilesystem owned
    refine ensures_request trivial (fun _ => patched) (fun _ _ _ => lists) ?_
    exact fun _ _ _ => patched

/-- A pass on a claim that is not being deleted keeps the disks listed. -/
theorem safe_reconcileClaim_lists
    (r : FileSystemClaimReconciler)
    (live : isDeleting fsc = false) :
    Safe free (Lists key disks) (reconcileClaim r fsc) := by
  have reads : ReadsSafely free (Lists key disks) :=
    readsSafely_of_admits admitsReads_free
  have reports : ∀ reports, AllowsReports free (Lists key disks) fsc reports :=
    allowsReports_lists
  refine safe_reconcileClaim_of_provision (fun _ => ?_)
    (fun deleting => absurd (live.symm.trans deleting) (by simp))
    (fun state lists => ensures_provision_of_safe ?_ ?_ ?_ ?_ ?_)
    (safe_syncFSCReady (reports _))
  · exact safe_patchFSCSpec admitsReads_free fun _ _ lists _ => ⟨trivial,
      lists.claimCall rfl fun _ => Cluster.keepsSpec_patchClaimFinalizers _ _ _ _⟩
  · exact (safe_ensureLocalDisks reads (reports _) (reports _) (reports _)
      (fun _ _ _ => safe_lists fun _ lists => lists.createLocalDisk _) state lists).mono
        fun _ _ safe => safe.2
  · exact safe_syncLocalDiskConditions_of_listed
      (fun state lists => (safe_listOwnedResources reads fsc .localDisk state lists).mono
        fun _ _ ensured => ⟨ensured.2, fun _ _ _ => ensured.2⟩)
      (safe_listOwnedResources reads fsc .filesystem) (fun _ lists => lists)
      (reports _) (reports _)
  · exact safe_ensureFileSystem_lists
  · exact safe_syncFilesystemConditions reads (reports _)
  · refine safe_ensureStorageClass reads (reports _) ?_ fun _ _ => ?_
    all_goals exact safe_lists fun _ lists =>
      lists.elsewhere (by simp [Call.part?]) (by simp [Call.part?])

end Pass

/-! ## The migration -/

/-- An owner of an object is the one that was put in, or was there before. -/
theorem mem_of_mem_upsertOwnerRef
    {reference other : OwnerReference} {references : List OwnerReference}
    (member : other ∈ upsertOwnerRef reference references) :
    other = reference ∨ other ∈ references := by
  induction references with
  | nil => exact Or.inl (List.mem_singleton.mp member)
  | cons head tail inductionHypothesis =>
      rw [upsertOwnerRef] at member
      split at member
      · rcases List.mem_cons.mp member with same | inTail
        · exact Or.inl same
        · exact Or.inr (List.mem_cons_of_mem _ inTail)
      · rcases List.mem_cons.mp member with same | inTail
        · exact Or.inr (same ▸ List.mem_cons_self)
        · exact (inductionHypothesis inTail).imp_right (List.mem_cons_of_mem _)

/-- The owners of an adopted object are its claim and its earlier owners. -/
theorem Adopted.owner
    {state : Cluster} {name owner : String} {old new : Unstructured}
    (adopted : Adopted state name old new)
    (owned : isOwnedByThisFSC new owner = true) :
    owner = name ∨ isOwnedByThisFSC old owner = true := by
  obtain ⟨fsc, timestamp, version, stored, rfl⟩ := adopted
  have named : fsc.metadata.name = name :=
    congrArg NamespacedName.name (find?_eq_some stored).2
  rw [isOwnedByThisFSC, List.any_eq_true] at owned
  obtain ⟨reference, member, matching⟩ := owned
  rcases mem_of_mem_upsertOwnerRef member with rfl | earlier
  · simp only [ownerReference, Bool.and_eq_true] at matching
    exact Or.inl ((of_decide_eq_true matching.2).symm.trans named)
  · exact Or.inr (List.any_eq_true.mpr ⟨reference, earlier, matching⟩)

section Migration

variable {base state : Cluster} {progress : Progress} {name : String}

/-- The migration creates no claim that is being deleted. -/
theorem Reached.noneDeleting
    (reached : Reached base progress state)
    (live : NoneDeleting base) :
    NoneDeleting state := by
  intro key claim stored
  cases found : base.claim? key with
  | some original =>
      have kept := reached.represents.kept key original found
      rw [stored] at kept
      cases kept
      exact live key claim found
  | none =>
      by_cases inside : key.ns = migrationNamespace
      · have named : key = migrationKey key.name := by rw [migrationKey, ← inside]
        rw [named] at found stored
        have created := reached.represents.created _ found
        have fresh : ∀ claim, CreatedFrom base key.name claim →
            isDeleting claim = false := by
          rintro claim ⟨timestamp, uid, version, metadata, _⟩
          rw [isDeleting, metadata]
          rfl
        rw [stored] at created
        cases stage : (progress key.name).claim with
        | absent => simp [stage, ClaimAt] at created
        | bare =>
            rw [stage] at created
            obtain ⟨_, same, from_, _⟩ := created
            cases same
            exact fresh claim from_
        | recorded =>
            rw [stage] at created
            obtain ⟨_, _, same, from_, _⟩ := created
            cases same
            exact fresh claim from_
      · rw [reached.represents.elsewhere key found inside] at stored
        cases stored

/-- A disk that is handed over belongs to the claim once all candidates of its
group are adopted. -/
theorem Reached.ownsDisk
    (distinct : DistinctNames base)
    (reached : Reached base progress state)
    (adopted : ∀ ld ∈ legacyDisks base name, ld.key ∈ (progress name).adopted)
    {disk : String}
    (handedOver :
      (base.object? .localDisk (migrationKey disk)).any (endsOwned name) = true) :
    OwnsDisk state (migrationKey name) disk := by
  rw [Option.any_eq_true] at handedOver
  obtain ⟨ld, stored, ends⟩ := handedOver
  simp only [endsOwned, Bool.and_eq_true, Bool.or_eq_true, decide_eq_true_eq] at ends
  obtain ⟨inside, reason⟩ := ends
  obtain ⟨later, found, version⟩ := reached.represents.localDisks.find?
    (fun _ _ adopted => adopted.key_eq) stored
  refine ⟨later, found, ?_⟩
  by_cases marked : ld.key ∈ (progress ld.filesystem).adopted
  · have changed : Adopted state ld.filesystem ld later := version.1 marked
    have member := (reached.adopted_mem distinct (find?_eq_some stored).1 marked).2
    have candidate := (mem_legacyDisks.mp member).2.2.1
    rcases reason with already | ⟨_, inGroup⟩
    · -- a candidate has no owner yet
      rw [isOwnedByThisFSC, (isV1LocalDisk_eq_true candidate).2.1] at already
      cases already
    · rw [inGroup] at changed
      exact isOwnedByThisFSC_of_adopted changed
  · rw [version.2 marked]
    rcases reason with already | ⟨candidate, inGroup⟩
    · exact already
    · have member : ld ∈ legacyDisks base name :=
        mem_legacyDisks.mpr ⟨(find?_eq_some stored).1, inside, candidate, inGroup⟩
      rw [inGroup] at marked
      exact absurd (adopted ld member) marked

/-- The migration hands a Filesystem over together with the disks in its
pools. -/
theorem Reached.lists
    (legacy : IsLegacy base)
    (reached : Reached base progress state)
    {fs : Unstructured}
    (stored : legacyFilesystem? base name = some fs)
    (handedOver : handsOverPools base name = true) :
    Lists (migrationKey name) (listedDisks fs) state where
  live := reached.noneDeleting legacy.live
  stored := by
    obtain ⟨later, found, version⟩ := reached.represents.filesystems.find?
      (fun _ _ adopted => adopted.key_eq) stored
    refine ⟨later, found, fun disk member => ?_⟩
    have sameSpec : later.spec = fs.spec := by
      by_cases marked : fs.metadata.ns = migrationNamespace ∧
          (progress fs.metadata.name).filesystem = true
      · obtain ⟨_, _, _, _, rfl⟩ := version.1 marked
        rfl
      · rw [version.2 marked]
    rwa [listedDisks, sameSpec, ← listedDisks]
  together := by
    intro later listed named owner owned
    obtain ⟨old, listedOld, version⟩ :=
      exists_of_forall₂ reached.represents.filesystems.flip listed
    have unowned := legacy.filesystems old listedOld owner
    by_cases marked : old.metadata.ns = migrationNamespace ∧
        (progress old.metadata.name).filesystem = true
    · have adopted : Adopted state old.metadata.name old later := version.1 marked
      have sameName : old.metadata.name = name :=
        congrArg NamespacedName.name (adopted.key_eq.symm.trans named)
      rw [sameName] at adopted marked
      have ownName : owner = name := (adopted.owner owned).resolve_right (by simp [unowned])
      have allAdopted := ((reached.sound name).filesystem marked.2).2.1
      refine ⟨(congrArg NamespacedName.name named).trans ownName.symm, fun disk member => ?_⟩
      rw [named]
      refine reached.ownsDisk legacy.names allAdopted ?_
      rw [handsOverPools, stored, Option.all_some, List.all_eq_true] at handedOver
      exact handedOver disk member
    · rw [version.2 marked, unowned] at owned
      cases owned

end Migration

/-- In a cluster of v1.0 a migration, whatever goes wrong with it, and any
number of passes on any claims keep every disk in the pools of a Filesystem
all of whose disks are handed over with it. -/
theorem migration_keeps_pools
    {base : Cluster}
    (legacy : IsLegacy base)
    {name : String}
    (handedOver : handsOverPools base name = true)
    (order : MapOrder)
    (choices : Nat → Choice)
    (r : FileSystemClaimReconciler)
    {passes : List (Pass apiServer NamespacedName)}
    {state : Cluster}
    (run : Run (reconciler r) Unedited (migrationRun order choices base).state
      passes state) :
    KeepsPools base name state := by
  intro fs stored
  have interrupted : Interrupted order base (migrationRun order choices base).state :=
    ⟨choices, Or.inl rfl⟩
  obtain ⟨progress, reached⟩ := reached_of_interrupted legacy.names interrupted
  have initially := reached.lists legacy stored handedOver
  have preserved : ∀ pass : Pass apiServer NamespacedName, True →
      Lists (migrationKey name) (listedDisks fs) pass.start →
      Lists (migrationKey name) (listedDisks fs)
        (pass.outcome (reconciler r)).state := by
    intro pass _ lists
    have ensured := ensures_reconcile_of_safe (r := r) admitsReads_free
      (fun fsc found => safe_reconcileClaim_lists r (lists.live pass.index fsc found)) lists
    exact (passLog_of_ensures ensured fun _ _ => trivial).2
  exact (run.invariant initially (fun _ _ unedited lists => lists.of_unedited unedited)
    preserved fun _ _ => trivial).1.stored

theorem isLegacy_of_no_claims
    {cluster : Cluster}
    (names : DistinctNames cluster)
    (claims : cluster.claims = [])
    (filesystems : ∀ fs ∈ cluster.filesystems, fs.metadata.ownerReferences = []) :
    IsLegacy cluster where
  names := names
  live := by
    intro key claim stored
    rw [Cluster.claim?, claims] at stored
    cases stored
  filesystems := by
    intro fs listed owner
    rw [isOwnedByThisFSC, filesystems fs listed]
    rfl

/-- The only disk of the Filesystem is a candidate, so it stays. -/
theorem migration_keeps_pools_legacyCluster :
    KeepsPools legacyCluster "fs"
      (Pass.outcome (reconciler {}) ⟨migrationKey "fs", calm,
        (migrationRun .asListed calm legacyCluster).state⟩).state :=
  have run : Run (reconciler {}) Unedited
      (migrationRun .asListed calm legacyCluster).state _ _ :=
    Run.start.pass (migrationKey "fs") calm
  migration_keeps_pools
    (isLegacy_of_no_claims distinctNames_legacyCluster rfl (by decide)) (by decide)
    .asListed calm {} run

/-- A healthy disk of v1.0 that its Filesystem uses. -/
def usedDisk (name device : String) (labels : StringMap) : Unstructured where
  metadata := { name, ns := migrationNamespace, labels }
  spec := some (localDiskSpec device "node")
  conditions := some [metCondition .ready, metCondition .used]
  filesystem := "fs"

/-- A cluster of v1.0 with a Filesystem over two disks, one of which is to be
skipped by the migration. -/
def skippingCluster : Cluster where
  localDisks := [usedDisk "uuid.1" "/dev/sdb" [],
    usedDisk "uuid.2" "/dev/sdc" [(migrationLabelSkip, migrationLabelValueTrue)]]
  filesystems := [{
    metadata := { name := "fs", ns := migrationNamespace }
    spec := some (buildFilesystemSpec ["uuid.1", "uuid.2"]) }]

/-- After the migration and two passes the skipped disk is no longer listed. -/
theorem migration_shrinks_pools :
    IsLegacy skippingCluster ∧ migrates skippingCluster "fs" = true ∧
      ∃ passes state, Run (reconciler {}) Unedited
          (migrationRun .asListed calm skippingCluster).state passes state ∧
        ¬KeepsPools skippingCluster "fs" state := by
  refine ⟨isLegacy_of_no_claims ⟨by decide, by decide, by decide⟩ rfl (by decide),
    by decide, _, _, (Run.start.pass (migrationKey "fs") calm).pass (migrationKey "fs")
      calm, fun keeps => ?_⟩
  obtain ⟨later, stored, disksListed⟩ := keeps _ rfl
  have shrunk : ((Pass.outcome (reconciler {}) ⟨migrationKey "fs", calm,
      (Pass.outcome (reconciler {}) ⟨migrationKey "fs", calm,
        (migrationRun .asListed calm skippingCluster).state⟩).state⟩).state.object?
          .filesystem (migrationKey "fs")).all
      (fun fs => "uuid.2" ∉ listedDisks fs) = true := by decide +kernel
  rw [legacyFilesystem?] at stored
  rw [stored] at shrunk
  simp only [Option.all_some, decide_not, Bool.not_eq_true', decide_eq_false_iff_not]
    at shrunk
  exact shrunk (disksListed "uuid.2" (by decide))

end FusionAccess
