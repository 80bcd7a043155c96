import FusionAccess.Controller.Passes
import FusionAccess.Kubernetes.Turns

/-!
# Claims that ask for the same disks

Passes on several claims are under way at the same time. A LocalDisk is owned
by the claim whose pass has created it, and the Filesystem of a claim lists
LocalDisks that the claim has been seen to own. As long as LocalDisks and
claims stay, no disk is shared.
-/

namespace FusionAccess

open Kubernetes Interaction Fallible

/-- The disks in the pools of a Filesystem. -/
def listedDisks (fs : Unstructured) : List String :=
  let pools := (fs.spec.bind (·.field? "local")).bind (·.field? "pools")
  (pools.elim [] Value.items).flatMap fun pool =>
    ((pool.field? "disks").elim [] Value.items).filterMap Value.text?

/-- A Filesystem that the controller specifies lists the disks it is given. -/
theorem listedDisks_of_spec
    {fs : Unstructured} {ldNames : List String}
    (spec : fs.spec = some (buildFilesystemSpec ldNames)) :
    listedDisks fs = ldNames := by
  have disks : (ldNames.map Value.string).filterMap Value.text? = ldNames := by
    rw [List.filterMap_map]
    exact List.filterMap_some
  rw [listedDisks, spec]
  change ((ldNames.map Value.string).filterMap Value.text?) ++ [] = ldNames
  rw [List.append_nil, disks]

/-! ## Owners -/

/-- No two claims own the object. -/
def SoleOwned (object : Unstructured) : Prop :=
  ∀ first second, isOwnedByThisFSC object first = true →
    isOwnedByThisFSC object second = true → first = second

/-- The LocalDisk of the name is stored and owned by the claim. -/
def OwnsDisk (cluster : Cluster) (owner : NamespacedName) (disk : String) : Prop :=
  ∃ ld, cluster.object? .localDisk ⟨owner.ns, disk⟩ = some ld ∧
    isOwnedByThisFSC ld owner.name = true

/-- A Filesystem that a claim owns has the name of the claim and lists
LocalDisks of the claim. -/
def ListsOwn (cluster : Cluster) (fs : Unstructured) : Prop :=
  ∀ name, isOwnedByThisFSC fs name = true →
    fs.metadata.name = name ∧
      ∀ disk ∈ listedDisks fs, OwnsDisk cluster ⟨fs.metadata.ns, name⟩ disk

/-- LocalDisks have distinct names and at most one owner, and Filesystems list
LocalDisks of their owner. -/
structure Separate (cluster : Cluster) : Prop where
  names : ((cluster.objects .localDisk).map Unstructured.key).Nodup
  localDisks : ∀ ld ∈ cluster.objects .localDisk, SoleOwned ld
  filesystems : ∀ fs ∈ cluster.objects .filesystem, ListsOwn cluster fs

/-- No claim and no LocalDisk is deleted. -/
structure KeepsAll (before after : Cluster) : Prop where
  claims : ∀ key, (before.claim? key).isSome → (after.claim? key).isSome
  localDisks : ∀ key, (before.object? .localDisk key).isSome →
    (after.object? .localDisk key).isSome

/-- Claims stay, and LocalDisks stay with their owners. -/
structure RetainsOwners (before after : Cluster) : Prop where
  claims : ∀ key, (before.claim? key).isSome → (after.claim? key).isSome
  localDisks : ∀ key ld, before.object? .localDisk key = some ld →
    ∃ kept, after.object? .localDisk key = some kept ∧
      kept.metadata.ownerReferences = ld.metadata.ownerReferences

theorem RetainsOwners.refl (cluster : Cluster) : RetainsOwners cluster cluster :=
  ⟨fun _ stored => stored, fun _ ld stored => ⟨ld, stored, rfl⟩⟩

theorem RetainsOwners.trans
    {first second third : Cluster}
    (earlier : RetainsOwners first second)
    (later : RetainsOwners second third) :
    RetainsOwners first third where
  claims := fun key stored => later.claims key (earlier.claims key stored)
  localDisks := by
    intro key ld stored
    obtain ⟨between, storedBetween, same⟩ := earlier.localDisks key ld stored
    obtain ⟨kept, storedLater, same'⟩ := later.localDisks key between storedBetween
    exact ⟨kept, storedLater, same'.trans same⟩

theorem isOwnedByThisFSC_of_owners_eq
    {first second : Unstructured}
    (same : first.metadata.ownerReferences = second.metadata.ownerReferences)
    (name : String) :
    isOwnedByThisFSC first name = isOwnedByThisFSC second name := by
  rw [isOwnedByThisFSC, same, isOwnedByThisFSC]

theorem OwnsDisk.mono
    {before after : Cluster} {owner : NamespacedName} {disk : String}
    (owns : OwnsDisk before owner disk)
    (keeps : RetainsOwners before after) :
    OwnsDisk after owner disk := by
  obtain ⟨ld, stored, owned⟩ := owns
  obtain ⟨kept, found, same⟩ := keeps.localDisks _ ld stored
  exact ⟨kept, found, by rwa [isOwnedByThisFSC_of_owners_eq same]⟩

/-- Two versions of an object with the same key, owners and spec. -/
structure SameOwned (old new : Unstructured) : Prop where
  key : new.key = old.key
  spec : new.spec = old.spec
  owners : new.metadata.ownerReferences = old.metadata.ownerReferences

theorem SameOwned.refl (object : Unstructured) : SameOwned object object :=
  ⟨rfl, rfl, rfl⟩

/-- How LocalDisks and Filesystems may change: what is there keeps owners and
specs, and what is new has one owner and lists what this owner has. -/
structure Evolves (before after : Cluster) : Prop where
  keeps : RetainsOwners before after
  names : ((before.objects .localDisk).map Unstructured.key).Nodup →
    ((after.objects .localDisk).map Unstructured.key).Nodup
  localDisks : ∀ ld ∈ after.objects .localDisk,
    (∃ old ∈ before.objects .localDisk,
      ld.metadata.ownerReferences = old.metadata.ownerReferences) ∨ SoleOwned ld
  filesystems : ∀ fs ∈ after.objects .filesystem,
    (∃ old ∈ before.objects .filesystem, SameOwned old fs) ∨ ListsOwn after fs

theorem Evolves.separate
    {before after : Cluster}
    (evolves : Evolves before after)
    (separate : Separate before) :
    Separate after where
  names := evolves.names separate.names
  localDisks := by
    intro ld listed
    rcases evolves.localDisks ld listed with ⟨old, listedOld, same⟩ | sole
    · intro first second
      rw [isOwnedByThisFSC_of_owners_eq same, isOwnedByThisFSC_of_owners_eq same]
      exact separate.localDisks old listedOld first second
    · exact sole
  filesystems := by
    intro fs listed
    rcases evolves.filesystems fs listed with ⟨old, listedOld, same⟩ | own
    · intro name owned
      rw [isOwnedByThisFSC_of_owners_eq same.owners] at owned
      obtain ⟨named, disks⟩ := separate.filesystems old listedOld name owned
      have key := same.key
      simp only [Unstructured.key, ObjectMeta.key, NamespacedName.mk.injEq] at key
      rw [key.1, key.2, listedDisks, same.spec, ← listedDisks]
      exact ⟨named, fun disk member => (disks disk member).mono evolves.keeps⟩
    · exact own

/-! ## Single calls -/

section Calls

variable {cluster : Cluster}

/-- What leaves LocalDisks and Filesystems alone. -/
theorem evolves_of_objects_eq
    {after : Cluster}
    (kept : KeepsAll cluster after)
    (same : ∀ kind, after.objects kind = cluster.objects kind) :
    Evolves cluster after where
  keeps := {
    claims := kept.claims
    localDisks := by
      intro key ld stored
      rw [Cluster.object?, same]
      exact ⟨ld, stored, rfl⟩ }
  names := by rw [same]; exact id
  localDisks := by
    rw [same]
    exact fun ld listed => Or.inl ⟨ld, listed, rfl⟩
  filesystems := by
    rw [same]
    exact fun fs listed => Or.inl ⟨fs, listed, SameOwned.refl fs⟩

/-- What changes Filesystems only. -/
theorem evolves_of_filesystems
    {after : Cluster}
    (kept : KeepsAll cluster after)
    (same : after.objects .localDisk = cluster.objects .localDisk)
    (filesystems : ∀ fs ∈ after.objects .filesystem,
      (∃ old ∈ cluster.objects .filesystem, SameOwned old fs) ∨ ListsOwn after fs) :
    Evolves cluster after where
  keeps := {
    claims := kept.claims
    localDisks := by
      intro key ld stored
      rw [Cluster.object?, same]
      exact ⟨ld, stored, rfl⟩ }
  names := by rw [same]; exact id
  localDisks := by
    rw [same]
    exact fun ld listed => Or.inl ⟨ld, listed, rfl⟩
  filesystems := filesystems

/-- What changes LocalDisks only, and leaves those that were there their names
and owners. -/
theorem evolves_of_localDisks
    {after : Cluster}
    (kept : KeepsAll cluster after)
    (same : after.objects .filesystem = cluster.objects .filesystem)
    (names : ((cluster.objects .localDisk).map Unstructured.key).Nodup →
      ((after.objects .localDisk).map Unstructured.key).Nodup)
    (lookups : ∀ key ld, cluster.object? .localDisk key = some ld →
      ∀ found, after.object? .localDisk key = some found →
        found.metadata.ownerReferences = ld.metadata.ownerReferences)
    (localDisks : ∀ ld ∈ after.objects .localDisk,
      (∃ old ∈ cluster.objects .localDisk,
        ld.metadata.ownerReferences = old.metadata.ownerReferences) ∨ SoleOwned ld) :
    Evolves cluster after where
  keeps := {
    claims := kept.claims
    localDisks := by
      intro key ld stored
      obtain ⟨found, isFound⟩ := Option.isSome_iff_exists.mp
        (kept.localDisks key (by rw [stored]; rfl))
      exact ⟨found, isFound, lookups key ld stored found isFound⟩ }
  names := names
  localDisks := localDisks
  filesystems := by
    rw [same]
    exact fun fs listed => Or.inl ⟨fs, listed, SameOwned.refl fs⟩

/-- An object that is created for a claim has no other owner. -/
theorem isOwnedByThisFSC_newObject
    (fsc : FileSystemClaim) (name : String) (spec : Value) (owner : String) :
    isOwnedByThisFSC (cluster.newObject (ownedObject fsc name spec)) owner = true ↔
      fsc.metadata.name = owner := by
  simp [isOwnedByThisFSC, Cluster.newObject, Cluster.identify, ownedObject,
    ownerReference]

theorem soleOwned_newObject (fsc : FileSystemClaim) (name : String) (spec : Value) :
    SoleOwned (cluster.newObject (ownedObject fsc name spec)) := by
  intro first second ownedFirst ownedSecond
  rw [isOwnedByThisFSC_newObject] at ownedFirst ownedSecond
  exact ownedFirst.symm.trans ownedSecond

/-- The creation of a LocalDisk for one claim. -/
theorem evolves_createLocalDisk
    {fsc : FileSystemClaim} {name : String} {spec : Value}
    (kept : KeepsAll cluster
      (cluster.afterCall (.create .localDisk (ownedObject fsc name spec)))) :
    Evolves cluster
      (cluster.afterCall (.create .localDisk (ownedObject fsc name spec))) := by
  cases taken : cluster.object? .localDisk (ownedObject fsc name spec).key with
  | some object =>
      refine evolves_of_objects_eq kept fun kind => ?_
      simp only [Cluster.afterCall, Cluster.answer, Cluster.create, taken]
  | none =>
      have added := cluster.objects_create taken
      have others : (cluster.afterCall (.create .localDisk
          (ownedObject fsc name spec))).objects .filesystem = cluster.objects .filesystem :=
        cluster.objects_afterCall (by simp [Call.part?])
      refine evolves_of_localDisks kept others (fun names => ?_)
        (fun key ld stored found isFound => ?_) fun ld listed => ?_
      · rw [added, List.map_append, List.nodup_append]
        refine ⟨names, by simp, fun key listed other isNew => ?_⟩
        rw [List.map_singleton, List.mem_singleton] at isNew
        subst isNew
        obtain ⟨ld, member, rfl⟩ := List.mem_map.mp listed
        intro same
        rw [Cluster.object?, Registry.find?_eq_none] at taken
        exact taken ld member same
      · rw [Cluster.object?, added, Registry.find?_append] at isFound
        rw [Cluster.object?] at stored
        rw [stored, Option.some_or] at isFound
        cases isFound
        rfl
      · rw [added] at listed
        rcases List.mem_append.mp listed with earlier | new
        · exact Or.inl ⟨ld, earlier, rfl⟩
        · rw [List.mem_singleton.mp new]
          exact Or.inr (soleOwned_newObject fsc name spec)

/-- What is left after a deletion, which marks an object that has finalizers. -/
theorem sameOwned_of_mem_delete
    {kind : Kind} {key : NamespacedName} {object : Unstructured}
    (member : object ∈ (cluster.afterCall (.delete kind key)).objects kind) :
    ∃ old ∈ cluster.objects kind, SameOwned old object := by
  simp only [Cluster.afterCall, Cluster.answer, Cluster.delete] at member
  split at member
  · exact ⟨object, member, SameOwned.refl object⟩
  split at member
  · rw [Cluster.objects_withObjects, Registry.mem_remove] at member
    exact ⟨object, member.1, SameOwned.refl object⟩
  · rw [Cluster.objects_withObjects, Registry.mem_amend] at member
    rcases member with ⟨member, _⟩ | ⟨old, member, _, rfl⟩
    · exact ⟨object, member, SameOwned.refl object⟩
    · exact ⟨old, member, rfl, rfl, rfl⟩

theorem sameOwned_of_object?_delete
    {kind : Kind} {key other : NamespacedName} {object found : Unstructured}
    (stored : cluster.object? kind other = some object)
    (isFound : (cluster.afterCall (.delete kind key)).object? kind other = some found) :
    SameOwned object found := by
  have unchanged : some object = some found → SameOwned object found := by
    intro same
    rw [Option.some.inj same]
    exact SameOwned.refl found
  simp only [Cluster.afterCall, Cluster.answer, Cluster.delete] at isFound
  split at isFound
  · exact unchanged (stored.symm.trans isFound)
  unfold Cluster.object? at stored isFound
  split at isFound
  · rw [Cluster.objects_withObjects] at isFound
    by_cases same : other = key
    · subst same
      rw [Registry.find?_remove_self] at isFound
      cases isFound
    · rw [Registry.find?_remove_of_ne same] at isFound
      exact unchanged (stored.symm.trans isFound)
  · rw [Cluster.objects_withObjects] at isFound
    by_cases same : other = key
    · subst same
      rw [Registry.find?_amend_self, stored] at isFound
      · cases isFound
        exact ⟨rfl, rfl, rfl⟩
      · exact fun _ named => named
    · rw [Registry.find?_amend_of_ne _ same, stored] at isFound
      · exact unchanged isFound
      · exact fun _ named => named

theorem nodup_delete
    {kind : Kind} {key : NamespacedName}
    (names : ((cluster.objects kind).map Unstructured.key).Nodup) :
    (((cluster.afterCall (.delete kind key)).objects kind).map
      Unstructured.key).Nodup := by
  simp only [Cluster.afterCall, Cluster.answer, Cluster.delete]
  split
  · exact names
  split
  · rw [Cluster.objects_withObjects]
    exact names.sublist (List.filter_sublist.map _)
  · rw [Cluster.objects_withObjects, Registry.map_key_amend]
    · exact names
    · exact fun _ same => same

theorem evolves_delete
    {kind : Kind} {key : NamespacedName}
    (kept : KeepsAll cluster (cluster.afterCall (.delete kind key))) :
    Evolves cluster (cluster.afterCall (.delete kind key)) := by
  cases kind with
  | filesystem =>
      have others : (cluster.afterCall (.delete .filesystem key)).objects .localDisk =
          cluster.objects .localDisk :=
        cluster.objects_afterCall (by simp [Call.part?])
      exact evolves_of_filesystems kept others
        fun fs member => Or.inl (sameOwned_of_mem_delete member)
  | localDisk =>
      have others : (cluster.afterCall (.delete .localDisk key)).objects .filesystem =
          cluster.objects .filesystem :=
        cluster.objects_afterCall (by simp [Call.part?])
      refine evolves_of_localDisks kept others nodup_delete
        (fun _ _ stored _ isFound =>
          (sameOwned_of_object?_delete stored isFound).owners) fun ld member => ?_
      obtain ⟨old, listed, same⟩ := sameOwned_of_mem_delete member
      exact Or.inl ⟨old, listed, same.owners⟩

/-- The calls of passes on a claim, apart from those that write Filesystems. -/
def OrdinaryCall (fsc : FileSystemClaim) : Call → Prop
  | .create .localDisk object => ∃ name spec, object = ownedObject fsc name spec
  | .create .filesystem _ | .update _ _ | .patchSpec _ _ _ => False
  | _ => True

theorem ordinaryCall_of_isRead
    (fsc : FileSystemClaim) {call : Call} (reads : call.isRead = true) :
    OrdinaryCall fsc call := by
  cases call <;> trivial

theorem evolves_of_ordinary
    {fsc : FileSystemClaim} {call : Call}
    (ordinary : OrdinaryCall fsc call)
    (kept : KeepsAll cluster (cluster.afterCall call)) :
    Evolves cluster (cluster.afterCall call) := by
  cases call
  case create kind object =>
      cases kind with
      | localDisk =>
          obtain ⟨name, spec, rfl⟩ := ordinary
          exact evolves_createLocalDisk kept
      | filesystem => exact ordinary.elim
  case update => exact ordinary.elim
  case patchSpec => exact ordinary.elim
  case delete kind key => exact evolves_delete kept
  all_goals
    exact evolves_of_objects_eq kept fun kind =>
      cluster.objects_afterCall (by simp [Call.part?])

variable {fsc : FileSystemClaim} {ldNames : List String}

/-- The creation of the Filesystem of a claim from LocalDisks that it owns. -/
theorem evolves_createFilesystem
    (kept : KeepsAll cluster (cluster.afterCall (.create .filesystem
      (ownedObject fsc fsc.metadata.name (buildFilesystemSpec ldNames)))))
    (owns : ∀ disk ∈ ldNames, OwnsDisk cluster fsc.key disk) :
    Evolves cluster (cluster.afterCall (.create .filesystem
      (ownedObject fsc fsc.metadata.name (buildFilesystemSpec ldNames)))) := by
  have others : (cluster.afterCall (.create .filesystem (ownedObject fsc
      fsc.metadata.name (buildFilesystemSpec ldNames)))).objects .localDisk =
        cluster.objects .localDisk :=
    cluster.objects_afterCall (by simp [Call.part?])
  cases taken : cluster.object? .filesystem (ownedObject fsc fsc.metadata.name
      (buildFilesystemSpec ldNames)).key with
  | some object =>
      refine evolves_of_objects_eq kept fun kind => ?_
      simp only [Cluster.afterCall, Cluster.answer, Cluster.create, taken]
  | none =>
      refine evolves_of_filesystems kept others fun fs listed => ?_
      rw [cluster.objects_create taken] at listed
      rcases List.mem_append.mp listed with earlier | new
      · exact Or.inl ⟨fs, earlier, SameOwned.refl fs⟩
      · rw [List.mem_singleton.mp new]
        refine Or.inr fun name owned => ?_
        rw [isOwnedByThisFSC_newObject] at owned
        subst owned
        refine ⟨rfl, fun disk member => ?_⟩
        rw [listedDisks_of_spec rfl] at member
        obtain ⟨ld, stored, ownedDisk⟩ := owns disk member
        refine ⟨ld, ?_, ownedDisk⟩
        rw [Cluster.object?, others]
        exact stored

/-- A patch of the Filesystem of a claim from LocalDisks that it owns. -/
theorem evolves_patchFilesystem
    (separate : Separate cluster)
    (kept : KeepsAll cluster (cluster.afterCall
      (.patchSpec .filesystem fsc.key (buildFilesystemSpec ldNames))))
    (owns : ∀ disk ∈ ldNames, OwnsDisk cluster fsc.key disk) :
    Evolves cluster (cluster.afterCall
      (.patchSpec .filesystem fsc.key (buildFilesystemSpec ldNames))) := by
  have others : (cluster.afterCall (.patchSpec .filesystem fsc.key
      (buildFilesystemSpec ldNames))).objects .localDisk = cluster.objects .localDisk :=
    cluster.objects_afterCall (by simp [Call.part?])
  refine evolves_of_filesystems kept others fun fs listed => ?_
  simp only [Cluster.afterCall, Cluster.answer, Cluster.patchSpec] at listed
  split at listed
  · exact Or.inl ⟨fs, listed, SameOwned.refl fs⟩
  rw [Cluster.objects_withObjects, Registry.mem_amend] at listed
  rcases listed with ⟨earlier, _⟩ | ⟨old, earlier, same, rfl⟩
  · exact Or.inl ⟨fs, earlier, SameOwned.refl fs⟩
  -- the Filesystem at the key of the claim is owned by no other claim
  refine Or.inr fun name owned => ?_
  have named := (separate.filesystems old earlier name owned).1
  simp only [Unstructured.key, FileSystemClaim.key, ObjectMeta.key,
    NamespacedName.mk.injEq] at same
  refine ⟨named, fun disk member => ?_⟩
  rw [listedDisks_of_spec rfl] at member
  obtain ⟨ld, stored, ownedDisk⟩ := owns disk member
  refine ⟨ld, ?_, ?_⟩
  · rw [Cluster.object?, others]
    change Registry.find? Unstructured.key ⟨old.metadata.ns, disk⟩ _ = _
    rw [same.1]
    exact stored
  · rw [← named, same.2]
    exact ownedDisk

end Calls

/-! ## Passes that take turns -/

/-- What passes rely on and guarantee: claims and LocalDisks with their owners
stay, and LocalDisks are created for the claim of the pass. -/
def sharing : Discipline apiServer NamespacedName (Except Failure Result) where
  invariant := Separate
  rely := fun _ => RetainsOwners
  peers := fun _ _ => True
  admitted := fun _ event => KeepsAll event.before event.after
  guarantee := fun key event => ∀ object, event.request = .create .localDisk object →
    (event.before.claim? key).isSome ∧
      ∃ fsc name spec, fsc.key = key ∧ object = ownedObject fsc name spec
  ends := fun _ _ _ => True
  rely_refl := fun _ => RetainsOwners.refl
  rely_trans := fun _ _ _ _ => RetainsOwners.trans
  ends_stable := fun _ _ _ _ _ _ => trivial

/-- A call that lets LocalDisks and Filesystems evolve. -/
theorem served_of_evolves
    {key : NamespacedName} {event : Event apiServer}
    (separate : Separate event.before)
    (kept : KeepsAll event.before event.after)
    (evolves : KeepsAll event.before (event.before.afterCall event.request) →
      Evolves event.before (event.before.afterCall event.request))
    (guarantee : sharing.guarantee key event) :
    sharing.Served key event := by
  have changes : Evolves event.before event.after := by
    rcases after_cases event with carriedOut | unchanged
    · rw [carriedOut] at kept ⊢
      exact evolves kept
    · rw [unchanged]
      exact evolves_of_objects_eq (unchanged ▸ kept) fun _ => rfl
  exact ⟨changes.separate separate, fun _ _ => changes.keeps, guarantee⟩

section Pass

variable {fsc : FileSystemClaim}

/-- The claim is stored. -/
def Known (fsc : FileSystemClaim) (state : Cluster) : Prop :=
  (state.claim? fsc.key).isSome

theorem honest_serve (choice : Choice) (cluster : Cluster) (call : Call) :
    Honest call (serve choice cluster call).2 := by
  cases reply : (serve choice cluster call).2 with
  | error failure => exact honest_error call failure
  | ok value =>
      rw [← answer_of_serve_ok reply]
      exact honest_answer _ cluster call

/-- An ordinary call is safe whatever other passes do, and answered honestly. -/
theorem safeThen_ordinary {call : Call} (ordinary : OrdinaryCall fsc call) :
    SafeThen (sharing.contract fsc.key) (Known fsc) (request call) (Honest call) := by
  intro state known
  refine ⟨fun before choice relied separate kept => ?_, ?_⟩
  · refine served_of_evolves separate kept (evolves_of_ordinary ordinary) ?_
    intro object creates
    change call = _ at creates
    subst creates
    obtain ⟨name, spec, rfl⟩ := ordinary
    exact ⟨relied.claims _ known, fsc, name, spec, rfl, rfl⟩
  · rintro ⟨before, choice⟩ ⟨relied, separate, kept⟩
    exact ⟨honest_serve choice before call, kept.claims _ (relied.claims _ known)⟩

theorem safe_ordinary {call : Call} (ordinary : OrdinaryCall fsc call) :
    Safe (sharing.contract fsc.key) (Known fsc) (request call) :=
  (safeThen_ordinary ordinary).safe

theorem readsSafely_sharing :
    ReadsSafely (sharing.contract fsc.key) (Known fsc) :=
  fun _ reads => safeThen_ordinary (ordinaryCall_of_isRead fsc reads)

theorem allowsReports_sharing
    (reports : ConditionType → ConditionStatus → Reason → Prop) :
    AllowsReports (sharing.contract fsc.key) (Known fsc) fsc reports :=
  allowsReports_of_calls readsSafely_sharing fun _ _ => safe_ordinary trivial

theorem safe_patchFSCSpec_sharing (mutate : FileSystemClaim → FileSystemClaim) :
    Safe (sharing.contract fsc.key) (Known fsc) (patchFSCSpec fsc mutate) :=
  safe_patchFSCSpec_of_calls readsSafely_sharing fun _ _ => safe_ordinary trivial

/-- Listing owned resources yields what the claim owns when it is listed. -/
theorem ensures_listOwnedResources_sharing
    {kind : Kind}
    {post : Except Failure (List Unstructured) → Cluster → Prop}
    {state : Cluster}
    (listed : ∀ before, RetainsOwners state before → Separate before →
      post (.ok (ownedBy before fsc kind)) before)
    (failed : ∀ before failure, RetainsOwners state before → post (.error failure) before) :
    Ensures (sharing.contract fsc.key) (listOwnedResources fsc kind) post state := by
  unfold listOwnedResources
  rw [ensures_bind, ensures_mapError]
  refine ensures_read_among rfl ?_ (fun before _ relied separate => ?_)
    fun before failure _ relied _ => failed before _ relied
  · intro event lists object creates
    rw [lists] at creates
    cases creates
  · exact listed before relied separate

/-- The claim is stored and owns the listed LocalDisks. -/
structure KnowsDisks (fsc : FileSystemClaim) (owned : List Unstructured) (state : Cluster) :
    Prop where
  known : Known fsc state
  owns : ∀ ld ∈ owned, OwnsDisk state fsc.key ld.metadata.name

theorem KnowsDisks.mono
    {owned : List Unstructured} {before after : Cluster}
    (knows : KnowsDisks fsc owned before) (keeps : RetainsOwners before after) :
    KnowsDisks fsc owned after :=
  ⟨keeps.claims _ knows.known, fun ld member => (knows.owns ld member).mono keeps⟩

theorem KnowsDisks.ownsName
    {owned : List Unstructured} {state : Cluster}
    (knows : KnowsDisks fsc owned state) :
    ∀ disk ∈ owned.map (fun ld => ld.metadata.name), OwnsDisk state fsc.key disk := by
  intro disk member
  obtain ⟨ld, listed, rfl⟩ := List.mem_map.mp member
  exact knows.owns ld listed

/-- Objects are listed in the namespace of the claim. -/
theorem mem_of_mem_ownedBy
    {state : Cluster} {kind : Kind} {object : Unstructured}
    (member : object ∈ ownedBy state fsc kind) :
    object ∈ state.objects kind ∧ object.metadata.ns = fsc.metadata.ns ∧
      isOwnedByThisFSC object fsc.metadata.name = true := by
  have listed := List.mem_filter.mp (List.mem_of_mem_filter member)
  exact ⟨listed.1, by simpa using listed.2, (List.mem_filter.mp member).2⟩

/-- The claim owns the LocalDisks that it lists. -/
theorem ensures_listDisks_sharing {state : Cluster} (known : Known fsc state) :
    Ensures (sharing.contract fsc.key) (listOwnedResources fsc .localDisk)
      (fun result final => Known fsc final ∧
        ∀ owned, result = .ok owned → KnowsDisks fsc owned final) state := by
  refine ensures_listOwnedResources_sharing (fun before relied separate => ?_)
    fun before failure relied =>
      ⟨relied.claims _ known, fun _ impossible => by cases impossible⟩
  refine ⟨relied.claims _ known, ?_⟩
  rintro owned equal
  cases equal
  refine ⟨relied.claims _ known, fun ld member => ⟨ld, ?_, ?_⟩⟩
  · obtain ⟨listed, inNamespace, _⟩ := mem_of_mem_ownedBy member
    have key : ld.key = ⟨fsc.key.ns, ld.metadata.name⟩ := by
      rw [Unstructured.key, ObjectMeta.key, inNamespace]
      rfl
    rw [← key]
    exact Registry.find?_eq_some_of_mem separate.names listed
  · exact (mem_of_mem_ownedBy member).2.2

/-- The Filesystems that it lists have its key. -/
theorem ensures_listFilesystems_sharing
    {owned : List Unstructured} {state : Cluster} (knows : KnowsDisks fsc owned state) :
    Ensures (sharing.contract fsc.key) (listOwnedResources fsc .filesystem)
      (fun result final => Known fsc final ∧
        ∀ fss, result = .ok fss →
          KnowsDisks fsc owned final ∧ ∀ fs ∈ fss, fs.key = fsc.key) state := by
  refine ensures_listOwnedResources_sharing (fun before relied separate => ?_)
    fun before failure relied =>
      ⟨relied.claims _ knows.known, fun _ impossible => by cases impossible⟩
  refine ⟨relied.claims _ knows.known, ?_⟩
  rintro fss equal
  cases equal
  refine ⟨knows.mono relied, fun fs member => ?_⟩
  obtain ⟨listed, inNamespace, isOwned⟩ := mem_of_mem_ownedBy member
  have named := (separate.filesystems fs listed _ isOwned).1
  rw [Unstructured.key, ObjectMeta.key, inNamespace, named]
  rfl

/-- The Filesystem of the claim lists only disks of the claim. -/
theorem safe_ensureFileSystem_sharing :
    Safe (sharing.contract fsc.key) (Known fsc) (ensureFileSystem fsc) := by
  refine safe_ensureFileSystem_of_listed (fun _ => ensures_listDisks_sharing)
    (fun _ _ => ensures_listFilesystems_sharing) (allowsReports_sharing _) ?_ ?_
  · rintro owned state _ ⟨knows, _⟩
    refine ⟨fun before choice relied separate kept => ?_, ?_⟩
    · refine served_of_evolves separate kept (fun kept => evolves_createFilesystem kept
        (knows.mono relied).ownsName) fun object impossible => ?_
      cases impossible
    · rintro ⟨before, choice⟩ ⟨relied, _, kept⟩
      exact kept.claims _ (relied.claims _ knows.known)
  · rintro owned fs state _ ⟨knows, keys⟩
    rw [keys fs (by simp)]
    refine ⟨fun before choice relied separate kept => ?_, ?_⟩
    · refine served_of_evolves separate kept (fun kept =>
        evolves_patchFilesystem separate kept (knows.mono relied).ownsName)
        fun object impossible => ?_
      cases impossible
    · rintro ⟨before, choice⟩ ⟨relied, _, kept⟩
      exact kept.claims _ (relied.claims _ knows.known)

/-- A pass on a stored claim follows the discipline. -/
theorem safe_reconcileClaim_sharing (r : FileSystemClaimReconciler) :
    Safe (sharing.contract fsc.key) (Known fsc) (reconcileClaim r fsc) := by
  have reads : ReadsSafely (sharing.contract fsc.key) (Known fsc) := readsSafely_sharing
  have reports : ∀ reports, AllowsReports (sharing.contract fsc.key) (Known fsc) fsc
      reports := allowsReports_sharing
  refine safe_reconcileClaim_of_provision (fun _ => safe_patchFSCSpec_sharing _)
    (fun _ _ => {
      reads := reads
      reports := reports _
      deletesStorageClass := safe_ordinary trivial
      deletes := fun _ _ => safe_ordinary trivial
      dropsFinalizer := safe_patchFSCSpec_sharing _ })
    (fun state known => ensures_provision_of_safe ?_ ?_ ?_ ?_ ?_)
    (safe_syncFSCReady (reports _))
  · refine (safe_ensureLocalDisks reads (reports _) (reports _) (reports _)
      (fun name devicePath nodeName => ?_) state known).mono fun _ _ safe => safe.2
    exact safe_ordinary ⟨name, localDiskSpec devicePath nodeName, rfl⟩
  · exact safe_syncLocalDiskConditions_of_listed
      (fun state known => (safe_listOwnedResources reads fsc .localDisk state known).mono
        fun _ _ ensured => ⟨ensured.2, fun _ _ _ => ensured.2⟩)
      (safe_listOwnedResources reads fsc .filesystem) (fun _ known => known)
      (reports _) (reports _)
  · exact safe_ensureFileSystem_sharing
  · exact safe_syncFilesystemConditions reads (reports _)
  · exact safe_ensureStorageClass reads (reports _) (safe_ordinary trivial)
      fun _ _ => safe_ordinary trivial

/-- A pass follows the discipline. -/
theorem follows_reconcile
    (r : FileSystemClaimReconciler) (key : NamespacedName) (state : Cluster) :
    sharing.Follows key (reconciler r key) state := by
  change Ensures (sharing.contract key) (reconcile r key) (fun _ _ => True) state
  unfold reconcile
  rw [ensures_bind, ensures_attempt]
  refine ⟨fun before choice relied separate kept => ?_, ?_⟩
  · refine served_of_evolves separate kept (fun kept => ?_) fun object impossible => ?_
    · exact evolves_of_objects_eq kept fun _ => rfl
    · cases impossible
  · rintro ⟨before, choice⟩ ⟨relied, separate, kept⟩
    rw [Program.ensures_done, onSuccess_ok]
    dsimp only
    cases reply : (serve choice before (.getClaim key)).2 with
    | error failure =>
        simp only [ensures_ite, ensures_pure, ensures_throw, implies_true, and_self]
    | ok fsc =>
        have answered := answer_of_serve_ok reply
        simp only [Cluster.answer] at answered
        split at answered
        next claim stored =>
          cases answered
          have named : fsc.key = key := (Registry.find?_eq_some stored).2
          have safe : Safe (sharing.contract key) (Known fsc) (reconcileClaim r fsc) := by
            rw [← named]
            exact safe_reconcileClaim_sharing r
          refine (safe _ ?_).mono fun _ _ _ => trivial
          exact kept.claims _ (by rw [named, stored]; rfl)
        next => cases answered

end Pass

/-! ## Disks are not shared -/

/-- The call has created the LocalDisk with the key. -/
structure CreatesDisk (event : Event apiServer) (key : NamespacedName) : Prop where
  request : ∃ object, event.request = .create .localDisk object ∧ object.key = key
  absent : event.before.object? .localDisk key = none
  present : (event.after.object? .localDisk key).isSome

/-- The LocalDisk is stored and owned by exactly one of the stored claims. -/
def HasOneOwner (cluster : Cluster) (key : NamespacedName) : Prop :=
  ∃ ld, cluster.object? .localDisk key = some ld ∧
    ∃! owner : NamespacedName, (cluster.claim? owner).isSome ∧ owner.ns = key.ns ∧
      isOwnedByThisFSC ld owner.name = true

/-- Filesystems of different claims list different disks. -/
def DisjointDisks (cluster : Cluster) : Prop :=
  ∀ first second : FileSystemClaim, first.metadata.ns = second.metadata.ns →
    first.metadata.name ≠ second.metadata.name →
      ∀ fs ∈ ownedBy cluster first .filesystem,
        ∀ other ∈ ownedBy cluster second .filesystem,
          List.Disjoint (listedDisks fs) (listedDisks other)

theorem Separate.disjointDisks
    {cluster : Cluster} (separate : Separate cluster) :
    DisjointDisks cluster := by
  have owns : ∀ (fsc : FileSystemClaim), ∀ fs ∈ ownedBy cluster fsc .filesystem,
      ∀ disk ∈ listedDisks fs, OwnsDisk cluster fsc.key disk := by
    intro fsc fs member disk inList
    obtain ⟨listed, inNamespace, isOwned⟩ := mem_of_mem_ownedBy member
    have disks := (separate.filesystems fs listed _ isOwned).2 disk inList
    rwa [inNamespace] at disks
  intro first second sameNamespace different fs member other memberOther
    disk inFirst inSecond
  obtain ⟨ld, stored, ownedFirst⟩ := owns first fs member disk inFirst
  obtain ⟨ld', stored', ownedSecond⟩ := owns second other memberOther disk inSecond
  change cluster.object? .localDisk ⟨first.metadata.ns, disk⟩ = _ at stored
  change cluster.object? .localDisk ⟨second.metadata.ns, disk⟩ = _ at stored'
  rw [sameNamespace, stored'] at stored
  cases stored
  exact different (separate.localDisks ld (Registry.find?_eq_some stored').1 _ _
    ownedFirst ownedSecond)

/-- A created LocalDisk has the owner for which it was created. -/
theorem hasOneOwner_of_createsDisk
    {key claimKey : NamespacedName} {event : Event apiServer} {current : Cluster}
    (creates : CreatesDisk event key)
    (served : sharing.Served claimKey event)
    (kept : KeepsAll event.before event.after)
    (since : RetainsOwners event.after current) :
    HasOneOwner current key := by
  obtain ⟨⟨object, isRequest, rfl⟩, absent, present⟩ := creates
  obtain ⟨known, fsc, name, spec, rfl, rfl⟩ := served.guarantee object isRequest
  have created : event.after.object? .localDisk (ownedObject fsc name spec).key =
      some (event.before.newObject (ownedObject fsc name spec)) := by
    rcases after_cases event with carriedOut | unchanged
    · rw [carriedOut, isRequest, Cluster.object?, event.before.objects_create absent,
        Registry.find?_append]
      rw [Cluster.object?] at absent
      rw [absent, Option.none_or, Registry.find?_cons]
      exact if_pos rfl
    · rw [unchanged, absent] at present
      cases present
  obtain ⟨ld, stored, same⟩ := since.localDisks _ _ created
  refine ⟨ld, stored, fsc.key, ⟨?_, rfl, ?_⟩, ?_⟩
  · exact since.claims _ (kept.claims _ known)
  · rw [isOwnedByThisFSC_of_owners_eq same, isOwnedByThisFSC_newObject]
    rfl
  · rintro owner ⟨_, inNamespace, owned⟩
    rw [isOwnedByThisFSC_of_owners_eq same, isOwnedByThisFSC_newObject] at owned
    change owner = ⟨fsc.metadata.ns, fsc.metadata.name⟩
    rw [owned, show fsc.metadata.ns = owner.ns from inNamespace.symm]

/-- However the calls of passes on any number of claims are interleaved, as long
as no claim and no LocalDisk is deleted, each LocalDisk that a pass has created
has exactly one owner, and Filesystems of different claims list different
disks. -/
theorem claims_share_no_disk
    (r : FileSystemClaimReconciler)
    {initial : Cluster}
    (separate : Separate initial)
    {current : Interleaving apiServer NamespacedName (Except Failure Result)}
    (reached : Interleaved (reconciler r) (fun _ _ => True) Evolves initial current)
    (kept : ∀ occurrence ∈ current.log,
      KeepsAll occurrence.event.before occurrence.event.after) :
    (∀ occurrence ∈ current.log, ∀ key, CreatesDisk occurrence.event key →
      HasOneOwner current.state key) ∧ DisjointDisks current.state := by
  have upheld : sharing.Upheld current :=
    Discipline.sound (fun key state _ _ => follows_reconcile r key state)
      (fun _ _ evolves separate => ⟨evolves.separate separate, fun _ => evolves.keeps⟩)
      separate reached kept
  refine ⟨fun occurrence member key creates => ?_, upheld.invariant.disjointDisks⟩
  obtain ⟨_, served, since⟩ := upheld.log occurrence member
  exact hasOneOwner_of_createsDisk creates served (kept occurrence member)
    (since key fun _ => trivial)

/-! ## Two claims for one disk -/

/-- The names that are stored before are stored after. -/
def keepsNames (before after : Cluster) : Bool :=
  before.claims.all (fun claim => claim.key ∈ after.claims.map FileSystemClaim.key) &&
    (before.objects .localDisk).all fun ld =>
      ld.key ∈ (after.objects .localDisk).map Unstructured.key

theorem keepsAll_of_keepsNames
    {before after : Cluster} (keeps : keepsNames before after = true) :
    KeepsAll before after := by
  simp only [keepsNames, Bool.and_eq_true, List.all_eq_true, decide_eq_true_eq,
    List.mem_map] at keeps
  constructor
  · intro key stored
    obtain ⟨claim, found⟩ := Option.isSome_iff_exists.mp stored
    obtain ⟨member, rfl⟩ := Registry.find?_eq_some found
    obtain ⟨kept, listed, same⟩ := keeps.1 claim member
    rw [← same]
    exact Registry.find?_isSome_of_mem listed
  · intro key stored
    obtain ⟨ld, found⟩ := Option.isSome_iff_exists.mp stored
    obtain ⟨member, rfl⟩ := Registry.find?_eq_some found
    obtain ⟨kept, listed, same⟩ := keeps.2 ld member
    rw [← same]
    exact Registry.find?_isSome_of_mem listed

/-- Two validated claims for the same disk, and nothing created yet. -/
def contestedCluster : Cluster :=
  { readyCluster with
    claims := ["fs", "fs2"].map fun name =>
      { metadata := {
          name := name, ns := "ibm-spectrum-scale"
          finalizers := [fileSystemClaimFinalizer] }
        devices := ["/dev/sdb"]
        conditions := [{
          type := .deviceValidated, status := .isTrue
          reason := .deviceValidationSucceeded }] }
    localDisks := []
    filesystems := []
    storageClasses := [] }

/-- Both passes find no LocalDisk before either creates it. -/
def contest : List (Turn apiServer NamespacedName) :=
  [.launch readyKey, .launch ⟨"ibm-spectrum-scale", "fs2"⟩] ++
    List.replicate 6 (.step 0 {}) ++ List.replicate 7 (.step 1 {}) ++
      List.replicate 3 (.step 0 {})

/-- The LocalDisk has one owner. -/
theorem claims_share_no_disk_contest :
    (∀ occurrence ∈ (interleave (reconciler {}) contestedCluster contest).log,
      ∀ key, CreatesDisk occurrence.event key →
        HasOneOwner (interleave (reconciler {}) contestedCluster contest).state key) ∧
      DisjointDisks (interleave (reconciler {}) contestedCluster contest).state := by
  have separate : Separate contestedCluster :=
    ⟨by decide, by simp [contestedCluster, Cluster.objects],
      by simp [contestedCluster, Cluster.objects]⟩
  refine claims_share_no_disk {} separate
    (interleaved_interleave _ _ _ (by simp [contest])) ?_
  have kept : ∀ occurrence ∈
      (interleave (reconciler {}) contestedCluster contest).log,
        keepsNames occurrence.event.before occurrence.event.after = true := by
    decide
  exact fun occurrence member => keepsAll_of_keepsNames (kept occurrence member)

end FusionAccess
