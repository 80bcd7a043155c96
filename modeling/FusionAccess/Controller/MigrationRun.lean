import FusionAccess.Controller.MigrationProgress

/-!
# Runs of the migration

What `RunMigration` ensures when calls may fail: all its calls are issued in
states of unfinished migrations, and it ends in one. When no call can fail,
every group that is migrated at all is done in the end.
-/

namespace FusionAccess

open Kubernetes Interaction Fallible

variable {C : Contract apiServer} {base : Cluster}

/-- The calls of a migration of the base may be issued in its states. -/
def GuardsMigration (C : Contract apiServer) (base : Cluster) : Prop :=
  ∀ progress state call, Reached base progress state → C.guard state call

/-- The resources of a group are done as far as there is something to do. -/
structure ResourcesDone
    (base : Cluster) (name : String) (group : GroupProgress) : Prop where
  adopted : ∀ ld ∈ legacyDisks base name, ld.key ∈ group.adopted
  filesystem : ∀ fs ∈ legacyFilesystem? base name,
    hasOwnerRefToFSC fs.metadata name = false → group.filesystem = true
  storageClass : ∀ sc ∈ base.storageClass? name,
    isMigrated sc.metadata = false → group.storageClass = true

/-- A group is done. -/
structure GroupDone
    (base : Cluster) (name : String) (group : GroupProgress) : Prop where
  claim : base.claim? (migrationKey name) = none → group.claim = .recorded
  resources : ResourcesDone base name group

/-- The state after a step of one group: it shows how far the group is, and
what the step has done with it unless a call has failed. -/
def Advances {α : Type}
    (C : Contract apiServer) (base : Cluster) (progress : Progress)
    (name : String) (done : α → GroupProgress → Cluster → Prop) :
    Except Failure α → Cluster → Prop
  | .ok value, final => ∃ group,
      Reached base (Function.update progress name group) final ∧
        done value group final
  | .error _, final => Faulty C ∧ ∃ group,
      Reached base (Function.update progress name group) final

/-- The claim of a group owns for a version of itself. -/
def Owns (name : String) (fsc : FileSystemClaim) (state : Cluster) : Prop :=
  fsc.key = migrationKey name ∧
    ∃ stored, state.claim? (migrationKey name) = some stored ∧
      SameOwner stored fsc

section Group

variable {progress : Progress} {state final : Cluster} {name : String}

/-- A group may be put in place of itself. -/
theorem Reached.here (reached : Reached base progress state) (name : String) :
    Reached base (Function.update progress name (progress name)) state := by
  rw [Function.update_eq_self]
  exact reached

theorem Reached.update
    {before group : GroupProgress}
    (reached : Reached base (Function.update progress name before) state)
    (represents : Represents base (Function.update progress name group) final)
    (sound : GroupSound base name group) :
    Reached base (Function.update progress name group) final where
  represents := represents
  sound := by
    intro other
    by_cases same : other = name
    · rw [same, Function.update_self]
      exact sound
    · have sound := reached.sound other
      rw [Function.update_of_ne same] at sound ⊢
      exact sound

/-- Filesystem and StorageClass of a group are read as they are stored. -/
theorem ensures_fetchRelatedResources
    {group : LegacyResourceGroup}
    (guard : ∀ call, C.guard state call)
    (noClass : group.storageClass = none) :
    Ensures C (fetchRelatedResources group)
      (fun result final => final = state ∧
        match result with
        | .ok fetched => ∃ fs,
            legacyFilesystem? state group.filesystemName = some fs ∧
              fetched = { group with
                filesystem := some fs
                storageClass := state.storageClass? group.filesystemName }
        | .error _ => Faulty C ∨
            legacyFilesystem? state group.filesystemName = none) state := by
  unfold fetchRelatedResources legacyFilesystem?
  rw [ensures_bind, ensures_attempt]
  refine ensures_query (guard _) rfl (fun pick => ?_) ?_
  · cases found : state.object? .filesystem (migrationKey group.filesystemName) with
    | none =>
        simp only [Cluster.answer, found, onSuccess_ok, ensures_ite, ensures_throw]
        exact ⟨fun _ => ⟨trivial, Or.inr trivial⟩, fun present => absurd rfl present⟩
    | some fs =>
        simp only [Cluster.answer, found, onSuccess_ok]
        rw [ensures_bind, ensures_attempt]
        refine ensures_query (guard _) rfl (fun pick => ?_) ?_
        · cases stored : state.storageClass? group.filesystemName with
          | none =>
              simp only [Cluster.answer, stored, onSuccess_ok, ensures_ite,
                ensures_pure]
              refine ⟨fun _ => ⟨trivial, fs, rfl, ?_⟩, fun present => absurd rfl present⟩
              rw [← noClass]
          | some sc =>
              simp only [Cluster.answer, stored, onSuccess_ok, ensures_pure]
              exact ⟨trivial, fs, rfl, rfl⟩
        · intro failure transient mayFail
          simp only [onSuccess_ok, ensures_ite, ensures_throw]
          exact ⟨fun absent => absurd absent transient.1,
            fun _ => ⟨trivial, Or.inl ⟨_, _, _, mayFail⟩⟩⟩
  · intro failure transient mayFail
    simp only [onSuccess_ok, ensures_ite, ensures_throw]
    exact ⟨fun absent => absurd absent transient.1,
      fun _ => ⟨trivial, Or.inl ⟨_, _, _, mayFail⟩⟩⟩

/-- Validation finds out whether a group is migrated. -/
theorem ensures_validateResourceGroup
    (guarded : GuardsMigration C base)
    (reached : Reached base progress state)
    (fresh : progress name = {})
    (inUse : legacyDisks base name ≠ []) :
    Ensures C (validateResourceGroup (legacyGroup base name))
      (fun result final => final = state ∧
        match result with
        | .ok group => migrates base name = true ∧ group = validGroup base name
        | .error _ => Faulty C ∨ migrates base name = false) state := by
  have filesystem := reached.represents.legacyFilesystem?_eq (by rw [fresh])
  have storageClass := reached.represents.storageClass?_eq (by rw [fresh])
  unfold validateResourceGroup
  rw [ensures_bind, ensures_mapError]
  refine (ensures_fetchRelatedResources (fun call => guarded progress state call reached)
    rfl).mono ?_
  rintro (failure | fetched) final ⟨rfl, known⟩
  · refine ⟨rfl, known.imp_right fun missing => ?_⟩
    have absent : legacyFilesystem? base name = none := filesystem.symm.trans missing
    simp [migrates, absent]
  · obtain ⟨fs, found, rfl⟩ := known
    have present : legacyFilesystem? base name = some fs := filesystem.symm.trans found
    have valid : ({ legacyGroup base name with
        filesystem := some fs
        storageClass := final.storageClass? name
        isValid := true } : LegacyResourceGroup) = validGroup base name := by
      rw [storageClass, validGroup, present]
    have checked : checkResourceGroup { legacyGroup base name with
        filesystem := some fs
        storageClass := final.storageClass? name } = none ↔
          migrates base name = true := by
      rw [← checkResourceGroup_eq_none inUse, ← valid]
      rfl
    simp only [Except.mapError, onSuccess_ok]
    split
    next failure outcome =>
      refine ⟨rfl, Or.inr ?_⟩
      cases migrated : migrates base name with
      | false => rfl
      | true => exact absurd (outcome.symm.trans (checked.mpr migrated)) (by simp)
    next outcome => exact ⟨rfl, checked.mp outcome, valid⟩

/-- A state in which the claim of a group is new. -/
theorem Reached.atStage
    {stage : Stage}
    (reached : Reached base progress state)
    (migrated : migrates base name = true)
    (missing : base.claim? (migrationKey name) = none)
    (represents :
      Represents base (Function.update progress name { claim := stage }) final) :
    Reached base (Function.update progress name { claim := stage }) final :=
  (reached.here name).update represents
    ⟨fun _ => ⟨migrated, missing⟩, by simp, by simp, by simp⟩

/-- The conditions of a new claim are written, or are missing from then on. -/
theorem ensures_recordConditions
    (guarded : GuardsMigration C base)
    (reached : Reached base progress state)
    (bareState : Reached base (Function.update progress name { claim := .bare }) final)
    (migrated : migrates base name = true)
    (missing : base.claim? (migrationKey name) = none)
    {claim : FileSystemClaim}
    (stored : final.claim? (migrationKey name) = some claim)
    (created : CreatedFrom base name claim)
    (bare : claim.conditions = []) :
    Ensures C
      (do
        let now ← request .now
        let fsc := { claim with
          conditions := migrationConditions now (validGroup base name) }
        let _ ← (request (.updateClaimStatus fsc)).attempt
        return fsc)
      (Advances C base progress name fun fsc group final =>
        Owns name fsc final ∧ (∃ stage, group = { claim := stage }) ∧
          (Faulty C ∨ (base.claim? (migrationKey name) = none →
            group.claim = .recorded))) final := by
  have named : claim.key = migrationKey name := (Registry.find?_eq_some stored).2
  rw [ensures_bind]
  refine ensures_local (guarded _ final _ bareState) rfl rfl fun pick => ?_
  simp only [Cluster.answer, onSuccess_ok]
  rw [ensures_bind, ensures_attempt]
  obtain ⟨represents, keeps⟩ := bareState.represents.updateClaimStatus missing stored
    created bare final.clock
  rw [Function.update_self, Function.update_idem] at represents
  have recorded := reached.atStage migrated missing represents
  -- whatever the reply, the claim in memory has the conditions
  have written : Advances C base progress name
      (fun fsc group final => Owns name fsc final ∧
        (∃ stage, group = { claim := stage }) ∧
          (Faulty C ∨ (base.claim? (migrationKey name) = none →
            group.claim = .recorded)))
      (.ok { claim with
        conditions := migrationConditions final.clock (validGroup base name) })
      (final.afterCall (.updateClaimStatus { claim with
        conditions := migrationConditions final.clock (validGroup base name) })) := by
    obtain ⟨stored', found, same⟩ := keeps name claim stored
    exact ⟨_, recorded, ⟨named, stored', found, same.key.symm, same.uid.symm⟩,
      ⟨.recorded, rfl⟩, Or.inr fun _ => rfl⟩
  refine ensures_request (guarded _ final _ bareState) (fun pick => ?_) ?_ ?_
  · exact written
  · intro failure _ mayFail
    exact ⟨_, bareState, ⟨named, claim, stored, rfl, rfl⟩, ⟨.bare, rfl⟩,
      Or.inl ⟨_, _, _, mayFail⟩⟩
  · exact fun _ _ _ => written

/-- A group has a claim in the end: a stored one as it is, or a new one, whose
conditions are written unless a call fails. -/
theorem ensures_createOrGetFilesystemClaim
    (guarded : GuardsMigration C base)
    (reached : Reached base progress state)
    (fresh : progress name = {})
    (migrated : migrates base name = true) :
    Ensures C (createOrGetFilesystemClaim (validGroup base name))
      (Advances C base progress name fun fsc group final =>
        Owns name fsc final ∧ (∃ stage, group = { claim := stage }) ∧
          (Faulty C ∨ (base.claim? (migrationKey name) = none →
            group.claim = .recorded))) state := by
  have unchanged : Reached base (Function.update progress name {}) state := by
    rw [← fresh]
    exact reached.here name
  unfold createOrGetFilesystemClaim
  rw [ensures_bind, ensures_attempt]
  refine ensures_query (guarded progress state _ reached) rfl (fun pick => ?_) ?_
  · change Ensures C _ _ _
    cases found : state.claim? (migrationKey name) with
    | some fsc =>
        simp only [Cluster.answer, validGroup_filesystemName, found]
        refine ⟨{}, unchanged, ⟨(Registry.find?_eq_some found).2, fsc, found,
          SameOwner.refl fsc⟩, ⟨.absent, rfl⟩, Or.inr fun missing => ?_⟩
        have created := reached.represents.created name missing
        rw [fresh] at created
        rw [found] at created
        cases created
    | none =>
        have missing : base.claim? (migrationKey name) = none := by
          cases stored : base.claim? (migrationKey name) with
          | none => rfl
          | some claim =>
              have kept := reached.represents.kept _ claim stored
              rw [found] at kept
              cases kept
        simp only [Cluster.answer, validGroup_filesystemName, found]
        change Ensures C (if _ then _ else _) _ _
        rw [ensures_ite]
        refine ⟨fun present => absurd rfl present, fun _ => ?_⟩
        rw [ensures_bind]
        refine ensures_local (guarded progress state _ reached) rfl rfl fun pick => ?_
        simp only [Cluster.answer, onSuccess_ok]
        obtain ⟨free, represents⟩ := reached.represents.createClaim (by rw [fresh])
          missing (formatRFC3339 state.clock)
        rw [fresh] at represents
        have bareState := reached.atStage migrated missing represents
        have answered := state.answer_createClaim
          (migrationClaim (formatRFC3339 state.clock) (validGroup base name)) free
        rw [ensures_bind, ensures_mapError]
        have stored := (state.claim?_createClaim
          (migrationClaim (formatRFC3339 state.clock) (validGroup base name))
          free (migrationKey name)).trans (if_pos rfl)
        refine ensures_request (guarded progress state _ reached) (fun pick => ?_) ?_ ?_
        · rw [show (state.answer pick _).2 = _ from congrArg Prod.snd (answered pick)]
          exact ensures_recordConditions guarded reached bareState migrated missing
            stored ⟨_, _, _, rfl, rfl⟩ rfl
        · exact fun _ _ mayFail => ⟨⟨_, _, _, mayFail⟩, {}, unchanged⟩
        · exact fun _ _ mayFail => ⟨⟨_, _, _, mayFail⟩, _, bareState⟩
  · intro failure transient mayFail
    simp only [onSuccess_ok, ensures_ite, ensures_throw]
    exact ⟨fun _ => ⟨⟨_, _, _, mayFail⟩, {}, unchanged⟩,
      fun absent => absurd (not_not.mp absent) transient.1⟩

/-- An object of a kind gets its owner. -/
theorem ensures_adoptObject
    {fsc : FileSystemClaim} {timestamp : String} {kind : Kind}
    {object : Unstructured} {adding updating : String}
    {post : Except Failure Unit → Cluster → Prop}
    (sameNamespace : object.metadata.ns = fsc.metadata.ns)
    (unowned : hasOwnerRefToFSC object.metadata fsc.metadata.name = false)
    (guard : ∀ call, C.guard state call)
    (answered : ∀ pick, (state.answer pick (.update kind
      { object with metadata := adoption fsc timestamp object.metadata })).2 = .ok ())
    (adopted : ∀ result : Except Failure Unit,
      (result = .ok () ∨ Faulty C ∧ ∃ failure, result = .error failure) →
      post result (state.afterCall (.update kind
        { object with metadata := adoption fsc timestamp object.metadata })))
    (failed : ∀ failure : Failure, Faulty C → post (.error failure) state) :
    Ensures C (adoptObject fsc timestamp kind object adding updating) post state := by
  unfold adoptObject
  rw [unowned, if_neg (by simp), addOwnerRefAndStandardLabels_eq sameNamespace]
  simp only [ensures_mapError]
  refine ensures_request (guard _) (fun pick => ?_) ?_ ?_
  · rw [show (state.answer pick _).2 = .ok () from answered pick]
    exact adopted (.ok ()) (Or.inl rfl)
  · exact fun failure _ mayFail => failed _ ⟨_, _, _, mayFail⟩
  · exact fun failure _ mayFail =>
      adopted _ (Or.inr ⟨⟨_, _, _, mayFail⟩, _, rfl⟩)

/-- A call that does not write claims leaves the owner alone. -/
theorem Owns.afterCall
    {fsc : FileSystemClaim} {call : Call}
    (owns : Owns name fsc state)
    (elsewhere : call.part? ≠ some .claims) :
    Owns name fsc (state.afterCall call) := by
  obtain ⟨key, stored, found, sameOwner⟩ := owns
  refine ⟨key, stored, ?_, sameOwner⟩
  rwa [state.claim?_afterCall elsewhere]

/-- Who has a claim that is stored has a claim that was kept or created. -/
theorem Reached.hasClaim
    {group : GroupProgress} {fsc : FileSystemClaim}
    (reached : Reached base (Function.update progress name group) state)
    (owns : Owns name fsc state) :
    (base.claim? (migrationKey name)).isSome ∨ group.claim ≠ .absent := by
  obtain ⟨_, stored, found, _⟩ := owns
  cases missing : base.claim? (migrationKey name) with
  | some claim => exact Or.inl rfl
  | none =>
      refine Or.inr fun absent => ?_
      have created := reached.represents.created name missing
      rw [Function.update_self, absent, found] at created
      cases created

/-- One more disk of a group gets its owner. -/
theorem Reached.adoptLocalDisk
    {fsc : FileSystemClaim} {group : GroupProgress} {ld : Unstructured}
    (reached : Reached base (Function.update progress name group) state)
    (distinct : DistinctNames base)
    (migrated : migrates base name = true)
    (owns : Owns name fsc state)
    (member : ld ∈ legacyDisks base name)
    (undone : ld.key ∉ group.adopted)
    (noFilesystem : group.filesystem = false)
    (noClass : group.storageClass = false)
    (timestamp : String) :
    (∀ pick, (state.answer pick (.update .localDisk
        { ld with metadata := adoption fsc timestamp ld.metadata })).2 = .ok ()) ∧
      Reached base (Function.update progress name
          { group with adopted := ld.key :: group.adopted })
        (state.afterCall (.update .localDisk
          { ld with metadata := adoption fsc timestamp ld.metadata })) := by
  obtain ⟨listed, _, _, inGroup⟩ := mem_legacyDisks.mp member
  obtain ⟨stored, found, same⟩ := owns.2
  subst inGroup
  have notAdopted : ld.key ∉ (Function.update progress ld.filesystem group
      ld.filesystem).adopted := by
    rw [Function.update_self]
    exact undone
  obtain ⟨answered, represents⟩ := reached.represents.adoptLocalDisk distinct listed
    notAdopted found same timestamp
  rw [Function.update_self, Function.update_idem] at represents
  have sound := reached.sound ld.filesystem
  rw [Function.update_self] at sound
  refine ⟨answered, reached.update represents ⟨sound.claim, ?_, ?_, ?_⟩⟩
  · intro key listed
    rcases List.mem_cons.mp listed with rfl | earlier
    · exact ⟨migrated, ⟨ld, member, rfl⟩, reached.hasClaim owns⟩
    · exact sound.adopted key earlier
  · simp [noFilesystem]
  · simp [noClass]

/-- The disks of a group get their owner one after the other. -/
theorem ensures_adoptLocalDisks
    (guarded : GuardsMigration C base)
    (distinct : DistinctNames base)
    (migrated : migrates base name = true)
    {fsc : FileSystemClaim} {timestamp : String}
    {group : GroupProgress} {lds : List Unstructured}
    (reached : Reached base (Function.update progress name group) state)
    (owns : Owns name fsc state)
    (members : ∀ ld ∈ lds, ld ∈ legacyDisks base name)
    (different : (lds.map Unstructured.key).Nodup)
    (undone : ∀ ld ∈ lds, ld.key ∉ group.adopted)
    (noFilesystem : group.filesystem = false)
    (noClass : group.storageClass = false) :
    Ensures C (adoptLocalDisks fsc timestamp lds)
      (Advances C base progress name fun _ later final =>
        Owns name fsc final ∧
          ∃ adopted, later = { group with adopted := adopted } ∧
            (∀ key ∈ group.adopted, key ∈ adopted) ∧
              ∀ ld ∈ lds, ld.key ∈ adopted) state := by
  induction lds generalizing state group with
  | nil =>
      exact ⟨group, reached, owns, group.adopted, rfl, fun _ => id, by simp⟩
  | cons ld lds inductionHypothesis =>
      have member := members ld (by simp)
      obtain ⟨_, spaced, candidate, _⟩ := mem_legacyDisks.mp member
      obtain ⟨_, unowned, _, _⟩ := isV1LocalDisk_eq_true candidate
      have ownerSpace : fsc.metadata.ns = migrationNamespace :=
        congrArg NamespacedName.ns owns.1
      obtain ⟨answered, next⟩ := reached.adoptLocalDisk distinct migrated owns member
        (undone ld (by simp)) noFilesystem noClass timestamp
      rw [adoptLocalDisks, ensures_bind]
      refine ensures_adoptObject (spaced.trans ownerSpace.symm) ?_
        (fun call => guarded _ state call reached) answered ?_ ?_
      · rw [hasOwnerRefToFSC, unowned]
        rfl
      · rintro result (rfl | ⟨faulty, failure, rfl⟩)
        · rw [List.map_cons, List.nodup_cons] at different
          refine (inductionHypothesis next (owns.afterCall (by simp [Call.part?]))
            (fun other listed => members other (List.mem_cons_of_mem _ listed))
            different.2 ?_ noFilesystem noClass).mono ?_
          · intro other listed done
            rcases List.mem_cons.mp done with sameKey | earlier
            · exact different.1 (sameKey ▸ List.mem_map_of_mem listed)
            · exact undone other (List.mem_cons_of_mem _ listed) earlier
          · rintro (failure | _) last advanced
            · exact advanced
            · obtain ⟨later, reachedLater, ownsLater, adopted, rfl, keeps, rest⟩ := advanced
              refine ⟨_, reachedLater, ownsLater, adopted, rfl, ?_, ?_⟩
              · exact fun key done => keeps key (List.mem_cons_of_mem _ done)
              · intro other listed
                rcases List.mem_cons.mp listed with rfl | inRest
                · exact keeps _ (by simp)
                · exact rest other inRest
        · exact ⟨faulty, _, next⟩
      · exact fun failure faulty => ⟨faulty, group, reached⟩

/-- The Filesystem of a group gets its owner. -/
theorem ensures_adoptFilesystem
    (guarded : GuardsMigration C base)
    (distinct : DistinctNames base)
    (migrated : migrates base name = true)
    {fsc : FileSystemClaim} {timestamp : String} {group : GroupProgress}
    (reached : Reached base (Function.update progress name group) state)
    (owns : Owns name fsc state)
    (adopted : ∀ ld ∈ legacyDisks base name, ld.key ∈ group.adopted)
    (undone : group.filesystem = false) :
    Ensures C (adoptFilesystem fsc timestamp (legacyFilesystem? base name))
      (Advances C base progress name fun _ later final =>
        Owns name fsc final ∧
          ∃ done, later = { group with filesystem := done } ∧
            ∀ fs ∈ legacyFilesystem? base name,
              hasOwnerRefToFSC fs.metadata name = false → done = true) state := by
  have named : fsc.metadata.name = name := congrArg NamespacedName.name owns.1
  cases found : legacyFilesystem? base name with
  | none =>
      exact ⟨group, reached, owns, group.filesystem, rfl, by simp⟩
  | some fs =>
      have key : fs.key = migrationKey name := (Registry.find?_eq_some found).2
      rw [adoptFilesystem]
      by_cases owned : hasOwnerRefToFSC fs.metadata name = true
      · unfold adoptObject
        rw [named, if_pos owned]
        refine ⟨group, reached, owns, group.filesystem, rfl, ?_⟩
        rintro other same unowned
        cases same
        rw [owned] at unowned
        cases unowned
      · have unowned : hasOwnerRefToFSC fs.metadata name = false := by simpa using owned
        obtain ⟨stored, storedClaim, same⟩ := owns.2
        obtain ⟨answered, represents⟩ := reached.represents.adoptFilesystem distinct found
          (by rw [Function.update_self]; exact undone) storedClaim same timestamp
        rw [Function.update_self, Function.update_idem] at represents
        have sound := reached.sound name
        rw [Function.update_self] at sound
        have next := reached.update represents ⟨sound.claim, sound.adopted,
          fun _ => ⟨migrated, adopted, fun other foundOther => by
            rw [found] at foundOther
            cases foundOther
            exact unowned⟩, sound.storageClass⟩
        have sameNamespace : fs.metadata.ns = fsc.metadata.ns :=
          (congrArg NamespacedName.ns key).trans (congrArg NamespacedName.ns owns.1).symm
        refine ensures_adoptObject sameNamespace (by rw [named]; exact unowned)
          (fun call => guarded _ state call reached) answered ?_ ?_
        · rintro result (rfl | ⟨faulty, failure, rfl⟩)
          · exact ⟨_, next, owns.afterCall (by simp [Call.part?]), true, rfl, fun _ _ _ => rfl⟩
          · exact ⟨faulty, _, next⟩
        · exact fun failure faulty => ⟨faulty, group, reached⟩

/-- The StorageClass of a group gets its labels. -/
theorem ensures_labelStorageClass
    (guarded : GuardsMigration C base)
    (distinct : DistinctNames base)
    (migrated : migrates base name = true)
    {fsc : FileSystemClaim} {timestamp : String} {group : GroupProgress}
    (reached : Reached base (Function.update progress name group) state)
    (owns : Owns name fsc state)
    (adopted : ∀ ld ∈ legacyDisks base name, ld.key ∈ group.adopted)
    (undone : group.storageClass = false) :
    Ensures C (labelStorageClass fsc timestamp (base.storageClass? name))
      (Advances C base progress name fun _ later final =>
        Owns name fsc final ∧
          ∃ done, later = { group with storageClass := done } ∧
            ∀ sc ∈ base.storageClass? name,
              isMigrated sc.metadata = false → done = true) state := by
  cases found : base.storageClass? name with
  | none => exact ⟨group, reached, owns, group.storageClass, rfl, by simp⟩
  | some sc =>
      rw [labelStorageClass]
      by_cases done : isMigrated sc.metadata = true
      · rw [if_pos done]
        refine ⟨group, reached, owns, group.storageClass, rfl, ?_⟩
        rintro other same notMigrated
        cases same
        rw [done] at notMigrated
        cases notMigrated
      · have notMigrated : isMigrated sc.metadata = false := by simpa using done
        obtain ⟨stored, storedClaim, same⟩ := owns.2
        obtain ⟨answered, represents⟩ := reached.represents.labelStorageClass distinct
          found (by rw [Function.update_self]; exact undone) storedClaim same timestamp
        rw [Function.update_self, Function.update_idem] at represents
        have sound := reached.sound name
        rw [Function.update_self] at sound
        have next := reached.update represents ⟨sound.claim, sound.adopted,
          sound.filesystem, fun _ => ⟨migrated, adopted, fun other foundOther => by
            rw [found] at foundOther
            cases foundOther
            exact notMigrated⟩⟩
        rw [if_neg done, ensures_mapError]
        have labelled : ∀ result : Except Failure Unit,
            (result = .ok () ∨ Faulty C ∧ ∃ failure, result = .error failure) →
            Advances C base progress name (fun _ later final =>
              Owns name fsc final ∧
                ∃ done, later = { group with storageClass := done } ∧
                  ∀ other ∈ some sc, isMigrated other.metadata = false → done = true)
              result (state.afterCall (.updateStorageClass
                { sc with metadata := labelling fsc timestamp sc.metadata })) := by
          rintro result (rfl | ⟨faulty, failure, rfl⟩)
          · exact ⟨_, next, owns.afterCall (by simp [Call.part?]), true, rfl, fun _ _ _ => rfl⟩
          · exact ⟨faulty, _, next⟩
        refine ensures_request (guarded _ state _ reached) (fun pick => ?_) ?_ ?_
        · rw [show (state.answer pick _).2 = .ok () from answered pick]
          exact labelled (.ok ()) (Or.inl rfl)
        · exact fun failure _ mayFail => ⟨⟨_, _, _, mayFail⟩, group, reached⟩
        · exact fun failure _ mayFail =>
            labelled (.error _) (Or.inr ⟨⟨_, _, _, mayFail⟩, _, rfl⟩)

/-- All resources of a group get their owner and their labels. -/
theorem ensures_updateOwnerRefsAndLabels
    (guarded : GuardsMigration C base)
    (distinct : DistinctNames base)
    (migrated : migrates base name = true)
    {fsc : FileSystemClaim} {stage : Stage}
    (reached : Reached base (Function.update progress name { claim := stage }) state)
    (owns : Owns name fsc state) :
    Ensures C (updateOwnerRefsAndLabels fsc (validGroup base name))
      (Advances C base progress name fun _ later final =>
        Owns name fsc final ∧ later.claim = stage ∧
          ResourcesDone base name later) state := by
  have different : ((legacyDisks base name).map Unstructured.key).Nodup := by
    refine distinct.localDisks.sublist (List.Sublist.map _ ?_)
    exact (List.filter_sublist.trans List.filter_sublist).trans List.filter_sublist
  unfold updateOwnerRefsAndLabels
  rw [ensures_bind]
  refine ensures_local (guarded _ state _ reached) rfl rfl fun pick => ?_
  simp only [Cluster.answer, onSuccess_ok, validGroup_localDisks]
  rw [ensures_bind]
  refine (ensures_adoptLocalDisks guarded distinct migrated reached owns
    (fun _ => id) different (by simp) rfl rfl).mono ?_
  rintro (failure | _) afterDisks advanced
  · exact advanced
  obtain ⟨_, reached, owns, adopted, rfl, _, allAdopted⟩ := advanced
  rw [onSuccess_ok, ensures_bind]
  refine (ensures_adoptFilesystem guarded distinct migrated reached owns allAdopted
    rfl).mono ?_
  rintro (failure | _) afterFilesystem advanced
  · exact advanced
  obtain ⟨_, reached, owns, filesystem, rfl, filesystemDone⟩ := advanced
  rw [onSuccess_ok]
  refine (ensures_labelStorageClass guarded distinct migrated reached owns allAdopted
    rfl).mono ?_
  rintro (failure | _) final advanced
  · exact advanced
  obtain ⟨_, reached, owns, storageClass, rfl, storageClassDone⟩ := advanced
  exact ⟨_, reached, owns, rfl, allAdopted, filesystemDone, storageClassDone⟩

/-- A group is migrated, up to the conditions of its claim. -/
theorem ensures_migrateResourceGroup
    (guarded : GuardsMigration C base)
    (distinct : DistinctNames base)
    (reached : Reached base progress state)
    (fresh : progress name = {})
    (migrated : migrates base name = true) :
    Ensures C (migrateResourceGroup (validGroup base name))
      (Advances C base progress name fun _ later _ =>
        ResourcesDone base name later ∧
          (Faulty C ∨ (base.claim? (migrationKey name) = none →
            later.claim = .recorded))) state := by
  unfold migrateResourceGroup
  rw [ensures_bind, ensures_mapError]
  refine (ensures_createOrGetFilesystemClaim guarded reached fresh migrated).mono ?_
  rintro (failure | fsc) claimed advanced
  · exact advanced
  obtain ⟨_, reached, owns, ⟨stage, rfl⟩, recorded⟩ := advanced
  change Ensures C _ _ _
  rw [ensures_bind, ensures_mapError]
  refine (ensures_updateOwnerRefsAndLabels guarded distinct migrated reached owns).mono ?_
  rintro (failure | _) updated advanced
  · exact advanced
  obtain ⟨later, reached, _, sameStage, done⟩ := advanced
  change Ensures C _ _ _
  unfold createMigrationEvent
  rw [ensures_bind, ensures_attempt]
  -- the event changes nothing, whether it is created or not
  have finished : Advances C base progress name
      (fun (_ : Unit) later _ => ResourcesDone base name later ∧
        (Faulty C ∨ (base.claim? (migrationKey name) = none →
          later.claim = .recorded))) (.ok ()) updated :=
    ⟨later, reached, done, by rw [sameStage]; exact recorded⟩
  exact ensures_request (guarded _ updated _ reached) (fun _ => finished)
    (fun _ _ _ => finished) fun _ _ _ => finished

/-- The turn of a group ends with the group done, unless it is not migrated or
a call has failed. -/
theorem ensures_processGroup
    (guarded : GuardsMigration C base)
    (distinct : DistinctNames base)
    (reached : Reached base progress state)
    (fresh : progress name = {})
    (inUse : legacyDisks base name ≠ []) :
    Ensures C (processGroup false (legacyGroup base name))
      (fun result final => result = .ok () ∧ ∃ later,
        Reached base (Function.update progress name later) final ∧
          (Faulty C ∨ (migrates base name = true → GroupDone base name later)))
      state := by
  unfold processGroup
  rw [ensures_bind, ensures_attempt]
  refine (ensures_validateResourceGroup guarded reached fresh inUse).mono ?_
  rintro (failure | group) final ⟨rfl, known⟩
  · refine ⟨rfl, progress name, reached.here name,
      known.imp_right fun notMigrated migrated => ?_⟩
    rw [notMigrated] at migrated
    cases migrated
  · obtain ⟨migrated, rfl⟩ := known
    change Ensures C (if !(validGroup base name).isValid then _ else _) _ _
    rw [if_neg (by simp [validGroup]), if_neg (by simp), ensures_bind, ensures_attempt]
    refine (ensures_migrateResourceGroup guarded distinct reached fresh migrated).mono ?_
    rintro (failure | _) last advanced
    · obtain ⟨faulty, later, reached⟩ := advanced
      exact ⟨rfl, later, reached, Or.inl faulty⟩
    · obtain ⟨later, reached, done, recorded⟩ := advanced
      exact ⟨rfl, later, reached, recorded.imp_right fun recorded _ => ⟨recorded, done⟩⟩

end Group

/-- The groups take their turns one after the other. -/
theorem ensures_processGroups
    (guarded : GuardsMigration C base)
    (distinct : DistinctNames base)
    {progress : Progress} {state : Cluster} {names : List String}
    (reached : Reached base progress state)
    (fresh : ∀ name ∈ names, progress name = {})
    (inUse : ∀ name ∈ names, legacyDisks base name ≠ [])
    (different : names.Nodup) :
    Ensures C (processGroups false (names.map (legacyGroup base)))
      (fun _ final => ∃ later, Reached base later final ∧
        (∀ name ∉ names, later name = progress name) ∧
          (Faulty C ∨ ∀ name ∈ names, migrates base name = true →
            GroupDone base name (later name))) state := by
  induction names generalizing progress state with
  | nil => exact ⟨progress, reached, fun _ _ => rfl, Or.inr (by simp)⟩
  | cons name names inductionHypothesis =>
      rw [List.nodup_cons] at different
      rw [List.map_cons, processGroups, ensures_bind]
      refine (ensures_processGroup guarded distinct reached (fresh name (by simp))
        (inUse name (by simp))).mono ?_
      rintro _ turned ⟨rfl, group, reachedTurn, done⟩
      have others : ∀ other ≠ name,
          Function.update progress name group other = progress other :=
        fun other ne => Function.update_of_ne ne _ _
      have rest := inductionHypothesis reachedTurn
        (fun other listed => by
          rw [others other (by rintro rfl; exact different.1 listed)]
          exact fresh other (List.mem_cons_of_mem _ listed))
        (fun other listed => inUse other (List.mem_cons_of_mem _ listed)) different.2
      rw [onSuccess_ok]
      refine rest.mono ?_
      rintro _ final ⟨later, reachedLater, same, restDone⟩
      refine ⟨later, reachedLater, fun other absent => ?_, ?_⟩
      · rw [List.mem_cons, not_or] at absent
        rw [same other absent.2, others other absent.1]
      · rcases done with faulty | done
        · exact Or.inl faulty
        · refine restDone.imp_right fun restDone other listed => ?_
          rcases List.mem_cons.mp listed with rfl | inRest
          · rw [same other different.1, Function.update_self]
            exact done
          · exact restDone other inRest

/-- The names of the groups that a migration visits. -/
theorem visited_eq_map (cluster : Cluster) (order : MapOrder) :
    ∃ names : List String,
      order.visit (groupLocalDisksByFilesystem (candidates cluster)) =
        names.map (legacyGroup cluster) ∧
      names.Nodup ∧ ∀ name, name ∈ names ↔ legacyDisks cluster name ≠ [] := by
  let groups := order.visit (groupLocalDisksByFilesystem (candidates cluster))
  have same : ∀ group ∈ groups,
      legacyGroup cluster group.filesystemName = group := by
    intro group member
    obtain ⟨name, _, rfl⟩ := (mem_visited order).mp member
    rfl
  refine ⟨groups.map LegacyResourceGroup.filesystemName, ?_,
    nodup_visited cluster order, fun name => ?_⟩
  · rw [List.map_map]
    exact (List.map_id groups).symm.trans
      (List.map_congr_left fun group member => (same group member).symm)
  · rw [List.mem_map]
    constructor
    · rintro ⟨group, member, rfl⟩
      obtain ⟨name, inUse, rfl⟩ := (mem_visited order).mp member
      exact inUse
    · intro inUse
      exact ⟨_, (mem_visited order).mpr ⟨name, inUse, rfl⟩, rfl⟩

/-- A filesystem without candidates is not migrated. -/
theorem legacyDisks_ne_nil_of_migrates
    {cluster : Cluster} {name : String}
    (migrated : migrates cluster name = true) :
    legacyDisks cluster name ≠ [] := by
  intro unused
  simp [migrates, unused] at migrated

/-- A migration stays within the states of unfinished migrations, and it is
finished in the end unless a call has failed. -/
theorem ensures_runMigration
    (guarded : GuardsMigration C base)
    (distinct : DistinctNames base)
    (order : MapOrder) :
    Ensures C (runMigration order false)
      (fun _ final => ∃ progress, Reached base progress final ∧
        (Faulty C ∨ ∀ name, migrates base name = true →
          GroupDone base name (progress name))) base := by
  have start := reached_untouched base
  unfold runMigration discoverLegacyLocalDisks
  rw [ensures_bind, ensures_mapError, ensures_bind, ensures_attempt]
  refine ensures_query (guarded _ base _ start) rfl (fun pick => ?_) ?_
  · change Ensures C (if (candidates base).length = 0 then _ else _) _ _
    rw [ensures_ite]
    constructor
    · intro none
      refine ⟨untouched, start, Or.inr fun name migrated => ?_⟩
      refine absurd ?_ (legacyDisks_ne_nil_of_migrates migrated)
      rw [legacyDisks, List.length_eq_zero_iff.mp none, List.filter_nil]
    · intro _
      obtain ⟨names, visited, different, inUse⟩ := visited_eq_map base order
      change Ensures C (processGroups false (order.visit
        (groupLocalDisksByFilesystem (candidates base)))) _ _
      rw [visited]
      refine (ensures_processGroups guarded distinct start (fun _ _ => rfl)
        (fun name => (inUse name).mp) different).mono ?_
      rintro _ final ⟨progress, reached, _, done⟩
      refine ⟨progress, reached, done.imp_right fun done name migrated => ?_⟩
      exact done name ((inUse name).mpr (legacyDisks_ne_nil_of_migrates migrated))
        migrated
  · intro failure _ mayFail
    have faulty : ∃ progress, Reached base progress base ∧
        (Faulty C ∨ ∀ name, migrates base name = true →
          GroupDone base name (progress name)) :=
      ⟨untouched, start, Or.inl ⟨_, _, _, mayFail⟩⟩
    rw [onSuccess_ok, ensures_ite]
    refine ⟨fun _ => ?_, fun _ => faulty⟩
    rw [ensures_pure]
    exact faulty

end FusionAccess
