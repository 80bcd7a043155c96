import FusionAccess.Controller.MigrationRaces

/-!
# A migration among passes

Passes on a claim with the conditions of the migration write none of these
conditions: they find its healthy LocalDisks before they look for the Filesystem,
and keep what the migration has reported. A migration that no pass disturbs ends
with these conditions.
-/

namespace FusionAccess

open Kubernetes Interaction Fallible

/-! ## What passes find -/

/-- The claim is migrated and has children of the kinds. -/
structure HasChildren
    (group : LegacyResourceGroup) (kinds : List Kind) (state : Cluster) : Prop where
  migrated : Migrated group state
  children : ∀ kind ∈ kinds, Has group kind state

theorem HasChildren.mono
    {group : LegacyResourceGroup} {kinds : List Kind} {before after : Cluster}
    (has : HasChildren group kinds before)
    (keeps : KeepsMigrated group before after) :
    HasChildren group kinds after :=
  ⟨keeps.migrated has.migrated, fun kind member =>
    keeps.children kind (has.children kind member)⟩

theorem HasChildren.and
    {group : LegacyResourceGroup} {kinds : List Kind} {kind : Kind} {state : Cluster}
    (has : HasChildren group kinds state)
    (more : Has group kind state) :
    HasChildren group (kind :: kinds) state :=
  ⟨has.migrated, List.forall_mem_cons.mpr ⟨more, has.children⟩⟩

section Findings

variable {group : LegacyResourceGroup} {fsc : FileSystemClaim} {state : Cluster}

/-- What the claim of the group owns. -/
theorem mem_ownedBy_iff
    (named : fsc.key = migrationKey group.filesystemName)
    {kind : Kind} {object : Unstructured} :
    object ∈ ownedBy state fsc kind ↔
      object ∈ state.objects kind ∧ BelongsToClaim group object := by
  have name : fsc.metadata.name = group.filesystemName :=
    congrArg NamespacedName.name named
  have ns : fsc.metadata.ns = migrationNamespace := congrArg NamespacedName.ns named
  rw [ownedBy, List.mem_filter, List.mem_filter, name, ns, decide_eq_true_eq, and_assoc,
    BelongsToClaim]

theorem ownedBy_ne_nil_iff
    (named : fsc.key = migrationKey group.filesystemName) {kind : Kind} :
    ownedBy state fsc kind ≠ [] ↔ Has group kind state := by
  constructor
  · intro some
    obtain ⟨object, member⟩ := List.exists_mem_of_ne_nil _ some
    exact ⟨object, (mem_ownedBy_iff named).mp member⟩
  · rintro ⟨object, belongs⟩
    exact List.ne_nil_of_mem ((mem_ownedBy_iff named).mpr belongs)

/-- A resource that is healthy stays so when more Filesystems may use it. -/
theorem checkResourceHealthy_mono
    {resource : Unstructured} {required : List ConditionType} {users more : List String}
    (subset : users ⊆ more)
    (healthy : checkResourceHealthy resource required users = none) :
    checkResourceHealthy resource required more = none := by
  unfold checkResourceHealthy at healthy ⊢
  split at healthy
  · cases healthy
  rw [List.findSome?_eq_none_iff] at healthy ⊢
  intro conditionType member
  have checked := healthy conditionType member
  unfold checkRequiredCondition at checked ⊢
  split at checked
  · split at checked
    · cases checked
    split at checked
    · split at checked
      · cases checked
      split at checked
      · cases checked
      next unlisted =>
        simp only [*, if_true, if_false]
        rw [if_neg (not_not.mpr (subset (not_not.mp unlisted)))]
    · simp only [*, if_false]
  all_goals assumption

/-- The owned LocalDisks of the claim pass their check. -/
theorem Coexists.localDisks_healthy
    (coexists : Coexists group state)
    (named : fsc.key = migrationKey group.filesystemName)
    (others : List String) :
    checkAllResourcesHealthy (ownedBy state fsc .localDisk) localDiskRequirements
      (fsc.metadata.name :: others) = none := by
  have name : fsc.metadata.name = group.filesystemName :=
    congrArg NamespacedName.name named
  refine checkAllResourcesHealthy_iff.mpr fun ld member => ?_
  obtain ⟨listed, belongs⟩ := (mem_ownedBy_iff named).mp member
  refine checkResourceHealthy_mono ?_ (coexists.healthy .localDisk ld listed (Or.inr belongs))
  rw [name]
  exact List.cons_subset_cons _ (List.nil_subset _)

/-- So does its Filesystem. -/
theorem Coexists.filesystem_healthy
    (coexists : Coexists group state)
    (named : fsc.key = migrationKey group.filesystemName) :
    checkAllResourcesHealthy (ownedBy state fsc .filesystem) filesystemRequirements [] =
      none := by
  refine checkAllResourcesHealthy_iff.mpr fun fs member => ?_
  obtain ⟨listed, belongs⟩ := (mem_ownedBy_iff named).mp member
  exact coexists.healthy .filesystem fs listed (Or.inr belongs)

/-- The claim has at most one Filesystem. -/
theorem Coexists.filesystems_le_one
    (coexists : Coexists group state)
    (named : fsc.key = migrationKey group.filesystemName) :
    (ownedBy state fsc .filesystem).length ≤ 1 := by
  have distinct : ((ownedBy state fsc .filesystem).map Unstructured.key).Nodup :=
    coexists.names.sublist ((List.filter_sublist.trans List.filter_sublist).map _)
  have keys : ∀ fs ∈ ownedBy state fsc .filesystem,
      fs.key = migrationKey group.filesystemName := by
    intro fs member
    obtain ⟨listed, belongs⟩ := (mem_ownedBy_iff named).mp member
    exact coexists.filesystem fs listed belongs
  match owned : ownedBy state fsc .filesystem with
  | [] | [_] => simp
  | first :: second :: rest =>
      rw [owned] at distinct keys
      have same : first.key = second.key :=
        (keys first (by simp)).trans (keys second (by simp)).symm
      simp [same] at distinct

/-- The claim says that everything is migrated, so it keeps true conditions. -/
theorem updateConditionIfChanged_of_migrated
    {conditionType : ConditionType} {reason : Reason} {message : String}
    (migrated : SaysMigrated fsc.conditions)
    (member : conditionType ∈ migratedTypes) :
    updateConditionIfChanged fsc conditionType .isTrue reason message = pure false := by
  obtain ⟨condition, found, _, reason⟩ := migrated conditionType member
  have recorded : hasConditionWithReason fsc.conditions conditionType .migrationComplete =
      true := by
    simp [hasConditionWithReason, found, reason]
  rw [updateConditionIfChanged_eq, if_pos (by simp [keepsCondition, recorded])]

theorem isConditionTrue_of_migrated
    {conditionType : ConditionType}
    (migrated : SaysMigrated fsc.conditions)
    (member : conditionType ∈ migratedTypes) :
    isConditionTrue fsc conditionType = true := by
  obtain ⟨condition, found, status, _⟩ := migrated conditionType member
  obtain ⟨listed, type⟩ := Registry.find?_eq_some found
  rw [isConditionTrue, List.any_eq_true]
  exact ⟨condition, listed, by simp [type, status]⟩

/-- A status write that reports nothing about the migrated conditions leaves them. -/
theorem SaysMigrated.of_touches
    {original modified : List Condition}
    {reports : ConditionType → ConditionStatus → Reason → Prop}
    (migrated : SaysMigrated original)
    (touches : Touches reports original modified)
    (silent : ∀ conditionType ∈ migratedTypes, ∀ status reason,
      ¬reports conditionType status reason) :
    SaysMigrated modified := by
  intro conditionType member
  rcases touches.lookup conditionType with same | ⟨_, _, reported⟩
  · rw [same]
    exact migrated conditionType member
  · exact absurd reported (silent conditionType member _ _)

end Findings

/-! ## The steps of a pass -/

section Pass

variable {group : LegacyResourceGroup} {fsc : FileSystemClaim}
  {r : FileSystemClaimReconciler} {kinds : List Kind} {invariant : Cluster → Prop}

/-- What others leave alone survives an undisturbed call of a pass. -/
theorem safeThen_passCall
    {call : Call}
    (validated : IsValidated group)
    (stable : ∀ before after, KeepsMigrated group before after →
      invariant before → invariant after)
    (passCall : PassCall group call) :
    SafeThen ((races group).contract (.pass r)) invariant (request call) (Honest call) := by
  have served := fun before choice =>
    @served_passCall group r ⟨before, call, choice⟩ validated
  intro state holds
  refine ⟨fun before choice _ coexists undisturbed =>
    (served before choice coexists undisturbed passCall).1, ?_⟩
  rintro ⟨before, choice⟩ ⟨relied, coexists, undisturbed⟩
  have keeps := (served before choice coexists undisturbed passCall).2
  exact ⟨honest_serve choice before call, stable _ _ keeps (stable _ _ relied holds)⟩

theorem readsSafely_races
    (validated : IsValidated group)
    (stable : ∀ before after, KeepsMigrated group before after →
      invariant before → invariant after) :
    ReadsSafely ((races group).contract (.pass r)) invariant :=
  fun _ reads => safeThen_passCall validated stable (passCall_of_isRead reads)

theorem safe_passCall
    {call : Call}
    (validated : IsValidated group)
    (passCall : PassCall group call) :
    Safe ((races group).contract (.pass r)) (HasChildren group kinds) (request call) :=
  (safeThen_passCall validated (fun _ _ keeps has => has.mono keeps) passCall).safe

/-- A claim that is migrated is read with the conditions of the migration. -/
theorem safeThen_getClaim_migrated :
    SafeThen ((races group).contract (.pass r)) (HasChildren group kinds)
      (request (.getClaim (migrationKey group.filesystemName)))
      (fun result => ∀ cur, result = .ok cur → SaysMigrated cur.conditions) := by
  intro state has
  refine ensures_read_among rfl (fun _ _ => trivial) (fun before pick relied _ => ?_)
    fun before failure _ relied _ =>
      ⟨fun _ impossible => (by cases impossible), has.mono relied⟩
  have later := has.mono relied
  obtain ⟨stored, found, migrated⟩ := later.migrated
  refine ⟨fun cur read => ?_, later⟩
  simp only [Cluster.answer, found, Except.ok.injEq] at read
  rwa [← read]

/-- Status patches are safe that report nothing about the migrated conditions. -/
theorem allowsReports_races
    {reports : ConditionType → ConditionStatus → Reason → Prop}
    (validated : IsValidated group)
    (named : fsc.key = migrationKey group.filesystemName)
    (silent : ∀ conditionType ∈ migratedTypes, ∀ status reason,
      ¬reports conditionType status reason) :
    AllowsReports ((races group).contract (.pass r)) (HasChildren group kinds) fsc
      reports := by
  refine fun mutate touches => safe_retryOnConflict 4 ?_
  rw [named]
  refine safeThen_getClaim_migrated.bind (fun _ _ => trivial) fun cur migrated => ?_
  refine (safe_passCall validated (passCall_of_isRead rfl)).andThen fun now _ => ?_
  exact safe_passCall validated
    ⟨rfl, (migrated cur rfl).of_touches (touches now cur) silent⟩

/-- Listing owned resources yields what the claim owns then. -/
theorem ensures_listOwnedResources_races
    {kind : Kind}
    {post : Except Failure (List Unstructured) → Cluster → Prop}
    {state : Cluster}
    (has : HasChildren group kinds state)
    (listed : ∀ before, HasChildren group kinds before → Coexists group before →
      post (.ok (ownedBy before fsc kind)) before)
    (failed : ∀ before failure, HasChildren group kinds before →
      post (.error failure) before) :
    Ensures ((races group).contract (.pass r)) (listOwnedResources fsc kind) post
      state := by
  unfold listOwnedResources
  rw [ensures_bind, ensures_mapError]
  exact ensures_read_among rfl (fun _ _ => trivial)
    (fun before _ relied coexists => listed before (has.mono relied) coexists)
    fun before failure _ relied _ => failed before _ (has.mono relied)

/-- A pass goes on when the step has written nothing. -/
theorem ensures_passes
    {C : Contract apiServer.shared} {step next : Act Bool}
    {between kind : Cluster → Prop} {state : Cluster}
    (first : Ensures C step (Passes between) state)
    (continues : ∀ final, between final → Ensures C next (Passes kind) final) :
    Ensures C (do
      let wrote ← step
      if wrote then return true else next) (Passes kind) state := by
  rw [ensures_bind]
  refine first.mono ?_
  rintro (failure | _ | _) final passed
  · exact fun impossible => by cases impossible
  · exact continues final (passed rfl)
  · exact fun impossible => by cases impossible

theorem passes_true (kind : Cluster → Prop) (final : Cluster) :
    Passes kind (.ok true) final :=
  fun impossible => by cases impossible

theorem passes_error (kind : Cluster → Prop) (failure : Failure) (final : Cluster) :
    Passes kind (.error failure) final :=
  fun impossible => by cases impossible

/-- A status patch ends the pass. -/
theorem ensures_report_races
    {state : Cluster} {mutate : Nat → FileSystemClaim → FileSystemClaim}
    {reports : ConditionType → ConditionStatus → Reason → Prop}
    {kind : Cluster → Prop}
    (allowed : AllowsReports ((races group).contract (.pass r)) (HasChildren group kinds)
      fsc reports)
    (touches : ∀ now cur, Touches reports cur.conditions (mutate now cur).conditions)
    (has : HasChildren group kinds state) :
    Ensures ((races group).contract (.pass r))
      (do
        patchFSCStatus fsc mutate
        return true) (Passes kind) state := by
  rw [ensures_bind]
  refine (allowed mutate touches state has).mono ?_
  rintro (failure | _) final _
  · exact passes_error _ _ _
  · exact passes_true _ _

section Steps

variable {state : Cluster}

/-- A group that is valid has devices. -/
theorem IsValidated.devicePaths_ne_nil (validated : IsValidated group) :
    group.devicePaths ≠ [] := by
  intro none
  have checked := validated.checked
  unfold checkResourceGroup at checked
  split at checked
  · cases checked
  split at checked
  · cases checked
  · simp [none] at checked

/-- A pass goes on when the LocalDisks are those for the devices, so there are some. -/
theorem ensures_ensureLocalDisks_races
    (validated : IsValidated group)
    (named : fsc.key = migrationKey group.filesystemName)
    (migrated : SaysMigrated fsc.conditions)
    (devices : fsc.devices = group.devicePaths)
    (has : HasChildren group [] state) :
    Ensures ((races group).contract (.pass r)) (ensureLocalDisks fsc)
      (Passes (HasChildren group [.localDisk])) state := by
  have created : isConditionTrue fsc .localDiskCreated = true :=
    isConditionTrue_of_migrated migrated (by simp [migratedTypes])
  unfold ensureLocalDisks
  rw [if_pos created, ensures_bind, ensures_mapError]
  refine ensures_listOwnedResources_races has (fun before has _ => ?_)
    fun _ _ _ => passes_error _ _ _
  simp only [Except.mapError, onSuccess_ok, ensures_ite]
  refine ⟨fun _ => ?_, fun same _ => has.and ?_⟩
  · have reports : AllowsReports ((races group).contract (.pass r)) (HasChildren group [])
        fsc reportsImmutable :=
      allowsReports_races validated named (by simp [migratedTypes, reportsImmutable])
    exact ensures_report_races reports (fun _ cur =>
      (Touches.refl _ cur.conditions).withCondition ⟨rfl, rfl, rfl⟩ _ _) has
  · rw [← ownedBy_ne_nil_iff named]
    intro none
    rw [none, devices, not_not] at same
    have empty : group.devicePaths.toFinset = ∅ := same.symm
    exact validated.devicePaths_ne_nil (List.toFinset_eq_empty_iff _ |>.mp empty)

/-- The LocalDisks are healthy, so their condition is kept. -/
theorem ensures_syncLocalDiskConditions_races
    (named : fsc.key = migrationKey group.filesystemName)
    (migrated : SaysMigrated fsc.conditions)
    (has : HasChildren group [.localDisk] state) :
    Ensures ((races group).contract (.pass r)) (syncLocalDiskConditions fsc)
      (Passes (HasChildren group [.localDisk])) state := by
  unfold syncLocalDiskConditions
  rw [ensures_bind]
  refine ensures_listOwnedResources_races has (fun before has coexists => ?_)
    fun _ _ _ => passes_error _ _ _
  have some : ownedBy before fsc .localDisk ≠ [] :=
    (ownedBy_ne_nil_iff named).mpr (has.children .localDisk (by simp))
  have kept : ∀ others, updateConditionIfChanged fsc .localDiskCreated
      (localDiskCondition (ownedBy before fsc .localDisk) (fsc.metadata.name :: others)).1
      (localDiskCondition (ownedBy before fsc .localDisk) (fsc.metadata.name :: others)).2.1
      (localDiskCondition (ownedBy before fsc .localDisk)
        (fsc.metadata.name :: others)).2.2 = pure false := by
    intro others
    rw [localDiskCondition, coexists.localDisks_healthy named others]
    exact updateConditionIfChanged_of_migrated migrated (by simp [migratedTypes])
  simp only [onSuccess_ok, ensures_ite]
  refine ⟨fun none => absurd (List.length_eq_zero_iff.mp none) some, fun _ => ?_⟩
  rw [ensures_bind, ensures_attempt]
  refine ensures_listOwnedResources_races has (fun later has _ => ?_)
    fun later failure has => ?_
  · rw [onSuccess_ok, kept]
    exact fun _ => has
  · rw [onSuccess_ok, kept]
    exact fun _ => has

/-- A pass goes on when the claim has its Filesystem. It does not create one where it
is not disturbed. -/
theorem ensures_ensureFileSystem_races
    (validated : IsValidated group)
    (named : fsc.key = migrationKey group.filesystemName)
    (migrated : SaysMigrated fsc.conditions)
    (has : HasChildren group [.localDisk] state) :
    Ensures ((races group).contract (.pass r)) (ensureFileSystem fsc)
      (Passes (HasChildren group [.filesystem, .localDisk])) state := by
  have created : isConditionTrue fsc .localDiskCreated = true :=
    isConditionTrue_of_migrated migrated (by simp [migratedTypes])
  unfold ensureFileSystem
  rw [if_neg (by simp [created]), ensures_bind, ensures_mapError]
  refine ensures_listOwnedResources_races has (fun before has coexists => ?_)
    fun _ _ _ => passes_error _ _ _
  have some : ownedBy before fsc .localDisk ≠ [] :=
    (ownedBy_ne_nil_iff named).mpr (has.children .localDisk (by simp))
  simp only [Except.mapError, onSuccess_ok, List.length_map, ensures_ite]
  refine ⟨fun none => absurd (List.length_eq_zero_iff.mp none) some, fun _ => ?_⟩
  rw [ensures_bind, ensures_mapError]
  refine ensures_listOwnedResources_races has (fun later has coexists => ?_)
    fun _ _ _ => passes_error _ _ _
  have single := coexists.filesystems_le_one named
  simp only [Except.mapError, onSuccess_ok]
  rcases owned : ownedBy later fsc .filesystem with _ | ⟨fs, _ | ⟨second, others⟩⟩
  · dsimp only
    rw [createResourceWithOwnership_eq, ensures_bind, ensures_attempt]
    refine ⟨fun before choice _ _ undisturbed => absurd rfl (undisturbed.1 _), ?_⟩
    rintro choice ⟨_, _, undisturbed⟩
    exact absurd rfl (undisturbed.1 _)
  · have present : Has group .filesystem later := by
      rw [← ownedBy_ne_nil_iff named, owned]
      simp
    dsimp only
    rw [ensures_ite]
    refine ⟨fun _ => ?_, fun _ _ => has.and present⟩
    have patches : Safe ((races group).contract (.pass r)) (HasChildren group [.localDisk])
        (request (.patchSpec .filesystem fs.key (buildFilesystemSpec
          ((ownedBy before fsc .localDisk).map fun ld => ld.metadata.name)))) :=
      safe_passCall validated trivial
    rw [ensures_bind, ensures_mapError]
    refine (patches later has).mono ?_
    rintro (failure | _) final _
    · exact passes_error _ _ _
    · exact passes_true _ _
  · rw [owned] at single
    simp at single

/-- The Filesystem is healthy, so its condition is kept. -/
theorem ensures_syncFilesystemConditions_races
    (named : fsc.key = migrationKey group.filesystemName)
    (migrated : SaysMigrated fsc.conditions)
    (has : HasChildren group [.filesystem, .localDisk] state) :
    Ensures ((races group).contract (.pass r)) (syncFilesystemConditions fsc)
      (Passes (HasChildren group [])) state := by
  have created : isConditionTrue fsc .localDiskCreated = true :=
    isConditionTrue_of_migrated migrated (by simp [migratedTypes])
  unfold syncFilesystemConditions
  rw [if_neg (by simp [created]), ensures_bind, ensures_mapError]
  refine ensures_listOwnedResources_races has (fun before has coexists => ?_)
    fun _ _ _ => passes_error _ _ _
  have some : ownedBy before fsc .filesystem ≠ [] :=
    (ownedBy_ne_nil_iff named).mpr (has.children .filesystem (by simp))
  simp only [Except.mapError, onSuccess_ok]
  rw [filesystemCondition, if_neg (fun none => some (List.length_eq_zero_iff.mp none)),
    coexists.filesystem_healthy named]
  dsimp only
  rw [updateConditionIfChanged_of_migrated migrated (by simp [migratedTypes])]
  exact fun _ => ⟨has.migrated, by simp⟩

/-- A pass that goes on behind its last step finds the claim migrated. -/
theorem ensures_provision_races
    (validated : IsValidated group)
    (named : fsc.key = migrationKey group.filesystemName)
    (migrated : SaysMigrated fsc.conditions)
    (devices : fsc.devices = group.devicePaths)
    (has : HasChildren group [] state) :
    Ensures ((races group).contract (.pass r)) (provision fsc)
      (Passes (HasChildren group [])) state := by
  have reports : AllowsReports ((races group).contract (.pass r)) (HasChildren group [])
      fsc reportsStorageClass :=
    allowsReports_races validated named (by
      simp [migratedTypes, reportsStorageClass, reportsFailure, ResourceType.conditionType])
  have storageClass : Safe ((races group).contract (.pass r)) (HasChildren group [])
      (ensureStorageClass fsc) :=
    safe_ensureStorageClass
      (readsSafely_races validated fun _ _ keeps has => has.mono keeps) reports.ofPass
      (safe_passCall validated trivial) fun _ _ => safe_passCall validated trivial
  unfold provision
  refine ensures_passes
    (ensures_ensureLocalDisks_races validated named migrated devices has) fun _ has => ?_
  refine ensures_passes
    (ensures_syncLocalDiskConditions_races named migrated has) fun _ has => ?_
  refine ensures_passes
    (ensures_ensureFileSystem_races validated named migrated has) fun _ has => ?_
  refine ensures_passes
    (ensures_syncFilesystemConditions_races named migrated has) fun final has => ?_
  exact (storageClass final has).mono fun _ _ ensured _ => ensured.2

/-- A pass adds the finalizer to a claim without conditions, and provisions one that
is migrated. -/
theorem ensures_reconcileClaim_races
    (validated : IsValidated group)
    (named : fsc.key = migrationKey group.filesystemName)
    (isClaim : IsClaimOf group fsc)
    (known : SaysMigrated fsc.conditions → Migrated group state) :
    Ensures ((races group).contract (.pass r)) (reconcileClaim r fsc)
      (fun _ _ => True) state := by
  by_cases finalized : hasFinalizer fsc = true
  · rcases isClaim.stage with ⟨_, none⟩ | migrated
    · simp [hasFinalizer, none] at finalized
    have ready : Safe ((races group).contract (.pass r)) (HasChildren group [])
        (syncFSCReady fsc) :=
      safe_syncFSCReady
        (allowsReports_races validated named (by simp [migratedTypes, reportsReady]))
    rw [reconcileClaim_eq_provision (by simp [isClaim.live]) (Or.inr finalized),
      ensures_bind]
    refine (ensures_provision_races validated named migrated isClaim.devices
      ⟨known migrated, by simp⟩).mono ?_
    rintro (failure | _ | _) final passed
    · trivial
    · rw [onSuccess_ok, if_neg (by simp)]
      refine Ensures.mono ((ready.andThen fun _ _ =>
        safeThen_ite (fun _ => safe_pure _) fun _ => safe_pure _) final (passed rfl)) ?_
      exact fun _ _ _ => trivial
    · rw [onSuccess_ok, if_pos rfl]
      trivial
  · have adds : Safe ((races group).contract (.pass r)) (fun _ => True)
        (patchFSCSpec fsc addFinalizer) := by
      refine safe_patchFSCSpec_of_calls
        (readsSafely_races validated fun _ _ _ _ => trivial) fun original modified => ?_
      have passCall : PassCall group
          (.patchClaimFinalizers fsc.key original modified) := named
      exact (safeThen_passCall validated (fun _ _ _ _ => trivial) passCall).safe
    refine ensures_reconcileClaim_of_unfinalized isClaim.live (by simpa using finalized) ?_
    exact (adds state trivial).mono fun _ _ _ => trivial

/-- A pass follows the discipline. -/
theorem follows_pass (validated : IsValidated group) (state : Cluster) :
    (races group).Follows (.pass r) (party group (.pass r)) state := by
  change Ensures ((races group).contract (.pass r))
    (some <$> reconcile r (migrationKey group.filesystemName)) _ state
  have follows : Ensures ((races group).contract (.pass r))
      (reconcile r (migrationKey group.filesystemName)) (fun _ _ => True) state := by
    unfold reconcile
    rw [ensures_bind, ensures_attempt]
    refine ensures_read_among rfl (fun _ _ => trivial) (fun before pick _ coexists => ?_)
      fun _ _ _ _ _ => ?_
    · cases stored : before.claim? (migrationKey group.filesystemName) with
      | none =>
          simp only [Cluster.answer, stored, onSuccess_ok, ensures_ite, ensures_pure,
            ensures_throw, implies_true, and_self]
      | some fsc =>
          simp only [Cluster.answer, stored, onSuccess_ok]
          exact ensures_reconcileClaim_races validated (Registry.find?_eq_some stored).2
            (coexists.claim fsc stored) fun migrated => ⟨fsc, stored, migrated⟩
    · simp only [onSuccess_ok, ensures_ite, ensures_pure, ensures_throw, implies_true,
        and_self]
  rw [ensures_map]
  refine follows.mono ?_
  rintro (failure | _) _ _
  · trivial
  · trivial

end Steps

end Pass

/-! ## The steps of the migration -/

section Migration

variable {group : LegacyResourceGroup} {fsc : FileSystemClaim} {state : Cluster}
  {timestamp : String}

/-- A call of the migration that leaves claims alone. -/
theorem served_elsewhere
    {event : Event apiServer}
    (validated : IsValidated group)
    (coexists : Coexists group event.before)
    (adopting : AdoptingCall group event.request)
    (claims : event.request.part? ≠ some .claims) :
    (races group).Served .migration event ∧ KeepsMigrated group event.before event.after := by
  have changes : Coexists group event.after ∧
      KeepsMigrated group event.before event.after := by
    rcases after_cases event with carriedOut | unchanged
    · rw [carriedOut]
      exact coexists.elsewhere validated adopting claims
    · rw [unchanged]
      exact ⟨coexists, .refl _⟩
  refine ⟨⟨changes.1, fun other together => ?_, trivial⟩, changes.2⟩
  cases other with
  | migration => exact together.elim
  | pass r => exact changes.2

theorem safe_adoptingCall
    (call : Call)
    (validated : IsValidated group)
    (adopting : AdoptingCall group call)
    (claims : call.part? ≠ some .claims) :
    Safe ((races group).contract .migration) (Migrated group) (request call) := by
  have served := fun before choice =>
    @served_elsewhere group ⟨before, call, choice⟩ validated
  intro state migrated
  refine ⟨fun before choice _ coexists _ =>
    (served before choice coexists adopting claims).1, ?_⟩
  rintro ⟨before, choice⟩ ⟨relied, coexists, _⟩
  have keeps := (served before choice coexists adopting claims).2
  exact ⟨trivial, keeps.migrated (relied.migrated migrated)⟩

/-- The migration creates the claim as it is described, without conditions. -/
theorem ensures_createClaim_races
    (validated : IsValidated group)
    (absent : state.claim? (migrationKey group.filesystemName) = none) :
    Ensures ((races group).contract .migration)
      (request (.createClaim (migrationClaim timestamp group)))
      (fun result final => ∀ fsc, result = .ok fsc →
        final.claim? (migrationKey group.filesystemName) = some fsc ∧ fsc.conditions = [])
      state := by
  have named : (migrationClaim timestamp group).key =
      migrationKey group.filesystemName := rfl
  have after : ∀ before : Cluster,
      before.claim? (migrationKey group.filesystemName) = none →
      (before.afterCall (.createClaim (migrationClaim timestamp group))).claim?
          (migrationKey group.filesystemName) =
        some (before.newClaim (migrationClaim timestamp group)) := by
    intro before none
    rw [before.claim?_createClaim _ (named ▸ none), if_pos named]
  refine ⟨fun before choice relied coexists _ => ?_, ?_⟩
  · have none := relied.absent absent
    have changes : Coexists group
          (serve choice before (.createClaim (migrationClaim timestamp group))).1 ∧
        KeepsMigrated group before
          (serve choice before (.createClaim (migrationClaim timestamp group))).1 := by
      rcases serve_state choice before (.createClaim (migrationClaim timestamp group)) with
        carriedOut | unchanged
      · rw [carriedOut]
        refine coexists.afterCall validated trivial (fun fsc stored => ?_) ?_
        · rw [after before none] at stored
          cases stored
          exact ⟨rfl, rfl, Or.inl ⟨rfl, rfl⟩⟩
        · rintro ⟨fsc, stored, _⟩
          rw [none] at stored
          cases stored
      · rw [unchanged]
        exact ⟨coexists, .refl _⟩
    refine ⟨changes.1, fun other together => ?_, trivial⟩
    cases other with
    | migration => exact together.elim
    | pass r => exact changes.2
  · rintro ⟨before, choice⟩ ⟨relied, _, _⟩
    have none := relied.absent absent
    change ∀ fsc : FileSystemClaim,
      (serve choice before (.createClaim (migrationClaim timestamp group))).2 = .ok fsc →
        (serve choice before (.createClaim (migrationClaim timestamp group))).1.claim?
            (migrationKey group.filesystemName) = some fsc ∧ fsc.conditions = []
    rcases serve_cases choice before (.createClaim (migrationClaim timestamp group)) with
      served | ⟨_, _, ⟨_, _, served⟩ | ⟨_, _, served⟩⟩
    · rw [served, before.answer_createClaim _ (named ▸ none), after before none]
      rintro fsc created
      cases created
      exact ⟨rfl, rfl⟩
    · rw [served]
      exact fun _ impossible => by cases impossible
    · rw [served]
      exact fun _ impossible => by cases impossible

theorem saysMigrated_migrationConditions (now : Nat) (group : LegacyResourceGroup) :
    SaysMigrated (migrationConditions now group) := by
  intro conditionType member
  simp only [migratedTypes, List.mem_cons, List.not_mem_nil, or_false] at member
  rcases member with rfl | rfl | rfl <;> exact ⟨_, rfl, rfl, rfl⟩

/-- The status that the migration writes is written, as long as the claim is the one
that it has created. -/
theorem ensures_updateClaimStatus_races
    {now : Nat}
    (validated : IsValidated group)
    (stored : state.claim? (migrationKey group.filesystemName) = some fsc)
    (bare : fsc.conditions = []) :
    Ensures ((races group).contract .migration)
      (request (.updateClaimStatus { fsc with conditions := migrationConditions now group }))
      (fun _ final => Migrated group final) state := by
  have named : fsc.key = migrationKey group.filesystemName :=
    (Registry.find?_eq_some stored).2
  have after : ∀ before : Cluster,
      before.claim? (migrationKey group.filesystemName) = some fsc →
      (before.afterCall (.updateClaimStatus
          { fsc with conditions := migrationConditions now group })).claim?
          (migrationKey group.filesystemName) =
        some { fsc with
          metadata := before.stamp fsc.metadata
          conditions := migrationConditions now group } := by
    intro before found
    have key : ({ fsc with
        conditions := migrationConditions now group } : FileSystemClaim).key =
          migrationKey group.filesystemName := named
    have isStored : before.claim? ({ fsc with
        conditions := migrationConditions now group } : FileSystemClaim).key = some fsc := by
      rw [key, found]
    rw [before.claim?_updateClaimStatus _ isStored rfl
      (by simp [bare, migrationConditions]), if_pos key]
  have changes : ∀ (before : Cluster) (choice : Choice),
      before.claim? (migrationKey group.filesystemName) = some fsc →
      Coexists group before →
      (∀ refusal message, choice.fault ≠ .refused refusal message) →
      Coexists group (serve choice before (.updateClaimStatus
          { fsc with conditions := migrationConditions now group })).1 ∧
        Migrated group (serve choice before (.updateClaimStatus
          { fsc with conditions := migrationConditions now group })).1 ∧
        KeepsMigrated group before (serve choice before (.updateClaimStatus
          { fsc with conditions := migrationConditions now group })).1 := by
    intro before choice found coexists accepted
    rw [serve_state_of_accepted accepted]
    have migrated : Migrated group (before.afterCall (.updateClaimStatus
        { fsc with conditions := migrationConditions now group })) :=
      ⟨_, after before found, saysMigrated_migrationConditions now group⟩
    have known := coexists.claim fsc found
    have adopting : AdoptingCall group (.updateClaimStatus
        { fsc with conditions := migrationConditions now group }) := trivial
    have kept := coexists.afterCall validated adopting (fun claim updated => by
      rw [after before found] at updated
      cases updated
      exact ⟨known.live, known.devices,
        Or.inr (saysMigrated_migrationConditions now group)⟩) fun _ => migrated
    exact ⟨kept.1, migrated, kept.2⟩
  refine ⟨fun before choice relied coexists undisturbed => ?_, ?_⟩
  · obtain ⟨invariant, _, keeps⟩ := changes before choice (relied.bare fsc stored bare)
      coexists (undisturbed _ rfl)
    refine ⟨invariant, fun other together => ?_, trivial⟩
    cases other with
    | migration => exact together.elim
    | pass r => exact keeps
  · rintro ⟨before, choice⟩ ⟨relied, coexists, undisturbed⟩
    exact (changes before choice (relied.bare fsc stored bare) coexists
      (undisturbed _ rfl)).2.1

/-- What the metadata of an adopted object has in common with its earlier one. -/
theorem addOwnerRefAndStandardLabels_ok
    {metadata adopted : ObjectMeta}
    (outcome : addOwnerRefAndStandardLabels metadata fsc = .ok adopted) :
    adopted.key = metadata.key ∧ ownerReference fsc ∈ adopted.ownerReferences := by
  unfold addOwnerRefAndStandardLabels setOwnerReference at outcome
  split at outcome
  · cases outcome
  split at outcome
  · cases outcome
  cases outcome
  exact ⟨rfl, mem_upsertOwnerRef _ _⟩

/-- An object of the group gets its owner. -/
theorem safe_adoptObject
    {kind : Kind} {object : Unstructured} {adding updating : String}
    (validated : IsValidated group)
    (name : fsc.metadata.name = group.filesystemName)
    (member : object.key ∈ groupKeys group kind) :
    Safe ((races group).contract .migration) (Migrated group)
      (adoptObject fsc timestamp kind object adding updating) := by
  unfold adoptObject
  refine safeThen_ite (fun _ => safe_pure ()) fun _ => ?_
  cases outcome : addOwnerRefAndStandardLabels object.metadata fsc with
  | error err => exact safe_throw _
  | ok metadata =>
      obtain ⟨key, owner⟩ := addOwnerRefAndStandardLabels_ok outcome
      refine SafeThen.mapError (safe_adoptingCall _ validated ⟨?_, ?_⟩ (by simp [Call.part?]))
        fun _ _ => trivial
      · have sameKey : ({ object with
            metadata := addMigrationLabels metadata timestamp } : Unstructured).key =
              object.key := key
        rwa [sameKey]
      · rw [isOwnedByThisFSC, List.any_eq_true]
        exact ⟨ownerReference fsc, owner, by simp [ownerReference, name]⟩

theorem safe_adoptLocalDisks
    (validated : IsValidated group)
    (name : fsc.metadata.name = group.filesystemName)
    {lds : List Unstructured}
    (members : ∀ ld ∈ lds, ld.key ∈ groupKeys group .localDisk) :
    Safe ((races group).contract .migration) (Migrated group)
      (adoptLocalDisks fsc timestamp lds) := by
  induction lds with
  | nil => exact safe_pure ()
  | cons ld lds inductionHypothesis =>
      rw [List.forall_mem_cons] at members
      rw [adoptLocalDisks]
      exact (safe_adoptObject validated name members.1).andThen
        fun _ _ => inductionHypothesis members.2

theorem safe_updateOwnerRefsAndLabels
    (validated : IsValidated group)
    (name : fsc.metadata.name = group.filesystemName) :
    Safe ((races group).contract .migration) (Migrated group)
      (updateOwnerRefsAndLabels fsc group) := by
  have filesystem : ∀ timestamp, Safe ((races group).contract .migration) (Migrated group)
      (adoptFilesystem fsc timestamp group.filesystem) := by
    intro timestamp
    cases found : group.filesystem with
    | none => exact safe_pure ()
    | some fs => exact safe_adoptObject validated name (by simp [groupKeys, found])
  have storageClass : ∀ timestamp, Safe ((races group).contract .migration)
      (Migrated group) (labelStorageClass fsc timestamp group.storageClass) := by
    intro timestamp
    cases group.storageClass with
    | none => exact safe_pure ()
    | some sc =>
        refine safeThen_ite (fun _ => safe_pure ()) fun _ => ?_
        exact SafeThen.mapError
          (safe_adoptingCall (.updateStorageClass _) validated trivial
            (by simp [Call.part?])) fun _ _ => trivial
  unfold updateOwnerRefsAndLabels
  refine (safe_adoptingCall .now validated trivial (by simp [Call.part?])).andThen fun now _ => ?_
  refine (safe_adoptLocalDisks validated name fun ld member =>
    List.mem_map_of_mem member).andThen fun _ _ => ?_
  exact (filesystem _).andThen fun _ _ => storageClass _

/-- The migration finds no claim, and goes on with one that says that everything is
migrated. -/
theorem ensures_createOrGetFilesystemClaim_races
    (validated : IsValidated group)
    (absent : state.claim? (migrationKey group.filesystemName) = none) :
    Ensures ((races group).contract .migration) (createOrGetFilesystemClaim group)
      (fun result final => ∀ fsc, result = .ok fsc →
        fsc.key = migrationKey group.filesystemName ∧ Migrated group final) state := by
  unfold createOrGetFilesystemClaim
  rw [ensures_bind, ensures_attempt]
  refine ensures_read_among rfl (fun _ _ => trivial) (fun before pick relied _ => ?_)
    fun before failure transient _ _ => ?_
  · have none := relied.absent absent
    simp only [Cluster.answer, none, onSuccess_ok]
    rw [if_neg (by simp [notFound]), ensures_bind]
    refine ensures_read_among rfl (fun _ _ => trivial) (fun later pick relied _ => ?_)
      fun _ _ _ _ _ _ impossible => by cases impossible
    simp only [Cluster.answer, onSuccess_ok]
    rw [ensures_bind, ensures_mapError]
    refine (ensures_createClaim_races validated (relied.absent none)).mono ?_
    rintro (failure | fsc) final created
    · exact fun _ impossible => by cases impossible
    obtain ⟨stored, bare⟩ := created fsc rfl
    simp only [Except.mapError, onSuccess_ok]
    rw [ensures_bind]
    refine ensures_read_among rfl (fun _ _ => trivial) (fun later pick relied _ => ?_)
      fun _ _ _ _ _ _ impossible => by cases impossible
    simp only [Cluster.answer, onSuccess_ok]
    rw [ensures_bind, ensures_attempt]
    refine (ensures_updateClaimStatus_races validated (relied.bare fsc stored bare)
      bare).mono ?_
    intro result last migrated claim equal
    cases equal
    exact ⟨(Registry.find?_eq_some stored).2, migrated⟩
  · simp only [onSuccess_ok]
    rw [if_pos transient.1]
    exact fun _ impossible => by cases impossible

/-- The migration follows the discipline while there is no claim. -/
theorem follows_migration
    (validated : IsValidated group)
    (absent : state.claim? (migrationKey group.filesystemName) = none) :
    (races group).Follows .migration (party group .migration) state := by
  change Ensures ((races group).contract .migration)
    ((fun _ => none) <$> migrateResourceGroup group) _ state
  have follows : Ensures ((races group).contract .migration) (migrateResourceGroup group)
      (fun result final => result = .ok () → Migrated group final) state := by
    unfold migrateResourceGroup
    rw [ensures_bind, ensures_mapError]
    refine (ensures_createOrGetFilesystemClaim_races validated absent).mono ?_
    rintro (failure | fsc) final claimed
    · exact fun impossible => by cases impossible
    obtain ⟨named, migrated⟩ := claimed fsc rfl
    have name : fsc.metadata.name = group.filesystemName :=
      congrArg NamespacedName.name named
    have event : Safe ((races group).contract .migration) (Migrated group)
        (createMigrationEvent fsc group) :=
      safe_adoptingCall (.createEvent _ _) validated trivial (by simp [Call.part?])
    have updates : Safe ((races group).contract .migration) (Migrated group)
        ((updateOwnerRefsAndLabels fsc group).mapError
          (Failure.wrap "failed to update ownerRefs and labels: ")) :=
      SafeThen.mapError (safe_updateOwnerRefsAndLabels validated name) fun _ _ => trivial
    have rest := updates.andThen fun _ _ => event.attempt fun _ _ => safe_pure ()
    exact (rest final migrated).mono fun _ _ ensured _ => ensured.2
  rw [ensures_map]
  refine follows.mono ?_
  rintro (failure | _) final migrated
  · trivial
  · exact migrated rfl

end Migration

/-! ## The migration is not disturbed -/

/-- The migration of the group has returned without an error. -/
def HasMigrated
    (current : Interleaving apiServer Party (Except Failure (Option Result))) : Prop :=
  ⟨.migration, .done (.ok none)⟩ ∈ current.tasks

/-- Before the migration there is no claim to be left alone. -/
theorem IsUnclaimed.coexists
    {group : LegacyResourceGroup} {initial : Cluster}
    (unclaimed : IsUnclaimed group initial) :
    Coexists group initial where
  claim := fun fsc stored => by
    rw [unclaimed.claim] at stored
    cases stored
  healthy := unclaimed.healthy
  names := unclaimed.names
  filesystem := unclaimed.filesystem

/-- Reports of the storage product are what everybody expects. -/
theorem ReportsHealthy.keeps
    {group : LegacyResourceGroup} {before after : Cluster}
    (reports : ReportsHealthy group before after)
    (validated : IsValidated group)
    (coexists : Coexists group before) :
    Coexists group after ∧ KeepsBare group before after := by
  have claims : ∀ key, after.claim? key = before.claim? key := fun key => by
    rw [Cluster.claim?, reports.unedited.claims, Cluster.claim?]
  have adopts : ∀ kind, List.Forall₂ (Adopts group kind)
      (before.objects kind) (after.objects kind) := fun kind =>
    (reports.unedited.objects kind).imp fun _ _ same => ⟨same.key, Or.inl same.owners⟩
  refine ⟨coexists.of_adopts validated (fun fsc stored => ?_) adopts reports.healthy,
    ⟨fun migrated => ?_, fun kind => has_of_adopts (adopts kind)⟩, ?_, fun fsc stored _ => ?_⟩
  · exact coexists.claim fsc (claims _ ▸ stored)
  · rw [Migrated, claims]
    exact migrated
  · rw [claims]
    exact id
  · rw [claims]
    exact stored

/-- However passes are interleaved with the migration of a group whose claim does not
exist before, the stored claim has the conditions of the migration once that has returned
without an error, as long as the steps disturb nobody: the status that the migration
writes is not refused, passes leave the claim alone while it has no conditions, and they
do not try to create the Filesystem. -/
theorem migration_among_passes
    {group : LegacyResourceGroup}
    (validated : IsValidated group)
    {initial : Cluster}
    (unclaimed : IsUnclaimed group initial)
    {current : Interleaving apiServer Party (Except Failure (Option Result))}
    (reached : Interleaved (party group) Party.together (ReportsHealthy group) initial
      current)
    (undisturbed : ∀ occurrence ∈ current.log,
      Undisturbed group occurrence.index occurrence.event)
    (returned : HasMigrated current) :
    Migrated group current.state := by
  have starts : ∀ index state, (races group).rely index initial state →
      (races group).invariant state →
        (races group).Follows index (party group index) state := by
    rintro (_ | r) state relied _
    · exact follows_migration validated (relied.absent unclaimed.claim)
    · exact follows_pass validated state
  have upheld : (races group).Upheld current := by
    refine Discipline.sound starts (fun before after moved coexists => ?_)
      unclaimed.coexists reached undisturbed
    have kept := moved.keeps validated coexists
    refine ⟨kept.1, fun index => ?_⟩
    cases index with
    | migration => exact kept.2
    | pass r => exact kept.2.toKeepsMigrated
  obtain ⟨position, found⟩ := List.mem_iff_getElem?.mp returned
  exact upheld.tasks position _ found

/-! ## Runs on a cluster of v1.0 -/

/-- A group that is migrated is valid. -/
theorem isValidated_validGroup
    {base : Cluster} {name : String}
    (inUse : legacyDisks base name ≠ [])
    (migrated : migrates base name = true) :
    IsValidated (validGroup base name) where
  checked := (checkResourceGroup_eq_none inUse).mpr migrated
  named := fun _ stored => (Registry.find?_eq_some stored).2

/-- The turns of the migration of a cluster of v1.0 and passes on the claim. -/
def auditedRun (turns : List (Turn apiServer Party)) :
    Interleaving apiServer Party (Except Failure (Option Result)) :=
  interleave (party (validGroup auditedCluster "fs")) auditedCluster turns

theorem isValidated_auditedCluster : IsValidated (validGroup auditedCluster "fs") :=
  isValidated_validGroup (by decide) (by decide)

theorem isUnclaimed_auditedCluster :
    IsUnclaimed (validGroup auditedCluster "fs") auditedCluster where
  claim := by decide
  healthy := by
    have healthy : ∀ kind, ∀ object ∈ auditedCluster.objects kind,
        checkResourceHealthy object (requirements kind) ["fs"] = none := by
      rintro (_ | _) <;> decide
    exact fun kind object listed _ => healthy kind object listed
  names := by decide
  filesystem := by
    have unowned : ∀ fs ∈ auditedCluster.objects .filesystem,
        isOwnedByThisFSC fs "fs" = false := by decide
    intro fs listed belongs
    have owned : isOwnedByThisFSC fs "fs" = true := belongs.2
    rw [unowned fs listed] at owned
    cases owned

/-- The migration and one pass after the other. -/
theorem interleaved_auditedRun
    (turns : List (Turn apiServer Party))
    (together : (turns.filterMap Turn.launched?).Pairwise fun first second =>
      first.together second ∧ second.together first)
    (still : ∀ turn ∈ turns, ∀ change, turn ≠ .move change) :
    Interleaved (party (validGroup auditedCluster "fs")) Party.together
      (ReportsHealthy (validGroup auditedCluster "fs")) auditedCluster (auditedRun turns) :=
  interleaved_of_together _ _ turns together still

/-- The status of a condition that the claim reports. -/
def reportedStatus (state : Cluster) (conditionType : ConditionType) :
    Option ConditionStatus :=
  (state.claim? (migrationKey "fs")).bind fun fsc =>
    (findStatusCondition fsc.conditions conditionType).map Condition.status

theorem reportedStatus_of_migrated
    {state : Cluster} {conditionType : ConditionType}
    (migrated : Migrated (validGroup auditedCluster "fs") state)
    (member : conditionType ∈ migratedTypes) :
    reportedStatus state conditionType = some .isTrue := by
  obtain ⟨fsc, stored, conditions⟩ := migrated
  obtain ⟨condition, found, status, _⟩ := conditions conditionType member
  have isStored : state.claim? (migrationKey "fs") = some fsc := stored
  simp [reportedStatus, isStored, found, status]

instance (current : Interleaving apiServer Party (Except Failure (Option Result))) :
    Decidable (HasMigrated current) :=
  decidable_of_iff
    (current.tasks.any fun task =>
      match task with
      | ⟨.migration, .done (.ok none)⟩ => true
      | _ => false) (by
    rw [HasMigrated, List.any_eq_true]
    constructor
    · rintro ⟨task, member, returned⟩
      split at returned
      · exact member
      · cases returned
    · exact fun member => ⟨_, member, rfl⟩)

/-- A pass comes once the status is written, and adds the finalizer. -/
def passAfterStatus : List (Turn apiServer Party) :=
  .launch .migration :: List.replicate 5 (.step 0 {}) ++
    .launch (.pass {}) :: List.replicate 3 (.step 1 {}) ++ List.replicate 5 (.step 0 {})

/-- The migration keeps its conditions then. -/
theorem migration_among_passes_afterStatus :
    Migrated (validGroup auditedCluster "fs") (auditedRun passAfterStatus).state :=
  migration_among_passes isValidated_auditedCluster isUnclaimed_auditedCluster
    (interleaved_auditedRun passAfterStatus (by decide) (by simp [passAfterStatus]))
    (by decide) (by decide)

/-- A pass adds the finalizer between the creation of the claim and its status. -/
def passBeforeStatus : List (Turn apiServer Party) :=
  .launch .migration :: List.replicate 3 (.step 0 {}) ++
    .launch (.pass {}) :: List.replicate 3 (.step 1 {}) ++ List.replicate 7 (.step 0 {})

/-- A second pass looks for the Filesystem between the adoption of the LocalDisks and
that of the Filesystem. -/
def passBeforeFilesystem : List (Turn apiServer Party) :=
  .launch .migration :: List.replicate 7 (.step 0 {}) ++
    .launch (.pass {}) :: List.replicate 3 (.step 1 {}) ++
      .launch (.pass {}) :: List.replicate 10 (.step 2 {}) ++ List.replicate 3 (.step 0 {})

/-- The status write of the migration is refused, without any pass. -/
def refusedStatus : List (Turn apiServer Party) :=
  .launch .migration :: List.replicate 4 (.step 0 {}) ++
    .step 0 { fault := .refused .unspecified "etcd is unavailable" } ::
      List.replicate 5 (.step 0 {})

/-- Each of the three conditions is needed. -/
theorem not_migrated_of_disturbed :
    ∀ turns ∈ [passBeforeStatus, passBeforeFilesystem, refusedStatus],
      HasMigrated (auditedRun turns) ∧
        ¬Migrated (validGroup auditedCluster "fs") (auditedRun turns).state := by
  have lost : ∀ turns ∈ [passBeforeStatus, passBeforeFilesystem, refusedStatus],
      HasMigrated (auditedRun turns) ∧
        reportedStatus (auditedRun turns).state .fileSystemCreated ≠ some .isTrue := by
    decide
  exact fun turns member => ⟨(lost turns member).1, fun migrated =>
    (lost turns member).2 (reportedStatus_of_migrated migrated (by simp [migratedTypes]))⟩

/-- The claim of a migration that has returned without an error need not have its
conditions. -/
theorem migration_loses_status :
    ¬ ∀ {group : LegacyResourceGroup} {initial : Cluster}
      {current : Interleaving apiServer Party (Except Failure (Option Result))},
      IsValidated group → IsUnclaimed group initial →
      Interleaved (party group) Party.together (ReportsHealthy group) initial current →
      HasMigrated current → Migrated group current.state := by
  intro keeps
  obtain ⟨returned, lost⟩ := not_migrated_of_disturbed passBeforeStatus (by simp)
  exact lost (keeps isValidated_auditedCluster isUnclaimed_auditedCluster
    (interleaved_auditedRun passBeforeStatus (by decide) (by simp [passBeforeStatus]))
    returned)

end FusionAccess
