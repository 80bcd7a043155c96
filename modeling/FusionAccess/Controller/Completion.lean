import FusionAccess.Controller.Provisioned

/-!
# Provisioning completes

A pass in which no call fails takes a claim that can be provisioned past its next
milestone when the children of the claim are healthy, and never further back. There
are ten milestones, so after ten such passes the claim is ready, however many passes
have found it waiting for its children in between.
-/

namespace FusionAccess

open Kubernetes Interaction Fallible

/-! ## The steps of a pass -/

/-- The claim can still be provisioned, and is nearer to its end if its children were
healthy. -/
def Proceeds
    (names : List String) (cluster : Cluster) (fsc : FileSystemClaim)
    (final : Cluster) : Prop :=
  ∃ cur, cur.key = fsc.key ∧ Provisionable names final cur ∧ Nears cluster final fsc cur

/-- A step lets the pass go on from the same state with a fact it has found, or has
made the claim proceed. -/
def ProceedsOr
    (names : List String) (cluster : Cluster) (fsc : FileSystemClaim) (fact : Prop) :
    Except Failure Bool → Cluster → Prop :=
  orElse (fun state => state = cluster ∧ fact) fun _ final =>
    Proceeds names cluster fsc final

section Steps

variable {names : List String} {cluster : Cluster} {fsc : FileSystemClaim}
  {nodeName : String}

/-- The only failures of a pass in which no call fails are those it reports. -/
theorem never_of_drawing {Q : Prop} (fails : FailsReads (drawing cluster nodeName)) : Q :=
  absurd fails not_failsReads_drawing

theorem proceeds_recordValidation
    (able : Provisionable names cluster fsc)
    (coherent : Coherent fsc.conditions)
    (finalized : hasFinalizer fsc = true)
    (invalid : isConditionTrue fsc .deviceValidated = false)
    {fact : Prop} :
    Ensures (drawing cluster nodeName) (recordValidation fsc)
      (ProceedsOr names cluster fsc fact) cluster := by
  rw [ensures_bind, ensures_attempt]
  refine (ensures_validateDevices admitsReads_drawing fsc).mono ?_
  rintro (failure | _) final ⟨rfl, checked⟩
  · rcases checked with faulty | fails
    · exact never_of_drawing faulty
    · rw [able.named.validates] at fails
      cases fails
  rw [onSuccess_ok, ensures_bind]
  refine ensures_updateCondition (fun kept => ?_) fun changes => ?_
  · rw [coherent.isConditionTrue_of_kept kept] at invalid
    cases invalid
  refine ensures_reportCondition_drawing able.stored changes fun later patched after => ?_
  refine ⟨patched, after.key, able.retains after.retains ?_,
    nears_of_milestone 1 after.take_milestones ?_ fun _ => ⟨?_, ?_⟩⟩
  · exact able.localDisks.imp (fun lacks => lacks.reported after (by simp)) fun owns =>
      owns.of_same after.key after.devices (after.objects .localDisk)
  · simp [milestones, invalid]
  · simp [milestones, after.isTrue]
  · simp [milestones, finalized]

/-- Once the loop has created the LocalDisks of all devices, the claim owns them. -/
theorem Making.proceeds
    {final : Cluster}
    (making : Making cluster fsc names fsc.devices final)
    (able : Provisionable names cluster fsc)
    (lacks : LacksLocalDisks cluster fsc names)
    (finalized : hasFinalizer fsc = true)
    (validated : isConditionTrue fsc .deviceValidated = true) :
    Proceeds names cluster fsc final := by
  obtain ⟨cur, retains, finalizedNow, validatedNow⟩ := making.claim
  obtain ⟨devicePath, devices, _, _, listed, _⟩ := able.named.exists_first
  have owned : ownedBy final cur .localDisk = ownedBy final fsc .localDisk :=
    ownedBy_of_key_eq retains.key final .localDisk
  have some : ownedBy final fsc .localDisk ≠ [] := by
    intro none
    have made := making.devices
    rw [devicesOf, none, listed] at made
    cases made
  have devicesNow : devicesMatch final cur = true := by
    have paths : fsc.devices.filter (· ≠ "") = fsc.devices := by
      refine List.filter_eq_self.mpr fun devicePath member => ?_
      simpa using ne_of_mem_of_not_mem member able.named.paths
    rw [devicesMatch, owned, retains.devices, decide_eq_true_eq, ownedDevices, ← devicesOf,
      making.devices, paths]
  have first : ∀ name ∈ names.head?, isThere final cur name = true := by
    intro name isFirst
    rw [isThere, show cur.metadata.ns = fsc.metadata.ns from
      congrArg NamespacedName.ns retains.key, ← isThere, making.there]
    exact Or.inr (List.mem_of_mem_head? isFirst)
  refine ⟨cur, retains.key, able.retains retains
    (Or.inr ⟨owned ▸ some, devicesNow, first⟩), nears_of_milestone 2 ?_ ?_ fun _ => ⟨?_, ?_⟩⟩
  · simp [milestones, finalizedNow, validatedNow]
  · simp [milestones, lacks.none]
  · simp [milestones, owned, some]
  · simp [milestones, finalized, validated]

/-- `ensureLocalDisks` goes on when the claim owns its LocalDisks. -/
theorem proceeds_ensureLocalDisks
    (able : Provisionable names cluster fsc)
    (coherent : Coherent fsc.conditions)
    (finalized : hasFinalizer fsc = true) :
    Ensures (drawing cluster nodeName) (ensureLocalDisks fsc)
      (ProceedsOr names cluster fsc
        (HasLocalDisks cluster fsc ∧ OwnsLocalDisks cluster fsc names)) cluster := by
  have mentions : ∀ condition, findStatusCondition fsc.conditions .localDiskCreated =
      some condition → mentionsLocalDisks condition.status condition.reason = true →
        isConditionTrue fsc .deviceValidated = true := by
    intro condition found mentions
    rw [← recordsTrue_iff coherent.distinct]
    exact coherent.validated condition found mentions
  have goesOn : isConditionTrue fsc .deviceValidated = true →
      OwnsLocalDisks cluster fsc names → ProceedsOr names cluster fsc
        (HasLocalDisks cluster fsc ∧ OwnsLocalDisks cluster fsc names) (.ok false)
        cluster :=
    fun validated owns => ⟨rfl, ⟨coherent, finalized, validated, owns.some⟩, owns⟩
  refine ensures_ensureLocalDisks_exits admitsReads_drawing never_of_drawing
    (fun created _ => ?_) (fun created different => ?_) (fun _ awaits => ?_)
    (fun _ _ invalid => proceeds_recordValidation able coherent finalized invalid)
    fun notCreated notAwaiting validated => ⟨fun nodeless => ?_, fun drawn node draws => ?_⟩
  · obtain ⟨condition, found, status⟩ := find?_of_isConditionTrue coherent.distinct created
    refine goesOn (mentions condition found (by simp [mentionsLocalDisks, status]))
      (able.localDisks.resolve_left fun lacks => ?_)
    rw [lacks.notCreated] at created
    cases created
  · rcases able.localDisks with lacks | owns
    · rw [lacks.notCreated] at created
      cases created
    · rw [owns.devices] at different
      cases different
  · refine goesOn ?_ (able.localDisks.resolve_left fun lacks => ?_)
    · unfold awaitsLocalDisks hasConditionWithReason at awaits
      cases found : findStatusCondition fsc.conditions .localDiskCreated with
      | none => simp [found] at awaits
      | some condition =>
          rw [found, decide_eq_true_eq] at awaits
          exact mentions condition found (by simp [mentionsLocalDisks, awaits])
    · rw [lacks.notAwaiting] at awaits
      cases awaits
  · exact (nodeless.resolve_right not_failsReads_drawing |> able.named.nodes).elim
  obtain ⟨bound, choice, relied, rfl⟩ := draws
  rw [relied.2 bound rfl] at node ⊢
  rcases able.localDisks with lacks | owns
  · refine (ensures_createLocalDisks_all notAwaiting (able.named.named nodeName node)
      (by simpa using able.named.distinct) lacks.free
      (making_start able.stored lacks.none)).mono ?_
    rintro result final ⟨rfl, making⟩
    obtain ⟨devicePath, devices, _, _, listed, _⟩ := able.named.exists_first
    rw [listed]
    exact making.proceeds able lacks finalized validated
  · have ends := owns.creationEnds able.named node
    obtain ⟨devicePath, devices, name, _, listed, _, isName⟩ := able.named.exists_first
    rw [creationEnds, listed] at ends
    rw [listed]
    refine ensures_createLocalDisks_cons admitsReads_drawing never_of_drawing
      (fun unknown => ?_) (fun _ _ _ => goesOn validated owns) fun other isOther missing => ?_
    · rcases unknown with nameless | faulty
      · rw [isName nodeName node] at nameless
        cases nameless
      · exact never_of_drawing faulty
    · simp [isOther, missing] at ends

/-- `syncLocalDiskConditions` goes on when the condition is recorded. -/
theorem proceeds_syncLocalDiskConditions
    (able : Provisionable names cluster fsc)
    (owns : OwnsLocalDisks cluster fsc names)
    (found : HasLocalDisks cluster fsc) :
    Ensures (drawing cluster nodeName) (syncLocalDiskConditions fsc)
      (ProceedsOr names cluster fsc (KeepsLocalDisks cluster fsc)) cluster := by
  refine ensures_syncLocalDiskConditions_exits admitsReads_drawing never_of_drawing ?_
  rintro users (rfl | ⟨faulty, _⟩)
  rotate_left
  · exact never_of_drawing faulty
  refine ⟨fun kept => ⟨rfl, found, kept⟩, fun changes => ?_⟩
  refine ensures_reportCondition_drawing able.stored (Bool.or_eq_false_iff.mp changes).2
    fun later patched after => ⟨patched, after.key, able.reported owns after,
      nears_of_milestone 3 after.take_milestones ?_ fun healthy => ⟨?_, found.reached⟩⟩
  · simp [milestones, localDisksDone, changes]
  · have kept : keepsLocalDiskCondition later patched (ownFilesystems later patched) =
        true := by
      rw [keepsLocalDiskCondition, after.ownFilesystems, after.wantedLocalDiskCondition,
        after.keeps, Bool.or_true]
    simp [milestones, localDisksDone, after.unhealthyLocalDisk,
      unhealthyLocalDisk_of_healthy healthy, kept]

/-! ### The Filesystem -/

/-- The creation of the Filesystem is the fifth milestone. -/
theorem nears_of_createdFilesystem
    {later : Cluster} {cur : FileSystemClaim}
    (found : KeepsLocalDisks cluster fsc)
    (none : ownedBy cluster fsc .filesystem = [])
    (some : ownedBy later cur .filesystem ≠ [])
    (same : (milestones later cur).take 4 = (milestones cluster fsc).take 4) :
    Nears cluster later fsc cur := by
  refine nears_of_milestone 4 same ?_ fun healthy => ⟨?_, found.reached healthy⟩
  · simp [milestones, none]
  · simp [milestones, some]

theorem proceeds_createFilesystem
    (able : Provisionable names cluster fsc)
    (owns : OwnsLocalDisks cluster fsc names)
    (found : KeepsLocalDisks cluster fsc)
    (none : ownedBy cluster fsc .filesystem = [])
    (spec : Value) {fact : Prop} :
    Ensures (drawing cluster nodeName) (createFilesystem fsc spec)
      (ProceedsOr names cluster fsc fact) cluster := by
  have free := able.free none
  have owned := ownedBy_create free spec
  rw [none, List.nil_append] at owned
  generalize state_eq : cluster.afterCall (.create .filesystem
    (ownedObject fsc fsc.metadata.name spec)) = state at owned
  have localDisks : state.objects .localDisk = cluster.objects .localDisk := by
    rw [← state_eq, cluster.objects_afterCall (by simp [Call.part?])]
  have ownedDisks : ownedBy state fsc .localDisk = ownedBy cluster fsc .localDisk := by
    rw [ownedBy, localDisks, ownedBy]
  have stored : state.claim? fsc.key = some fsc := by
    rw [← state_eq, cluster.claim?_afterCall (by simp [Call.part?]), able.stored]
  have kept := keepsLocalDiskCondition_of_filesystem none owned rfl localDisks
  have sound := unhealthyLocalDisk_of_filesystem none owned rfl ownedDisks
  have same : (milestones state fsc).take 4 = (milestones cluster fsc).take 4 := by
    simp [milestones, ownedDisks, localDisksDone, kept, sound]
  have ableNow : Provisionable names state fsc := by
    refine ⟨stored, able.live, able.named.of_same rfl ?_, Or.inr ?_, ?_, ?_⟩
    · exact state_eq ▸ cluster.sameSurroundings_afterCall _
    · exact owns.of_same rfl rfl localDisks
    · rw [owned]
      exact Nat.le_refl 1
    · simp [owned]
  rw [ensures_bind, ensures_attempt]
  refine ensures_createResourceWithOwnership_free not_mayFail_drawing free trivial ?_
  rw [state_eq, onSuccess_ok, ensures_bind]
  refine ensures_updateCondition (fun _ => ?_) fun changes =>
    ensures_reportCondition_drawing stored changes fun later patched after => ?_
  · exact ⟨fsc, rfl, ableNow, nears_of_createdFilesystem found none (by simp [owned]) same⟩
  · have earlier := @Reported.take_milestones_of_le _ _ _ _ _ _ _ _ 4 after (by decide)
    exact ⟨patched, after.key, ableNow.reported (owns.of_same rfl rfl localDisks) after,
      nears_of_createdFilesystem found none (by simp [after.ownedBy, owned])
        (earlier.trans same)⟩

theorem proceeds_patchFilesystem
    (able : Provisionable names cluster fsc)
    (owns : OwnsLocalDisks cluster fsc names)
    (found : KeepsLocalDisks cluster fsc)
    {fs : Unstructured}
    (owned : ownedBy cluster fsc .filesystem = [fs])
    (drifted : fs.spec ≠ some (wantedFilesystemSpec cluster fsc))
    {fact : Prop} :
    Ensures (drawing cluster nodeName)
      (patchFilesystem fs (wantedFilesystemSpec cluster fsc))
      (ProceedsOr names cluster fsc fact) cluster := by
  have member : fs ∈ cluster.objects .filesystem := by
    have listed : fs ∈ ownedBy cluster fsc .filesystem := by simp [owned]
    exact List.mem_of_mem_filter (List.mem_of_mem_filter listed)
  obtain ⟨current, isStored⟩ : ∃ current, cluster.object? .filesystem fs.key =
      some current := Option.isSome_iff_exists.mp (Registry.find?_isSome_of_mem member)
  have ownedNow := ownedBy_patchSpec isStored fsc (wantedFilesystemSpec cluster fsc)
  rw [owned] at ownedNow
  generalize state_eq : cluster.afterCall (.patchSpec .filesystem fs.key
    (wantedFilesystemSpec cluster fsc)) = state at ownedNow
  have localDisks : state.objects .localDisk = cluster.objects .localDisk := by
    rw [← state_eq, cluster.objects_afterCall (by simp [Call.part?])]
  have ownedDisks : ownedBy state fsc .localDisk = ownedBy cluster fsc .localDisk := by
    rw [ownedBy, localDisks, ownedBy]
  have stored : state.claim? fsc.key = some fsc := by
    rw [← state_eq, cluster.claim?_afterCall (by simp [Call.part?]), able.stored]
  have users : ownFilesystems state fsc = ownFilesystems cluster fsc := by
    simp [ownFilesystems, ownedNow, owned, Registry.amend, Cluster.stamp]
  have done : localDisksDone state fsc = localDisksDone cluster fsc := by
    simp only [localDisksDone, unhealthyLocalDisk, keepsLocalDiskCondition,
      wantedLocalDiskCondition, ownedDisks, users]
  have isWanted : filesystemsMatch state fsc = true := by
    simp [filesystemsMatch, ownedNow, Registry.amend, wantedFilesystemSpec, ownedDisks]
  have ableNow : Provisionable names state fsc := by
    refine ⟨stored, able.live, able.named.of_same rfl ?_, Or.inr ?_, ?_, ?_⟩
    · exact state_eq ▸ cluster.sameSurroundings_afterCall _
    · exact owns.of_same rfl rfl localDisks
    · simp [ownedNow, Registry.amend]
    · simp [ownedNow, Registry.amend]
  have nears : Nears cluster state fsc fsc := by
    refine nears_of_milestone 5 ?_ ?_ fun healthy => ⟨?_, ?_⟩
    · simp [milestones, ownedDisks, done, ownedNow, owned, Registry.amend]
    · simp [milestones, filesystemsMatch, owned, drifted]
    · simp [milestones, isWanted]
    · simp [milestones, found.finalized, found.validated, found.some, found.done healthy,
        owned]
  have answered : ∀ pick, (cluster.answer pick (.patchSpec .filesystem fs.key
      (wantedFilesystemSpec cluster fsc))).2 = .ok () := by
    intro pick
    simp only [Cluster.answer, Cluster.patchSpec, isStored]
  rw [ensures_bind, ensures_mapError]
  refine ensures_request trivial (fun pick => ?_)
    (fun _ _ mayFail => absurd mayFail (not_mayFail_drawing _))
    fun _ _ mayFail => absurd mayFail (not_mayFail_drawing _)
  rw [answered, state_eq]
  exact ⟨fsc, rfl, ableNow, nears⟩

/-- `ensureFileSystem` goes on when the Filesystem is as it should be. -/
theorem proceeds_ensureFileSystem
    (able : Provisionable names cluster fsc)
    (owns : OwnsLocalDisks cluster fsc names)
    (found : KeepsLocalDisks cluster fsc) :
    Ensures (drawing cluster nodeName) (ensureFileSystem fsc)
      (ProceedsOr names cluster fsc (HasFilesystem cluster fsc)) cluster := by
  refine ensures_ensureFileSystem_exits admitsReads_drawing never_of_drawing
    (fun skipped => ⟨rfl, found, ?_⟩)
    (fun _ _ none => proceeds_createFilesystem able owns found none _)
    (fun fs _ _ owned => ⟨fun same => ⟨rfl, found, ?_⟩, fun drifted =>
      proceeds_patchFilesystem able owns found owned drifted⟩)
    fun _ _ several => absurd able.one (Nat.not_le_of_gt several)
  · rcases skipped with notCreated | none
    · simp [filesystemGoesOn, notCreated]
    · exact absurd none owns.some
  · simp [filesystemGoesOn, owned, same]

/-- `syncFilesystemConditions` goes on when the condition is recorded. -/
theorem proceeds_syncFilesystemConditions
    (able : Provisionable names cluster fsc)
    (owns : OwnsLocalDisks cluster fsc names)
    (found : HasFilesystem cluster fsc) :
    Ensures (drawing cluster nodeName) (syncFilesystemConditions fsc)
      (ProceedsOr names cluster fsc (KeepsFilesystem cluster fsc)) cluster := by
  refine ensures_syncFilesystemConditions_exits admitsReads_drawing never_of_drawing
    (fun kept => ⟨rfl, found, kept⟩) fun changes => ?_
  have differs := (Bool.or_eq_false_iff.mp changes).2
  refine ensures_reportCondition_drawing able.stored differs fun later patched after =>
    ⟨patched, after.key, able.reported owns after,
      nears_of_milestone 6 after.take_milestones ?_ fun healthy => ⟨?_, found.reached healthy⟩⟩
  · simp [milestones, filesystemDone, pendingFilesystemCondition, differs]
  · have kept : pendingFilesystemCondition later patched = false := by
      rw [pendingFilesystemCondition, after.ownedBy, after.keeps]
      rfl
    simp [milestones, filesystemDone, after.unhealthyFilesystem,
      unhealthyFilesystem_of_healthy healthy, kept]

/-! ### The StorageClass -/

/-- The StorageClass has been written as it should be, and nothing else. -/
structure WritesStorageClass
    (cluster state : Cluster) (fsc : FileSystemClaim) : Prop where
  stored : state.claim? fsc.key = some fsc
  objects : ∀ kind, state.objects kind = cluster.objects kind
  surroundings : Cluster.SameSurroundings cluster state
  differed : storageClassMatches cluster fsc = false
  same : storageClassMatches state fsc = true

section StorageClass

variable {state : Cluster}

theorem writesStorageClass_create
    (stored : cluster.claim? fsc.key = some fsc)
    (none : cluster.storageClass? fsc.metadata.name = none) :
    WritesStorageClass cluster
      (cluster.afterCall (.createStorageClass (wantedStorageClass fsc))) fsc where
  stored := by rw [cluster.claim?_afterCall (by simp [Call.part?]), stored]
  objects := fun kind => cluster.objects_afterCall (by simp [Call.part?])
  surroundings := cluster.sameSurroundings_afterCall _
  differed := by rw [storageClassMatches, none, Option.any_none]
  same := by
    have free : cluster.storageClass? (wantedStorageClass fsc).name = .none := none
    have created := cluster.storageClass?_createStorageClass free
    rw [storageClassMatches, show fsc.metadata.name = (wantedStorageClass fsc).name from rfl,
      created, Option.any_some]
    exact sameRelevantFields_created _ _ rfl rfl

theorem writesStorageClass_patch
    {current : StorageClass}
    (stored : cluster.claim? fsc.key = some fsc)
    (found : cluster.storageClass? fsc.metadata.name = some current)
    (drifted : sameRelevantFields current (wantedStorageClass fsc) = false) :
    WritesStorageClass cluster (cluster.afterCall (.patchStorageClass
      (withRelevantFields current (wantedStorageClass fsc)))) fsc where
  stored := by rw [cluster.claim?_afterCall (by simp [Call.part?]), stored]
  objects := fun kind => cluster.objects_afterCall (by simp [Call.part?])
  surroundings := cluster.sameSurroundings_afterCall _
  differed := by rw [storageClassMatches, found, Option.any_some, drifted]
  same := by
    have named : (withRelevantFields current (wantedStorageClass fsc)).name =
        fsc.metadata.name := (Registry.find?_eq_some found).2
    have patched := cluster.storageClass?_patchStorageClass (named ▸ found)
    rw [storageClassMatches, ← named, patched, Option.any_some]
    exact sameRelevantFields_created _ _ rfl rfl

theorem WritesStorageClass.take_milestones (writes : WritesStorageClass cluster state fsc) :
    (milestones state fsc).take 7 = (milestones cluster fsc).take 7 := by
  have localDisks : ownedBy state fsc .localDisk = ownedBy cluster fsc .localDisk := by
    rw [ownedBy, writes.objects, ownedBy]
  have filesystems : ownedBy state fsc .filesystem = ownedBy cluster fsc .filesystem := by
    rw [ownedBy, writes.objects, ownedBy]
  have users : ownFilesystems state fsc = ownFilesystems cluster fsc := by
    rw [ownFilesystems, filesystems, ownFilesystems]
  have done : localDisksDone state fsc = localDisksDone cluster fsc := by
    simp only [localDisksDone, unhealthyLocalDisk, keepsLocalDiskCondition,
      wantedLocalDiskCondition, localDisks, users]
  have isMatch : filesystemsMatch state fsc = filesystemsMatch cluster fsc := by
    rw [filesystemsMatch, wantedFilesystemSpec, filesystems, localDisks, filesystemsMatch,
      wantedFilesystemSpec]
  have filed : filesystemDone state fsc = filesystemDone cluster fsc := by
    simp only [filesystemDone, unhealthyFilesystem, pendingFilesystemCondition, filesystems]
  simp only [milestones, localDisks, filesystems, done, isMatch, filed,
    List.take_succ_cons, List.take_zero]

theorem WritesStorageClass.provisionable
    (writes : WritesStorageClass cluster state fsc)
    (able : Provisionable names cluster fsc)
    (owns : OwnsLocalDisks cluster fsc names) :
    Provisionable names state fsc :=
  able.retains
    ⟨writes.stored, rfl, rfl, rfl, writes.objects .filesystem, writes.surroundings⟩
    (Or.inr (owns.of_same rfl rfl (writes.objects .localDisk)))

/-- The StorageClass is the eighth milestone. -/
theorem WritesStorageClass.nears
    {later : Cluster} {cur : FileSystemClaim}
    (writes : WritesStorageClass cluster state fsc)
    (found : KeepsFilesystem cluster fsc)
    (same : (milestones later cur).take 8 = (milestones state fsc).take 8) :
    Nears cluster later fsc cur := by
  have earlier := congrArg (List.take 7) same
  rw [List.take_take, List.take_take] at earlier
  have classed : (milestones later cur)[7]? = (milestones state fsc)[7]? := by
    have last := congrArg (fun list => list[7]?) same
    simpa [List.getElem?_take] using last
  refine nears_of_milestone 7 (earlier.trans writes.take_milestones) ?_ fun healthy =>
    ⟨?_, found.reached healthy⟩
  · simp [milestones, writes.differed]
  · rw [classed]
    simp [milestones, writes.same]

/-- Reports about the StorageClass or about `Ready` that follow make no difference. -/
theorem WritesStorageClass.proceeds_report
    {conditionType : ConditionType} {status : ConditionStatus} {reason : Reason}
    {message : String} {later : Cluster} {patched : FileSystemClaim}
    (writes : WritesStorageClass cluster state fsc)
    (able : Provisionable names cluster fsc)
    (owns : OwnsLocalDisks cluster fsc names)
    (found : KeepsFilesystem cluster fsc)
    (after : Reported conditionType status reason message state later fsc patched)
    (behind : 8 ≤ milestoneOf conditionType) :
    Proceeds names cluster fsc later :=
  ⟨patched, after.key, (writes.provisionable able owns).reported
      (owns.of_same rfl rfl (writes.objects .localDisk)) after,
    writes.nears found (after.take_milestones_of_le behind)⟩

theorem WritesStorageClass.proceeds
    (writes : WritesStorageClass cluster state fsc)
    (able : Provisionable names cluster fsc)
    (owns : OwnsLocalDisks cluster fsc names)
    (found : KeepsFilesystem cluster fsc) :
    Proceeds names cluster fsc state :=
  ⟨fsc, rfl, writes.provisionable able owns, writes.nears found rfl⟩

end StorageClass

/-- What follows the StorageClass makes the claim proceed. -/
abbrev ThenReady
    (names : List String) (start : Cluster) (fsc : FileSystemClaim) (nodeName : String) :
    Except Failure Bool → Cluster → Prop :=
  orElse (Ensures (drawing start nodeName) (syncFSCReady fsc)
      fun _ final => Proceeds names start fsc final)
    fun _ final => Proceeds names start fsc final

theorem proceeds_createStorageClass
    (able : Provisionable names cluster fsc)
    (owns : OwnsLocalDisks cluster fsc names)
    (found : KeepsFilesystem cluster fsc)
    (none : cluster.storageClass? fsc.metadata.name = none) :
    Ensures (drawing cluster nodeName) (createStorageClass fsc)
      (ThenReady names cluster fsc nodeName) cluster := by
  have writes := writesStorageClass_create able.stored none
  generalize state_eq :
    cluster.afterCall (.createStorageClass (wantedStorageClass fsc)) = state at writes
  have answered : ∀ pick, (cluster.answer pick (.createStorageClass
      (wantedStorageClass fsc))).2 = .ok () := by
    intro pick
    have free : cluster.storageClass? (wantedStorageClass fsc).name = .none := none
    simp only [Cluster.answer, Cluster.createStorageClass, free]
  rw [ensures_bind, ensures_attempt]
  refine ensures_request trivial (fun pick => ?_)
    (fun _ _ mayFail => absurd mayFail (not_mayFail_drawing _))
    fun _ _ mayFail => absurd mayFail (not_mayFail_drawing _)
  rw [answered, onSuccess_ok, state_eq]
  refine ensures_updateCondition (fun _ => ?_) fun changes =>
    ensures_reportCondition_drawing writes.stored changes fun later patched after =>
      writes.proceeds_report able owns found after (by decide)
  exact ensures_syncFSCReady_exits (fun _ => writes.proceeds able owns found) fun changes =>
    ensures_reportCondition_drawing writes.stored (keepsReady_eq fsc ▸ changes)
      fun later patched after => writes.proceeds_report able owns found after (by decide)

theorem proceeds_repairStorageClass
    (able : Provisionable names cluster fsc)
    (owns : OwnsLocalDisks cluster fsc names)
    (found : KeepsFilesystem cluster fsc)
    {current : StorageClass}
    (isCurrent : cluster.storageClass? fsc.metadata.name = some current)
    (drifted : sameRelevantFields current (wantedStorageClass fsc) = false) :
    Ensures (drawing cluster nodeName) (repairStorageClass fsc current)
      (ThenReady names cluster fsc nodeName) cluster := by
  have writes := writesStorageClass_patch able.stored isCurrent drifted
  generalize state_eq : cluster.afterCall (.patchStorageClass
    (withRelevantFields current (wantedStorageClass fsc))) = state at writes
  have answered : ∀ pick, (cluster.answer pick (.patchStorageClass
      (withRelevantFields current (wantedStorageClass fsc)))).2 = .ok () := by
    intro pick
    have named : (withRelevantFields current (wantedStorageClass fsc)).name =
        fsc.metadata.name := (Registry.find?_eq_some isCurrent).2
    simp only [Cluster.answer, Cluster.patchStorageClass, named, isCurrent]
  simp only [ensures_bind, ensures_mapError]
  refine ensures_request trivial (fun pick => ?_)
    (fun _ _ mayFail => absurd mayFail (not_mayFail_drawing _))
    fun _ _ mayFail => absurd mayFail (not_mayFail_drawing _)
  rw [answered, state_eq]
  simp only [Except.mapError, onSuccess_ok, ensures_bind]
  exact ensures_updateCondition (fun _ => writes.proceeds able owns found) fun changes =>
    ensures_reportCondition_drawing writes.stored changes fun later patched after =>
      writes.proceeds_report able owns found after (by decide)

/-! ### `Ready` -/

theorem proceeds_syncFSCReady
    (able : Provisionable names cluster fsc)
    (owns : OwnsLocalDisks cluster fsc names)
    (found : HasStorageClass cluster fsc) :
    Ensures (drawing cluster nodeName) (syncFSCReady fsc)
      (fun _ final => Proceeds names cluster fsc final) cluster := by
  refine ensures_syncFSCReady_exits (fun kept => ?_) fun changes => ?_
  · refine ⟨fsc, rfl, able, nears_of_reached fun healthy => ?_⟩
    have earlier := found.reached healthy
    simp only [milestones, List.take_succ_cons, List.take_zero, List.forall_mem_cons]
      at earlier ⊢
    simp [earlier, kept]
  refine ensures_reportCondition_drawing able.stored (keepsReady_eq fsc ▸ changes)
    fun later patched after => ⟨patched, after.key, able.reported owns after,
      nears_of_milestone 9 after.take_milestones ?_ fun healthy => ⟨?_, found.reached healthy⟩⟩
  · simp [milestones, changes]
  · have ready : readyNow patched = readyNow fsc := by
      simp only [readyNow, after.isConditionTrue_of_ne (show ConditionType.deviceValidated ≠
        .ready by decide), after.isConditionTrue_of_ne (show ConditionType.localDiskCreated ≠
        .ready by decide), after.isConditionTrue_of_ne (show ConditionType.fileSystemCreated ≠
        .ready by decide), after.isConditionTrue_of_ne (show
        ConditionType.storageClassCreated ≠ .ready by decide)]
    have wanted : wantedReady patched = wantedReady fsc := by
      rw [wantedReady, ready, wantedReady]
    have kept : keepsReady patched = true := by
      rw [keepsReady_eq, wanted, after.keeps]
    simp [milestones, kept]

theorem proceeds_ensureStorageClass
    (able : Provisionable names cluster fsc)
    (owns : OwnsLocalDisks cluster fsc names)
    (found : KeepsFilesystem cluster fsc) :
    Ensures (drawing cluster nodeName) (ensureStorageClass fsc)
      (ThenReady names cluster fsc nodeName) cluster := by
  have ready : storageClassGoesOn cluster fsc = true →
      ThenReady names cluster fsc nodeName (.ok false) cluster :=
    fun classed => proceeds_syncFSCReady able owns ⟨found, classed⟩
  refine ensures_ensureStorageClass_exits admitsReads_drawing never_of_drawing
    (fun notCreated => ready (by simp [storageClassGoesOn, notCreated]))
    (fun _ none => proceeds_createStorageClass able owns found none)
    (fun current _ isCurrent same => ⟨fun kept => ready ?_, fun changes => ?_⟩)
    fun current _ isCurrent drifted =>
      proceeds_repairStorageClass able owns found isCurrent drifted
  · simp [storageClassGoesOn, isCurrent, same, kept]
  have classed : storageClassMatches cluster fsc = true := by
    rw [storageClassMatches, isCurrent, Option.any_some, same]
  refine ensures_reportCondition_drawing able.stored changes fun later patched after =>
    ⟨patched, after.key, able.reported owns after,
      nears_of_milestone 8 after.take_milestones ?_ fun healthy => ⟨?_, ?_⟩⟩
  · simp [milestones, changes]
  · have kept : keepsStorageClassCondition patched "StorageClass present" = true :=
      after.keeps
    simp [milestones, kept]
  · have earlier := found.reached healthy
    simp only [milestones, List.take_succ_cons, List.take_zero, List.forall_mem_cons]
      at earlier ⊢
    simp [earlier, classed]

end Steps

/-! ## The pass -/

section Pass

variable {names : List String} {cluster : Cluster} {fsc : FileSystemClaim}
  {nodeName : String}

/-- A step that lets the pass go on is followed by the next one. -/
theorem ProceedsOr.andThen
    {fact : Prop} {next : Cluster → Prop}
    {post : Except Failure Bool → Cluster → Prop}
    {result : Except Failure Bool} {final : Cluster}
    (either : ProceedsOr names cluster fsc fact result final)
    (continues : fact → next cluster)
    (ends : ∀ result final, result ≠ .ok false → Proceeds names cluster fsc final →
      post result final) :
    orElse next post result final := by
  rcases result with failure | _ | _
  · exact ends _ _ (by simp) either
  · obtain ⟨rfl, holds⟩ := either
    exact continues holds
  · exact ends _ _ (by simp) either

theorem proceeds_provision
    (able : Provisionable names cluster fsc)
    (coherent : Coherent fsc.conditions)
    (finalized : hasFinalizer fsc = true) :
    Ensures (drawing cluster nodeName) (provision fsc)
      (ThenReady names cluster fsc nodeName) cluster := by
  have ends : ∀ (result : Except Failure Bool) (final : Cluster), result ≠ .ok false →
      Proceeds names cluster fsc final → ThenReady names cluster fsc nodeName result final := by
    rintro (failure | _ | _) final different proceeds
    · exact proceeds
    · exact absurd rfl different
    · exact proceeds
  refine ensures_provision_orElse ((proceeds_ensureLocalDisks able coherent finalized).mono
    fun _ _ either => either.andThen (fun found => ?_) ends)
  obtain ⟨has, owns⟩ := found
  exact (proceeds_syncLocalDiskConditions able owns has).mono fun _ _ either =>
    either.andThen (fun kept => (proceeds_ensureFileSystem able owns kept).mono
      fun _ _ either => either.andThen (fun filed =>
        (proceeds_syncFilesystemConditions able owns filed).mono fun _ _ either =>
          either.andThen (fun recorded => proceeds_ensureStorageClass able owns recorded)
            ends) ends) ends

/-- The finalizer is the first milestone. -/
theorem proceeds_addFinalizer
    (able : Provisionable names cluster fsc)
    (unfinalized : hasFinalizer fsc = false) :
    Proceeds names cluster fsc (cluster.afterCall (.patchClaimFinalizers fsc.key
      fsc.metadata.finalizers (addFinalizer fsc).metadata.finalizers)) := by
  have different : fsc.metadata.finalizers ≠ (addFinalizer fsc).metadata.finalizers := by
    rw [addFinalizer, if_neg (by simp [unfinalized])]
    simp
  have after := Cluster.claim?_patchClaimFinalizers_of_different able.stored different
  have stays : fsc.metadata.deletionTimestamp.isSome = false := able.live
  rw [if_neg (by simp [stays])] at after
  generalize patched_eq : ({ fsc with metadata :=
    { cluster.stamp fsc.metadata with
      finalizers := (addFinalizer fsc).metadata.finalizers } } : FileSystemClaim) =
        patched at after
  have key : patched.key = fsc.key := patched_eq ▸ rfl
  have devices : patched.devices = fsc.devices := patched_eq ▸ rfl
  refine ⟨patched, key, able.retains ⟨after, key, devices, patched_eq ▸ rfl, ?_, ?_⟩ ?_,
    nears_of_milestone 0 rfl ?_ fun _ => ⟨?_, by simp⟩⟩
  · exact cluster.objects_afterCall (by simp [Call.part?])
  · exact cluster.sameSurroundings_afterCall _
  · have localDisks : (cluster.afterCall (.patchClaimFinalizers fsc.key
        fsc.metadata.finalizers (addFinalizer fsc).metadata.finalizers)).objects .localDisk =
          cluster.objects .localDisk := cluster.objects_afterCall (by simp [Call.part?])
    refine able.localDisks.imp (fun lacks => ?_) fun owns => owns.of_same key devices localDisks
    refine ⟨?_, fun name member => ?_, patched_eq ▸ lacks.notCreated,
      patched_eq ▸ lacks.notAwaiting⟩
    · rw [ownedBy_of_key_eq key, ownedBy, localDisks]
      exact lacks.none
    · rw [isThere, Cluster.object?, localDisks, ← patched_eq]
      exact lacks.free name member
  · simp [milestones, unfinalized]
  · have added : hasFinalizer (addFinalizer fsc) = true := by
      rw [addFinalizer, if_neg (by simp [unfinalized])]
      simp [hasFinalizer]
    simpa [milestones, hasFinalizer, ← patched_eq] using added

/-- A pass in which no call fails makes a claim proceed that can be provisioned. -/
theorem proceeds_reconcile
    (r : FileSystemClaimReconciler)
    (able : Provisionable names cluster fsc)
    (coherent : Coherent fsc.conditions) :
    Ensures (drawing cluster nodeName) (reconcile r fsc.key)
      (fun _ final => Proceeds names cluster fsc final) cluster := by
  refine ensures_reconcile admitsReads_drawing (fun missing => ?_) (fun cur found => ?_)
    fun _ _ _ fails => never_of_drawing ⟨_, _, fails⟩
  · rw [able.stored] at missing
    cases missing
  rw [able.stored] at found
  cases found
  cases finalized : hasFinalizer fsc with
  | false =>
      unfold reconcileClaim handleFinalizers
      rw [if_neg (by simp [able.live]), if_pos (by simp [finalized]), bind_assoc,
        ensures_bind]
      exact ensures_patchFSCSpec admitsReads_drawing able.stored trivial
        (proceeds_addFinalizer able finalized)
        (fun _ _ _ mayFail => absurd mayFail (not_mayFail_drawing _))
        fun _ _ _ mayFail => absurd mayFail (not_mayFail_drawing _)
  | true =>
      rw [reconcileClaim_eq_provision (by simp [able.live]) (Or.inr finalized), ensures_bind]
      refine (proceeds_provision able coherent finalized).mono ?_
      rintro (failure | _ | _) final holds
      · exact holds
      · rw [onSuccess_ok, if_neg (by simp), ensures_bind]
        refine Ensures.mono holds ?_
        rintro (failure | _ | _) last proceeds
        · exact proceeds
        · exact proceeds
        · exact proceeds
      · exact holds

end Pass

end FusionAccess
