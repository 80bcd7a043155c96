import FusionAccess.Controller.FallingRank

/-!
# Passes that lower the rank

The creation of LocalDisks leaves fewer of them missing, whatever is reported
afterwards; a teardown lowers the rank with each of its reports and with the
removal of the finalizer. Together with the other steps this makes the rank
fall with every status write of a pass that comes to no failure.
-/

namespace FusionAccess

open Kubernetes Interaction Fallible

/-! ## The creation of LocalDisks -/

section Missing

variable {cluster : Cluster} {fsc : FileSystemClaim}

/-- A name that is taken stays so when an object is created. -/
theorem object?_create_isNone
    {kind : Kind} {object : Unstructured} {key : NamespacedName}
    (free : ((cluster.afterCall (.create kind object)).object? kind key).isNone = true) :
    (cluster.object? kind key).isNone = true := by
  cases stored : cluster.object? kind object.key with
  | some other =>
      simp only [Cluster.afterCall, Cluster.answer, Cluster.create, stored] at free
      exact free
  | none =>
      unfold Cluster.object? at free ⊢
      rw [cluster.objects_create stored, Registry.find?_append, Option.isNone_or,
        Bool.and_eq_true] at free
      exact free.1

theorem missingLocalDisks_create_le
    (fsc : FileSystemClaim) (object : Unstructured) :
    missingLocalDisks (cluster.afterCall (.create .localDisk object)) fsc ≤
      missingLocalDisks cluster fsc := by
  rw [missingLocalDisks, candidateNames_of_same rfl
    (cluster.sameSurroundings_afterCall _), missingLocalDisks]
  exact List.countP_mono_left fun _ _ => object?_create_isNone

/-- The creation of a LocalDisk that is missing leaves fewer missing. -/
theorem missingLocalDisks_create_lt
    {object : Unstructured} {name : String}
    (candidate : name ∈ candidateNames cluster fsc)
    (key : object.key = ⟨fsc.metadata.ns, name⟩)
    (free : cluster.object? .localDisk ⟨fsc.metadata.ns, name⟩ = none) :
    missingLocalDisks (cluster.afterCall (.create .localDisk object)) fsc <
      missingLocalDisks cluster fsc := by
  have found : ((cluster.afterCall (.create .localDisk object)).object? .localDisk
      ⟨fsc.metadata.ns, name⟩).isNone = false := by
    unfold Cluster.object?
    rw [cluster.objects_create (key ▸ free), Registry.find?_append, Registry.find?_cons]
    rw [if_pos (show (cluster.newObject object).key = _ from key)]
    simp
  obtain ⟨earlier, later, listed⟩ := List.append_of_mem candidate
  rw [missingLocalDisks, candidateNames_of_same rfl
    (cluster.sameSurroundings_afterCall _), missingLocalDisks, listed,
    List.countP_append, List.countP_append, List.countP_cons, List.countP_cons, found, free]
  have before := List.countP_mono_left (l := earlier) fun name _ =>
    @object?_create_isNone cluster .localDisk object ⟨fsc.metadata.ns, name⟩
  have after := List.countP_mono_left (l := later) fun name _ =>
    @object?_create_isNone cluster .localDisk object ⟨fsc.metadata.ns, name⟩
  simp only [Option.isNone_none, if_true, Bool.false_eq_true, if_false]
  omega

/-- The name of a LocalDisk for a device is a candidate. -/
theorem mem_candidateNames
    {nodeName devicePath name : String}
    (node : nodeName ∈ storageNodes cluster)
    (device : devicePath ∈ fsc.devices)
    (named : localDiskName? cluster devicePath nodeName = some name) :
    name ∈ candidateNames cluster fsc :=
  List.mem_flatMap.mpr ⟨nodeName, node, List.mem_filterMap.mpr ⟨devicePath, device, named⟩⟩

end Missing

/-- Fewer LocalDisks of a claim are missing than at the start; apart from its
reports the claim is the same. -/
inductive Advanced (start : Cluster) (fsc : FileSystemClaim) (state : Cluster) : Prop
  | intro (cur : FileSystemClaim)
      (stored : state.claim? fsc.key = some cur)
      (devices : cur.devices = fsc.devices)
      (tornDown : isTornDown cur = isTornDown fsc)
      (validated : recordsValidation cur = recordsValidation fsc)
      (surroundings : Cluster.SameSurroundings start state)
      (falls : missingLocalDisks state cur < missingLocalDisks start fsc)

section Advanced

variable {start state : Cluster} {fsc : FileSystemClaim} {pick : Nat}

theorem Advanced.rank_lt
    (advanced : Advanced start fsc state)
    (stored : start.claim? fsc.key = some fsc)
    (standing : isTornDown fsc = false) :
    rank fsc.key state < rank fsc.key start := by
  obtain ⟨cur, found, _, tornDown, validated, _, falls⟩ := advanced
  rw [rank_of_stored found, rank_of_stored stored]
  exact claimRank_lt_of_localDisks standing (tornDown.trans standing) validated falls

theorem Advanced.elsewhere
    {call : Call}
    (advanced : Advanced start fsc state)
    (claims : call.part? ≠ some .claims)
    (localDisks : call.part? ≠ some (.objects .localDisk)) :
    Advanced start fsc (state.afterCall call) := by
  obtain ⟨cur, found, devices, tornDown, validated, surroundings, falls⟩ := advanced
  refine ⟨cur, ?_, devices, tornDown, validated,
    surroundings.trans (state.sameSurroundings_afterCall call), ?_⟩
  · rw [state.claim?_afterCall claims, found]
  · rwa [missingLocalDisks_of_same rfl rfl (state.objects_afterCall localDisks)
      (state.sameSurroundings_afterCall call)]

theorem Advanced.create
    (advanced : Advanced start fsc state)
    (object : Unstructured) :
    Advanced start fsc (state.afterCall (.create .localDisk object)) := by
  obtain ⟨cur, found, devices, tornDown, validated, surroundings, falls⟩ := advanced
  refine ⟨cur, ?_, devices, tornDown, validated,
    surroundings.trans (state.sameSurroundings_afterCall _),
    (missingLocalDisks_create_le cur object).trans_lt falls⟩
  rw [state.claim?_afterCall (by simp [Call.part?]), found]

theorem Advanced.patchClaimStatus
    {cur : FileSystemClaim} {modified : List Condition}
    {reports : ConditionType → ConditionStatus → Reason → Prop}
    (advanced : Advanced start fsc state)
    (stored : state.claim? fsc.key = some cur)
    (touches : Touches reports cur.conditions modified)
    (others : ∀ status reason, ¬reports .deviceValidated status reason) :
    Advanced start fsc
      (state.afterCall (.patchClaimStatus fsc.key cur.conditions modified)) := by
  obtain ⟨cur', found, devices, tornDown, validated, surroundings, falls⟩ := advanced
  rw [stored] at found
  cases found
  by_cases same : cur.conditions = modified
  · have unchanged : state.afterCall (.patchClaimStatus fsc.key cur.conditions modified) =
        state := by
      simp only [Cluster.afterCall, Cluster.answer, Cluster.patchClaimStatus, stored,
        if_pos same]
    rw [unchanged]
    exact ⟨cur, stored, devices, tornDown, validated, surroundings, falls⟩
  obtain ⟨patched, after, written⟩ := exists_patched stored same
  have key : cur.key = fsc.key := (Registry.find?_eq_some stored).2
  refine ⟨patched, key ▸ after.stored, after.devices.trans devices,
    after.tornDown.trans tornDown, ?_, surroundings.trans after.surroundings, ?_⟩
  · rw [← validated, recordsValidation, recordsValidation, written]
    rcases touches.lookup .deviceValidated with kept | ⟨_, _, reported⟩
    · rw [kept]
    · exact absurd reported (others _ _)
  · rwa [after.missingLocalDisks]

end Advanced

/-! ## A pass that provisions -/

section Provision

variable {refuses : Refusals} {fsc : FileSystemClaim} {cluster : Cluster} {pick : Nat}
  (stored : cluster.claim? fsc.key = some fsc) (standing : isTornDown fsc = false)

include stored standing

/-- What preserves the advance may be called. -/
theorem safe_advanced
    {call : Call}
    (preserved : ∀ state, Advanced cluster fsc state →
      Advanced cluster fsc (state.afterCall call)) :
    Safe (lowering refuses fsc.key pick cluster) (Advanced cluster fsc) (request call) :=
  (safe_request
    (fun state advanced => lowers_of_lt ((preserved state advanced).rank_lt stored standing))
    preserved).safe

theorem allowsReports_advanced
    {reports : ConditionType → ConditionStatus → Reason → Prop}
    (others : ∀ status reason, ¬reports .deviceValidated status reason) :
    AllowsReports (lowering refuses fsc.key pick cluster) (Advanced cluster fsc) fsc reports := by
  refine allowsReports_of_patch admitsReads_lowering
    fun state cur modified advanced found touches => ?_
  have after := advanced.patchClaimStatus found touches others
  exact ⟨lowers_of_lt (after.rank_lt stored standing), after⟩

/-- A LocalDisk is created when there is one to be created that is not refused;
others that follow may be refused. -/
theorem falls_creation
    (begins : beginsCreation fsc = true)
    (possible : creationFails refuses cluster fsc pick = false)
    (missing : creationEnds cluster fsc (drawnNode cluster pick) = false) :
    Ensures (lowering refuses fsc.key pick cluster) (ensureLocalDisks fsc)
      (fun _ final => Advanced cluster fsc final) cluster := by
  have harmless := @not_failsReads_lowering refuses fsc.key pick cluster
  simp only [beginsCreation, Bool.and_eq_true, Bool.not_eq_true'] at begins
  obtain ⟨⟨notCreated, notAwaiting⟩, validated⟩ := begins
  simp only [creationFails, Bool.or_eq_false_iff, List.isEmpty_eq_false_iff] at possible
  have failures : AllowsReports (lowering refuses fsc.key pick cluster) (Advanced cluster fsc) fsc
      (ofPass (reportsFailure .localDisk)) :=
    allowsReports_advanced stored standing
      (by simp [ofPass, reportsFailure, ResourceType.conditionType])
  refine ensures_ensureLocalDisks_exits admitsReads_lowering
    (fun faulty => absurd faulty harmless) (fun created => ?_) (fun created => ?_)
    (fun _ awaiting => ?_) (fun _ _ invalid => ?_) fun _ _ _ =>
      ⟨fun nodeless => absurd nodeless (not_or.mpr ⟨possible.1, harmless⟩), ?_⟩
  · rw [notCreated] at created
    cases created
  · rw [notCreated] at created
    cases created
  · rw [notAwaiting] at awaiting
    cases awaiting
  · rw [validated] at invalid
    cases invalid
  rintro nodeName member ⟨_, choice, rfl, drawn⟩
  rw [show drawnNode cluster pick = nodeName from drawn.symm] at missing possible
  cases listed : fsc.devices with
  | nil => simp [creationEnds, listed] at missing
  | cons devicePath devices =>
      have known := possible.2
      rw [listed, List.head?_cons, Option.any_some] at known
      refine ensures_createLocalDisks_cons admitsReads_lowering
        (fun faulty => absurd faulty harmless) (fun unknown => ?_)
        (fun name named taken => ?_) fun name named free => ?_
      · rcases unknown with unknown | faulty
        · simp [unknown] at known
        · exact absurd faulty harmless
      · simp [creationEnds, listed, named, taken] at missing
      have advanced : Advanced cluster fsc (cluster.afterCall (.create .localDisk
          (ownedObject fsc name (localDiskSpec devicePath nodeName)))) := by
        refine ⟨fsc, ?_, rfl, rfl, rfl, cluster.sameSurroundings_afterCall _, ?_⟩
        · rw [cluster.claim?_afterCall (by simp [Call.part?]), stored]
        · exact missingLocalDisks_create_lt
            (mem_candidateNames member (by simp [listed]) named) rfl free
      have accepted : (refuses cluster (.create .localDisk (ownedObject fsc name
          (localDiskSpec devicePath nodeName)))).isSome = false := by
        rw [named, Option.all_some, free, Option.isNone_none, Bool.true_and] at known
        exact known
      rw [ensures_bind, ensures_attempt]
      refine ensures_createResourceWithOwnership_free
        (not_mayFail_of_accepted decided_of_lowering accepted) free
        (lowers_of_lt (advanced.rank_lt stored standing)) ?_
      have follows : Safe (lowering refuses fsc.key pick cluster) (Advanced cluster fsc)
          (do
            let _ ← updateConditionIfChanged fsc .localDiskCreated .isFalse
              .localDiskCreationInProgress
              "LocalDisks created, waiting for them to become ready"
            createLocalDisks fsc nodeName devices true) :=
        (safe_updateConditionIfChanged failures
          ⟨⟨rfl, Or.inl rfl⟩, by simp⟩ _).andThen fun _ _ =>
            safe_createLocalDisks (readsSafely_of_admits admitsReads_lowering) failures
              (fun _ _ _ => safe_advanced stored standing fun _ advanced =>
                advanced.create _) true
      exact (follows _ advanced).mono fun _ _ ensured => ensured.2

/-- A pass that creates a LocalDisk lowers the rank with every report. -/
theorem falls_provision_creating
    {r : FileSystemClaimReconciler}
    (goesOn : isDeleting fsc = true → hasFinalizer fsc = false)
    (finalized : isDeleting fsc = true ∨ hasFinalizer fsc = true)
    (begins : beginsCreation fsc = true)
    (possible : creationFails refuses cluster fsc pick = false)
    (missing : creationEnds cluster fsc (drawnNode cluster pick) = false) :
    Ensures (lowering refuses fsc.key pick cluster) (reconcileClaim r fsc) (fun _ _ => True)
      cluster := by
  have reads : ReadsSafely (lowering refuses fsc.key pick cluster) (Advanced cluster fsc) :=
    readsSafely_of_admits admitsReads_lowering
  have elsewhere : ∀ {call : Call}, call.part? ≠ some .claims →
      call.part? ≠ some (.objects .localDisk) →
      Safe (lowering refuses fsc.key pick cluster) (Advanced cluster fsc) (request call) :=
    fun claims localDisks => safe_advanced stored standing fun _ advanced =>
      advanced.elsewhere claims localDisks
  have provisions := ensures_provision_of_reports reads
    (fun others _ => allowsReports_advanced stored standing
      fun status reason reported => others status reason reported.1)
    (falls_creation stored standing begins possible missing)
    (fun _ => elsewhere (by simp [Call.part?]) (by simp [Call.part?]))
    (fun _ _ => elsewhere (by simp [Call.part?]) (by simp [Call.part?]))
    (elsewhere (by simp [Call.part?]) (by simp [Call.part?]))
    fun _ => elsewhere (by simp [Call.part?]) (by simp [Call.part?])
  rw [reconcileClaim_eq_provision goesOn finalized, ensures_bind]
  refine provisions.mono ?_
  rintro (failure | wrote) final advanced
  · trivial
  have ready : Safe (lowering refuses fsc.key pick cluster) (Advanced cluster fsc)
      (syncFSCReady fsc) :=
    safe_syncFSCReady (allowsReports_advanced stored standing (by simp [reportsReady]))
  have ends := (ready.andThen fun _ _ => safeThen_ite (fun _ => safe_pure _)
    fun _ => safe_pure _ : Safe (lowering refuses fsc.key pick cluster) (Advanced cluster fsc)
      (do
        let ready ← syncFSCReady fsc
        if ready then return (⟨r.requeueDelay⟩ : Result)
        else return {}))
  rw [onSuccess_ok, ensures_ite]
  exact ⟨fun _ => trivial, fun _ => (ends final advanced).mono fun _ _ _ => trivial⟩

/-- A pass that provisions lowers the rank with every report, unless it comes
to a failure. -/
theorem falls_provision
    {r : FileSystemClaimReconciler}
    (goesOn : isDeleting fsc = true → hasFinalizer fsc = false)
    (finalized : isDeleting fsc = true ∨ hasFinalizer fsc = true)
    (succeeds : provisioningFails refuses cluster fsc pick = false) :
    Ensures (lowering refuses fsc.key pick cluster) (reconcileClaim r fsc) (fun _ _ => True)
      cluster := by
  rw [provisioningFails, Bool.or_eq_false_iff] at succeeds
  obtain ⟨localDisks, later⟩ := succeeds
  by_cases creating : beginsCreation fsc = true ∧
      creationEnds cluster fsc (drawnNode cluster pick) = false
  · refine falls_provision_creating stored standing goesOn finalized creating.1 ?_ creating.2
    have begins := creating.1
    simp only [beginsCreation, Bool.and_eq_true, Bool.not_eq_true'] at begins
    simpa [localDisksFail, begins] using localDisks
  have ends : beginsCreation fsc = true →
      creationEnds cluster fsc (drawnNode cluster pick) = true := by
    intro begins
    by_contra missing
    exact creating ⟨begins, by simpa using missing⟩
  rw [reconcileClaim_eq_provision goesOn finalized, ensures_bind]
  have continues : ∀ {fact : Prop} {later : Cluster → Prop},
      (fact → later cluster) → ∀ result final, GoesOn cluster fact result final →
        orElse later (readyFalls refuses fsc pick cluster) result final := by
    rintro fact later next (failure | _ | _) final goesOn
    · rintro ⟨⟩
    · obtain ⟨rfl, holds⟩ := goesOn rfl
      exact next holds
    · rintro ⟨⟩
  have filesystem : letsGoOn cluster fsc pick = true →
      keepsLocalDiskCondition cluster fsc (ownFilesystems cluster fsc) = true →
      filesystemFails refuses cluster fsc = false ∧
        (filesystemGoesOn cluster fsc = true →
          keepsFilesystemCondition cluster fsc = true →
          storageClassFails refuses cluster fsc = false) := by
    intro goesOn kept
    rw [goesOn, kept, Bool.and_self, Bool.true_and, Bool.or_eq_false_iff] at later
    refine later.imp_right fun storageClass goesOn kept => ?_
    rwa [goesOn, kept, Bool.and_self, Bool.true_and] at storageClass
  have provisions := ensures_provision_orElse <|
    (falls_ensureLocalDisks stored standing localDisks ends).mono (continues fun goesOn =>
      (falls_syncLocalDiskConditions stored standing).mono (continues fun kept =>
        (falls_ensureFileSystem stored standing (filesystem goesOn kept).1).mono
          (continues fun present =>
            (falls_syncFilesystemConditions stored standing).mono (continues fun healthy =>
              falls_ensureStorageClass stored standing
                ((filesystem goesOn kept).2 present healthy)))))
  refine provisions.mono ?_
  rintro (failure | _ | _) final holds
  · trivial
  · rw [onSuccess_ok, if_neg (by simp), ensures_bind]
    refine (holds rfl).mono ?_
    rintro (failure | _ | _) final _ <;> trivial
  · trivial

end Provision

/-! ## A pass that tears down -/

/-- What a claim owns after a deletion is a part of what it owned, and the labels
are the same. -/
theorem exists_ownedBy_delete
    (cluster : Cluster) (fsc : FileSystemClaim) (kind : Kind) (key : NamespacedName) :
    ∃ (left : List Unstructured) (change : Unstructured → Unstructured),
      left.Sublist (ownedBy cluster fsc kind) ∧
        (∀ object, (change object).metadata.labels = object.metadata.labels) ∧
          ownedBy (cluster.afterCall (.delete kind key)) fsc kind = left.map change := by
  cases found : cluster.object? kind key with
  | none =>
      refine ⟨_, id, List.Sublist.refl _, fun _ => rfl, ?_⟩
      simp only [Cluster.afterCall, Cluster.answer, Cluster.delete, found, List.map_id]
  | some object =>
      by_cases finalized : object.metadata.finalizers = []
      · refine ⟨_, id, ?_, fun _ => rfl, (List.map_id _).symm⟩
        simp only [ownedBy, Cluster.afterCall, Cluster.answer, Cluster.delete, found,
          if_pos finalized, Cluster.objects_withObjects, Registry.remove]
        exact ((List.filter_sublist).filter _).filter _
      · refine ⟨_, fun stored => if stored.key = key then { stored with
            metadata := cluster.terminate stored.metadata } else stored,
          List.Sublist.refl _, fun stored => ?_, ?_⟩
        · dsimp only
          split <;> rfl
        · simp only [ownedBy, Cluster.afterCall, Cluster.answer, Cluster.delete, found,
            if_neg finalized, Cluster.objects_withObjects, Registry.amend]
          rw [List.filter_map, List.filter_map]
          congr 1
          have ns : ∀ stored : Unstructured, (if stored.key = key then { stored with
              metadata := cluster.terminate stored.metadata }
              else stored).metadata.ns = stored.metadata.ns := by
            intro stored
            split <;> rfl
          have owners : ∀ stored : Unstructured,
              isOwnedByThisFSC (if stored.key = key then { stored with
                metadata := cluster.terminate stored.metadata }
                else stored) fsc.metadata.name =
              isOwnedByThisFSC stored fsc.metadata.name := by
            intro stored
            split <;> rfl
          simp only [Function.comp_def, ns, owners]

/-- What is released stays so when it is deleted. -/
theorem isReleased_delete
    {cluster : Cluster} {fsc : FileSystemClaim}
    (released : isReleased (ownedBy cluster fsc .filesystem) = true)
    (key : NamespacedName) :
    isReleased (ownedBy (cluster.afterCall (.delete .filesystem key)) fsc .filesystem) =
      true := by
  obtain ⟨left, change, part, labels, owned⟩ :=
    exists_ownedBy_delete cluster fsc .filesystem key
  rw [owned]
  match before : ownedBy cluster fsc .filesystem with
  | [] =>
      rw [before, List.sublist_nil] at part
      rw [part]
      rfl
  | [fs] =>
      rw [before] at part released
      rcases List.sublist_singleton.mp part with rfl | rfl
      · rfl
      · simpa [isReleased, labels] using released
  | _ :: _ :: _ =>
      rw [before] at released
      cases released

/-- A released Filesystem does not block the deletion. -/
theorem pendingBlock_of_released
    {cluster : Cluster} {fsc : FileSystemClaim}
    (unused : (!isConditionTrue fsc .storageClassCreated ||
        !cluster.persistentVolumes.any (blocksDeletion fsc.metadata.name)) = true)
    (released : isReleased (ownedBy cluster fsc .filesystem) = true) :
    pendingBlock cluster fsc = false := by
  rw [pendingBlock, wantedBlock_of_unused unused]
  rcases owned : ownedBy cluster fsc .filesystem with _ | ⟨fs, _ | ⟨second, others⟩⟩
  · simp
  · rw [owned, isReleased] at released
    simp [Option.isSome_iff_ne_none.mp released]
  · simp

/-- The rank of a teardown depends on conditions, volumes and Filesystems. -/
theorem claimRank_of_teardown
    {cluster later : Cluster} {fsc : FileSystemClaim}
    (tornDown : isTornDown fsc = true)
    (filesystems : ownedBy later fsc .filesystem = ownedBy cluster fsc .filesystem)
    (surroundings : Cluster.SameSurroundings cluster later) :
    claimRank later fsc = claimRank cluster fsc := by
  have block : wantedBlock later fsc = wantedBlock cluster fsc := by
    rw [wantedBlock, filesystems, surroundings.persistentVolumes, wantedBlock]
  rw [claimRank, if_pos tornDown, claimRank, if_pos tornDown, pendingTeardown, pendingBlock,
    block, pendingTeardown, pendingBlock]

section Teardown

variable {refuses : Refusals} {fsc : FileSystemClaim} {cluster : Cluster} {pick : Nat}
  (stored : cluster.claim? fsc.key = some fsc) (tornDown : isTornDown fsc = true)

include stored tornDown

theorem admitsReport_of_teardown
    {conditionType : ConditionType} {status : ConditionStatus} {reason : Reason}
    {message : String}
    (falls : keepsCondition fsc conditionType status reason message = false →
      ∀ later patched, Patched cluster later fsc patched →
        patched.conditions = (withCondition conditionType status reason message
          cluster.clock fsc).conditions →
        pendingTeardown later patched < pendingTeardown cluster fsc) :
    AdmitsReport (lowering refuses fsc.key pick cluster) cluster fsc conditionType status reason
      message := by
  refine admitsReport_lowering stored fun changes later patched after reported => ?_
  rw [rank_of_stored stored]
  exact claimRank_lt_of_teardown tornDown (after.tornDown.trans tornDown)
    (falls changes later patched after reported)

theorem guardsTeardownReports_lowering :
    GuardsTeardownReports (lowering refuses fsc.key pick cluster) cluster fsc where
  marks := fun unmarked => admitsReport_of_teardown stored tornDown
    fun _ _ _ _ reported => pendingTeardown_lt_of_mark reported unmarked
  blocks := fun _ block blocked => admitsReport_of_teardown stored tornDown
    fun changes _ _ after reported =>
      pendingTeardown_lt_of_block after reported blocked changes
  storageClass := fun _ created => admitsReport_of_teardown stored tornDown
    fun changes _ _ _ reported => pendingTeardown_lt_of_storageClass reported
      (by rw [pendingDeletion, created, changes]; rfl)
  filesystem := fun _ _ created => admitsReport_of_teardown stored tornDown
    fun changes _ _ _ reported => pendingTeardown_lt_of_filesystem reported
      (by rw [pendingDeletion, created, changes]; rfl)
  localDisks := fun _ _ _ created => admitsReport_of_teardown stored tornDown
    fun changes _ _ _ reported => pendingTeardown_lt_of_localDisks reported
      (by rw [pendingDeletion, created, changes]; rfl)

/-- The finalizer is given up with the teardown. -/
theorem rank_lt_of_dropFinalizer :
    rank fsc.key (cluster.afterCall (.patchClaimFinalizers fsc.key
      fsc.metadata.finalizers (dropFinalizer fsc).metadata.finalizers)) <
        rank fsc.key cluster := by
  simp only [isTornDown, Bool.and_eq_true] at tornDown
  have dropped : hasFinalizer (dropFinalizer fsc) = false := by
    simp [hasFinalizer, dropFinalizer]
  have different : fsc.metadata.finalizers ≠ (dropFinalizer fsc).metadata.finalizers := by
    intro same
    rw [hasFinalizer, ← same, ← hasFinalizer, tornDown.2] at dropped
    cases dropped
  have after := Cluster.claim?_patchClaimFinalizers_of_different stored different
  rw [rank_of_stored stored]
  split at after
  · rw [rank, after, claimRank, if_pos (by simp [isTornDown, tornDown])]
    exact Prod.Lex.toLex_lt_toLex.mpr (Or.inl (by simp))
  · rw [rank_of_stored after]
    refine claimRank_lt_of_standing (by simp [isTornDown, tornDown]) ?_
    rw [isTornDown, Bool.and_eq_false_iff]
    exact Or.inr dropped

theorem guardsTeardown_lowering :
    GuardsTeardown (lowering refuses fsc.key pick cluster) cluster fsc where
  storageClass := by
    refine fun _ => lowers_of_le (le_of_eq ?_) rfl
    have stored' : (cluster.afterCall (.deleteStorageClass fsc.metadata.name)).claim?
        fsc.key = some fsc := by
      rw [cluster.claim?_afterCall (by simp [Call.part?]), stored]
    rw [rank_of_stored stored', rank_of_stored stored]
    exact claimRank_of_teardown tornDown (ownedBy_afterCall (by simp [Call.part?]) fsc)
      (cluster.sameSurroundings_afterCall _)
  filesystem := by
    intro unblocked _ created fs rest _
    refine lowers_of_le ?_ rfl
    have stored' : (cluster.afterCall (.delete .filesystem fs.key)).claim? fsc.key =
        some fsc := by
      rw [cluster.claim?_afterCall (by simp [Call.part?]), stored]
    simp only [isUnblocked, created, Bool.not_true, Bool.false_or, Bool.and_eq_true]
      at unblocked
    obtain ⟨⟨_, unused⟩, released⟩ := unblocked
    have surroundings := cluster.sameSurroundings_afterCall (.delete .filesystem fs.key)
    have before := pendingBlock_of_released unused released
    have after := pendingBlock_of_released (surroundings.persistentVolumes ▸ unused)
      (isReleased_delete released fs.key)
    rw [rank_of_stored stored', rank_of_stored stored, claimRank, if_pos tornDown,
      pendingTeardown, after, claimRank, if_pos tornDown, pendingTeardown, before]
  localDisks := by
    intro _ _ _ _ state same ld _
    refine lowers_of_le (le_of_eq ?_) rfl
    have found : state.claim? fsc.key = some fsc := by
      rw [Cluster.claim?, same.claims, ← Cluster.claim?, stored]
    have found' : (state.afterCall (.delete .localDisk ld.key)).claim? fsc.key =
        some fsc := by
      rw [state.claim?_afterCall (by simp [Call.part?]), found]
    rw [rank_of_stored found', rank_of_stored found]
    exact claimRank_of_teardown tornDown (ownedBy_afterCall (by simp [Call.part?]) fsc)
      (state.sameSurroundings_afterCall _)
  finalizer := fun _ _ _ _ => lowers_of_lt (rank_lt_of_dropFinalizer stored tornDown)

end Teardown

/-! ## A pass -/

/-- The pass comes to a failure. -/
def comesToFailure
    (refuses : Refusals) (key : NamespacedName) (pick : Nat) (cluster : Cluster) : Bool :=
  (cluster.claim? key).any fun fsc =>
    (isDeleting fsc != hasFinalizer fsc) && provisioningFails refuses cluster fsc pick

/-- The finalizer of a claim says nothing about its rank before the deletion. -/
theorem rank_addFinalizer
    {cluster : Cluster} {fsc : FileSystemClaim}
    (stored : cluster.claim? fsc.key = some fsc)
    (live : isDeleting fsc = false)
    (unfinalized : hasFinalizer fsc = false) :
    rank fsc.key (cluster.afterCall (.patchClaimFinalizers fsc.key
      fsc.metadata.finalizers (addFinalizer fsc).metadata.finalizers)) =
        rank fsc.key cluster := by
  have different : fsc.metadata.finalizers ≠ (addFinalizer fsc).metadata.finalizers := by
    rw [addFinalizer, if_neg (by simp [unfinalized])]
    simp
  have after := Cluster.claim?_patchClaimFinalizers_of_different stored different
  have stays : fsc.metadata.deletionTimestamp.isSome = false := live
  rw [if_neg (by simp [stays])] at after
  rw [rank_of_stored after, rank_of_stored stored]
  refine Patched.claimRank ⟨after, rfl, rfl, ?_, fun kind => ?_, ?_, ?_⟩ rfl
  · simp only [isTornDown, isDeleting, Cluster.stamp, stays, Bool.false_and]
  · exact cluster.objects_afterCall (by simp [Call.part?])
  · exact cluster.storageClasses_afterCall (by simp [Call.part?])
  · exact cluster.sameSurroundings_afterCall _

/-- A pass that does not come to a failure lowers the rank with every write to
the status. -/
theorem ensures_reconcile_lowering
    (r : FileSystemClaimReconciler)
    {refuses : Refusals} {key : NamespacedName} {pick : Nat} {cluster : Cluster}
    (succeeds : comesToFailure refuses key pick cluster = false) :
    Ensures (lowering refuses key pick cluster) (reconcile r key) (fun _ _ => True) cluster := by
  refine ensures_reconcile admitsReads_lowering (fun _ => trivial) (fun fsc found => ?_)
    fun _ _ _ _ => trivial
  obtain rfl : fsc.key = key := (Registry.find?_eq_some found).2
  rw [comesToFailure, found, Option.any_some] at succeeds
  cases deleting : isDeleting fsc with
  | true =>
      cases present : hasFinalizer fsc with
      | true =>
          have tornDown : isTornDown fsc = true := by simp [isTornDown, deleting, present]
          exact ensures_reconcileClaim_of_teardown deleting
            (ensures_handleDeletion admitsReads_lowering
              (guardsTeardownReports_lowering found tornDown) found deleting present
              (guardsTeardown_lowering found tornDown))
      | false =>
          exact falls_provision found (by simp [isTornDown, present]) (fun _ => present)
            (Or.inl deleting) (by simpa [deleting, present] using succeeds)
  | false =>
      cases present : hasFinalizer fsc with
      | true =>
          exact falls_provision found (by simp [isTornDown, deleting]) (by simp [deleting])
            (Or.inr present) (by simpa [deleting, present] using succeeds)
      | false =>
          unfold reconcileClaim handleFinalizers
          rw [if_neg (by simp [deleting]), if_pos (by simp [present]), bind_assoc,
            ensures_bind]
          exact ensures_patchFSCSpec admitsReads_lowering found
            (lowers_of_le (rank_addFinalizer found deleting present).le rfl) trivial
            (fun _ _ _ _ => trivial) fun _ _ _ _ => trivial

end FusionAccess
