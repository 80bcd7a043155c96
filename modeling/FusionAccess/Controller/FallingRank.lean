import FusionAccess.Controller.StatusRank

/-!
# The rank falls in a pass

The API server may refuse what a pass asks for. A pass that has no failure to
report does not raise the rank of its claim, and lowers it with every write to
the status. What a pass has created lowers the rank before anything is reported
about it.
-/

namespace FusionAccess

open Kubernetes Interaction Fallible

/-- The call writes the status of the claim. -/
def writesStatus (key : NamespacedName) : Call → Bool
  | .patchClaimStatus other _ _ => other = key
  | .updateClaimStatus claim => claim.key = key
  | _ => false

/-- Which calls the API server refuses, with which reason and message. -/
abbrev Refusals := Cluster → Call → Option (Refusal × String)

/-- What the environment decides when the API server refuses calls as given,
other than reads and writes of the status of the claim. Nothing else goes wrong,
and the given number is drawn. -/
def decision
    (refuses : Refusals) (key : NamespacedName) (pick : Nat) (state : Cluster)
    (call : Call) : Choice where
  fault :=
    if call.isRead || writesStatus key call then .none
    else (refuses state call).elim .none fun cause => .refused cause.1 cause.2
  pick := pick

/-- The environment decides like this, and no call raises the rank of the claim; a
write to its status lowers it below that of the start. -/
abbrev lowering
    (refuses : Refusals) (key : NamespacedName) (pick : Nat) (start : Cluster) :
    Contract apiServer where
  rely := fun state call choice => choice = decision refuses key pick state call
  guard := fun state call =>
    Lowers (rank key) (fun request => writesStatus key request = true) (rank key start)
      (⟨state, call, decision refuses key pick state call⟩ : Event apiServer)

section Calls

variable {refuses : Refusals} {key : NamespacedName} {pick : Nat}
  {start state : Cluster} {call : Call} {C : Contract apiServer}

/-- What fails has been refused. -/
theorem refused_of_fault
    (fault : (decision refuses key pick state call).fault ≠ .none) :
    call.isRead = false ∧ (refuses state call).isSome = true := by
  unfold decision at fault
  dsimp only at fault
  split at fault
  next spared => exact absurd rfl fault
  next refusable =>
    refine ⟨(Bool.or_eq_false_iff.mp (by simpa using refusable)).1, ?_⟩
    cases refused : refuses state call with
    | none => simp [refused] at fault
    | some cause => rfl

/-- Reads do not fail. -/
theorem not_failsReads_of_decision
    (decided : ∀ state call choice, C.rely state call choice →
      choice = decision refuses key pick state call) :
    ¬FailsReads C := by
  rintro ⟨state, call, reads, choice, relied, fault, _⟩
  rw [decided _ _ _ relied] at fault
  rw [(refused_of_fault fault).1] at reads
  cases reads

/-- A call that is accepted does not fail. -/
theorem not_mayFail_of_accepted
    (decided : ∀ state call choice, C.rely state call choice →
      choice = decision refuses key pick state call)
    (accepted : (refuses state call).isSome = false)
    (final : Cluster) :
    ¬MayFail C state call final := by
  rintro ⟨choice, relied, fault, _⟩
  rw [decided _ _ _ relied] at fault
  rw [(refused_of_fault fault).2] at accepted
  cases accepted

theorem decided_of_lowering :
    ∀ state call choice, (lowering refuses key pick start).rely state call choice →
      choice = decision refuses key pick state call :=
  fun _ _ _ relied => relied

theorem not_failsReads_lowering : ¬FailsReads (lowering refuses key pick start) :=
  not_failsReads_of_decision decided_of_lowering

/-- A call is carried out, unless it is refused and changes nothing. -/
theorem after_of_decision
    (refuses : Refusals) (key : NamespacedName) (pick : Nat)
    (state : Cluster) (call : Call) :
    (⟨state, call, decision refuses key pick state call⟩ : Event apiServer).after =
        state.afterCall call ∨
      (⟨state, call, decision refuses key pick state call⟩ : Event apiServer).after =
        state ∧ writesStatus key call = false := by
  cases writes : writesStatus key call with
  | false =>
      rcases serve_state (decision refuses key pick state call) state call with
        served | served
      · exact Or.inl served
      · exact Or.inr ⟨served, rfl⟩
  | true =>
      have accepted : (decision refuses key pick state call).fault = .none := by
        rw [decision, writes, Bool.or_true, if_pos rfl]
      refine Or.inl (serve_state_of_accepted (fun refusal message fault => ?_) state call)
      rw [accepted] at fault
      cases fault

/-- A call may be issued when it makes the rank lower than at the start. -/
theorem lowers_of_lt
    (falls : rank key (state.afterCall call) < rank key start) :
    (lowering refuses key pick start).guard state call := by
  rcases after_of_decision refuses key pick state call with
    after | ⟨after, elsewhere⟩
  · rw [← after] at falls
    exact ⟨fun _ => falls.le, fun _ => falls, fun _ => falls⟩
  · refine ⟨fun atMost => ?_, fun below => ?_, fun writes => ?_⟩
    · rw [after]
      exact atMost
    · rw [after]
      exact below
    · rw [elsewhere] at writes
      cases writes

/-- So may a call that leaves the rank and the status alone. -/
theorem lowers_of_le
    (stays : rank key (state.afterCall call) ≤ rank key state)
    (elsewhere : writesStatus key call = false) :
    (lowering refuses key pick start).guard state call := by
  have kept : rank key (⟨state, call, decision refuses key pick state call⟩ :
      Event apiServer).after ≤ rank key state := by
    rcases after_of_decision refuses key pick state call with after | ⟨after, _⟩
    · rw [after]
      exact stays
    · rw [after]
  refine ⟨kept.trans, kept.trans_lt, fun writes => ?_⟩
  rw [elsewhere] at writes
  cases writes

theorem admitsReads_lowering : AdmitsReads (lowering refuses key pick start) := by
  intro state call reads
  refine lowers_of_le ?_ ?_
  · rw [state.afterCall_of_isRead reads]
  · cases call <;> first | rfl | simp [Call.isRead] at reads

theorem rank_of_stored
    {fsc : FileSystemClaim} (stored : state.claim? key = some fsc) :
    rank key state = claimRank state fsc := by
  rw [rank, stored]

/-- A report may be made when it makes the rank lower than at the start. -/
theorem admitsReport_lowering
    {fsc : FileSystemClaim} {conditionType : ConditionType} {status : ConditionStatus}
    {reason : Reason} {message : String}
    (stored : state.claim? fsc.key = some fsc)
    (falls : keepsCondition fsc conditionType status reason message = false →
      ∀ later patched, Patched state later fsc patched →
        patched.conditions = (withCondition conditionType status reason message
          state.clock fsc).conditions →
        claimRank later patched < rank fsc.key start) :
    AdmitsReport (lowering refuses fsc.key pick start) state fsc conditionType status reason
      message := by
  intro changes
  obtain ⟨patched, after, reported⟩ :=
    exists_patched stored (conditions_ne_of_changes changes)
  refine lowers_of_lt ?_
  rw [rank_of_stored after.stored]
  exact falls changes _ _ after reported

end Calls

/-- A report that is admitted is made, and then the pass ends. -/
theorem ensures_reportCondition
    {C : Contract apiServer} {cluster : Cluster} {fsc : FileSystemClaim}
    {conditionType : ConditionType} {status : ConditionStatus} {reason : Reason}
    {message : String} {post : Except Failure Bool → Cluster → Prop}
    (admits : AdmitsReads C)
    (report : AdmitsReport C cluster fsc conditionType status reason message)
    (stored : cluster.claim? fsc.key = some fsc)
    (changes : keepsCondition fsc conditionType status reason message = false)
    (ends : ∀ result final, result ≠ .ok false → post result final) :
    Ensures C (reportCondition fsc conditionType status reason message) post
      cluster := by
  rw [ensures_bind]
  exact ensures_patchFSCStatus admits stored (report changes) (ends _ _ (by simp))
    (fun _ _ _ _ => ends _ _ (by simp)) fun _ _ _ _ => ends _ _ (by simp)

/-! ## Reports of the provisioning -/

section Reports

variable {refuses : Refusals} {fsc : FileSystemClaim} {pick : Nat}
  {start state : Cluster}

/-- A report about a later step than the devices and the LocalDisks may be made
when it lowers the rank of the steps. -/
theorem admitsReport_of_steps
    {conditionType : ConditionType} {status : ConditionStatus} {reason : Reason}
    {message : String}
    (stored : start.claim? fsc.key = some fsc)
    (storedLater : state.claim? fsc.key = some fsc)
    (standing : isTornDown fsc = false)
    (notValidation : conditionType ≠ .deviceValidated)
    (localDisks : missingLocalDisks state fsc = missingLocalDisks start fsc)
    (falls : keepsCondition fsc conditionType status reason message = false →
      ∀ later patched, Patched state later fsc patched →
        patched.conditions = (withCondition conditionType status reason message
          state.clock fsc).conditions →
        pendingSteps later patched < pendingSteps start fsc) :
    AdmitsReport (lowering refuses fsc.key pick start) state fsc conditionType status reason
      message := by
  refine admitsReport_lowering storedLater fun changes later patched after reported => ?_
  rw [rank_of_stored stored]
  refine claimRank_lt_of_steps standing (after.tornDown.trans standing)
    (recordsValidation_of_reported reported notValidation) ?_
    (falls changes later patched after reported)
  rw [after.missingLocalDisks, localDisks]

variable (stored : start.claim? fsc.key = some fsc) (standing : isTornDown fsc = false)

include stored standing

theorem admitsReport_validation
    (invalid : isConditionTrue fsc .deviceValidated = false) :
    AdmitsReport (lowering refuses fsc.key pick start) start fsc .deviceValidated .isTrue
      .deviceValidationSucceeded "Device/s validation succeeded" := by
  refine admitsReport_lowering stored fun _ later patched after reported => ?_
  rw [rank_of_stored stored]
  exact claimRank_lt_of_validation standing (after.tornDown.trans standing)
    (recordsValidation_of_invalid invalid) (recordsValidation_reported reported)

theorem admitsReport_localDisks
    (changes : keepsLocalDiskCondition start fsc (ownFilesystems start fsc) = false) :
    AdmitsReport (lowering refuses fsc.key pick start) start fsc .localDiskCreated
      (wantedLocalDiskCondition start fsc (ownFilesystems start fsc)).1
      (wantedLocalDiskCondition start fsc (ownFilesystems start fsc)).2.1
      (wantedLocalDiskCondition start fsc (ownFilesystems start fsc)).2.2 :=
  admitsReport_of_steps stored stored standing (by simp) rfl
    fun _ _ _ after reported => pendingSteps_lt_of_localDisks after reported changes

theorem admitsReport_filesystem :
    AdmitsReport (lowering refuses fsc.key pick start) start fsc .fileSystemCreated
      (filesystemCondition (ownedBy start fsc .filesystem)).1
      (filesystemCondition (ownedBy start fsc .filesystem)).2.1
      (filesystemCondition (ownedBy start fsc .filesystem)).2.2 :=
  admitsReport_of_steps stored stored standing (by simp) rfl
    fun changes _ _ after reported => pendingSteps_lt_of_filesystem after reported
      (by rw [pendingFilesystemCondition, changes]; rfl)

theorem admitsReport_storageClass :
    AdmitsReport (lowering refuses fsc.key pick start) start fsc .storageClassCreated .isTrue
      .storageClassCreationSucceeded "StorageClass present" :=
  admitsReport_of_steps stored stored standing (by simp) rfl
    fun changes _ _ after reported => pendingSteps_lt_of_storageClass after reported changes

theorem admitsReport_ready :
    AdmitsReport (lowering refuses fsc.key pick start) start fsc .ready (wantedReady fsc).1
      (wantedReady fsc).2.1 (wantedReady fsc).2.2 := by
  refine admitsReport_of_steps stored stored standing (by simp) rfl
    fun changes _ patched after reported => ?_
  have others : ∀ other, other ≠ .ready →
      isConditionTrue patched other = isConditionTrue fsc other :=
    fun other different => isConditionTrue_of_reported reported different
  have ready : readyNow patched = readyNow fsc := by
    rw [readyNow, others _ (by simp), others _ (by simp), others _ (by simp),
      others _ (by simp), readyNow]
  have same : wantedReady patched = wantedReady fsc := by
    rw [wantedReady, ready, wantedReady]
  refine pendingSteps_lt_of_ready after reported ?_ ?_
  · rw [keepsReady_eq, same, keepsCondition_reported reported]
  · rw [keepsReady_eq, changes]

end Reports

/-! ## Failures -/

/-- No LocalDisk can be created on the storage node that is drawn: there is no
node, the first device has no name there, or the API server refuses its
LocalDisk. -/
def creationFails
    (refuses : Refusals) (cluster : Cluster) (fsc : FileSystemClaim) (pick : Nat) :
    Bool :=
  (storageNodes cluster).isEmpty ||
    fsc.devices.head?.any fun devicePath =>
      (localDiskName? cluster devicePath (drawnNode cluster pick)).all fun name =>
        (cluster.object? .localDisk ⟨fsc.metadata.ns, name⟩).isNone &&
          (refuses cluster (.create .localDisk (ownedObject fsc name
            (localDiskSpec devicePath (drawnNode cluster pick))))).isSome

/-- The LocalDisks of the claim are not for its devices, or they cannot be
created. -/
def localDisksFail
    (refuses : Refusals) (cluster : Cluster) (fsc : FileSystemClaim) (pick : Nat) :
    Bool :=
  if isConditionTrue fsc .localDiskCreated then !devicesMatch cluster fsc
  else
    !awaitsLocalDisks fsc &&
      if isConditionTrue fsc .deviceValidated then creationFails refuses cluster fsc pick
      else !validates cluster fsc.devices

/-- The claim does not have its one Filesystem, and none can be created: its name
is taken, or the API server refuses it. -/
def filesystemFails
    (refuses : Refusals) (cluster : Cluster) (fsc : FileSystemClaim) : Bool :=
  isConditionTrue fsc .localDiskCreated &&
    !(ownedBy cluster fsc .localDisk).isEmpty &&
      (((ownedBy cluster fsc .filesystem).isEmpty &&
          ((cluster.object? .filesystem ⟨fsc.metadata.ns, fsc.metadata.name⟩).isSome ||
            (refuses cluster (.create .filesystem (ownedObject fsc fsc.metadata.name
              (wantedFilesystemSpec cluster fsc)))).isSome)) ||
        1 < (ownedBy cluster fsc .filesystem).length)

/-- There is no StorageClass, and the API server refuses it. -/
def storageClassFails
    (refuses : Refusals) (cluster : Cluster) (fsc : FileSystemClaim) : Bool :=
  isConditionTrue fsc .fileSystemCreated &&
    (cluster.storageClass? fsc.metadata.name).isNone &&
      (refuses cluster (.createStorageClass (wantedStorageClass fsc))).isSome

/-- `ensureLocalDisks` lets a pass go on that draws the given number: there is
nothing to create, or creation ends at the first device. -/
def letsGoOn (cluster : Cluster) (fsc : FileSystemClaim) (pick : Nat) : Bool :=
  localDisksGoOn cluster fsc ||
    (beginsCreation fsc && creationEnds cluster fsc (drawnNode cluster pick))

/-- Provisioning comes to a failure, which it reports whatever the claim
remembers: one of the steps that create something fails, and the steps before
it let the pass go on. -/
def provisioningFails
    (refuses : Refusals) (cluster : Cluster) (fsc : FileSystemClaim) (pick : Nat) :
    Bool :=
  localDisksFail refuses cluster fsc pick ||
    (letsGoOn cluster fsc pick &&
      keepsLocalDiskCondition cluster fsc (ownFilesystems cluster fsc) &&
        (filesystemFails refuses cluster fsc ||
          (filesystemGoesOn cluster fsc && keepsFilesystemCondition cluster fsc &&
            storageClassFails refuses cluster fsc)))

/-! ## The steps that create no LocalDisks -/

section Steps

variable {refuses : Refusals} {fsc : FileSystemClaim} {cluster : Cluster} {pick : Nat}

/-- A step that ends the pass may do so in every state. -/
theorem goesOn_of_ne
    {fact : Prop} (result : Except Failure Bool) (final : Cluster)
    (ends : result ≠ .ok false) :
    GoesOn cluster fact result final :=
  fun goesOn => absurd goesOn ends

variable (stored : cluster.claim? fsc.key = some fsc) (standing : isTornDown fsc = false)

include stored standing

theorem falls_recordValidation
    {fact : Prop}
    (invalid : isConditionTrue fsc .deviceValidated = false)
    (passes : validates cluster fsc.devices = true) :
    Ensures (lowering refuses fsc.key pick cluster) (recordValidation fsc)
      (GoesOn cluster fact) cluster := by
  rw [ensures_bind, ensures_attempt]
  refine (ensures_validateDevices admitsReads_lowering fsc).mono ?_
  rintro (failure | _) final ⟨rfl, checked⟩
  · rcases checked with faulty | fails
    · exact absurd faulty not_failsReads_lowering
    · rw [passes] at fails
      cases fails
  · rw [onSuccess_ok, ensures_bind]
    refine ensures_updateCondition (fun _ => goesOn_of_ne _ _ (by simp)) fun changes => ?_
    refine ensures_reportCondition admitsReads_lowering
      (admitsReport_validation stored standing invalid) stored changes ?_
    rintro (failure | _) final _
    · exact goesOn_of_ne _ _ (by simp)
    · exact goesOn_of_ne _ _ (by simp)

theorem falls_ensureLocalDisks
    (succeeds : localDisksFail refuses cluster fsc pick = false)
    (ends : beginsCreation fsc = true →
      creationEnds cluster fsc (drawnNode cluster pick) = true) :
    Ensures (lowering refuses fsc.key pick cluster) (ensureLocalDisks fsc)
      (GoesOn cluster (letsGoOn cluster fsc pick = true)) cluster := by
  have harmless := @not_failsReads_lowering refuses fsc.key pick cluster
  refine ensures_ensureLocalDisks_exits admitsReads_lowering
    (fun fails => absurd fails harmless) (fun created same _ => ⟨rfl, ?_⟩)
    (fun created different => ?_) (fun notCreated awaits _ => ⟨rfl, ?_⟩)
    (fun notCreated notAwaiting invalid => ?_) fun notCreated notAwaiting validated => ?_
  · rw [letsGoOn, localDisksGoOn, if_pos created, same, Bool.true_or]
  · simp [localDisksFail, created, different] at succeeds
  · rw [letsGoOn, localDisksGoOn, notCreated, if_neg (by simp), awaits, Bool.true_or]
  · refine falls_recordValidation stored standing invalid ?_
    simpa [localDisksFail, notCreated, notAwaiting, invalid] using succeeds
  have possible : creationFails refuses cluster fsc pick = false := by
    simpa [localDisksFail, notCreated, notAwaiting, validated] using succeeds
  simp only [creationFails, Bool.or_eq_false_iff, List.isEmpty_eq_false_iff] at possible
  have begins : beginsCreation fsc = true := by
    simp [beginsCreation, notCreated, notAwaiting, validated]
  have goesOn : letsGoOn cluster fsc pick = true := by
    rw [letsGoOn, begins, ends begins, Bool.and_self, Bool.or_true]
  refine ⟨fun nodeless => ?_, ?_⟩
  · exact absurd nodeless (not_or.mpr ⟨possible.1, harmless⟩)
  rintro nodeName member ⟨_, choice, rfl, drawn⟩
  have ended := ends begins
  rw [show drawnNode cluster pick = nodeName from drawn.symm] at ended possible
  cases listed : fsc.devices with
  | nil =>
      rw [createLocalDisks, ensures_pure]
      exact fun _ => ⟨rfl, goesOn⟩
  | cons devicePath devices =>
      refine ensures_createLocalDisks_cons admitsReads_lowering
        (fun fails => absurd fails harmless) (fun unknown => ?_)
        (fun _ _ _ _ => ⟨rfl, goesOn⟩) fun name named free => ?_
      · rcases unknown with unknown | fails
        · simp [listed, unknown] at possible
        · exact absurd fails harmless
      · simp [creationEnds, listed, named, free] at ended

theorem falls_syncLocalDiskConditions :
    Ensures (lowering refuses fsc.key pick cluster) (syncLocalDiskConditions fsc)
      (GoesOn cluster
        (keepsLocalDiskCondition cluster fsc (ownFilesystems cluster fsc) = true))
      cluster := by
  have harmless := @not_failsReads_lowering refuses fsc.key pick cluster
  refine ensures_syncLocalDiskConditions_exits admitsReads_lowering
    (fun faulty => absurd faulty harmless) ?_
  rintro users (rfl | ⟨faulty, _⟩)
  · refine ⟨fun kept _ => ⟨rfl, kept⟩, fun changes => ?_⟩
    refine ensures_reportCondition admitsReads_lowering
      (admitsReport_localDisks stored standing changes) stored ?_ goesOn_of_ne
    exact (Bool.or_eq_false_iff.mp changes).2
  · exact absurd faulty harmless

theorem falls_syncFilesystemConditions :
    Ensures (lowering refuses fsc.key pick cluster) (syncFilesystemConditions fsc)
      (GoesOn cluster (keepsFilesystemCondition cluster fsc = true)) cluster := by
  refine ensures_syncFilesystemConditions_exits admitsReads_lowering
    (fun fails => absurd fails not_failsReads_lowering) (fun kept _ => ⟨rfl, kept⟩)
    fun changes => ?_
  exact ensures_reportCondition admitsReads_lowering
    (admitsReport_filesystem stored standing) stored (Bool.or_eq_false_iff.mp changes).2
    goesOn_of_ne

theorem falls_syncFSCReady :
    Ensures (lowering refuses fsc.key pick cluster) (syncFSCReady fsc)
      (fun _ _ => True) cluster := by
  refine ensures_syncFSCReady_exits (fun _ => trivial) fun changes => ?_
  exact ensures_reportCondition admitsReads_lowering (admitsReport_ready stored standing)
    stored (keepsReady_eq fsc ▸ changes) fun _ _ _ => trivial

/-! ### The Filesystem -/

theorem falls_createFilesystem
    {fact : Prop} {spec : Value}
    (none : ownedBy cluster fsc .filesystem = [])
    (free : cluster.object? .filesystem ⟨fsc.metadata.ns, fsc.metadata.name⟩ = .none)
    (accepted : (refuses cluster (.create .filesystem
      (ownedObject fsc fsc.metadata.name spec))).isSome = false) :
    Ensures (lowering refuses fsc.key pick cluster) (createFilesystem fsc spec)
      (GoesOn cluster fact) cluster := by
  have stored' : (cluster.afterCall (.create .filesystem
      (ownedObject fsc fsc.metadata.name spec))).claim? fsc.key = some fsc := by
    rw [cluster.claim?_afterCall (by simp [Call.part?]), stored]
  have owned := ownedBy_create free spec
  rw [none, List.nil_append] at owned
  have localDisks := keepsLocalDiskCondition_of_filesystem none owned rfl
    (cluster.objects_afterCall (by simp [Call.part?]))
  have missing : missingLocalDisks (cluster.afterCall (.create .filesystem
      (ownedObject fsc fsc.metadata.name spec))) fsc = missingLocalDisks cluster fsc :=
    missingLocalDisks_of_same rfl rfl (cluster.objects_afterCall (by simp [Call.part?]))
      (cluster.sameSurroundings_afterCall _)
  rw [ensures_bind, ensures_attempt]
  refine ensures_createResourceWithOwnership_free
    (not_mayFail_of_accepted decided_of_lowering accepted) free (lowers_of_lt ?_) ?_
  · rw [rank_of_stored stored', rank_of_stored stored]
    exact claimRank_lt_of_steps standing standing rfl missing
      (pendingSteps_lt_of_filesystem_created localDisks none (by simp [owned]))
  · rw [onSuccess_ok, ensures_bind]
    refine ensures_updateCondition (fun _ => goesOn_of_ne _ _ (by simp)) fun changes => ?_
    refine ensures_reportCondition admitsReads_lowering
      (admitsReport_of_steps stored stored' standing (by simp) missing
        fun _ later patched after reported => ?_) stored' changes ?_
    · refine pendingSteps_lt_of_filesystem_created ?_ none (by simp [after.ownedBy, owned])
      rw [after.keepsLocalDiskCondition reported (by simp) (by simp), localDisks]
    · rintro (failure | _) final _
      · exact goesOn_of_ne _ _ (by simp)
      · exact goesOn_of_ne _ _ (by simp)

theorem falls_patchFilesystem {fact : Prop} (fs : Unstructured) (spec : Value) :
    Ensures (lowering refuses fsc.key pick cluster) (patchFilesystem fs spec)
      (GoesOn cluster fact) cluster := by
  have stored' : (cluster.afterCall (.patchSpec .filesystem fs.key spec)).claim? fsc.key =
      some fsc := by
    rw [cluster.claim?_afterCall (by simp [Call.part?]), stored]
  rw [ensures_bind, ensures_mapError]
  refine ensures_request (lowers_of_le (le_of_eq ?_) rfl) (fun _ => ?_)
    (fun _ _ _ => goesOn_error _ _) fun _ _ _ => goesOn_error _ _
  · obtain ⟨change, keeps, owned⟩ :=
      exists_ownedBy_patchSpec cluster fsc .filesystem fs.key spec
    have names : ownFilesystems (cluster.afterCall (.patchSpec .filesystem fs.key spec))
        fsc = ownFilesystems cluster fsc := by
      simp only [ownFilesystems, owned, List.map_map, Function.comp_def, (keeps _).1]
    have localDisks : keepsLocalDiskCondition
        (cluster.afterCall (.patchSpec .filesystem fs.key spec)) fsc
          (ownFilesystems cluster fsc) =
        keepsLocalDiskCondition cluster fsc (ownFilesystems cluster fsc) := by
      simp only [keepsLocalDiskCondition, wantedLocalDiskCondition,
        @ownedBy_afterCall cluster (.patchSpec .filesystem fs.key spec) .localDisk
          (by simp [Call.part?])]
    rw [rank_of_stored stored', rank_of_stored stored, claimRank, claimRank,
      missingLocalDisks_of_same rfl rfl (cluster.objects_afterCall (by simp [Call.part?]))
        (cluster.sameSurroundings_afterCall _),
      pendingSteps, names, localDisks, pendingFilesystemCondition, owned,
      filesystemCondition_map keeps, Cluster.storageClass?,
      cluster.storageClasses_afterCall (by simp [Call.part?]), pendingSteps,
      pendingFilesystemCondition, Cluster.storageClass?, standing]
    simp
  · rcases (cluster.answer _ (.patchSpec .filesystem fs.key spec)).2 with failure | _
    · exact goesOn_error _ _
    · exact goesOn_of_ne _ _ (by simp)

theorem falls_ensureFileSystem
    (succeeds : filesystemFails refuses cluster fsc = false) :
    Ensures (lowering refuses fsc.key pick cluster) (ensureFileSystem fsc)
      (GoesOn cluster (filesystemGoesOn cluster fsc = true)) cluster := by
  have possible : isConditionTrue fsc .localDiskCreated = true →
      ownedBy cluster fsc .localDisk ≠ [] →
      (ownedBy cluster fsc .filesystem = [] →
        (cluster.object? .filesystem ⟨fsc.metadata.ns, fsc.metadata.name⟩).isSome =
            false ∧
          (refuses cluster (.create .filesystem (ownedObject fsc fsc.metadata.name
            (wantedFilesystemSpec cluster fsc)))).isSome = false) ∧
      ¬1 < (ownedBy cluster fsc .filesystem).length := by
    intro created some
    rw [filesystemFails, created, List.isEmpty_eq_false_iff.mpr some, Bool.not_false,
      Bool.true_and, Bool.true_and, Bool.or_eq_false_iff, decide_eq_false_iff_not]
      at succeeds
    refine succeeds.imp_left fun possible none => ?_
    rwa [none, List.isEmpty_nil, Bool.true_and, Bool.or_eq_false_iff] at possible
  refine ensures_ensureFileSystem_exits admitsReads_lowering
    (fun fails => absurd fails not_failsReads_lowering) (fun skipped _ => ⟨rfl, ?_⟩)
    (fun created some none => ?_) (fun fs _ _ owned => ⟨fun same _ => ⟨rfl, ?_⟩,
      fun _ => falls_patchFilesystem stored standing fs _⟩) fun created some several => ?_
  · rcases skipped with notCreated | none
    · rw [filesystemGoesOn, notCreated, Bool.not_false, Bool.true_or, Bool.true_or]
    · rw [filesystemGoesOn, none, List.isEmpty_nil, Bool.or_true, Bool.true_or]
  · obtain ⟨free, accepted⟩ := (possible created some).1 none
    exact falls_createFilesystem stored standing none (by simpa using free) accepted
  · simp [filesystemGoesOn, owned, same]
  · exact absurd several (possible created some).2

/-! ### The StorageClass -/

/-- A pass may go on to `Ready`. -/
abbrev readyFalls
    (refuses : Refusals) (fsc : FileSystemClaim) (pick : Nat) (start : Cluster)
    (result : Except Failure Bool) (final : Cluster) : Prop :=
  result = .ok false → Ensures (lowering refuses fsc.key pick start) (syncFSCReady fsc)
    (fun _ _ => True) final

theorem falls_createStorageClass
    (none : cluster.storageClass? fsc.metadata.name = .none)
    (accepted : (refuses cluster
      (.createStorageClass (wantedStorageClass fsc))).isSome = false) :
    Ensures (lowering refuses fsc.key pick cluster) (createStorageClass fsc)
      (readyFalls refuses fsc pick cluster) cluster := by
  have harmless := not_mayFail_of_accepted
    (@decided_of_lowering refuses fsc.key pick cluster) accepted
  have free : cluster.storageClass? (wantedStorageClass fsc).name = .none := none
  generalize state_eq :
    cluster.afterCall (.createStorageClass (wantedStorageClass fsc)) = state
  have same : SameSteps cluster state fsc :=
    state_eq ▸ sameSteps_afterCall fsc fun kind => by simp [Call.part?]
  have stored' : state.claim? fsc.key = some fsc := by
    rw [← state_eq, cluster.claim?_afterCall (by simp [Call.part?]), stored]
  have created : (state.storageClass? fsc.metadata.name).isNone = false := by
    rw [← state_eq]
    exact congrArg Option.isNone (cluster.storageClass?_createStorageClass free)
  have falls : ∀ {conditionType : ConditionType} {status : ConditionStatus}
      {reason : Reason} {message : String}, conditionType ≠ .deviceValidated →
      conditionType ≠ .localDiskCreated → conditionType ≠ .fileSystemCreated →
      AdmitsReport (lowering refuses fsc.key pick cluster) state fsc conditionType status reason
        message := by
    intro _ _ _ _ notValidation notLocalDisks notFilesystem
    refine admitsReport_of_steps stored stored' standing notValidation same.missing
      fun _ later patched after reported => ?_
    refine pendingSteps_lt_of_storageClass_created ?_ ?_ ?_ (by simp [none])
      (by rw [after.storageClass?, created])
    · rw [after.keepsLocalDiskCondition reported notValidation notLocalDisks,
        same.localDisks]
    · rw [after.ownedBy, same.filesystems]
    · rw [after.pendingFilesystemCondition reported notFilesystem, same.condition]
  rw [ensures_bind, ensures_attempt]
  refine ensures_request (lowers_of_lt ?_) (fun pick' => ?_)
    (fun _ _ mayFail => absurd mayFail (harmless _))
    fun _ _ mayFail => absurd mayFail (harmless _)
  · rw [state_eq, rank_of_stored stored', rank_of_stored stored]
    exact claimRank_lt_of_steps standing standing rfl same.missing
      (pendingSteps_lt_of_storageClass_created same.localDisks same.filesystems
        same.condition (by simp [none]) created)
  · have answered : (cluster.answer pick' (.createStorageClass
        (wantedStorageClass fsc))).2 = .ok () := by
      simp only [Cluster.answer, Cluster.createStorageClass, free]
    rw [answered, onSuccess_ok, state_eq]
    refine ensures_updateCondition (fun _ _ => ?_) fun changes => ?_
    · exact ensures_syncFSCReady_exits (fun _ => trivial) fun changes =>
        ensures_reportCondition admitsReads_lowering (falls (by simp) (by simp) (by simp))
          stored' (keepsReady_eq fsc ▸ changes) fun _ _ _ => trivial
    · exact ensures_reportCondition admitsReads_lowering
        (falls (by simp) (by simp) (by simp)) stored' changes
        fun _ _ ends goesOn => absurd goesOn ends

theorem falls_repairStorageClass
    {current : StorageClass}
    (found : cluster.storageClass? fsc.metadata.name = some current) :
    Ensures (lowering refuses fsc.key pick cluster) (repairStorageClass fsc current)
      (readyFalls refuses fsc pick cluster) cluster := by
  have named : (withRelevantFields current (wantedStorageClass fsc)).name =
      fsc.metadata.name := (Registry.find?_eq_some found).2
  generalize state_eq : cluster.afterCall (.patchStorageClass
    (withRelevantFields current (wantedStorageClass fsc))) = state
  have same : SameSteps cluster state fsc :=
    state_eq ▸ sameSteps_afterCall fsc fun kind => by simp [Call.part?]
  have stored' : state.claim? fsc.key = some fsc := by
    rw [← state_eq, cluster.claim?_afterCall (by simp [Call.part?]), stored]
  have present : (state.storageClass? fsc.metadata.name).isNone =
      (cluster.storageClass? fsc.metadata.name).isNone := by
    have patched := cluster.storageClass?_patchStorageClass (named ▸ found)
    rw [state_eq, named] at patched
    rw [patched, found]
    rfl
  have steps : pendingSteps state fsc = pendingSteps cluster fsc := by
    rw [pendingSteps, same.localDisks, same.filesystems, same.condition, present,
      pendingSteps]
  have refused : ∀ (failure : Failure) (final : Cluster),
      readyFalls refuses fsc pick cluster (.error failure) final := by
    rintro failure final ⟨⟩
  simp only [ensures_bind, ensures_mapError]
  refine ensures_request (lowers_of_le (le_of_eq ?_) rfl) (fun pick' => ?_)
    (fun _ _ _ => refused _ _) fun _ _ _ => refused _ _
  · rw [state_eq, rank_of_stored stored', rank_of_stored stored, claimRank, steps,
      same.missing, standing, claimRank, standing]
    rfl
  · have answered : (cluster.answer pick' (.patchStorageClass
        (withRelevantFields current (wantedStorageClass fsc)))).2 = .ok () := by
      simp only [Cluster.answer, Cluster.patchStorageClass, named, found]
    rw [answered, state_eq]
    simp only [Except.mapError, onSuccess_ok, ensures_bind]
    refine ensures_updateCondition (fun _ => ?_) fun changes => ?_
    · rintro ⟨⟩
    refine ensures_reportCondition admitsReads_lowering (admitsReport_of_steps stored
      stored' standing (by simp) same.missing fun _ later patched after reported => ?_)
      stored' changes ?_
    · exact (pendingSteps_lt_of_storageClass after reported changes).trans_eq steps
    · rintro (failure | _) final _
      · rintro ⟨⟩
      · rintro ⟨⟩

theorem falls_ensureStorageClass
    (succeeds : storageClassFails refuses cluster fsc = false) :
    Ensures (lowering refuses fsc.key pick cluster) (ensureStorageClass fsc)
      (readyFalls refuses fsc pick cluster) cluster := by
  have ready : readyFalls refuses fsc pick cluster (.ok false) cluster :=
    fun _ => falls_syncFSCReady stored standing
  refine ensures_ensureStorageClass_exits admitsReads_lowering
    (fun fails => absurd fails not_failsReads_lowering) (fun _ => ready)
    (fun created none => falls_createStorageClass stored standing none ?_)
    (fun current _ _ _ => ⟨fun _ => ready, fun changes => ?_⟩)
    fun current _ found _ => falls_repairStorageClass stored standing found
  · simpa [storageClassFails, created, none] using succeeds
  exact ensures_reportCondition admitsReads_lowering
    (admitsReport_storageClass stored standing) stored changes
    fun _ _ ends goesOn => absurd goesOn ends

end Steps

end FusionAccess
