import FusionAccess.Controller.ConditionHistory
import FusionAccess.Controller.DeletionBackoff

/-!
# Blocks that are over

Two checks of the teardown report a block. None of the steps behind them, and
nothing else in the controller, ever takes the report back.
-/

namespace FusionAccess

open Kubernetes Interaction Fallible

/-! ## Claims without a reported block -/

/-- The stored claim does not report that its deletion is blocked. -/
def ReportsNoBlock (key : NamespacedName) (cluster : Cluster) : Prop :=
  ∀ fsc, cluster.claim? key = some fsc → ¬RecordsTrue fsc.conditions .deletionBlocked

section Calls

variable {key : NamespacedName} {cluster : Cluster}

theorem ReportsNoBlock.elsewhere
    {call : Call}
    (clear : ReportsNoBlock key cluster)
    (claims : call.part? ≠ some .claims) :
    ReportsNoBlock key (cluster.afterCall call) := by
  intro fsc stored
  rw [cluster.claim?_afterCall claims] at stored
  exact clear fsc stored

theorem ReportsNoBlock.patchClaimFinalizers
    (clear : ReportsNoBlock key cluster)
    (patched : NamespacedName) (original modified : List String) :
    ReportsNoBlock key (cluster.afterCall (.patchClaimFinalizers patched original modified)) := by
  intro fsc found
  obtain ⟨cur, stored, _, same⟩ := Cluster.claim?_patchClaimFinalizers found
  rw [same]
  exact clear cur stored

/-- A report about anything else reports no block. -/
theorem ReportsNoBlock.patchClaimStatus
    {patched : NamespacedName} {cur : FileSystemClaim} {modified : List Condition}
    {reports : ConditionType → ConditionStatus → Reason → Prop}
    (clear : ReportsNoBlock key cluster)
    (stored : cluster.claim? patched = some cur)
    (touches : Touches reports cur.conditions modified)
    (others : ∀ status reason, ¬reports .deletionBlocked status reason) :
    ReportsNoBlock key
      (cluster.afterCall (.patchClaimStatus patched cur.conditions modified)) := by
  intro fsc found
  by_cases named : key = patched
  · subst named
    obtain ⟨written, after, _, same⟩ := Cluster.claim?_patchClaimStatus_stored stored modified
    rw [after] at found
    cases found
    rw [same]
    rintro ⟨condition, reported, status⟩
    rcases touches.lookup .deletionBlocked with kept | ⟨_, _, admitted⟩
    · exact clear cur stored ⟨condition, kept ▸ reported, status⟩
    · exact others _ _ admitted
  · rw [Cluster.claim?_patchClaimStatus_of_ne named] at found
    exact clear fsc found

end Calls

/-! ## Passes -/

section Pass

variable {key : NamespacedName} {fsc : FileSystemClaim} {r : FileSystemClaimReconciler}

theorem safe_elsewhere_reportsNoBlock {call : Call} (claims : call.part? ≠ some .claims) :
    Safe free (ReportsNoBlock key) (request call) :=
  (safe_request (fun _ _ => trivial) fun _ clear => clear.elsewhere claims).safe

theorem allowsReports_reportsNoBlock
    {reports : ConditionType → ConditionStatus → Reason → Prop}
    (others : ∀ status reason, ¬reports .deletionBlocked status reason) :
    AllowsReports free (ReportsNoBlock key) fsc reports :=
  allowsReports_of_patch admitsReads_free fun _ _ _ clear stored touches =>
    ⟨trivial, clear.patchClaimStatus stored touches others⟩

/-- A pass that does not tear down reports no block. -/
theorem ensures_reconcileClaim_reportsNoBlock
    {cluster : Cluster}
    (goesOn : isDeleting fsc = true → hasFinalizer fsc = false)
    (clear : ReportsNoBlock key cluster) :
    Ensures free (reconcileClaim r fsc) (fun _ final => ReportsNoBlock key final)
      cluster := by
  have reads : ReadsSafely free (ReportsNoBlock key) := readsSafely_of_admits admitsReads_free
  have localDisks : Safe free (ReportsNoBlock key) (ensureLocalDisks fsc) :=
    safe_ensureLocalDisks reads
      (allowsReports_reportsNoBlock (by simp [reportsImmutable]))
      (allowsReports_reportsNoBlock (by simp [ofPass, reportsValidation]))
      (allowsReports_reportsNoBlock (by simp [ofPass, reportsFailure,
        ResourceType.conditionType]))
      fun _ _ _ => safe_elsewhere_reportsNoBlock (by simp [Call.part?])
  refine ensures_reconcileClaim_of_provision goesOn (fun _ => ?_) (fun _ => ?_) ?_ clear
  · exact safe_patchFSCSpec admitsReads_free fun _ _ clear _ =>
      ⟨trivial, clear.patchClaimFinalizers _ _ _⟩
  · exact ensures_provision_of_reports reads
      (fun _ others => (allowsReports_reportsNoBlock others).ofPass)
      ((localDisks cluster clear).mono fun _ _ ensured => ensured.2)
      (fun _ => safe_elsewhere_reportsNoBlock (by simp [Call.part?]))
      (fun _ _ => safe_elsewhere_reportsNoBlock (by simp [Call.part?]))
      (safe_elsewhere_reportsNoBlock (by simp [Call.part?]))
      fun _ => safe_elsewhere_reportsNoBlock (by simp [Call.part?])
  · exact safe_syncFSCReady (allowsReports_reportsNoBlock (by simp [reportsReady]))

/-- The contract by which calls report no block. -/
abbrev reportingNoBlock (key : NamespacedName) : Contract apiServer :=
  Contract.demand fun cluster call =>
    ReportsNoBlock key cluster → ReportsNoBlock key (cluster.afterCall call)

theorem admitsReads_reportingNoBlock : AdmitsReads (reportingNoBlock key) := by
  intro cluster call reads clear
  rw [cluster.afterCall_of_isRead reads]
  exact clear

/-- A report of the teardown about anything but a block is admitted. -/
theorem admitsReport_reportingNoBlock
    {cluster : Cluster} {conditionType : ConditionType} {status : ConditionStatus}
    {reason : Reason} {message : String}
    (stored : cluster.claim? fsc.key = some fsc)
    (other : conditionType ≠ .deletionBlocked) :
    AdmitsReport (reportingNoBlock key) cluster fsc conditionType status reason message := by
  intro _ clear
  exact @ReportsNoBlock.patchClaimStatus key cluster fsc.key fsc _
    (fun reported _ _ => reported = conditionType) clear stored
    ((Touches.refl _ _).withCondition rfl _ _) fun _ _ same => other same.symm

/-- A report on another claim reports no block of this one. -/
theorem admitsReport_reportingNoBlock_of_ne
    {cluster : Cluster} {conditionType : ConditionType} {status : ConditionStatus}
    {reason : Reason} {message : String}
    (different : key ≠ fsc.key) :
    AdmitsReport (reportingNoBlock key) cluster fsc conditionType status reason message := by
  intro _ clear other found
  rw [Cluster.claim?_patchClaimStatus_of_ne different] at found
  exact clear other found

/-- A teardown that nothing blocks reports no block. -/
theorem ensures_handleDeletion_reportingNoBlock
    {cluster : Cluster}
    (stored : cluster.claim? fsc.key = some fsc)
    (deleting : isDeleting fsc = true)
    (present : hasFinalizer fsc = true)
    (free : key = fsc.key →
      hasConditionWithReason fsc.conditions .ready .deletionRequested = true →
        wantedBlock cluster fsc = none) :
    Ensures (reportingNoBlock key) (handleDeletion fsc) (fun result _ => EndsPass result)
      cluster := by
  refine ensures_handleDeletion admitsReads_reportingNoBlock ?_ stored deleting present ?_
  · refine {
      marks := fun _ => admitsReport_reportingNoBlock stored (by simp)
      blocks := fun marked block wanted => ?_
      storageClass := fun _ _ => admitsReport_reportingNoBlock stored (by simp)
      filesystem := fun _ _ _ => admitsReport_reportingNoBlock stored (by simp)
      localDisks := fun _ _ _ _ => admitsReport_reportingNoBlock stored (by simp) }
    by_cases named : key = fsc.key
    · rw [free named marked] at wanted
      cases wanted
    · exact admitsReport_reportingNoBlock_of_ne named
  · exact {
      storageClass := fun _ clear => clear.elsewhere (by simp [Call.part?])
      filesystem := fun _ _ _ _ _ _ clear => clear.elsewhere (by simp [Call.part?])
      localDisks := fun _ _ _ _ _ _ _ _ clear => clear.elsewhere (by simp [Call.part?])
      finalizer := fun _ _ _ _ clear => clear.patchClaimFinalizers _ _ _ }

/-- If the pass is on the claim and gets to the blocking checks, they do not block. -/
def Unhindered (key : NamespacedName) (pass : Pass apiServer NamespacedName) : Prop :=
  pass.index = key → ∀ fsc, pass.start.claim? key = some fsc →
    isDeleting fsc = true → hasFinalizer fsc = true →
      hasConditionWithReason fsc.conditions .ready .deletionRequested = true →
        wantedBlock pass.start fsc = none

/-- A pass that is not blocked reports no block. -/
theorem reportsNoBlock_of_unhindered
    {pass : Pass apiServer NamespacedName}
    (unhindered : Unhindered key pass)
    (clear : ReportsNoBlock key pass.start) :
    ReportsNoBlock key (pass.outcome (reconciler r)).state := by
  by_cases leaving : ∃ fsc, pass.start.claim? pass.index = some fsc ∧
      isDeleting fsc = true ∧ hasFinalizer fsc = true
  · obtain ⟨fsc, found, deleting, present⟩ := leaving
    have named : fsc.key = pass.index := (Registry.find?_eq_some found).2
    have stored : pass.start.claim? fsc.key = some fsc := by rw [named, found]
    have teardown := @ensures_handleDeletion_reportingNoBlock key fsc pass.start stored
      deleting present fun same marked =>
        unhindered (by rw [same, named]) fsc (by rw [same, stored]) deleting present marked
    have ensures : Ensures (reportingNoBlock key) (reconcile r pass.index)
        (fun _ _ => True) pass.start := by
      refine ensures_reconcile admitsReads_reportingNoBlock (fun _ => trivial)
        (fun other found' => ?_) fun _ _ _ _ => trivial
      rw [found] at found'
      cases found'
      exact ensures_reconcileClaim_of_teardown deleting teardown
    have kept := (passLog_of_ensures ensures fun _ _ => trivial).1
    refine (Program.run_preserves fun event member holds => ?_).1 clear
    rcases after_cases event with carriedOut | unchanged
    · rw [carriedOut]
      exact kept event member holds
    · rwa [unchanged]
  · have ensures : Ensures free (reconcile r pass.index)
        (fun _ final => ReportsNoBlock key final) pass.start := by
      refine ensures_reconcile admitsReads_free (fun _ => clear) (fun fsc found => ?_)
        fun _ _ _ _ => clear
      refine ensures_reconcileClaim_reportsNoBlock (fun deleting => ?_) clear
      by_contra present
      exact leaving ⟨fsc, found, deleting, by simpa using present⟩
    exact (passLog_of_ensures ensures fun _ _ => trivial).2

end Pass

/-! ## Runs -/

/-- The pass tears the claim down, neither check blocks it, and no call fails. -/
def GoesPast
    (r : FileSystemClaimReconciler) (key : NamespacedName)
    (pass : Pass apiServer NamespacedName) : Prop :=
  pass.index = key ∧
    (∃ fsc, pass.start.claim? key = some fsc ∧ isDeleting fsc = true ∧
      hasFinalizer fsc = true ∧ isUnblocked pass.start fsc = true) ∧
    ∃ result, (pass.outcome (reconciler r)).value = .ok result

/-- After a pass that goes past both checks the claim reports no block. -/
def BlockTruthful
    (r : FileSystemClaimReconciler) (key : NamespacedName)
    (pass : Pass apiServer NamespacedName) : Prop :=
  GoesPast r key pass → ReportsNoBlock key (pass.outcome (reconciler r)).state

/-- Nobody but the controller reports that the deletion of the claim is blocked. -/
def LeavesBlocks (key : NamespacedName) (before after : Cluster) : Prop :=
  ReportsNoBlock key before → ReportsNoBlock key after

/-- In every run, as long as no pass on the claim has been blocked, every pass that
goes past both checks leaves no reported block behind. -/
theorem deletionBlocked_truthful
    (r : FileSystemClaimReconciler) (key : NamespacedName)
    {initial state : Cluster} {earlier later : List (Pass apiServer NamespacedName)}
    {pass : Pass apiServer NamespacedName}
    (run : Run (reconciler r) (LeavesBlocks key) initial (earlier ++ pass :: later) state)
    (initially : ReportsNoBlock key initial)
    (unhindered : ∀ before ∈ earlier, Unhindered key before) :
    BlockTruthful r key pass := by
  have clear := (run.split.1.invariant initially (fun _ _ leaves => leaves)
    (fun _ => reportsNoBlock_of_unhindered) unhindered).1
  rintro ⟨rfl, ⟨fsc, stored, _, _, unblocked⟩, _⟩
  refine reportsNoBlock_of_unhindered (fun _ other found _ _ _ => ?_) clear
  rw [stored] at found
  cases found
  rw [isUnblocked, Bool.and_eq_true, Bool.and_eq_true] at unblocked
  exact wantedBlock_of_released unblocked.1.2 unblocked.2

/-- A deleted claim without volumes whose Filesystem may be deleted. -/
def permittedCluster : Cluster :=
  { readyCluster with claims := [markedClaim], filesystems := [releasedFilesystem] }

/-- A pass that deletes the StorageClass. -/
def unclassing : Pass apiServer NamespacedName := ⟨readyKey, calm, permittedCluster⟩

/-- A pass that deletes the Filesystem. -/
def unfiling : Pass apiServer NamespacedName :=
  ⟨readyKey, calm, (unclassing.outcome (reconciler {})).state⟩

theorem reportsNoBlock_of_marked
    {cluster : Cluster} (claims : cluster.claims = [markedClaim]) :
    ReportsNoBlock readyKey cluster := by
  intro fsc stored
  rw [Cluster.claim?, claims] at stored
  cases stored
  rintro ⟨condition, found, _⟩
  cases found

/-- The second of two passes that nothing blocks. -/
theorem deletionBlocked_truthful_unfiling :
    ReportsNoBlock readyKey (unfiling.outcome (reconciler {})).state := by
  have first : Run (reconciler {}) (LeavesBlocks readyKey) permittedCluster [unclassing]
      unfiling.start :=
    Run.pass (.start : Run _ _ permittedCluster [] permittedCluster) unclassing.index
      unclassing.choices
  have second := first.pass unfiling.index unfiling.choices
  refine @deletionBlocked_truthful {} readyKey _ _ [unclassing] [] unfiling second
    (reportsNoBlock_of_marked rfl) ?_
    ⟨rfl, ⟨_, rfl, by decide, by decide, by decide⟩, _, rfl⟩
  rw [List.forall_mem_singleton]
  intro _ fsc stored _ _ _
  cases stored
  decide

/-- A pass after the volumes are gone and a user has permitted the deletion of the
Filesystem. -/
def unblockedPass : Pass apiServer NamespacedName :=
  ⟨readyKey, calm, { (firstBlocked.outcome (reconciler {})).state with
    persistentVolumes := [], filesystems := [releasedFilesystem] }⟩

/-- A block that is over is still reported. -/
theorem deletionBlocked_lingers :
    Run (reconciler {}) (LeavesBlocks readyKey) usedCluster [firstBlocked, unblockedPass]
        (unblockedPass.outcome (reconciler {})).state ∧
      ReportsNoBlock readyKey usedCluster ∧ ¬BlockTruthful {} readyKey unblockedPass := by
  refine ⟨?_, reportsNoBlock_of_marked rfl, fun truthful => ?_⟩
  · have first : Run (reconciler {}) (LeavesBlocks readyKey) usedCluster [firstBlocked] _ :=
      Run.pass (.start : Run _ _ usedCluster [] usedCluster) firstBlocked.index
        firstBlocked.choices
    have changed := first.move (show LeavesBlocks readyKey _ unblockedPass.start from id)
    exact changed.pass unblockedPass.index unblockedPass.choices
  · have past : GoesPast {} readyKey unblockedPass :=
      ⟨rfl, ⟨_, rfl, by decide, by decide, by decide⟩, _, rfl⟩
    have reported : ((unblockedPass.outcome (reconciler {})).state.claim? readyKey).map
        (fun fsc => (findStatusCondition fsc.conditions .deletionBlocked).map
          Condition.status) = some (some .isTrue) := by decide
    obtain ⟨fsc, stored, found⟩ := Option.map_eq_some_iff.mp reported
    obtain ⟨condition, first, status⟩ := Option.map_eq_some_iff.mp found
    exact truthful past fsc stored ⟨condition, first, status⟩

end FusionAccess
