import FusionAccess.Controller.TeardownContracts
import FusionAccess.Interaction.Run
import Mathlib.Tactic.SplitIfs

/-!
# The backoff of a blocked deletion

A blocked deletion is tried again after a delay that grows with the age of the
condition that reports the block. The condition is written anew whenever its
message changes, and then counts as new.
-/

namespace FusionAccess

open Kubernetes Interaction Fallible

/-! ## A pass that is blocked -/

/-- The deletion of the claim is blocked for a reason, with a message. -/
structure Blocked
    (cluster : Cluster) (fsc : FileSystemClaim) (reason : Reason) (message : String) :
    Prop where
  deleting : isDeleting fsc = true
  present : hasFinalizer fsc = true
  marked : hasConditionWithReason fsc.conditions .ready .deletionRequested = true
  wanted : wantedBlock cluster fsc = some (reason, message)

section Exits

variable {C : Contract apiServer} {fsc : FileSystemClaim} {cluster : Cluster}
  {reason : Reason} {message : String}

/-- The exits of `blockDeletion`. -/
theorem ensures_blockDeletion_exits
    {post : Except Failure Verdict → Cluster → Prop}
    (admits : AdmitsReads C)
    (report : AdmitsReports C fsc)
    (stored : cluster.claim? fsc.key = some fsc)
    (kept : keepsCondition fsc .deletionBlocked .isTrue reason message = true →
      post (.ok ⟨calculateDeletionBackoff fsc reason cluster.clock, false⟩) cluster)
    (written : keepsCondition fsc .deletionBlocked .isTrue reason message = false →
      ∀ final, final = cluster.afterCall (.patchClaimStatus fsc.key fsc.conditions
        (withCondition .deletionBlocked .isTrue reason message cluster.clock fsc).conditions) →
        post (.ok ⟨calculateDeletionBackoff fsc reason final.clock, true⟩) final ∧
          ∀ err, post (.error err) final)
    (failed : ∀ err, post (.error err) cluster) :
    Ensures C (blockDeletion fsc reason message) post cluster := by
  unfold blockDeletion
  rw [ensures_bind]
  refine ensures_updateConditionIfChanged admits stored (fun keeps => ?_)
    (fun _ => report _ _ _) (fun changes => ?_) (fun err _ _ _ => failed err)
    fun err _ _ _ changes => (written changes _ rfl).2 err
  · rw [onSuccess_ok, ensures_bind]
    exact ensures_local (admits _ _ rfl) rfl rfl fun _ => kept keeps
  · rw [onSuccess_ok, ensures_bind]
    exact ensures_local (admits _ _ rfl) rfl rfl fun _ => (written changes _ rfl).1

/-- A blocked teardown blocks the deletion and nothing else. -/
theorem ensures_handleDeletion_blocked
    {post : Except Failure Verdict → Cluster → Prop}
    (admits : AdmitsReads C)
    (blocked : Blocked cluster fsc reason message)
    (block : Ensures C (blockDeletion fsc reason message)
      (fun result final => EndsPass result ∧ post result final) cluster)
    (failed : ∀ err, post (.error err) cluster) :
    Ensures C (handleDeletion fsc) post cluster := by
  have ends : ∀ (next : Verdict → Act Verdict) (result : Except Failure Verdict)
      (final : Cluster), EndsPass result ∧ post result final →
        onSuccess
          (fun verdict => Ensures C
            (if verdict.stops = true then return verdict else next verdict) post)
          post result final := by
    rintro next (failure | verdict) final ⟨stops, holds⟩
    · exact holds
    · rw [onSuccess_ok, if_pos (stops verdict rfl)]
      exact holds
  have blocks : ∀ (next : Verdict → Act Verdict) other text, wantedBlock cluster fsc = some (other, text) →
      Ensures C (blockDeletion fsc other text)
        (onSuccess (fun verdict => Ensures C
          (if verdict.stops = true then return verdict else next verdict) post) post)
        cluster := by
    intro next other text wanted
    rw [blocked.wanted] at wanted
    cases wanted
    exact block.mono (ends next)
  unfold handleDeletion markDeletionRequested
  rw [if_neg (by simp [blocked.deleting]), if_neg (by simp [blocked.present]), ensures_bind,
    if_neg (by simp [blocked.marked]), ensures_pure, onSuccess_ok, if_neg (by simp),
    ensures_bind]
  refine ensures_checkStorageClassUsage_exits admits (blocks _) (fun _ => failed)
    fun unused => ?_
  rw [onSuccess_ok, if_neg (by simp [Verdict.stops]), ensures_bind]
  refine ensures_checkFilesystemDeletionLabel_exits admits unused (blocks _)
    (fun _ => failed) fun released => ?_
  have none := wantedBlock_of_released unused released
  rw [blocked.wanted] at none
  cases none

/-- A pass on a claim whose deletion is blocked returns the backoff, and at most
writes the condition. -/
theorem ensures_reconcile_blocked
    {r : FileSystemClaimReconciler} {key : NamespacedName}
    {post : Except Failure Result → Cluster → Prop}
    (stored : cluster.claim? key = some fsc)
    (blocked : Blocked cluster fsc reason message)
    (kept : keepsCondition fsc .deletionBlocked .isTrue reason message = true →
      post (.ok ⟨calculateDeletionBackoff fsc reason cluster.clock⟩) cluster)
    (written : keepsCondition fsc .deletionBlocked .isTrue reason message = false →
      ∀ final, final = cluster.afterCall (.patchClaimStatus fsc.key fsc.conditions
        (withCondition .deletionBlocked .isTrue reason message cluster.clock fsc).conditions) →
        post (.ok ⟨calculateDeletionBackoff fsc reason final.clock⟩) final ∧
          ∀ err, post (.error err) final)
    (failed : ∀ err, post (.error err) cluster) :
    Ensures free (reconcile r key) post cluster := by
  refine ensures_reconcile admitsReads_free (fun missing => ?_) (fun other found => ?_)
    fun err _ _ _ => failed err
  · rw [stored] at missing
    cases missing
  rw [stored] at found
  cases found
  have named : cluster.claim? fsc.key = some fsc := by
    rw [show fsc.key = key from (Registry.find?_eq_some stored).2]
    exact stored
  unfold reconcileClaim handleFinalizers
  rw [if_pos blocked.deleting, ensures_bind, ensures_pure, onSuccess_ok,
    if_neg (by simp), ensures_bind]
  refine ensures_handleDeletion_blocked admitsReads_free blocked ?_ failed
  have stops : ∀ clock changed,
      EndsPass (.ok ⟨calculateDeletionBackoff fsc reason clock, changed⟩) := by
    intro clock changed
    have positive := calculateDeletionBackoff_pos fsc reason clock
    exact endsPass_ok (by simp [Verdict.stops, positive])
  have returns : ∀ clock changed final,
      post (.ok ⟨calculateDeletionBackoff fsc reason clock⟩) final →
        onSuccess (fun deletion : Verdict => Ensures free
          (if deletion.requeueAfter > 0 then return ⟨deletion.requeueAfter⟩
          else if deletion.changed then return ⟨r.requeueDelay⟩
          else do
            let provisioned ← provision fsc
            if provisioned then return ⟨r.requeueDelay⟩
            else do
              let ready ← syncFSCReady fsc
              if ready then return ⟨r.requeueDelay⟩
              else return {}) post) post
          (.ok ⟨calculateDeletionBackoff fsc reason clock, changed⟩) final := by
    intro clock changed final holds
    rw [onSuccess_ok, if_pos (calculateDeletionBackoff_pos fsc reason clock)]
    exact holds
  refine ensures_blockDeletion_exits admitsReads_free (fun _ _ _ => trivial) named
    (fun keeps => ⟨stops _ _, returns _ _ _ (kept keeps)⟩) (fun changes final after => ?_)
    fun err => ⟨endsPass_error err, failed err⟩
  obtain ⟨succeeded, lost⟩ := written changes final after
  exact ⟨⟨stops _ _, returns _ _ _ succeeded⟩, fun err => ⟨endsPass_error err, lost err⟩⟩

end Exits

/-! ## The delays of a run -/

/-- Time brings no shorter delay. -/
theorem calculateDeletionBackoff_mono
    (fsc : FileSystemClaim) (reason : Reason) {now later : Nat} (order : now ≤ later) :
    calculateDeletionBackoff fsc reason now ≤ calculateDeletionBackoff fsc reason later := by
  unfold calculateDeletionBackoff
  split
  · exact Nat.le_refl _
  · dsimp only
    split_ifs <;> omega

theorem le_calculateDeletionBackoff
    (fsc : FileSystemClaim) (reason : Reason) (now : Nat) :
    30 ≤ calculateDeletionBackoff fsc reason now := by
  unfold calculateDeletionBackoff
  grind

theorem calculateDeletionBackoff_of_conditions
    {first second : FileSystemClaim} (same : first.conditions = second.conditions)
    (reason : Reason) (now : Nat) :
    calculateDeletionBackoff first reason now =
      calculateDeletionBackoff second reason now := by
  rw [calculateDeletionBackoff, same, calculateDeletionBackoff]

/-- The delay that a pass on the claim would return now. -/
def delayNow (key : NamespacedName) (reason : Reason) (cluster : Cluster) : Nat :=
  match cluster.claim? key with
  | some fsc => calculateDeletionBackoff fsc reason cluster.clock
  | none => 30

/-- Between the passes time goes by, and nobody else writes the conditions of the
claim. -/
def timePasses (key : NamespacedName) (before after : Cluster) : Prop :=
  before.clock ≤ after.clock ∧
    (after.claim? key).map FileSystemClaim.conditions =
      (before.claim? key).map FileSystemClaim.conditions

section Delays

variable {r : FileSystemClaimReconciler} {key : NamespacedName} {reason : Reason}

/-- A pass on the claim, whose deletion is blocked for the reason. -/
def IsBlocked (key : NamespacedName) (reason : Reason)
    (pass : Pass apiServer NamespacedName) : Prop :=
  pass.index = key ∧ ∃ fsc message, pass.start.claim? key = some fsc ∧
    Blocked pass.start fsc reason message

/-- The condition has the message that the pass wants to report, or it is not yet
reported for this reason, or reported for less than thirty seconds. -/
def KeepsAge (key : NamespacedName) (reason : Reason)
    (pass : Pass apiServer NamespacedName) : Prop :=
  ∀ fsc message, pass.start.claim? key = some fsc →
    wantedBlock pass.start fsc = some (reason, message) →
      keepsCondition fsc .deletionBlocked .isTrue reason message = true ∨
        calculateDeletionBackoff fsc reason pass.start.clock = 30

/-- The delays returned by the passes that succeed. -/
def delays (r : FileSystemClaimReconciler)
    (passes : List (Pass apiServer NamespacedName)) : List Nat :=
  passes.filterMap fun pass =>
    match (pass.outcome (reconciler r)).value with
    | .ok result => some result.requeueAfter
    | .error _ => none

theorem le_delayNow (cluster : Cluster) : 30 ≤ delayNow key reason cluster := by
  unfold delayNow
  split
  · exact le_calculateDeletionBackoff _ reason _
  · exact Nat.le_refl _

theorem delayNow_of_conditions
    {before after : Cluster}
    (ticks : before.clock ≤ after.clock)
    (same : (after.claim? key).map FileSystemClaim.conditions =
      (before.claim? key).map FileSystemClaim.conditions) :
    delayNow key reason before ≤ delayNow key reason after := by
  unfold delayNow
  cases earlier : before.claim? key with
  | none => exact @le_delayNow key reason after
  | some fsc =>
      rw [earlier] at same
      cases later : after.claim? key with
      | none =>
          rw [later] at same
          cases same
      | some fsc' =>
          rw [later] at same
          have conditions : fsc'.conditions = fsc.conditions := Option.some_inj.mp same
          dsimp only
          rw [calculateDeletionBackoff_of_conditions conditions]
          exact calculateDeletionBackoff_mono fsc reason ticks

/-- A blocked pass returns the delay of its start, and keeps the age of the
condition. -/
theorem delay_of_blocked
    {pass : Pass apiServer NamespacedName}
    (blocked : IsBlocked key reason pass) (keeps : KeepsAge key reason pass) :
    (∀ result, (pass.outcome (reconciler r)).value = .ok result →
        result.requeueAfter = delayNow key reason pass.start) ∧
      delayNow key reason pass.start ≤
        delayNow key reason (pass.outcome (reconciler r)).state := by
  obtain ⟨rfl, fsc, message, stored, blocked⟩ := blocked
  have now : delayNow pass.index reason pass.start =
      calculateDeletionBackoff fsc reason pass.start.clock := by
    rw [delayNow, stored]
  have ensures : Ensures free (reconcile r pass.index)
      (fun outcome final =>
        (∀ result, outcome = .ok result →
            result.requeueAfter = delayNow pass.index reason pass.start) ∧
          delayNow pass.index reason pass.start ≤ delayNow pass.index reason final)
      pass.start := by
    refine ensures_reconcile_blocked stored blocked ?_ ?_ ?_
    · intro _
      refine ⟨fun result returned => ?_, Nat.le_refl _⟩
      cases returned
      exact now.symm
    · intro changes final after
      have ticks : final.clock = pass.start.clock := by
        rw [after]
        exact Cluster.clock_patchClaimStatus _ _ _
      have young := (keeps fsc message stored blocked.wanted).resolve_left (by simp [changes])
      have rises : delayNow pass.index reason pass.start ≤
          delayNow pass.index reason final := by
        rw [now, young]
        exact le_delayNow final
      refine ⟨⟨fun result returned => ?_, rises⟩, fun err => ⟨by simp, rises⟩⟩
      cases returned
      rw [now, ticks]
    · exact fun err => ⟨by simp, Nat.le_refl _⟩
  exact (passLog_of_ensures ensures fun _ _ => trivial).2

/-- In every run of passes on a claim whose deletion stays blocked for the same reason,
the delays do not shrink, provided that no pass finds the condition thirty seconds old
or older with another message than it wants to report. -/
theorem backoff_never_shrinks
    {initial state : Cluster} {passes : List (Pass apiServer NamespacedName)}
    (run : Run (reconciler r) (timePasses key) initial passes state)
    (blocked : ∀ pass ∈ passes, IsBlocked key reason pass)
    (keeps : ∀ pass ∈ passes, KeepsAge key reason pass) :
    (delays r passes).Pairwise (· ≤ ·) := by
  have rising := (run.rises (fun _ _ moved => delayNow_of_conditions moved.1 moved.2)
    fun pass member => (delay_of_blocked (blocked pass member) (keeps pass member)).2).1
  refine List.pairwise_filterMap.mpr (rising.imp_of_mem ?_)
  intro earlier later first second order delay returned delay' returned'
  have value : ∀ pass ∈ passes, ∀ delay,
      (match (pass.outcome (reconciler r)).value with
        | .ok result => some result.requeueAfter
        | .error _ => none) = some delay →
        delay = delayNow key reason pass.start := by
    intro pass member delay returned
    cases outcome : (pass.outcome (reconciler r)).value with
    | error err =>
        rw [outcome] at returned
        cases returned
    | ok result =>
        rw [outcome] at returned
        cases returned
        exact (delay_of_blocked (blocked pass member) (keeps pass member)).1 result outcome
  rw [value earlier first delay returned, value later second delay' returned']
  exact order

end Delays

/-! ## Two volumes -/

/-- The claim after its deletion was requested. -/
def markedClaim : FileSystemClaim :=
  { readyClaim with
    metadata := { readyClaim.metadata with deletionTimestamp := some 0 }
    conditions := (withCondition .ready .isFalse .deletionRequested deletionMessage 0
      readyClaim).conditions }

/-- A volume of the StorageClass. -/
def namedVolume (name : String) : PersistentVolume where
  name := name
  storageClassName := "fs"
  phase := .bound

/-- The volumes in the order of their names. -/
def inOrder : List PersistentVolume := [namedVolume "a", namedVolume "b"]

/-- A cluster in which they are in use. -/
def usedCluster : Cluster :=
  { readyCluster with claims := [markedClaim], persistentVolumes := inOrder }

/-- The first pass on the claim. -/
def firstBlocked : Pass apiServer NamespacedName := ⟨readyKey, calm, usedCluster⟩

/-- A pass ten minutes later, with the volumes in the given order. -/
def secondBlocked (volumes : List PersistentVolume) : Pass apiServer NamespacedName :=
  ⟨readyKey, calm, { (firstBlocked.outcome (reconciler {})).state with
    persistentVolumes := volumes, clock := 600 }⟩

/-- A pass right after this one. -/
def thirdBlocked (volumes : List PersistentVolume) : Pass apiServer NamespacedName :=
  ⟨readyKey, calm, ((secondBlocked volumes).outcome (reconciler {})).state⟩

theorem run_blocked (volumes : List PersistentVolume) :
    Run (reconciler {}) (timePasses readyKey) usedCluster
      [firstBlocked, secondBlocked volumes, thirdBlocked volumes]
      ((thirdBlocked volumes).outcome (reconciler {})).state := by
  have first : Run (reconciler {}) (timePasses readyKey) usedCluster [firstBlocked] _ :=
    Run.pass (.start : Run _ _ usedCluster [] usedCluster) firstBlocked.index
      firstBlocked.choices
  have early : (firstBlocked.outcome (reconciler {})).state.clock ≤ 600 := by decide
  have waited := first.move (show timePasses readyKey _ (secondBlocked volumes).start from
    ⟨early, rfl⟩)
  exact (waited.pass _ (secondBlocked volumes).choices).pass _ (thirdBlocked volumes).choices

/-- The volumes block the deletion in either order. -/
theorem isBlocked_of_volumes
    {volumes : List PersistentVolume} (either : volumes ∈ [inOrder, inOrder.reverse]) :
    ∀ pass ∈ [firstBlocked, secondBlocked volumes, thirdBlocked volumes],
      IsBlocked readyKey .storageClassInUse pass := by
  intro pass member
  simp only [List.mem_cons, List.not_mem_nil, or_false] at either member
  rcases either with rfl | rfl <;> rcases member with rfl | rfl | rfl
  all_goals exact ⟨rfl, _, _, rfl, by decide, by decide, by decide, rfl⟩

/-- With the volumes in the same order the delays do not shrink. -/
theorem backoff_never_shrinks_inOrder :
    (delays {} [firstBlocked, secondBlocked inOrder, thirdBlocked inOrder]).Pairwise
      (· ≤ ·) := by
  refine @backoff_never_shrinks {} readyKey .storageClassInUse _ _ _ (run_blocked inOrder)
    (isBlocked_of_volumes (List.mem_cons_self)) ?_
  intro pass member fsc message stored wanted
  simp only [List.mem_cons, List.not_mem_nil, or_false] at member
  rcases member with rfl | rfl | rfl
  all_goals
    cases stored
    cases wanted
    decide

/-- In another order they do, although the volumes are the same. -/
theorem backoff_shrinks :
    Run (reconciler {}) (timePasses readyKey) usedCluster
        [firstBlocked, secondBlocked inOrder.reverse, thirdBlocked inOrder.reverse]
        ((thirdBlocked inOrder.reverse).outcome (reconciler {})).state ∧
      (∀ pass ∈ [firstBlocked, secondBlocked inOrder.reverse, thirdBlocked inOrder.reverse],
        IsBlocked readyKey .storageClassInUse pass) ∧
      ¬(delays {} [firstBlocked, secondBlocked inOrder.reverse,
        thirdBlocked inOrder.reverse]).Pairwise (· ≤ ·) := by
  refine ⟨run_blocked _, isBlocked_of_volumes (by simp), ?_⟩
  have returned : delays {} [firstBlocked, secondBlocked inOrder.reverse,
      thirdBlocked inOrder.reverse] = [30, 480, 30] := by decide
  rw [returned]
  decide

end FusionAccess
