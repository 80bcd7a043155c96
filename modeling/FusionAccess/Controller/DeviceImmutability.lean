import FusionAccess.Controller.InterruptedCreation
import FusionAccess.Interaction.OneAtATime

/-!
# Devices of claims with LocalDisks

The webhook and the controller both keep the devices of a claim from changing
once it has LocalDisks. The webhook decides from the condition of the LocalDisks,
the controller from the LocalDisks themselves. In between, while a pass is about
to create LocalDisks and while there are some that are not recorded yet, the
webhook admits updates that the controller will object to.
-/

namespace FusionAccess

open Kubernetes Interaction Fallible

/-! ## What may happen to a claim -/

/-- Passes of the controller that take turns with all others. -/
abbrev TurnsOfPasses : Type :=
  Interleaving apiServer NamespacedName (Except Failure Result)

/-- What is left of a pass that is creating LocalDisks: it has read a version of the
claim whose LocalDisks are to be created, and has not left `ensureLocalDisks`. -/
def IsCreating
    (key : NamespacedName) (rest : Program kubernetes (Except Failure Result)) : Prop :=
  ∃ fsc left continuation, fsc.key = key ∧ startsCreation fsc = true ∧
    (ensureLocalDisks fsc).run.Residual left ∧ left.ended = false ∧
      rest = left >>= continuation

/-- A pass on the claim is creating LocalDisks. -/
def CreatesNow (key : NamespacedName) (current : TurnsOfPasses) : Prop :=
  ∃ task ∈ current.tasks, IsCreating key task.rest

/-- When a pass reads the claim, the claim has the operator's finalizer if it is being
deleted; and if its LocalDisks are to be created and there are none, they can be
created for all devices, or for none, on whichever storage node is drawn. -/
def Creatable (key : NamespacedName) (cluster : Cluster) : Prop :=
  ∀ fsc ∈ cluster.claim? key,
    (isDeleting fsc = true → hasFinalizer fsc = true) ∧
      CreatesAllOrNone exactly cluster fsc

instance (key : NamespacedName) (cluster : Cluster) : Decidable (Creatable key cluster) :=
  inferInstanceAs (Decidable (∀ fsc ∈ cluster.claim? key, (_ → _) ∧ _))

/-- What may happen next. Passes on the claim start one after another, a call fails
only where it leaves the claim with all its LocalDisks or with none, and in between
others make any moves that leave the claim and its LocalDisks alone. The devices
may be updated, if the webhook admits it, except that their set stays the same
while the claim owns LocalDisks and is not touched while LocalDisks are created. -/
def Admits
    (r : FileSystemClaimReconciler) (key : NamespacedName) (current : TurnsOfPasses) :
    Turn apiServer NamespacedName → Prop
  | .launch index => index = key ∧ current.Idle
  | .step position choice => ∀ index request next,
      current.tasks[position]? = some ⟨index, .call request next⟩ →
        (request.remote = true → choice.fault ≠ .none →
          Whole exactly key (serve choice current.state request).1) ∧
        (Program.call request next = reconciler r key → Creatable key current.state)
  | .move change =>
      LeavesAlone key current.state (change current.state) ∧
          (CreatesNow key current → Undisturbing key current.state (change current.state)) ∨
        updatesDevices key current.state (change current.state) ∧
          RetainsDevices key current.state (change current.state) ∧ ¬CreatesNow key current

/-! ## A pass that is under way -/

/-- The contract of a pass at its end: the claim is settled. -/
abbrev EndsSettled
    (key : NamespacedName) (rest : Program kubernetes (Except Failure Result))
    (state : Cluster) : Prop :=
  Program.Ensures (interrupted key (Tolerated key)) rest
    (fun _ final => Settled key final) state

/-- What is known of a pass that is under way: it has not read the claim yet, it is
creating LocalDisks, or it creates none any more. -/
inductive Reconciling
    (r : FileSystemClaimReconciler) (key : NamespacedName)
    (rest : Program kubernetes (Except Failure Result)) (state : Cluster) : Prop
  | fresh (same : rest = reconciler r key) (settled : Settled key state)
  | creating {fsc : FileSystemClaim}
      {left : Program kubernetes (Except Failure Bool)}
      {continuation : Except Failure Bool → Program kubernetes (Except Failure Result)}
      (named : fsc.key = key)
      (starts : startsCreation fsc = true)
      (residual : (ensureLocalDisks fsc).run.Residual left)
      (goesOn : left.ended = false)
      (same : rest = left >>= continuation)
      (ensures : Program.Ensures (interrupted key (Undisturbing key)) left
        (fun value final => EndsSettled key (continuation value) final) state)
  | calm (ensures : EndsSettled key rest state)

section Reconciling

variable {r : FileSystemClaimReconciler} {key : NamespacedName} {state : Cluster}
  {rest : Program kubernetes (Except Failure Result)}

/-- `Reconcile` once the claim is read or could not be read. -/
abbrev afterRead (r : FileSystemClaimReconciler) :
    Except Failure FileSystemClaim → Act Result
  | .error err => if err.reason = .notFound then return {} else throw err
  | .ok fsc => reconcileClaim r fsc

theorem reconciler_eq_call (r : FileSystemClaimReconciler) (key : NamespacedName) :
    reconciler r key = .call (.getClaim key) fun reply => (afterRead r reply).run := by
  have reads : reconcile r key = (request (.getClaim key)).attempt >>= afterRead r := by
    unfold reconcile
    congr 1
    funext reply
    cases reply <;> rfl
  rw [reconciler, reads]
  rfl

/-- What a pass does after `ensureLocalDisks`. -/
abbrev restOfPass
    (r : FileSystemClaimReconciler) (fsc : FileSystemClaim) (wrote : Bool) :
    Act Result := do
  let provisioned ← (if wrote then return true else afterLocalDisks fsc)
  if provisioned then return ⟨r.requeueDelay⟩
  else do
    let ready ← syncFSCReady fsc
    if ready then return ⟨r.requeueDelay⟩
    else return {}

theorem reconcileClaim_eq_ensureLocalDisks
    {fsc : FileSystemClaim}
    (live : isDeleting fsc = false)
    (finalized : hasFinalizer fsc = true) :
    reconcileClaim r fsc = ensureLocalDisks fsc >>= restOfPass r fsc := by
  rw [reconcileClaim_eq_provision (fun leaving => by simp [live] at leaving)
    (Or.inr finalized)]
  unfold provision
  rw [bind_assoc]

/-- After `ensureLocalDisks` a settled claim stays settled, whatever its result. -/
theorem endsSettled_restOfPass
    {fsc : FileSystemClaim}
    (result : Except Failure Bool)
    (settled : Settled fsc.key state) :
    EndsSettled fsc.key
      (ExceptT.bindCont (restOfPass r fsc) result : Program kubernetes _) state := by
  cases result with
  | error failure => exact settled
  | ok wrote =>
      have interrupts := interrupts_tolerated fsc.key
      have reports : AllowsReports (interrupted fsc.key (Tolerated fsc.key))
          (Settled fsc.key) fsc reportsReady :=
        interrupts.allowsReports (fun _ _ reported => by cases reported.1) (by
          rintro _ _ ⟨_, rfl | rfl⟩ <;> simp)
      have provisions : Safe (interrupted fsc.key (Tolerated fsc.key)) (Settled fsc.key)
          (if wrote then return true else afterLocalDisks fsc) :=
        safeThen_ite (fun _ => safe_pure true)
          fun _ => safe_afterLocalDisks_interrupted interrupts
      have rest : Safe (interrupted fsc.key (Tolerated fsc.key)) (Settled fsc.key)
          (restOfPass r fsc wrote) :=
        provisions.andThen fun _ _ => safeThen_ite (fun _ => safe_pure _) fun _ =>
          (safe_syncFSCReady reports).andThen fun _ _ =>
            safeThen_ite (fun _ => safe_pure _) fun _ => safe_pure _
      exact Ensures.mono (rest state settled) fun _ _ ensured => ensured.2

theorem Reconciling.of_residual
    {fsc : FileSystemClaim} {left : Program kubernetes (Except Failure Bool)}
    {continuation : Except Failure Bool → Program kubernetes (Except Failure Result)}
    (named : fsc.key = key)
    (starts : startsCreation fsc = true)
    (residual : (ensureLocalDisks fsc).run.Residual left)
    (ensures : Program.Ensures (interrupted key (Undisturbing key)) left
      (fun value final => EndsSettled key (continuation value) final) state) :
    Reconciling r key (left >>= continuation) state := by
  cases left with
  | done value => exact .calm ensures
  | call request next => exact .creating named starts residual rfl rfl ensures

/-- A change that the claim tolerates is no obstacle at the end of a pass. -/
theorem EndsSettled.move
    {after : Cluster}
    (ends : EndsSettled key rest state)
    (moved : Tolerated key state after) :
    EndsSettled key rest after :=
  ensures_of_moves (interrupts_tolerated key) (fun _ _ _ moved => moved.settled) moved ends

/-- A pass on a claim that is settled when it is read. -/
theorem underway_reconcileClaim
    {fsc : FileSystemClaim}
    (settled : Settled key state)
    (creatable : Creatable key state)
    (stored : state.claim? key = some fsc) :
    Reconciling r key (reconcileClaim r fsc).run state := by
  have named := key_of_claim? stored
  subst named
  obtain ⟨retains, creation⟩ := creatable fsc stored
  have interrupts := interrupts_tolerated fsc.key
  cases deleting : isDeleting fsc with
  | true =>
      have gone : Gone fsc.key state := by
        intro cur found
        rw [stored] at found
        cases found
        exact deleting
      refine .calm (Ensures.mono (safe_reconcileClaim_of_teardown deleting
        (safe_handleDeletion deleting (retains deleting) allowsTeardown_interrupted)
        state gone) fun _ _ ensured => ensured.2.settled)
  | false =>
      cases finalized : hasFinalizer fsc with
      | false =>
          refine .calm (ensures_reconcileClaim_of_unfinalized deleting finalized ?_)
          refine Ensures.mono (safe_patchFSCSpec_of_calls
            (readsSafely_interrupted interrupts.settled) (fun original modified =>
              (safe_request_interrupted interrupts.settled rfl fun _ settled =>
                settled.patchClaimFinalizers _ _ _).safe) state settled) ?_
          exact fun _ _ ensured => ensured.2
      | true =>
          rw [reconcileClaim_eq_ensureLocalDisks deleting finalized]
          cases starts : startsCreation fsc with
          | true =>
              refine Reconciling.of_residual rfl starts .start (Ensures.mono
                (ensures_ensureLocalDisks_creating settled stored starts creation) ?_)
              exact fun result _ settled => endsSettled_restOfPass result settled
          | false =>
              refine .calm ((Program.ensures_bind _ _ _ _).mpr (Ensures.mono
                (ensures_ensureLocalDisks_calm settled stored deleting finalized starts) ?_))
              exact fun result _ settled => endsSettled_restOfPass result settled

/-- A change between two calls of a pass. -/
theorem Reconciling.move
    {after : Cluster}
    (underway : Reconciling r key rest state)
    (tolerated : Tolerated key state after)
    (undisturbing : IsCreating key rest → Undisturbing key state after) :
    Reconciling r key rest after := by
  cases underway with
  | fresh same settled => exact .fresh same (tolerated.settled settled)
  | creating named starts residual goesOn same ensures =>
      refine .creating named starts residual goesOn same (ensures_of_moves
        (interrupts_undisturbing key) ?_ (undisturbing ?_) ensures)
      · exact fun _ _ _ moved ends => ends.move (tolerated_of_leavesAlone moved.alone)
      · exact ⟨_, _, _, named, starts, residual, goesOn, same⟩
  | calm ends => exact .calm (ends.move tolerated)

/-- A call of a pass reports no modification, and the pass is still under way. -/
theorem Reconciling.step
    {request : Call}
    {next : Except Failure request.Yield → Program kubernetes (Except Failure Result)}
    (underway : Reconciling r key (.call request next) state)
    (choice : Choice)
    (whole : request.remote = true → choice.fault ≠ .none →
      Whole exactly key (serve choice state request).1)
    (creatable : Program.call request next = reconciler r key → Creatable key state) :
    reportsModification request = false ∧
      Reconciling r key (next (serve choice state request).2) (serve choice state request).1 := by
  cases underway with
  | fresh same settled =>
      have isCreatable := creatable same
      rw [reconciler_eq_call] at same
      cases same
      refine ⟨rfl, ?_⟩
      have unchanged : (serve choice state (.getClaim key)).1 = state := by
        rcases serve_state choice state (.getClaim key) with carriedOut | same
        · rw [carriedOut, state.afterCall_of_isRead rfl]
        · exact same
      rw [unchanged]
      cases reply : (serve choice state (.getClaim key)).2 with
      | error failure =>
          refine .calm ?_
          change Ensures (interrupted key (Tolerated key)) (afterRead r (.error failure))
            (fun _ final => Settled key final) state
          simp only [afterRead, ensures_ite, ensures_pure, ensures_throw]
          exact ⟨fun _ => settled, fun _ => settled⟩
      | ok fsc =>
          refine underway_reconcileClaim settled isCreatable ?_
          have answered := answer_of_serve_ok reply
          simp only [Cluster.answer] at answered
          split at answered
          next claim stored =>
            cases answered
            exact stored
          next => cases answered
  | @creating fsc left continuation named starts residual goesOn same ensures =>
      cases left with
      | done value => cases goesOn
      | call issued rest =>
          rw [Program.call_bind] at same
          cases same
          refine ⟨ensures.1, ?_⟩
          exact Reconciling.of_residual named starts (residual.call _)
            (ensures.2 ⟨state, choice⟩ ⟨(interrupts_undisturbing key).refl state, whole⟩)
  | calm ends =>
      exact ⟨ends.1, .calm (ends.2 ⟨state, choice⟩ ⟨Tolerated.refl key state, whole⟩)⟩

/-- A pass that has ended has left the claim settled. -/
theorem Reconciling.settled
    {value : Except Failure Result}
    (underway : Reconciling r key (.done value) state) :
    Settled key state := by
  cases underway with
  | fresh same _ =>
      rw [reconciler_eq_call] at same
      cases same
  | @creating fsc left continuation _ _ _ goesOn same _ =>
      cases left with
      | done value => cases goesOn
      | call issued rest => cases same
  | calm ends => exact ends

end Reconciling

/-- However the calls of passes on a claim, admitted updates of its devices and
moves of others take turns, the controller never reports that the devices were
modified: as long as the devices are not updated while LocalDisks are created, their
set is retained while the claim has LocalDisks, LocalDisks can be created for all
devices or for none, and calls fail only on whole claims. -/
theorem webhook_and_controller_agree
    (r : FileSystemClaimReconciler)
    (key : NamespacedName)
    {initial : Cluster}
    (settled : Settled key initial)
    {current : TurnsOfPasses}
    (reached : Reached (reconciler r) (Admits r key) initial current) :
    ∀ occurrence ∈ current.log, reportsModification occurrence.event.request = false := by
  have tolerated : ∀ current change, Admits r key current (.move change) →
      Tolerated key current.state (change current.state) := by
    rintro current change (⟨alone, _⟩ | ⟨updates, retains, _⟩)
    · exact tolerated_of_leavesAlone alone
    · exact tolerated_of_updatesDevices updates retains
  refine @Reached.oneAtATime _ _ _ _ _ _ _ (Settled key)
    (fun index rest state => index = key ∧ Reconciling r key rest state)
    (fun occurrence => reportsModification occurrence.event.request = false) _ reached
    settled ?_ ?_ (fun _ _ _ ends => ends.2.settled)
    (fun current change admits settled => (tolerated current change admits).settled settled) ?_
  · rintro current index ⟨rfl, idle⟩
    exact ⟨idle, fun settled => ⟨rfl, .fresh rfl settled⟩⟩
  · rintro current index request next position choice _ found admits ⟨named, underway⟩
    obtain ⟨whole, creatable⟩ := admits index request next found
    obtain ⟨silent, goesOn⟩ := underway.step choice whole creatable
    exact ⟨silent, named, goesOn⟩
  · rintro current index rest change ⟨_, earlier, tasks, _⟩ admits ⟨named, underway⟩
    refine ⟨named, underway.move (tolerated current change admits) fun creates => ?_⟩
    have createsNow : CreatesNow key current :=
      ⟨⟨index, rest⟩, by simp [tasks], creates⟩
    rcases admits with ⟨_, undisturbing⟩ | ⟨_, _, notNow⟩
    · exact undisturbing createsNow
    · exact absurd createsNow notNow

/-- A step without a failing call. -/
theorem admits_step
    {r : FileSystemClaimReconciler} {key : NamespacedName} {current : TurnsOfPasses}
    (position : Nat)
    (creatable : Creatable key current.state) :
    Admits r key current (.step position {}) :=
  fun _ _ _ _ => ⟨fun _ faulty => absurd rfl faulty, fun _ => creatable⟩

/-- While no pass is under way none creates LocalDisks. -/
theorem not_createsNow_of_idle
    {key : NamespacedName} {current : TurnsOfPasses} (idle : current.Idle) :
    ¬CreatesNow key current := by
  rintro ⟨task, member, fsc, left, continuation, _, _, _, goesOn, same⟩
  cases left with
  | done value => cases goesOn
  | call request next =>
      have ended := idle task member
      rw [same, Program.call_bind] at ended
      cases ended

/-- A report of the storage product leaves the claim alone. -/
theorem undisturbing_of_reportsLocalDisks
    {before after : Cluster}
    (key : NamespacedName)
    (reports : reportsLocalDisks before after) :
    Undisturbing key before after := by
  obtain ⟨ldKey, conditions, filesystem, rfl⟩ := reports
  refine ⟨⟨fun new found => Or.inr ⟨new, found, Cluster.SameSpec.refl new, rfl⟩,
    fun fsc _ => ?_⟩, ⟨rfl, rfl, rfl⟩, fun name => ?_⟩
  · simp only [devicesOf, ownedBy, Cluster.objects, List.filter_filter]
    exact Registry.map_filter_amend (fun _ => rfl) fun _ => rfl
  · have same : localDiskNames (before.reportLocalDisk ldKey conditions filesystem) =
        localDiskNames before := Registry.map_key_amend fun _ same => same
    rw [same]

/-- A claim whose user chooses another disk before there are LocalDisks. -/
def undecidedCluster : Cluster :=
  { readyCluster with
    claims := [{
      metadata := readyClaim.metadata
      devices := ["/dev/sdc"]
      conditions := [{
        type := .deviceValidated, status := .isTrue
        reason := .deviceValidationSucceeded }] }]
    localDisks := []
    filesystems := []
    storageClasses := [] }

/-- The LocalDisk of the claim becomes ready. -/
def becomesReady (cluster : Cluster) : Cluster :=
  cluster.reportLocalDisk ⟨"ibm-spectrum-scale", "uuid.1"⟩
    [metCondition .ready, metCondition .used] "fs"

/-- The devices are updated, a pass creates the LocalDisk, and this becomes ready
between two calls of the next pass. -/
def updateInTurn : List (Turn apiServer NamespacedName) :=
  [.move (·.updateDevices readyKey ["/dev/sdb"]), .launch readyKey] ++
    List.replicate 10 (.step 0 {}) ++ [.launch readyKey, .step 1 {}, .move becomesReady] ++
      List.replicate 6 (.step 1 {})

/-- An update before the LocalDisks are created is not reported, and the LocalDisk for the
new device is recorded when it has become ready. -/
theorem webhook_and_controller_agree_before_creation :
    (∀ occurrence ∈ (interleave (reconciler {}) undecidedCluster updateInTurn).log,
      reportsModification occurrence.event.request = false) ∧
    ((interleave (reconciler {}) undecidedCluster updateInTurn).state.claim? readyKey).any
      (isConditionTrue · .localDiskCreated) = true := by
  refine ⟨@webhook_and_controller_agree {} readyKey undecidedCluster
    ⟨by decide, by decide⟩ _ ?_, by decide⟩
  unfold interleave updateInTurn
  simp only [List.foldl_append, List.foldl_cons, List.foldl_nil]
  have begun : Reached (S := apiServer) (reconciler {}) (Admits {} readyKey)
    undecidedCluster { state := undecidedCluster } := .start
  have updated := begun.turn (.move (·.updateDevices readyKey ["/dev/sdb"]))
    (.inr ⟨⟨_, ["/dev/sdb"], rfl, by decide, rfl⟩, fun old new stored _ => ?_,
      not_createsNow_of_idle (by decide)⟩)
  · have created := (updated.turn (.launch readyKey) ⟨rfl, by decide⟩).steps 0 {} 10
      fun taken fewer => admits_step 0 ?_
    · have read := (created.turn (.launch readyKey) ⟨rfl, by decide⟩).turn (.step 1 {})
        (admits_step 1 (by decide))
      have ready := read.turn (.move becomesReady)
        (.inl ⟨(undisturbing_of_reportsLocalDisks _ ⟨_, _, _, rfl⟩).alone,
          fun _ => undisturbing_of_reportsLocalDisks _ ⟨_, _, _, rfl⟩⟩)
      refine ready.steps 1 {} 6 fun taken fewer => admits_step 1 ?_
      revert taken
      decide
    · revert taken
      decide
  · cases stored
    exact Or.inl (by decide)

/-! ## Updates that the controller objects to -/

/-- Passes on the claim start one after another, no call fails, and others make the
given moves. -/
def Ordinarily
    (key : NamespacedName) (moves : Cluster → Cluster → Prop) (current : TurnsOfPasses) :
    Turn apiServer NamespacedName → Prop
  | .launch index => index = key ∧ current.Idle
  | .step _ choice => choice.fault = .none
  | .move change => moves current.state (change current.state)

/-- A claim whose LocalDisk is created but not ready yet. -/
def unrecordedCluster : Cluster :=
  { readyCluster with
    claims := [{
      metadata := readyClaim.metadata
      devices := ["/dev/sdb"]
      conditions := [
        { type := .deviceValidated, status := .isTrue
          reason := .deviceValidationSucceeded },
        { type := .localDiskCreated, status := .isFalse
          reason := .localDiskCreationInProgress }] }]
    localDisks := [ownedObject readyClaim "uuid.1" (localDiskSpec "/dev/sdb" "node")]
    filesystems := []
    storageClasses := [] }

/-- The webhook admits other devices, the LocalDisk becomes ready and is
recorded, and the next pass reports that the devices were modified. -/
theorem modification_reported :
    ¬ ∀ initial, Settled readyKey initial → ∀ current : TurnsOfPasses,
      Reached (reconciler {}) (Ordinarily readyKey fun before after =>
        updatesDevices readyKey before after ∨ reportsLocalDisks before after)
        initial current →
      ∀ occurrence ∈ current.log, reportsModification occurrence.event.request = false := by
  intro agree
  have begun : Reached (S := apiServer) (reconciler {}) (Ordinarily readyKey fun before after =>
      updatesDevices readyKey before after ∨ reportsLocalDisks before after)
    unrecordedCluster { state := unrecordedCluster } := .start
  have updated := begun.turn (.move (·.updateDevices readyKey ["/dev/sdc"]))
    (.inl ⟨_, ["/dev/sdc"], rfl, by decide, rfl⟩)
  have ready := updated.turn (.move becomesReady) (.inr ⟨_, _, _, rfl⟩)
  have recorded := (ready.turn (.launch readyKey) ⟨rfl, by decide⟩).steps 0 {} 6
    fun _ _ => rfl
  have objected := (recorded.turn (.launch readyKey) ⟨rfl, by decide⟩).steps 1 {} 5
    fun _ _ => rfl
  have silent := agree unrecordedCluster ⟨by decide, by decide⟩ _ objected
  revert silent
  decide

/-- An update between the read of the claim and the creation of its LocalDisk is
admitted as well, with the same end. -/
theorem modification_reported_under_way :
    ¬ ∀ initial, Settled readyKey initial → ∀ current : TurnsOfPasses,
      Reached (reconciler {}) (Ordinarily readyKey fun before after =>
        updatesDevices readyKey before after ∧ RetainsDevices readyKey before after ∨
          reportsLocalDisks before after)
        initial current →
      ∀ occurrence ∈ current.log, reportsModification occurrence.event.request = false := by
  intro agree
  have begun : Reached (S := apiServer) (reconciler {}) (Ordinarily readyKey fun before after =>
      updatesDevices readyKey before after ∧ RetainsDevices readyKey before after ∨
        reportsLocalDisks before after)
    (undecidedCluster.updateDevices readyKey ["/dev/sdb"])
    { state := undecidedCluster.updateDevices readyKey ["/dev/sdb"] } := .start
  have read := (begun.turn (.launch readyKey) ⟨rfl, by decide⟩).turn (.step 0 {}) rfl
  have updated := read.turn (.move (·.updateDevices readyKey ["/dev/sdc"]))
    (.inl ⟨⟨_, ["/dev/sdc"], rfl, by decide, rfl⟩, fun old new stored _ => ?_⟩)
  · have ready := (updated.steps 0 {} 9 fun _ _ => rfl).turn (.move becomesReady)
      (.inr ⟨_, _, _, rfl⟩)
    have recorded := (ready.turn (.launch readyKey) ⟨rfl, by decide⟩).steps 1 {} 6
      fun _ _ => rfl
    have objected := (recorded.turn (.launch readyKey) ⟨rfl, by decide⟩).steps 2 {} 5
      fun _ _ => rfl
    have silent := agree _ ⟨by decide, by decide⟩ _ objected
    revert silent
    decide
  · cases stored
    exact Or.inl (by decide)

end FusionAccess
