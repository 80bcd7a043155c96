import FusionAccess.Controller.SettledClaims
import FusionAccess.Interaction.Interference

/-!
# Passes on a claim that are interrupted

Between any two calls of a pass others may change the cluster. What they may do
while LocalDisks are created for the claim is less than what they may do at other
times; a pass that finds a claim settled leaves it settled under both, and never
reports that the devices were modified.
-/

namespace FusionAccess

open Kubernetes Interaction Fallible

/-! ## What a pass may rely on -/

/-- The contract of a pass that is interrupted by the given moves: a call fails
only where it leaves the claim with all its LocalDisks or with none, and no call
reports a modification. -/
abbrev interrupted
    (key : NamespacedName) (moves : Cluster → Cluster → Prop) :
    Contract apiServer.shared where
  rely := fun state call choice => moves state choice.1 ∧
    (call.remote = true → choice.2.fault ≠ .none →
      Whole exactly key (serve choice.2 choice.1 call).1)
  guard := fun _ call => reportsModification call = false

/-- Moves that may come in any number, and that a claim tolerates. -/
structure Interrupts (key : NamespacedName) (moves : Cluster → Cluster → Prop) :
    Prop where
  refl : ∀ state, moves state state
  trans : ∀ first second third, moves first second → moves second third →
    moves first third
  tolerated : ∀ before after, moves before after → Tolerated key before after

theorem interrupts_tolerated (key : NamespacedName) : Interrupts key (Tolerated key) where
  refl := Tolerated.refl key
  trans := fun _ _ _ => Tolerated.trans
  tolerated := fun _ _ moved => moved

theorem interrupts_undisturbing (key : NamespacedName) :
    Interrupts key (Undisturbing key) where
  refl := fun state => {
    alone := ⟨fun new found => Or.inr ⟨new, found, Cluster.SameSpec.refl new, rfl⟩,
      fun _ _ => rfl⟩
    inventory := SameInventory.refl state
    names := fun _ => Iff.rfl }
  trans := by
    intro first second third earlier later
    refine ⟨⟨fun new found => ?_, fun fsc named =>
      (later.alone.localDisks fsc named).trans (earlier.alone.localDisks fsc named)⟩,
      earlier.inventory.trans later.inventory,
      fun name => (later.names name).trans (earlier.names name)⟩
    rcases later.alone.claim new found with deleting | ⟨between, stored, spec, conditions⟩
    · exact Or.inl deleting
    rcases earlier.alone.claim between stored with
      deleting | ⟨old, storedOld, spec', conditions'⟩
    · rw [isDeleting, spec.deletionTimestamp]
      exact Or.inl deleting
    · exact Or.inr ⟨old, storedOld, spec'.trans spec, conditions.trans conditions'⟩
  tolerated := fun _ _ moved => tolerated_of_leavesAlone moved.alone

section Rules

variable {key : NamespacedName} {moves : Cluster → Cluster → Prop}
  {invariant : Cluster → Prop}

/-- A move is no obstacle to a pass that is under way. -/
theorem ensures_of_moves {α : Type}
    {rest : Program kubernetes α} {post : α → Cluster → Prop} {before after : Cluster}
    (interrupts : Interrupts key moves)
    (stable : ∀ value before after, moves before after → post value before →
      post value after)
    (moved : moves before after)
    (ensures : Program.Ensures (interrupted key moves) rest post before) :
    Program.Ensures (interrupted key moves) rest post after := by
  cases rest with
  | done value => exact stable value before after moved ensures
  | call request next =>
      refine ⟨ensures.1, fun choice relied => ensures.2 choice ⟨?_, relied.2⟩⟩
      exact interrupts.trans _ _ _ moved relied.1

/-- A call of an interrupted pass: a move, and then the call is answered, or fails
and leaves the claim whole. -/
theorem ensures_request_interrupted
    {call : Call} {post : Except Failure call.Yield → Cluster → Prop} {state : Cluster}
    (guarded : reportsModification call = false)
    (success : ∀ before pick, moves state before →
      post (before.answer pick call).2 (before.afterCall call))
    (failed : ∀ before (failure : Failure) final, failure.Transient → moves state before →
      (final = before ∨ final = before.afterCall call) → Whole exactly key final →
        post (.error failure) final) :
    Ensures (interrupted key moves) (request call) post state := by
  refine ⟨guarded, ?_⟩
  rintro ⟨before, choice⟩ ⟨moved, whole⟩
  change post (serve choice before call).2 (serve choice before call).1
  rcases serve_cases choice before call with
    served | ⟨faulty, remote, ⟨failure, transient, served⟩ | ⟨failure, unspecified, served⟩⟩
  · rw [served]
    exact success before choice.pick moved
  · have isWhole := whole remote faulty
    rw [served] at isWhole ⊢
    exact failed before failure before transient moved (Or.inl rfl) isWhole
  · have isWhole := whole remote faulty
    rw [served] at isWhole ⊢
    exact failed before failure _ (by simp [Failure.Transient, unspecified]) moved
      (Or.inr rfl) isWhole

/-- A read of an interrupted pass. -/
theorem ensures_read_interrupted
    {call : Call} {post : Except Failure call.Yield → Cluster → Prop} {state : Cluster}
    (reads : call.isRead = true)
    (success : ∀ before pick, moves state before → post (before.answer pick call).2 before)
    (failed : ∀ before (failure : Failure), failure.Transient → moves state before →
      Whole exactly key before → post (.error failure) before) :
    Ensures (interrupted key moves) (request call) post state := by
  refine ensures_request_interrupted (reportsModification_of_not_patch ?_)
    (fun before pick moved => ?_) fun before failure final transient moved either whole => ?_
  · cases call <;> simp_all [Call.isRead, isStatusPatch]
  · rw [before.afterCall_of_isRead reads]
    exact success before pick moved
  · rw [before.afterCall_of_isRead reads, or_self] at either
    subst either
    exact failed final failure transient moved whole

/-- A call that keeps an invariant, as the moves do. -/
theorem safe_request_interrupted
    {call : Call}
    (stable : ∀ before after, moves before after → invariant before → invariant after)
    (guarded : reportsModification call = false)
    (carriedOut : ∀ state, invariant state → invariant (state.afterCall call)) :
    SafeThen (interrupted key moves) invariant (request call) (Honest call) := by
  intro state holds
  refine ensures_request_interrupted guarded (fun before pick moved => ?_)
    fun before failure final _ moved either _ => ⟨honest_error call failure, ?_⟩
  · exact ⟨honest_answer pick before call, carriedOut before (stable _ _ moved holds)⟩
  · rcases either with same | same <;> subst same
    · exact stable _ _ moved holds
    · exact carriedOut before (stable _ _ moved holds)

theorem readsSafely_interrupted
    (stable : ∀ before after, moves before after → invariant before → invariant after) :
    ReadsSafely (interrupted key moves) invariant := by
  intro call reads
  refine safe_request_interrupted stable (reportsModification_of_not_patch ?_)
    fun state holds => ?_
  · cases call <;> simp_all [Call.isRead, isStatusPatch]
  · rw [state.afterCall_of_isRead reads]
    exact holds

/-- Retries keep what each attempt keeps. -/
theorem ensures_retryOnConflict_of_all {α : Type}
    {S : Server kubernetes} {C : Contract S} {attempted : Act α}
    {post : Except Failure α → S.State → Prop}
    (holds : S.State → Prop)
    (steps : Nat)
    (keeps : ∀ result final, post result final → holds final)
    (attempt : ∀ state, holds state → Ensures C attempted post state)
    (state : S.State)
    (initially : holds state) :
    Ensures C (retryOnConflict attempted (steps + 1)) post state := by
  induction steps generalizing state with
  | zero => exact attempt state initially
  | succ steps inductionHypothesis =>
      rw [retryOnConflict, ensures_bind, ensures_attempt]
      refine (attempt state initially).mono ?_
      rintro (failure | value) final known
      · simp only [onSuccess_ok, ensures_ite]
        exact ⟨fun _ => inductionHypothesis final (keeps _ _ known), fun _ => known⟩
      · exact known

/-- A step keeps the invariant, and leaves the claim whole where it fails. -/
def FailsOnWhole {α : Type}
    (key : NamespacedName) (invariant : Cluster → Prop)
    (result : Except Failure α) (final : Cluster) : Prop :=
  invariant final ∧ ∀ failure, result = .error failure → Whole exactly key final

theorem failsOnWhole_ok {α : Type} {value : α} {final : Cluster} (holds : invariant final) :
    FailsOnWhole key invariant (.ok value) final :=
  ⟨holds, fun _ impossible => by cases impossible⟩

theorem failsOnWhole_error {α : Type}
    {failure : Failure} {final : Cluster}
    (holds : invariant final)
    (whole : Whole exactly key final) :
    FailsOnWhole key invariant (.error failure : Except Failure α) final :=
  ⟨holds, fun _ _ => whole⟩

/-- A claim that is not stored is whole. -/
theorem whole_of_none
    {F : Fitting} {state : Cluster} (none : state.claim? key = none) :
    Whole F key state := by
  intro cur stored
  rw [none] at stored
  cases stored

/-- A status patch works on the conditions that the pass has read. -/
theorem ensures_patchFSCStatus_interrupted
    {fsc : FileSystemClaim} {mutate : Nat → FileSystemClaim → FileSystemClaim}
    {reports : ConditionType → ConditionStatus → Reason → Prop} {state : Cluster}
    (interrupts : Interrupts fsc.key moves)
    (stable : ∀ before after, moves before after → invariant before → invariant after)
    (other : ∀ status reason, reports .ready status reason →
      reason ≠ .immutableFieldModified)
    (touches : ∀ now cur, Touches reports cur.conditions (mutate now cur).conditions)
    (patched : ∀ (state : Cluster) (cur : FileSystemClaim) (modified : List Condition),
      invariant state → Seen fsc.key cur state → Touches reports cur.conditions modified →
        invariant (state.afterCall (.patchClaimStatus fsc.key cur.conditions modified)))
    (holds : invariant state) :
    Ensures (interrupted fsc.key moves) (patchFSCStatus fsc mutate)
      (FailsOnWhole fsc.key invariant) state := by
  refine @ensures_retryOnConflict_of_all _ apiServer.shared _ _ _ invariant 4
    (fun _ _ known => known.1)
    (fun state holds => ?_) state holds
  rw [ensures_bind]
  refine ensures_read_interrupted rfl (fun before pick moved => ?_)
    fun before failure _ moved whole => failsOnWhole_error (stable _ _ moved holds) whole
  have holds := stable _ _ moved holds
  cases stored : before.claim? fsc.key with
  | none =>
      simp only [Cluster.answer, stored]
      exact failsOnWhole_error holds (whole_of_none stored)
  | some cur =>
      simp only [Cluster.answer, stored, onSuccess_ok, ensures_bind]
      have seen : Seen fsc.key cur before := by
        intro new found
        rw [stored] at found
        cases found
        exact Or.inr rfl
      refine ensures_read_interrupted rfl (fun next pick moved => ?_)
        fun next failure _ moved whole => failsOnWhole_error (stable _ _ moved holds) whole
      have holds := stable _ _ moved holds
      have seen := (interrupts.tolerated _ _ moved).seen seen
      simp only [Cluster.answer, onSuccess_ok]
      have touched := touches next.clock cur
      refine ensures_request_interrupted (reportsModification_of_touches touched other)
        (fun last pick moved => ?_)
        fun last failure final _ moved either whole => failsOnWhole_error ?_ whole
      · have holds := stable _ _ moved holds
        have seen := (interrupts.tolerated _ _ moved).seen seen
        have kept := patched last cur _ holds seen touched
        cases found : last.claim? fsc.key with
        | none =>
            refine ⟨kept, fun _ _ => fun cur stored => ?_⟩
            obtain ⟨old, storedOld, _⟩ :=
              Cluster.keepsSpec_patchClaimStatus fsc.key _ _ _ cur stored
            rw [found] at storedOld
            cases storedOld
        | some new =>
            have answered : (last.answer pick (.patchClaimStatus fsc.key cur.conditions
                (mutate next.clock cur).conditions)).2 = .ok () := by
              simp only [Cluster.answer, Cluster.patchClaimStatus, found]
              split <;> rfl
            rw [answered]
            exact failsOnWhole_ok kept
      · have holds := stable _ _ moved holds
        have seen := (interrupts.tolerated _ _ moved).seen seen
        rcases either with same | same <;> subst same
        · exact holds
        · exact patched last cur _ holds seen touched

/-- What all status patches of a pass keep. -/
theorem allowsReports_interrupted
    {fsc : FileSystemClaim}
    {reports : ConditionType → ConditionStatus → Reason → Prop}
    (interrupts : Interrupts fsc.key moves)
    (stable : ∀ before after, moves before after → invariant before → invariant after)
    (other : ∀ status reason, reports .ready status reason →
      reason ≠ .immutableFieldModified)
    (patched : ∀ (state : Cluster) (cur : FileSystemClaim) (modified : List Condition),
      invariant state → Seen fsc.key cur state → Touches reports cur.conditions modified →
        invariant (state.afterCall (.patchClaimStatus fsc.key cur.conditions modified))) :
    AllowsReports (interrupted fsc.key moves) invariant fsc reports :=
  fun _ touches _ holds => (ensures_patchFSCStatus_interrupted interrupts stable other
    touches patched holds).mono fun _ _ known => ⟨trivial, known.1⟩

end Rules

/-! ## Passes on a settled claim -/

section Settled

variable {fsc : FileSystemClaim} {moves : Cluster → Cluster → Prop}
  (interrupts : Interrupts fsc.key moves)

include interrupts

theorem Interrupts.settled
    (before after : Cluster) (moved : moves before after) (settled : Settled fsc.key before) :
    Settled fsc.key after :=
  (interrupts.tolerated before after moved).settled settled

/-- Reports that do not say that the LocalDisks are there keep the claim settled. -/
theorem Interrupts.allowsReports
    {reports : ConditionType → ConditionStatus → Reason → Prop}
    (denies : ∀ status reason, reports .localDiskCreated status reason → status = .isFalse)
    (other : ∀ status reason, reports .ready status reason →
      reason ≠ .immutableFieldModified) :
    AllowsReports (interrupted fsc.key moves) (Settled fsc.key) fsc reports :=
  allowsReports_interrupted interrupts interrupts.settled other
    fun _ _ _ settled seen touches => settled.patchClaimStatus seen touches
      fun status reason reported => Or.inl (denies status reason reported)

/-- A call that writes neither claims nor LocalDisks keeps the claim settled. -/
theorem Interrupts.safe_request
    {call : Call}
    (claims : call.part? ≠ some .claims)
    (localDisks : call.part? ≠ some (.objects .localDisk)) :
    Safe (interrupted fsc.key moves) (Settled fsc.key) (request call) := by
  refine (safe_request_interrupted interrupts.settled ?_
    fun _ settled => settled.afterCall claims localDisks).safe
  cases call <;> first | rfl | exact absurd rfl claims

/-- The claim is settled and owns LocalDisks. -/
def SettledWithDisks (fsc : FileSystemClaim) (state : Cluster) : Prop :=
  Settled fsc.key state ∧ ownedBy state fsc .localDisk ≠ []

theorem Interrupts.settledWithDisks
    (before after : Cluster) (moved : moves before after)
    (listed : SettledWithDisks fsc before) :
    SettledWithDisks fsc after :=
  ⟨interrupts.settled _ _ moved listed.1,
    owned_of_devicesOf_eq ((interrupts.tolerated _ _ moved).localDisks fsc rfl) listed.2⟩

/-- The LocalDisks are reported as created where the claim owns some. -/
theorem safe_syncLocalDiskConditions_interrupted :
    Safe (interrupted fsc.key moves) (Settled fsc.key) (syncLocalDiskConditions fsc) := by
  refine @safe_syncLocalDiskConditions_of_listed _ _ _ fsc (SettledWithDisks fsc) ?_
    (safe_listOwnedResources (readsSafely_interrupted interrupts.settledWithDisks) fsc
      .filesystem) (fun _ listed => listed.1) ?_ ?_
  · intro state settled
    unfold listOwnedResources
    rw [ensures_bind, ensures_mapError]
    refine ensures_read_interrupted rfl (fun before pick moved => ?_)
      fun before failure _ moved _ =>
        ⟨interrupts.settled _ _ moved settled, fun _ impossible => by cases impossible⟩
    refine ⟨interrupts.settled _ _ moved settled, ?_⟩
    rintro owned equal some
    cases equal
    exact ⟨interrupts.settled _ _ moved settled, some⟩
  · exact interrupts.allowsReports (fun _ _ reported => reported.1.2)
      fun _ _ reported => by cases reported.1.1
  · refine allowsReports_interrupted interrupts interrupts.settledWithDisks
      (fun _ _ reported => by cases reported.1) ?_
    intro state cur modified listed seen touches
    refine ⟨listed.1.patchClaimStatus seen touches fun _ _ _ => Or.inr ?_, ?_⟩
    · intro new stored
      rw [ownedBy_of_key_eq (key_of_claim? stored)]
      exact listed.2
    · rw [ownedBy_afterCall (by simp [Call.part?])]
      exact listed.2

/-- What follows the creation of LocalDisks keeps the claim settled. -/
theorem safe_afterLocalDisks_interrupted :
    Safe (interrupted fsc.key moves) (Settled fsc.key) (afterLocalDisks fsc) := by
  have reads : ReadsSafely (interrupted fsc.key moves) (Settled fsc.key) :=
    readsSafely_interrupted interrupts.settled
  refine safe_afterLocalDisks
    (safe_syncLocalDiskConditions_interrupted interrupts) ?_ ?_ ?_
  · refine safe_ensureFileSystem reads (interrupts.allowsReports ?_ ?_)
      (fun _ => interrupts.safe_request (by simp [Call.part?]) (by simp [Call.part?]))
      fun _ _ => interrupts.safe_request (by simp [Call.part?]) (by simp [Call.part?])
    · exact fun _ _ reported => (reportsProgress_of_failure reported.1).1 rfl
    · exact fun _ _ reported => (reportsProgress_of_failure reported.1).2 rfl
  · exact safe_syncFilesystemConditions reads (interrupts.allowsReports
      (fun _ _ reported => by cases reported.1) fun _ _ reported => by cases reported.1)
  · refine safe_ensureStorageClass reads (interrupts.allowsReports ?_ ?_)
      (interrupts.safe_request (by simp [Call.part?]) (by simp [Call.part?]))
      fun _ _ => interrupts.safe_request (by simp [Call.part?]) (by simp [Call.part?])
    · rintro _ _ ⟨reported | impossible, _⟩
      · exact (reportsProgress_of_failure reported).1 rfl
      · cases impossible
    · rintro _ _ ⟨reported | impossible, _⟩
      · exact (reportsProgress_of_failure reported).2 rfl
      · cases impossible

end Settled

end FusionAccess
