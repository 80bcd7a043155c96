import FusionAccess.Interaction.Contract

/-!
# Runs of complete passes

A run executes programs of a family one at a time, each to completion, and
lets the environment change the state in between. What one pass preserves is
thereby preserved by whole runs.
-/

namespace Interaction

/-- One complete execution of a program of a family. -/
structure Pass {I : Interface} (S : Server I) (ι : Type) where
  /-- Which program is executed. -/
  index : ι
  /-- What the environment decides about its calls. -/
  choices : Nat → S.Choice
  /-- The state in which it starts. -/
  start : S.State

variable {I : Interface} {S : Server I} {ι α : Type}

/-- What a pass leaves behind. -/
def Pass.outcome (programs : ι → Program I α) (pass : Pass S ι) : Outcome S α :=
  (programs pass.index).run S pass.choices pass.start

/-- The passes executed and the state reached from an initial state, under an
environment that moves between passes. -/
inductive Run
    (programs : ι → Program I α)
    (environment : S.State → S.State → Prop)
    (initial : S.State) : List (Pass S ι) → S.State → Prop
  | start : Run programs environment initial [] initial
  | pass {passes : List (Pass S ι)} {state : S.State}
      (before : Run programs environment initial passes state)
      (index : ι)
      (choices : Nat → S.Choice) :
      Run programs environment initial (passes ++ [⟨index, choices, state⟩])
        (Pass.outcome programs ⟨index, choices, state⟩).state
  | move {passes : List (Pass S ι)} {state next : S.State}
      (before : Run programs environment initial passes state)
      (moved : environment state next) :
      Run programs environment initial passes next

namespace Run

variable {programs : ι → Program I α}
  {environment : S.State → S.State → Prop}
  {initial state : S.State}
  {passes : List (Pass S ι)}

/-- The invariant rule: what holds initially and is preserved by the moves of
the environment and by every admitted pass holds at the end of the run and at
the start of each of its passes. -/
theorem invariant
    {admitted : Pass S ι → Prop}
    {holds : S.State → Prop}
    (run : Run programs environment initial passes state)
    (initially : holds initial)
    (moves : ∀ before after, environment before after →
      holds before → holds after)
    (preserved : ∀ pass : Pass S ι, admitted pass → holds pass.start →
      holds (pass.outcome programs).state)
    (allAdmitted : ∀ pass ∈ passes, admitted pass) :
    holds state ∧ ∀ pass ∈ passes, holds pass.start := by
  induction run with
  | start => exact ⟨initially, by simp⟩
  | @pass passes current before index choices inductionHypothesis =>
      have earlier := inductionHypothesis fun pass member =>
        allAdmitted pass (List.mem_append_left _ member)
      have last := allAdmitted ⟨index, choices, current⟩ (by simp)
      refine ⟨preserved _ last earlier.1, fun pass member => ?_⟩
      rcases List.mem_append.mp member with member | member
      · exact earlier.2 pass member
      · rw [List.mem_singleton.mp member]
        exact earlier.1
  | move before moved inductionHypothesis =>
      have earlier := inductionHypothesis allAdmitted
      exact ⟨moves _ _ moved earlier.1, earlier.2⟩

/-- The part of a run before one of its passes, and the part after it. -/
theorem split
    {earlier later : List (Pass S ι)} {pass : Pass S ι}
    (run : Run programs environment initial (earlier ++ pass :: later) state) :
    Run programs environment initial earlier pass.start ∧
      Run programs environment (pass.outcome programs).state later state := by
  generalize listed : earlier ++ pass :: later = passes at run
  induction run generalizing later with
  | start => simp at listed
  | pass before index choices inductionHypothesis =>
      rcases List.eq_nil_or_concat later with rfl | ⟨init, last, rfl⟩
      · obtain ⟨rfl, same⟩ := List.append_inj' listed rfl
        rw [List.singleton_inj] at same
        subst same
        exact ⟨before, .start⟩
      · rw [List.concat_eq_append, ← List.cons_append, ← List.append_assoc] at listed
        obtain ⟨prefixed, same⟩ := List.append_inj' listed rfl
        rw [List.singleton_inj] at same
        subst same
        have parts := inductionHypothesis prefixed
        exact ⟨parts.1, by simpa using parts.2.pass index choices⟩
  | move before moved inductionHypothesis =>
      have parts := inductionHypothesis listed
      exact ⟨parts.1, parts.2.move moved⟩

/-- A run may be continued with another one. -/
theorem append
    {later : List (Pass S ι)} {final : S.State}
    (run : Run programs environment initial passes state)
    (rest : Run programs environment state later final) :
    Run programs environment initial (passes ++ later) final := by
  induction rest with
  | start => simpa using run
  | pass _ index choices inductionHypothesis =>
      rw [← List.append_assoc]
      exact inductionHypothesis.pass index choices
  | move _ moved inductionHypothesis => exact inductionHypothesis.move moved

/-- What neither the environment nor a pass lowers rises from pass to pass. -/
theorem rises
    {level : S.State → Nat}
    (run : Run programs environment initial passes state)
    (moves : ∀ before after, environment before after → level before ≤ level after)
    (kept : ∀ pass ∈ passes, level pass.start ≤ level (pass.outcome programs).state) :
    passes.Pairwise (fun earlier later => level earlier.start ≤ level later.start) ∧
      ∀ pass ∈ passes, level pass.start ≤ level state := by
  induction run with
  | start => exact ⟨List.Pairwise.nil, by simp⟩
  | @pass passes current before index choices inductionHypothesis =>
      have earlier := inductionHypothesis fun pass member =>
        kept pass (List.mem_append_left _ member)
      have last := kept ⟨index, choices, current⟩ (by simp)
      refine ⟨List.pairwise_append.mpr ⟨earlier.1, List.pairwise_singleton _ _, ?_⟩, ?_⟩
      · intro pass member later isLast
        rw [List.mem_singleton.mp isLast]
        exact earlier.2 pass member
      · intro pass member
        rcases List.mem_append.mp member with member | member
        · exact Nat.le_trans (earlier.2 pass member) last
        · rw [List.mem_singleton.mp member]
          exact last
  | move before moved inductionHypothesis =>
      have earlier := inductionHypothesis kept
      exact ⟨earlier.1, fun pass member =>
        Nat.le_trans (earlier.2 pass member) (moves _ _ moved)⟩

end Run

/-- In every run whose passes are all admitted, every pass has the property. -/
def Throughout
    (programs : ι → Program I α)
    (environment : S.State → S.State → Prop)
    (initial : S.State)
    (admitted property : Pass S ι → Prop) : Prop :=
  ∀ passes state, Run programs environment initial passes state →
    (∀ pass ∈ passes, admitted pass) → ∀ pass ∈ passes, property pass

/-- A property of passes that start in an invariant holds throughout. -/
theorem throughout
    {programs : ι → Program I α}
    {environment : S.State → S.State → Prop}
    {initial : S.State}
    {admitted property : Pass S ι → Prop}
    (holds : S.State → Prop)
    (initially : holds initial)
    (moves : ∀ before after, environment before after →
      holds before → holds after)
    (preserved : ∀ pass : Pass S ι, admitted pass → holds pass.start →
      holds (pass.outcome programs).state)
    (shown : ∀ pass : Pass S ι, admitted pass → holds pass.start →
      property pass) :
    Throughout programs environment initial admitted property := by
  intro passes state run allAdmitted pass member
  have invariant := run.invariant initially moves preserved allAdmitted
  exact shown pass (allAdmitted pass member) (invariant.2 pass member)

end Interaction
