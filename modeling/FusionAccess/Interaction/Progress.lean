import Mathlib.Data.List.Forall2
import Mathlib.Data.Nat.Count

/-!
# Progress along a list of steps

Steps are done in a fixed order, and doing one of them may undo those that come
after it. What counts is how many are left from the first one that is not done. A
sequence of states in which this number never rises, and falls whenever a turn is
a good one, has all steps done after as many good turns as there are steps.
-/

namespace Interaction

/-- How many steps are left from the first one that is not done. -/
def stepsLeft : List Bool → Nat
  | [] => 0
  | true :: steps => stepsLeft steps
  | false :: steps => steps.length + 1

theorem stepsLeft_le (steps : List Bool) : stepsLeft steps ≤ steps.length := by
  induction steps with
  | nil => exact Nat.le_refl 0
  | cons step steps inductionHypothesis =>
      cases step with
      | true => exact Nat.le_succ_of_le inductionHypothesis
      | false => exact Nat.le_refl _

theorem stepsLeft_eq_zero {steps : List Bool} :
    stepsLeft steps = 0 ↔ ∀ step ∈ steps, step = true := by
  induction steps with
  | nil => simp [stepsLeft]
  | cons step steps inductionHypothesis =>
      cases step with
      | true => simp [stepsLeft, inductionHypothesis]
      | false => simp [stepsLeft]

/-- Steps that stay done leave no more steps than before. -/
theorem stepsLeft_mono
    {now later : List Bool}
    (kept : List.Forall₂ (fun now later => now = true → later = true) now later) :
    stepsLeft later ≤ stepsLeft now := by
  induction kept with
  | nil => exact Nat.le_refl 0
  | @cons now later _ _ keeps kept inductionHypothesis =>
      cases now with
      | true =>
          rw [keeps rfl]
          exact inductionHypothesis
      | false =>
          refine (stepsLeft_le _).trans (Nat.le_of_eq ?_)
          simp [stepsLeft, kept.length_eq]

/-- A step that is not done may be done, whatever it does to the steps after it. -/
theorem stepsLeft_stays
    {now later : List Bool}
    (same : later.length = now.length)
    (common : List Bool) (step : Bool) :
    stepsLeft (common ++ step :: later) ≤ stepsLeft (common ++ false :: now) := by
  induction common with
  | nil =>
      refine (stepsLeft_le _).trans (Nat.le_of_eq ?_)
      simp [stepsLeft, same]
  | cons head common inductionHypothesis =>
      cases head with
      | true => exact inductionHypothesis
      | false => simp [stepsLeft, same]

/-- When it is the first one that is not done, fewer steps are left. -/
theorem stepsLeft_falls
    {now later common : List Bool}
    (same : later.length = now.length)
    (done : ∀ step ∈ common, step = true) :
    stepsLeft (common ++ true :: later) < stepsLeft (common ++ false :: now) := by
  induction common with
  | nil =>
      refine Nat.lt_of_le_of_lt (stepsLeft_le later) ?_
      simp [stepsLeft, same]
  | cons head common inductionHypothesis =>
      obtain rfl : head = true := done head List.mem_cons_self
      exact inductionHypothesis fun step member => done step (List.mem_cons_of_mem _ member)

/-- Fewer steps are left when all steps up to one that was not done are done. -/
theorem stepsLeft_lt_of_done
    {now later : List Bool}
    (index : Nat)
    (lengths : later.length = now.length)
    (pending : now[index]? = some false)
    (done : ∀ step ∈ later.take (index + 1), step = true) :
    stepsLeft later < stepsLeft now := by
  induction index generalizing now later with
  | zero =>
      cases now with
      | nil => cases pending
      | cons step now =>
          cases later with
          | nil => cases lengths
          | cons next later =>
              obtain rfl : next = true := done next (by simp)
              obtain rfl : step = false := by simpa using pending
              exact Nat.lt_of_le_of_lt (stepsLeft_le later) (Nat.le_of_eq lengths)
  | succ index inductionHypothesis =>
      cases now with
      | nil => cases pending
      | cons step now =>
          cases later with
          | nil => cases lengths
          | cons next later =>
              obtain rfl : next = true := done next (by simp)
              cases step with
              | true =>
                  have fewer : stepsLeft later < stepsLeft now :=
                    inductionHypothesis (Nat.succ.inj lengths) pending
                      fun step member => done step (List.mem_cons_of_mem _ member)
                  exact fewer
              | false =>
                  exact Nat.lt_of_le_of_lt (stepsLeft_le later) (Nat.le_of_eq lengths)

/-- No more steps are left than before, and fewer if a turn is a good one and they are
not all done. -/
structure Approaches (good : Prop) (now later : List Bool) : Prop where
  stays : stepsLeft later ≤ stepsLeft now
  falls : good → stepsLeft now = 0 ∨ stepsLeft later < stepsLeft now

/-- A turn that does one step is an approach if a good one has all earlier ones done. -/
theorem approaches_of_step
    {good : Prop} {now later : List Bool}
    (index : Nat)
    (lengths : later.length = now.length)
    (same : later.take index = now.take index)
    (pending : now[index]? = some false)
    (does : good → later[index]? = some true ∧ ∀ step ∈ now.take index, step = true) :
    Approaches good now later := by
  obtain ⟨inRange, isFalse⟩ := List.getElem?_eq_some_iff.mp pending
  have inRange' : index < later.length := lengths ▸ inRange
  have before : now = now.take index ++ false :: now.drop (index + 1) := by
    rw [← isFalse, ← List.drop_eq_getElem_cons inRange, List.take_append_drop]
  have after : later = now.take index ++ later[index] :: later.drop (index + 1) := by
    rw [← same, ← List.drop_eq_getElem_cons inRange', List.take_append_drop]
  have rest : (later.drop (index + 1)).length = (now.drop (index + 1)).length := by
    rw [List.length_drop, List.length_drop, lengths]
  refine ⟨?_, fun isGood => Or.inr ?_⟩
  · rw [before, after]
    exact stepsLeft_stays rest _ _
  · obtain ⟨isTrue, done⟩ := does isGood
    obtain ⟨_, isTrue⟩ := List.getElem?_eq_some_iff.mp isTrue
    rw [isTrue] at after
    rw [before, after]
    exact stepsLeft_falls rest done

/-- A number that does not rise, and falls at every good turn until it is zero, pays
for every good turn. -/
theorem spent_of_goodTurns
    {left : Nat → Nat} {good : Nat → Prop} [DecidablePred good] {count : Nat}
    (stays : ∀ index < count, left (index + 1) ≤ left index)
    (falls : ∀ index < count, good index → left index = 0 ∨ left (index + 1) < left index) :
    left count = 0 ∨ left count + Nat.count good count ≤ left 0 := by
  induction count with
  | zero => simp
  | succ count inductionHypothesis =>
      have spent := inductionHypothesis
        (fun index earlier => stays index (Nat.lt_succ_of_lt earlier))
        fun index earlier => falls index (Nat.lt_succ_of_lt earlier)
      have rises := stays count (Nat.lt_succ_self count)
      rw [Nat.count_succ]
      split
      next isGood =>
        have step := falls count (Nat.lt_succ_self count) isGood
        omega
      next => omega

/-- It is zero after as many good turns as it was at the start. -/
theorem eq_zero_of_goodTurns
    {left : Nat → Nat} {good : Nat → Prop} [DecidablePred good] {count : Nat}
    (stays : ∀ index, left (index + 1) ≤ left index)
    (falls : ∀ index, good index → left index = 0 ∨ left (index + 1) < left index)
    (enough : left 0 ≤ Nat.count good count) :
    left count = 0 := by
  have spent := @spent_of_goodTurns left good _ count (fun index _ => stays index)
    fun index _ => falls index
  omega

end Interaction
