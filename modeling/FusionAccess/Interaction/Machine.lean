import Mathlib.Logic.Basic

/-!
# Machines

A machine consists of parts that move one at a time. What happens next is a label, and
the state determines whether it can happen and what it leads to; the order in which the
parts move is not determined. A history lists what has happened, the latest first.
-/

namespace Interaction

/-- The state after each thing that may happen, where it can happen. -/
structure Machine (State Label : Type) where
  step : State → Label → Option State

namespace Machine

variable {State Label : Type}

/-- The histories of admitted steps, and the states they lead to. -/
inductive Run
    (machine : Machine State Label) (admitted : State → Label → Prop) (initial : State) :
    List Label → State → Prop
  | start : Run machine admitted initial [] initial
  | step {history : List Label} {before after : State} {label : Label}
      (earlier : Run machine admitted initial history before)
      (admits : admitted before label)
      (moved : machine.step before label = some after) :
      Run machine admitted initial (label :: history) after

variable {machine : Machine State Label} {admitted : State → Label → Prop}
  {initial state : State} {history : List Label}

namespace Run

/-- The invariant rule: what holds initially and is preserved by every admitted step
holds of every history and the state it leads to. -/
theorem invariant
    {holds : List Label → State → Prop}
    (run : machine.Run admitted initial history state)
    (initially : holds [] initial)
    (preserved : ∀ history before label after, holds history before →
      admitted before label → machine.step before label = some after →
        holds (label :: history) after) :
    holds history state := by
  induction run with
  | start => exact initially
  | step _ admits moved inductionHypothesis =>
      exact preserved _ _ _ _ inductionHypothesis admits moved

/-- A run remains one where more is admitted. -/
theorem mono
    {others : State → Label → Prop}
    (run : machine.Run admitted initial history state)
    (weaken : ∀ state label, admitted state label → others state label) :
    machine.Run others initial history state := by
  induction run with
  | start => exact .start
  | step _ admits moved inductionHypothesis =>
      exact inductionHypothesis.step (weaken _ _ admits) moved

end Run

/-- The state after a whole history, where all of it is admitted and can happen. -/
def replay
    (machine : Machine State Label) (admitted : State → Label → Prop)
    [∀ state label, Decidable (admitted state label)] (initial : State) :
    List Label → Option State
  | [] => some initial
  | label :: earlier => (machine.replay admitted initial earlier).bind fun before =>
      if admitted before label then machine.step before label else none

/-- What is replayed is a run. -/
theorem run_of_replay
    [∀ state label, Decidable (admitted state label)]
    (replayed : machine.replay admitted initial history = some state) :
    machine.Run admitted initial history state := by
  induction history generalizing state with
  | nil =>
      obtain rfl := Option.some.inj replayed
      exact .start
  | cons label earlier inductionHypothesis =>
      obtain ⟨before, reached, moved⟩ := Option.bind_eq_some_iff.mp replayed
      by_cases admits : admitted before label
      · rw [if_pos admits] at moved
        exact (inductionHypothesis reached).step admits moved
      · rw [if_neg admits] at moved
        cases moved

end Machine
end Interaction
