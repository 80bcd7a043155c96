import Mathlib.Logic.Basic

/-!
# Watched states

A state that others change is settled from time to time by a pass. A watch notices some of
the changes, and every notice is followed by a pass. If the changes that go unnoticed do no
harm, the state is settled whenever nothing is waiting.
-/

namespace Interaction

/-- What happens to a watched state. -/
structure Watch (State : Type) where
  /-- A change by others, and whether it is noticed. -/
  change : State → Bool → State → Prop
  /-- A pass, and whether it is to be repeated. -/
  settle : State → Bool → State → Prop

namespace Watch

variable {State : Type} (watch : Watch State)

/-- The states that are reached, and whether a pass is waiting in them. One is waiting in the
beginning. -/
inductive Reached (initial : State) : State → Bool → Prop
  | start : Reached initial initial true
  | change {before after : State} {waiting noticed : Bool}
      (reached : Reached initial before waiting)
      (changed : watch.change before noticed after) :
      Reached initial after (waiting || noticed)
  | settle {before after : State} {waiting again : Bool}
      (reached : Reached initial before waiting)
      (settled : watch.settle before again after) :
      Reached initial after again

variable {watch} {initial state : State} {holds : State → Prop}

/-- Where nothing is waiting the state is settled, if passes that are not to be repeated
settle it and changes that are not noticed leave it settled. -/
theorem Reached.settled
    (reached : watch.Reached initial state false)
    (changes : ∀ before after, watch.change before false after → holds before → holds after)
    (settles : ∀ before after, watch.settle before false after → holds after) :
    holds state := by
  have silent : ∀ {state waiting}, watch.Reached initial state waiting →
      waiting = false → holds state := by
    intro state waiting reached
    induction reached with
    | start => exact fun impossible => by cases impossible
    | change _ changed inductionHypothesis =>
        intro nothing
        obtain ⟨before, unnoticed⟩ := Bool.or_eq_false_iff.mp nothing
        subst unnoticed
        exact changes _ _ changed (inductionHypothesis before)
    | settle _ passed _ =>
        rintro rfl
        exact settles _ _ passed
  exact silent reached rfl

/-- The same in states of a kind only. -/
def within (watch : Watch State) (keeps : State → Prop) : Watch State where
  change := fun before noticed after => keeps before ∧ watch.change before noticed after
  settle := fun before again after => keeps before ∧ watch.settle before again after

/-- Where changes and passes keep the kind of the state, all states that are reached are of
this kind. -/
theorem Reached.within
    {keeps : State → Prop} {waiting : Bool}
    (reached : watch.Reached initial state waiting)
    (initially : keeps initial)
    (changes : ∀ before noticed after, watch.change before noticed after →
      keeps before → keeps after)
    (settles : ∀ before again after, watch.settle before again after →
      keeps before → keeps after) :
    keeps state ∧ (watch.within keeps).Reached initial state waiting := by
  induction reached with
  | start => exact ⟨initially, .start⟩
  | change _ changed inductionHypothesis =>
      obtain ⟨kept, earlier⟩ := inductionHypothesis
      exact ⟨changes _ _ _ changed kept, earlier.change ⟨kept, changed⟩⟩
  | settle _ settled inductionHypothesis =>
      obtain ⟨kept, earlier⟩ := inductionHypothesis
      exact ⟨settles _ _ _ settled kept, earlier.settle ⟨kept, settled⟩⟩

end Watch
end Interaction
