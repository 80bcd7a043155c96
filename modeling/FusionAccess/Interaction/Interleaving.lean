import FusionAccess.Interaction.Contract

/-!
# Interleaved programs

Programs that are under way at the same time take turns, one call at a time, in
any order; in between the environment may change the state. What is known of
the calls of each single program is known of all calls of an interleaving.
-/

namespace Interaction

variable {I : Interface} {S : Server I} {ι α β ε : Type}

/-! ## The calls of a program -/

/-- Whatever the replies, the program issues only the given calls. -/
def Program.Issues (calls : I.Call → Prop) : Program I α → Prop
  | .done _ => True
  | .call request next => calls request ∧ ∀ reply, (next reply).Issues calls

theorem Program.Issues.bind
    {calls : I.Call → Prop}
    {program : Program I α}
    {continuation : α → Program I β}
    (first : program.Issues calls)
    (continues : ∀ value, (continuation value).Issues calls) :
    (program >>= continuation).Issues calls := by
  induction program with
  | done value => exact continues value
  | call request next inductionHypothesis =>
      rw [Program.call_bind]
      exact ⟨first.1, fun reply => inductionHypothesis reply (first.2 reply)⟩

namespace Fallible

/-- Whatever the replies, the program issues only the given calls. -/
def Issues (calls : I.Call → Prop) (program : Fallible I ε α) : Prop :=
  Program.Issues calls program.run

variable {calls : I.Call → Prop}

theorem issues_pure (value : α) : Issues calls (pure value : Fallible I ε α) :=
  trivial

theorem issues_throw (error : ε) : Issues calls (throw error : Fallible I ε α) :=
  trivial

theorem Issues.bind
    {program : Fallible I ε α}
    {continuation : α → Fallible I ε β}
    (first : Issues calls program)
    (continues : ∀ value, Issues calls (continuation value)) :
    Issues calls (program >>= continuation) := by
  unfold Issues
  rw [ExceptT.run_bind]
  refine Program.Issues.bind first ?_
  rintro (error | value)
  · trivial
  · exact continues value

theorem Issues.attempt
    {program : Fallible I ε α}
    (issues : Issues calls program) :
    Issues calls program.attempt := by
  unfold Issues Fallible.attempt
  rw [ExceptT.run_mk, map_eq_pure_bind]
  exact Program.Issues.bind issues fun _ => trivial

end Fallible

/-! ## Taking turns -/

/-- A program under way: which one it is, and what is left of it. -/
structure Task (I : Interface) (ι α : Type) where
  index : ι
  rest : Program I α

/-- A call as it was served, and the program that issued it. -/
structure Occurrence (S : Server I) (ι : Type) where
  index : ι
  event : Event S

/-- Programs under way, the state they have reached and the calls so far. -/
structure Interleaving (S : Server I) (ι α : Type) where
  state : S.State
  tasks : List (Task I ι α) := []
  log : List (Occurrence S ι) := []

/-- What happens next: a program starts, a program issues its next call, or the
environment changes the state. -/
inductive Turn (S : Server I) (ι : Type)
  | launch (index : ι)
  | step (position : Nat) (choice : S.Choice)
  | move (change : S.State → S.State)

namespace Interleaving

/-- Take one turn; a program that has ended has nothing left to do. -/
def take (programs : ι → Program I α) (current : Interleaving S ι α) :
    Turn S ι → Interleaving S ι α
  | .launch index =>
      { current with tasks := current.tasks ++ [⟨index, programs index⟩] }
  | .step position choice =>
      match current.tasks[position]? with
      | some ⟨index, .call request next⟩ =>
          let answer := S.serve choice current.state request
          { state := answer.1
            tasks := current.tasks.set position ⟨index, next answer.2⟩
            log := current.log ++ [⟨index, ⟨current.state, request, choice⟩⟩] }
      | _ => current
  | .move change => { current with state := change current.state }

/-- What is left of each program, and all calls so far, are calls that belong
to the program. -/
structure Bounded
    (calls : ι → I.Call → Prop) (current : Interleaving S ι α) : Prop where
  tasks : ∀ task ∈ current.tasks, task.rest.Issues (calls task.index)
  log : ∀ occurrence ∈ current.log,
    calls occurrence.index occurrence.event.request

/-- A turn stays within the calls of the programs. -/
theorem Bounded.take
    {programs : ι → Program I α}
    {calls : ι → I.Call → Prop}
    {current : Interleaving S ι α}
    (issue : ∀ index, (programs index).Issues (calls index))
    (bounded : current.Bounded calls)
    (turn : Turn S ι) :
    (current.take programs turn).Bounded calls := by
  cases turn with
  | launch index =>
      refine ⟨fun task member => ?_, bounded.log⟩
      rcases List.mem_append.mp member with member | member
      · exact bounded.tasks task member
      · rw [List.mem_singleton.mp member]
        exact issue index
  | step position choice =>
      unfold Interleaving.take
      dsimp only
      split
      next index request next found =>
        have issues : calls index request ∧ ∀ reply, (next reply).Issues (calls index) :=
          bounded.tasks _ (List.mem_of_getElem? found)
        refine ⟨fun task member => ?_, fun occurrence member => ?_⟩
        · rcases List.mem_or_eq_of_mem_set member with member | equal
          · exact bounded.tasks task member
          · rw [equal]
            exact issues.2 _
        · rcases List.mem_append.mp member with member | member
          · exact bounded.log occurrence member
          · rw [List.mem_singleton.mp member]
            exact issues.1
      next => exact bounded
  | move change => exact ⟨bounded.tasks, bounded.log⟩

end Interleaving

/-- Take turns from an initial state in which no program is under way. -/
def interleave
    (programs : ι → Program I α) (initial : S.State) (turns : List (Turn S ι)) :
    Interleaving S ι α :=
  turns.foldl (Interleaving.take programs) { state := initial }

/-- All calls of an interleaving are calls of its programs. -/
theorem bounded_interleave
    {programs : ι → Program I α}
    {calls : ι → I.Call → Prop}
    (issue : ∀ index, (programs index).Issues (calls index))
    (initial : S.State)
    (turns : List (Turn S ι)) :
    (interleave programs initial turns).Bounded calls := by
  have extended : ∀ current : Interleaving S ι α, current.Bounded calls →
      (turns.foldl (Interleaving.take programs) current).Bounded calls := by
    induction turns with
    | nil => exact fun _ bounded => bounded
    | cons turn turns inductionHypothesis =>
        intro current bounded
        exact inductionHypothesis _ (bounded.take issue turn)
  exact extended _ ⟨by simp, by simp⟩

/-- The interleavings that are reached by turns each of which is admitted where it
is taken. -/
inductive Reached
    (programs : ι → Program I α)
    (admitted : Interleaving S ι α → Turn S ι → Prop)
    (initial : S.State) : Interleaving S ι α → Prop
  | start : Reached programs admitted initial { state := initial }
  | turn {current : Interleaving S ι α}
      (before : Reached programs admitted initial current)
      (turn : Turn S ι)
      (admits : admitted current turn) :
      Reached programs admitted initial (current.take programs turn)

/-- What holds initially and is preserved by every admitted turn holds of everything
that is reached. -/
theorem Reached.invariant
    {programs : ι → Program I α}
    {admitted : Interleaving S ι α → Turn S ι → Prop}
    {initial : S.State}
    {holds : Interleaving S ι α → Prop}
    {current : Interleaving S ι α}
    (reached : Reached programs admitted initial current)
    (initially : holds { state := initial })
    (preserved : ∀ before turn, holds before → admitted before turn →
      holds (before.take programs turn)) :
    holds current := by
  induction reached with
  | start => exact initially
  | turn _ turn admits inductionHypothesis =>
      exact preserved _ turn inductionHypothesis admits

/-- Without conditions on the turns everything is reached. -/
theorem reached_interleave
    (programs : ι → Program I α) (initial : S.State) (turns : List (Turn S ι)) :
    Reached programs (fun _ _ => True) initial (interleave programs initial turns) := by
  have extended : ∀ current : Interleaving S ι α,
      Reached programs (fun _ _ => True) initial current →
      Reached programs (fun _ _ => True) initial
        (turns.foldl (Interleaving.take programs) current) := by
    induction turns with
    | nil => exact fun _ reached => reached
    | cons turn turns inductionHypothesis =>
        intro current reached
        exact inductionHypothesis _ (reached.turn turn trivial)
  exact extended _ .start

end Interaction
