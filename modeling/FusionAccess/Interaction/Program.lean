import Mathlib.Logic.Function.Basic

/-!
# Programs that talk to a server

A program computes a value by issuing calls one after another and continuing
with the replies. The calls are left uninterpreted here, so one and the same
program can be run to completion against a server, stopped after some of its
calls, or interleaved with other programs.
-/

namespace Interaction

/-- The calls a program may issue and the type of the reply to each. -/
structure Interface where
  /-- The calls. -/
  Call : Type
  /-- What a call is answered with. -/
  Reply : Call → Type

/-- A program over an interface: a value, or a call and what follows it. -/
inductive Program (I : Interface) (α : Type) : Type
  | done (value : α)
  | call (request : I.Call) (next : I.Reply request → Program I α)

namespace Program

variable {I : Interface} {α β γ : Type}

/-- Run one program and continue with the value it computes. -/
def bind : Program I α → (α → Program I β) → Program I β
  | .done value, continuation => continuation value
  | .call request next, continuation =>
      .call request fun reply => (next reply).bind continuation

instance : Monad (Program I) where
  pure := .done
  bind := .bind

/-- The program that issues one call and returns its reply. -/
def issue (request : I.Call) : Program I (I.Reply request) :=
  .call request .done

@[simp] theorem pure_eq_done (value : α) :
    (pure value : Program I α) = .done value := rfl

@[simp] theorem done_bind
    (value : α)
    (continuation : α → Program I β) :
    (Program.done value >>= continuation) = continuation value := rfl

@[simp] theorem call_bind
    (request : I.Call)
    (next : I.Reply request → Program I α)
    (continuation : α → Program I β) :
    (Program.call request next >>= continuation) =
      .call request fun reply => next reply >>= continuation := rfl

theorem bind_done (program : Program I α) :
    (program >>= Program.done) = program := by
  induction program with
  | done value => rfl
  | call request next inductionHypothesis =>
      rw [call_bind]
      congr 1
      funext reply
      exact inductionHypothesis reply

theorem bind_bind
    (program : Program I α)
    (first : α → Program I β)
    (second : β → Program I γ) :
    (program >>= first >>= second) =
      program >>= fun value => first value >>= second := by
  induction program with
  | done value => rfl
  | call request next inductionHypothesis =>
      simp only [call_bind]
      congr 1
      funext reply
      exact inductionHypothesis reply

instance : LawfulMonad (Program I) :=
  LawfulMonad.mk' (Program I) bind_done (fun _ _ => rfl) bind_bind

end Program

/-- A server: its state, the choices left to its environment (faults, random
numbers), and the answer to each call. -/
structure Server (I : Interface) where
  /-- What the server stores. -/
  State : Type
  /-- What the environment decides about one call. -/
  Choice : Type
  /-- The state after a call and its reply. -/
  serve : Choice → State → (request : I.Call) → State × I.Reply request

/-- One call as it was served. -/
structure Event {I : Interface} (S : Server I) where
  /-- The state in which the call was issued. -/
  before : S.State
  /-- The call. -/
  request : I.Call
  /-- What the environment decided about it. -/
  choice : S.Choice

/-- The state after an event. -/
def Event.after {I : Interface} {S : Server I} (event : Event S) : S.State :=
  (S.serve event.choice event.before event.request).1

/-- What a completed program leaves behind. -/
structure Outcome {I : Interface} (S : Server I) (α : Type) where
  /-- The final state. -/
  state : S.State
  /-- The calls in the order in which they were issued. -/
  log : List (Event S)
  /-- The value computed. -/
  value : α

namespace Program

variable {I : Interface} {α β : Type} (S : Server I)

/-- Run a program to completion against a server; the environment's choice for
the call number `n` is `choices n`. -/
def run : Program I α → (Nat → S.Choice) → S.State → Outcome S α
  | .done value, _, state => ⟨state, [], value⟩
  | .call request next, choices, state =>
      let answer := S.serve (choices 0) state request
      let rest := (next answer.2).run (fun index => choices (index + 1)) answer.1
      ⟨rest.state, ⟨state, request, choices 0⟩ :: rest.log, rest.value⟩

@[simp] theorem run_done
    (value : α)
    (choices : Nat → S.Choice)
    (state : S.State) :
    (Program.done value : Program I α).run S choices state =
      ⟨state, [], value⟩ := rfl

/-- A run begins with the reply to the first call. -/
theorem run_issue_bind
    (request : I.Call)
    (continuation : I.Reply request → Program I α)
    (choices : Nat → S.Choice)
    (state : S.State) :
    (issue request >>= continuation).run S choices state =
      let answer := S.serve (choices 0) state request
      let rest := (continuation answer.2).run S
        (fun index => choices (index + 1)) answer.1
      ⟨rest.state, ⟨state, request, choices 0⟩ :: rest.log, rest.value⟩ := rfl

/-- What the environment decided about the calls of a run. -/
theorem choice_of_mem_log
    {S : Server I}
    {program : Program I α}
    {choices : Nat → S.Choice}
    {state : S.State}
    {event : Event S}
    (member : event ∈ (program.run S choices state).log) :
    ∃ index, event.choice = choices index := by
  induction program generalizing choices state with
  | done value => simp at member
  | call request next inductionHypothesis =>
      simp only [run, List.mem_cons] at member
      rcases member with rfl | later
      · exact ⟨0, rfl⟩
      · obtain ⟨index, chosen⟩ := inductionHypothesis _ later
        exact ⟨index + 1, chosen⟩

/-- The choices of an environment that decides about each call of a run by a rule,
from the state in which the call is issued. -/
def choicesBy (S : Server I) [Inhabited S.Choice]
    (rule : S.State → I.Call → S.Choice) :
    Program I α → S.State → Nat → S.Choice
  | .done _, _, _ => default
  | .call request _, state, 0 => rule state request
  | .call request next, state, index + 1 =>
      let answer := S.serve (rule state request) state request
      (next answer.2).choicesBy S rule answer.1 index

/-- Such an environment keeps to its rule. -/
theorem choice_of_choicesBy
    {S : Server I} [Inhabited S.Choice]
    {rule : S.State → I.Call → S.Choice}
    {program : Program I α}
    {state : S.State}
    {event : Event S}
    (member : event ∈ (program.run S (program.choicesBy S rule state) state).log) :
    event.choice = rule event.before event.request := by
  induction program generalizing state with
  | done value => simp at member
  | call request next inductionHypothesis =>
      simp only [run, choicesBy, List.mem_cons] at member
      rcases member with rfl | later
      · rfl
      · exact inductionHypothesis _ later

/-- What every call of a run preserves holds at its end when it holds at its
start or after any of its calls. -/
theorem run_preserves
    {S : Server I}
    {holds : S.State → Prop}
    {program : Program I α}
    {choices : Nat → S.Choice}
    {state : S.State}
    (kept : ∀ event ∈ (program.run S choices state).log,
      holds event.before → holds event.after) :
    (holds state → holds (program.run S choices state).state) ∧
      ∀ event ∈ (program.run S choices state).log, holds event.after →
        holds (program.run S choices state).state := by
  induction program generalizing choices state with
  | done value => exact ⟨id, by simp⟩
  | call request next inductionHypothesis =>
      simp only [run, List.mem_cons, forall_eq_or_imp] at kept ⊢
      obtain ⟨fromNext, fromLater⟩ := inductionHypothesis _ kept.2
      exact ⟨fun holdsNow => fromNext (kept.1 holdsNow), fromNext, fromLater⟩

/-- It holds before each call when it holds at the start. -/
theorem holds_before_of_run
    {S : Server I}
    {holds : S.State → Prop}
    {program : Program I α}
    {choices : Nat → S.Choice}
    {state : S.State}
    (kept : ∀ event ∈ (program.run S choices state).log,
      holds event.before → holds event.after)
    (initially : holds state) :
    ∀ event ∈ (program.run S choices state).log, holds event.before := by
  induction program generalizing choices state with
  | done value => simp
  | call request next inductionHypothesis =>
      simp only [run, List.mem_cons, forall_eq_or_imp] at kept ⊢
      exact ⟨initially, inductionHypothesis _ kept.2 (kept.1 initially)⟩

end Program
end Interaction
