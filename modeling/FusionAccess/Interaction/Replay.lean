import FusionAccess.Interaction.Contract

/-!
# Runs under given choices

Where the outcome of a program is decided by what the environment chooses for each of
its calls, the run under one sequence of choices is calculated. The postcondition speaks
about the value, the state, and the choices that are left for what follows.
-/

namespace Interaction

variable {I : Interface} {S : Server I} {α β ε : Type}

/-- The sequence without its first choice. -/
abbrev rest {γ : Type} (choices : Nat → γ) : Nat → γ := fun index => choices (index + 1)

/-- The server without a state whose choices are the replies. -/
abbrev scripted (I : Interface) : Server I where
  State := Unit
  Choice := (request : I.Call) → I.Reply request
  serve := fun replies _ request => ((), replies request)

namespace Program

/-- The run under the given choices ends in the postcondition. -/
def LeadsTo
    (program : Program I α) (choices : Nat → S.Choice)
    (post : α → S.State → (Nat → S.Choice) → Prop) (state : S.State) : Prop :=
  let outcome := program.run S choices state
  post outcome.value outcome.state fun index => choices (index + outcome.log.length)

variable {choices : Nat → S.Choice}

@[simp] theorem leadsTo_done
    (value : α)
    (post : α → S.State → (Nat → S.Choice) → Prop)
    (state : S.State) :
    (Program.done value : Program I α).LeadsTo choices post state ↔
      post value state choices := Iff.rfl

theorem leadsTo_call
    (request : I.Call)
    (next : I.Reply request → Program I α)
    (post : α → S.State → (Nat → S.Choice) → Prop)
    (state : S.State) :
    (Program.call request next).LeadsTo choices post state ↔
      (next (S.serve (choices 0) state request).2).LeadsTo (rest choices) post
        (S.serve (choices 0) state request).1 := Iff.rfl

/-- Sequencing: what follows uses the choices that are left. -/
theorem leadsTo_bind
    (program : Program I α)
    (continuation : α → Program I β)
    (post : β → S.State → (Nat → S.Choice) → Prop)
    (state : S.State) :
    (program >>= continuation).LeadsTo choices post state ↔
      program.LeadsTo choices
        (fun value final left => (continuation value).LeadsTo left post final) state := by
  induction program generalizing choices state with
  | done value => exact Iff.rfl
  | call request next inductionHypothesis =>
      rw [call_bind, leadsTo_call, leadsTo_call]
      exact inductionHypothesis _ _

/-- A weaker postcondition follows. -/
theorem LeadsTo.mono
    {program : Program I α}
    {post weaker : α → S.State → (Nat → S.Choice) → Prop}
    {state : S.State}
    (leads : program.LeadsTo choices post state)
    (weaken : ∀ value final left, post value final left → weaker value final left) :
    program.LeadsTo choices weaker state :=
  weaken _ _ _ leads

/-- Under any choices a run ends in what the program ensures. -/
theorem LeadsTo.of_ensures
    {program : Program I α}
    {guard : S.State → I.Call → Prop}
    {post : α → S.State → Prop}
    {state : S.State}
    (ensures : program.Ensures (Contract.demand guard) post state) :
    program.LeadsTo choices (fun value final _ => post value final) state :=
  (ensures.sound choices fun _ _ => trivial).2

end Program

namespace Fallible

/-- The run of a program that may fail ends in the postcondition. -/
def LeadsTo
    (program : Fallible I ε α) (choices : Nat → S.Choice)
    (post : Except ε α → S.State → (Nat → S.Choice) → Prop) (state : S.State) : Prop :=
  Program.LeadsTo program.run choices post state

variable {choices : Nat → S.Choice}

@[simp] theorem leadsTo_pure
    (value : α)
    (post : Except ε α → S.State → (Nat → S.Choice) → Prop)
    (state : S.State) :
    LeadsTo (pure value : Fallible I ε α) choices post state ↔
      post (.ok value) state choices := Iff.rfl

@[simp] theorem leadsTo_throw
    (error : ε)
    (post : Except ε α → S.State → (Nat → S.Choice) → Prop)
    (state : S.State) :
    LeadsTo (throw error : Fallible I ε α) choices post state ↔
      post (.error error) state choices := Iff.rfl

/-- Sequencing: an error ends the run, and after a value what follows uses the choices
that are left. -/
theorem leadsTo_bind
    (program : Fallible I ε α)
    (continuation : α → Fallible I ε β)
    (post : Except ε β → S.State → (Nat → S.Choice) → Prop)
    (state : S.State) :
    LeadsTo (program >>= continuation) choices post state ↔
      LeadsTo program choices
        (fun result final left => match result with
          | .ok value => LeadsTo (continuation value) left post final
          | .error error => post (.error error) final left) state := by
  unfold LeadsTo
  rw [ExceptT.run_bind, Program.leadsTo_bind]
  apply iff_of_eq
  unfold Program.LeadsTo
  dsimp only
  cases (Program.run S program.run choices state).value <;> rfl

theorem leadsTo_attempt
    (program : Fallible I ε α)
    (post : Except ε (Except ε α) → S.State → (Nat → S.Choice) → Prop)
    (state : S.State) :
    LeadsTo program.attempt choices post state ↔
      LeadsTo program choices (fun result => post (.ok result)) state := by
  unfold LeadsTo attempt
  rw [ExceptT.run_mk, map_eq_pure_bind, Program.leadsTo_bind]
  rfl

theorem leadsTo_mapError
    (rewrite : ε → ε)
    (program : Fallible I ε α)
    (post : Except ε α → S.State → (Nat → S.Choice) → Prop)
    (state : S.State) :
    LeadsTo (program.mapError rewrite) choices post state ↔
      LeadsTo program choices (fun result => post (result.mapError rewrite)) state := by
  unfold LeadsTo mapError
  rw [ExceptT.run_mk, map_eq_pure_bind, Program.leadsTo_bind]
  rfl

end Fallible
end Interaction
