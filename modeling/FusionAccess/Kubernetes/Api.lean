import FusionAccess.Interaction.Replay
import FusionAccess.Kubernetes.Client

/-!
# Unreliable APIs

A part of the API server is given by its calls, what each of them yields, and
how a call is answered when nothing goes wrong with it. Under an environment
that decides about every call, it becomes a server.
-/

namespace Kubernetes

open Interaction

/-- The calls of a client. -/
structure Api where
  /-- The calls. -/
  Request : Type
  /-- What a call yields when it succeeds. -/
  Yield : Request → Type
  /-- The calls that leave the process. -/
  remote : Request → Bool

namespace Api

/-- The interface of an API. -/
abbrev interface (api : Api) : Interface where
  Call := api.Request
  Reply := fun request => Except Failure (api.Yield request)

variable {api : Api} {State : Type}

/-- How calls are answered when nothing goes wrong. -/
abbrev Answer (api : Api) (State : Type) : Type :=
  State → (request : api.Request) → State × Except Failure (api.Yield request)

/-- The answers under an environment that may refuse a call, or lose the
reply. -/
abbrev server (answer : Answer api State) : Server api.interface where
  State := State
  Choice := Fault
  serve := fun fault state request =>
    if api.remote request then
      match fault with
      | .none => answer state request
      | .refused refusal message => (state, .error (refusal.failure message))
      | .lost message => ((answer state request).1, .error (errorf message))
    else answer state request

/-- Issue one call. -/
def ask (api : Api) (request : api.Request) :
    Fallible api.interface Failure (api.Yield request) :=
  ExceptT.mk (Program.issue (I := api.interface) request)

variable {answer : Answer api State}

/-- A call is carried out, refused, or carried out without a reply. -/
theorem serve_cases (fault : Fault) (state : State) (request : api.Request) :
    (fault = .none ∨ api.remote request = false) ∧
        (server answer).serve fault state request = answer state request ∨
      fault ≠ .none ∧ api.remote request = true ∧
        ∃ failure : Failure, failure.Transient ∧
          ((server answer).serve fault state request = (state, .error failure) ∨
            (server answer).serve fault state request =
              ((answer state request).1, .error failure)) := by
  dsimp only [server]
  by_cases remote : api.remote request = true
  · rw [if_pos remote]
    cases fault with
    | none => exact Or.inl ⟨Or.inl rfl, rfl⟩
    | refused refusal message =>
        exact Or.inr ⟨by simp, remote, _, refusal.transient_failure message, Or.inl rfl⟩
    | lost message =>
        exact Or.inr ⟨by simp, remote, _, Failure.transient_errorf message, Or.inr rfl⟩
  · rw [if_neg remote]
    exact Or.inl ⟨Or.inr (by simpa using remote), rfl⟩

variable {C : Contract (server answer)} {request : api.Request}

theorem leadsTo_ask
    {choices : Nat → Fault}
    (post : Except Failure (api.Yield request) → State → (Nat → Fault) → Prop)
    (state : State) :
    Fallible.LeadsTo (S := server answer) (api.ask request) choices post state ↔
      post ((server answer).serve (choices 0) state request).2
        ((server answer).serve (choices 0) state request).1
        fun index => choices (index + 1) := Iff.rfl

/-- The contract admits that the call succeeds. -/
def MaySucceed
    (C : Contract (server answer)) (state : State) (request : api.Request) : Prop :=
  ∃ fault, C.rely state request fault ∧ (fault = .none ∨ api.remote request = false)

/-- The contract admits that the call fails. -/
def MayFail
    (C : Contract (server answer)) (state : State) (request : api.Request) : Prop :=
  ∃ fault, C.rely state request fault ∧ fault ≠ .none ∧ api.remote request = true

/-- What has to be shown about one call. -/
theorem ensures_ask
    {post : Except Failure (api.Yield request) → State → Prop}
    {state : State}
    (guarded : C.guard state request)
    (success : MaySucceed C state request →
      post (answer state request).2 (answer state request).1)
    (failed : ∀ failure : Failure, failure.Transient → MayFail C state request →
      ∀ final, final = state ∨ final = (answer state request).1 →
        post (.error failure) final) :
    Fallible.Ensures C (api.ask request) post state := by
  refine ⟨guarded, fun fault relied => ?_⟩
  change post ((server answer).serve fault state request).2
    ((server answer).serve fault state request).1
  rcases serve_cases fault state request with
    ⟨calm, served⟩ | ⟨faulty, remote, failure, transient, served | served⟩
  · rw [served]
    exact success ⟨fault, relied, calm⟩
  · rw [served]
    exact failed failure transient ⟨fault, relied, faulty, remote⟩ _ (Or.inl rfl)
  · rw [served]
    exact failed failure transient ⟨fault, relied, faulty, remote⟩ _ (Or.inr rfl)

/-- A call is safe when it is guarded and preserves the invariant where it is
carried out. -/
theorem safe_ask
    {invariant : State → Prop}
    {known : Except Failure (api.Yield request) → Prop}
    (guarded : ∀ state, invariant state → C.guard state request)
    (success : ∀ state, invariant state → MaySucceed C state request →
      known (answer state request).2)
    (preserved : ∀ state, invariant state → invariant (answer state request).1)
    (failed : api.remote request = true → ∀ failure : Failure, failure.Transient →
      known (.error failure)) :
    Fallible.SafeThen C invariant (api.ask request) known := by
  intro state holds
  refine ensures_ask (guarded state holds)
    (fun calm => ⟨success state holds calm, preserved state holds⟩) ?_
  rintro failure transient ⟨_, _, _, remote⟩ final (rfl | rfl)
  · exact ⟨failed remote failure transient, holds⟩
  · exact ⟨failed remote failure transient, preserved state holds⟩

/-! ## Where nothing goes wrong -/

/-- The contract that relies on every call being carried out and answered. -/
def unfailing (answer : Answer api State) : Contract (server answer) where
  rely := fun _ _ fault => fault = .none
  guard := fun _ _ => True

theorem serve_none (state : State) (request : api.Request) :
    (server answer).serve .none state request = answer state request := by
  dsimp only [server]
  split <;> rfl

@[simp] theorem ensures_ask_unfailing
    (post : Except Failure (api.Yield request) → State → Prop)
    (state : State) :
    Fallible.Ensures (unfailing answer) (api.ask request) post state ↔
      post (answer state request).2 (answer state request).1 := by
  have served := @serve_none api State answer state request
  constructor
  · intro ensures
    have holds : post ((server answer).serve .none state request).2
        ((server answer).serve .none state request).1 := ensures.2 .none rfl
    rwa [served] at holds
  · intro holds
    refine ⟨trivial, fun fault calm => ?_⟩
    cases calm
    change post ((server answer).serve .none state request).2
      ((server answer).serve .none state request).1
    rwa [served]

/-- What a program ensures while nothing goes wrong holds at the end of its run. -/
theorem run_of_ensures_unfailing
    {α : Type} {program : Fallible api.interface Failure α}
    {post : Except Failure α → State → Prop} {state : State}
    (ensures : Fallible.Ensures (unfailing answer) program post state) :
    let outcome := program.run.run (server answer) (fun _ => .none) state
    post outcome.value outcome.state :=
  (Program.Ensures.sound ensures (fun _ => .none) fun _ served =>
    (Program.choice_of_mem_log served).choose_spec).2

end Api
end Kubernetes
