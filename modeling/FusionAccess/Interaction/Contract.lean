import FusionAccess.Interaction.Program

/-!
# Rely-guarantee contracts for programs

A contract says what a program may rely on when the environment decides about
a call, and what the program guarantees about every call it issues. From a
contract and a postcondition the weakest precondition of a program is computed
by recursion on the program, so proofs about programs are calculations with
the rules of this module. Soundness carries a calculated fact over to every
run; completeness carries a fact about all runs back.
-/

namespace Interaction

/-- What the environment promises and what the program promises, per call. -/
structure Contract {I : Interface} (S : Server I) where
  /-- What may be relied on when the environment decides about a call. -/
  rely : S.State → I.Call → S.Choice → Prop
  /-- What is guaranteed about each call in the state in which it is issued. -/
  guard : S.State → I.Call → Prop

/-- The contract that relies on nothing. -/
def Contract.demand {I : Interface} {S : Server I}
    (guard : S.State → I.Call → Prop) : Contract S where
  rely := fun _ _ _ => True
  guard := guard

variable {I : Interface} {S : Server I} {α β ε : Type}

/-- The event is one that the contract relies on. -/
def Contract.Relied (C : Contract S) (event : Event S) : Prop :=
  C.rely event.before event.request event.choice

/-- The event keeps the guarantee of the contract. -/
def Contract.Kept (C : Contract S) (event : Event S) : Prop :=
  C.guard event.before event.request

@[simp] theorem Contract.demand_rely
    (guard : S.State → I.Call → Prop)
    (state : S.State)
    (request : I.Call)
    (choice : S.Choice) :
    (Contract.demand guard).rely state request choice = True := rfl

@[simp] theorem Contract.demand_guard
    (guard : S.State → I.Call → Prop)
    (state : S.State)
    (request : I.Call) :
    (Contract.demand guard).guard state request = guard state request := rfl

namespace Program

/-- Weakest precondition: as long as the environment keeps to the contract,
every call is guarded and the postcondition holds at the end. -/
def Ensures (C : Contract S) :
    Program I α → (α → S.State → Prop) → S.State → Prop
  | .done value, post, state => post value state
  | .call request next, post, state =>
      C.guard state request ∧
        ∀ choice, C.rely state request choice →
          (next (S.serve choice state request).2).Ensures C post
            (S.serve choice state request).1

variable {C : Contract S}

@[simp] theorem ensures_done
    (value : α)
    (post : α → S.State → Prop)
    (state : S.State) :
    (Program.done value : Program I α).Ensures C post state ↔
      post value state := Iff.rfl

theorem ensures_call
    (request : I.Call)
    (next : I.Reply request → Program I α)
    (post : α → S.State → Prop)
    (state : S.State) :
    (Program.call request next).Ensures C post state ↔
      C.guard state request ∧
        ∀ choice, C.rely state request choice →
          (next (S.serve choice state request).2).Ensures C post
            (S.serve choice state request).1 := Iff.rfl

/-- Weakest preconditions compose along sequencing. -/
theorem ensures_bind
    (program : Program I α)
    (continuation : α → Program I β)
    (post : β → S.State → Prop)
    (state : S.State) :
    (program >>= continuation).Ensures C post state ↔
      program.Ensures C
        (fun value => (continuation value).Ensures C post) state := by
  induction program generalizing state with
  | done value => exact Iff.rfl
  | call request next inductionHypothesis =>
      rw [call_bind, ensures_call, ensures_call]
      simp only [inductionHypothesis]

/-- A weaker postcondition follows. -/
theorem Ensures.mono
    {program : Program I α}
    {post weaker : α → S.State → Prop}
    {state : S.State}
    (ensures : program.Ensures C post state)
    (weaken : ∀ value final, post value final → weaker value final) :
    program.Ensures C weaker state := by
  induction program generalizing state with
  | done value => exact weaken value state ensures
  | call request next inductionHypothesis =>
      exact ⟨ensures.1, fun choice relied =>
        inductionHypothesis _ (ensures.2 choice relied)⟩

/-- What is ensured under a contract that relies on less holds as well. -/
theorem Ensures.and_of_relies
    {D : Contract S}
    {program : Program I α}
    {first second : α → S.State → Prop}
    {state : S.State}
    (relies : ∀ state request choice,
      C.rely state request choice → D.rely state request choice)
    (ensuresFirst : program.Ensures C first state)
    (ensuresSecond : program.Ensures D second state) :
    program.Ensures C
      (fun value final => first value final ∧ second value final) state := by
  induction program generalizing state with
  | done value => exact ⟨ensuresFirst, ensuresSecond⟩
  | call request next inductionHypothesis =>
      exact ⟨ensuresFirst.1, fun choice relied =>
        inductionHypothesis _ (ensuresFirst.2 choice relied)
          (ensuresSecond.2 choice (relies _ _ _ relied))⟩

/-- Two postconditions that hold separately hold together. -/
theorem Ensures.and
    {program : Program I α}
    {first second : α → S.State → Prop}
    {state : S.State}
    (ensuresFirst : program.Ensures C first state)
    (ensuresSecond : program.Ensures C second state) :
    program.Ensures C
      (fun value final => first value final ∧ second value final) state :=
  ensuresFirst.and_of_relies (fun _ _ _ relied => relied) ensuresSecond

/-- A program that may issue every call ensures nothing in particular. -/
theorem ensures_true
    (guarded : ∀ state request, C.guard state request)
    (program : Program I α)
    (state : S.State) :
    program.Ensures C (fun _ _ => True) state := by
  induction program generalizing state with
  | done value => trivial
  | call request next inductionHypothesis =>
      exact ⟨guarded state request, fun choice _ => inductionHypothesis _ _⟩

/-- What the environment always leaves alone is the same after a program that may issue
every call. -/
theorem ensures_unchanged
    (observe : S.State → β)
    (guarded : ∀ state request, C.guard state request)
    (unchanged : ∀ state request choice, C.rely state request choice →
      observe (S.serve choice state request).1 = observe state)
    (program : Program I α)
    (state : S.State) :
    program.Ensures C (fun _ final => observe final = observe state) state := by
  induction program generalizing state with
  | done value => rfl
  | call request next inductionHypothesis =>
      refine ⟨guarded state request, fun choice relied => ?_⟩
      have same := unchanged state request choice relied
      rw [← same]
      exact inductionHypothesis _ _

/-- Soundness: in every run in which the environment keeps to the contract the
program keeps to it as well and ends in the postcondition. -/
theorem Ensures.sound
    {program : Program I α}
    {post : α → S.State → Prop}
    {state : S.State}
    (ensures : program.Ensures C post state)
    (choices : Nat → S.Choice)
    (relied : ∀ event ∈ (program.run S choices state).log, C.Relied event) :
    (∀ event ∈ (program.run S choices state).log, C.Kept event) ∧
      post (program.run S choices state).value
        (program.run S choices state).state := by
  induction program generalizing state choices with
  | done value => exact ⟨by simp, ensures⟩
  | call request next inductionHypothesis =>
      simp only [run, List.mem_cons, forall_eq_or_imp] at relied ⊢
      have rest := inductionHypothesis _
        (ensures.2 (choices 0) relied.1)
        (fun index => choices (index + 1)) relied.2
      exact ⟨⟨ensures.1, rest.1⟩, rest.2⟩

end Program

/-! ## Programs that may fail -/

/-- A program that ends in a value or in an error. -/
abbrev Fallible (I : Interface) (ε α : Type) : Type :=
  ExceptT ε (Program I) α

namespace Fallible

/-- Carry on with the result of a program, be it a value or an error. -/
def attempt (program : Fallible I ε α) : Fallible I ε (Except ε α) :=
  ExceptT.mk (Except.ok <$> program.run)

/-- Rewrite the error a program ends in. -/
def mapError (rewrite : ε → ε) (program : Fallible I ε α) : Fallible I ε α :=
  ExceptT.mk (Except.mapError rewrite <$> program.run)

/-- Continue a postcondition after success, and let errors pass. -/
def onSuccess
    (next : α → S.State → Prop)
    (post : Except ε β → S.State → Prop) :
    Except ε α → S.State → Prop
  | .ok value, state => next value state
  | .error error, state => post (.error error) state

@[simp] theorem onSuccess_ok
    (next : α → S.State → Prop)
    (post : Except ε β → S.State → Prop)
    (value : α)
    (state : S.State) :
    onSuccess next post (.ok value) state = next value state := rfl

@[simp] theorem onSuccess_error
    (next : α → S.State → Prop)
    (post : Except ε β → S.State → Prop)
    (error : ε)
    (state : S.State) :
    onSuccess next post (.error error : Except ε α) state =
      post (.error error) state := rfl

/-- Weakest precondition of a program that may fail; the postcondition speaks
about values and errors alike. -/
def Ensures
    (C : Contract S)
    (program : Fallible I ε α)
    (post : Except ε α → S.State → Prop)
    (state : S.State) : Prop :=
  Program.Ensures C program.run post state

variable {C : Contract S}

@[simp] theorem ensures_pure
    (value : α)
    (post : Except ε α → S.State → Prop)
    (state : S.State) :
    Ensures C (pure value : Fallible I ε α) post state ↔
      post (.ok value) state := Iff.rfl

@[simp] theorem ensures_throw
    (error : ε)
    (post : Except ε α → S.State → Prop)
    (state : S.State) :
    Ensures C (throw error : Fallible I ε α) post state ↔
      post (.error error) state := Iff.rfl

@[simp] theorem ensures_bind
    (program : Fallible I ε α)
    (continuation : α → Fallible I ε β)
    (post : Except ε β → S.State → Prop)
    (state : S.State) :
    Ensures C (program >>= continuation) post state ↔
      Ensures C program
        (onSuccess (fun value => Ensures C (continuation value) post) post)
        state := by
  unfold Ensures
  rw [ExceptT.run_bind, Program.ensures_bind]
  constructor
  · intro ensures
    refine ensures.mono ?_
    rintro (error | value) final holds
    · exact holds
    · exact holds
  · intro ensures
    refine ensures.mono ?_
    rintro (error | value) final holds
    · exact holds
    · exact holds

@[simp] theorem ensures_map
    (function : α → β)
    (program : Fallible I ε α)
    (post : Except ε β → S.State → Prop)
    (state : S.State) :
    Ensures C (function <$> program) post state ↔
      Ensures C program
        (onSuccess (fun value => post (.ok (function value))) post) state := by
  rw [map_eq_pure_bind, ensures_bind]
  rfl

@[simp] theorem ensures_attempt
    (program : Fallible I ε α)
    (post : Except ε (Except ε α) → S.State → Prop)
    (state : S.State) :
    Ensures C program.attempt post state ↔
      Ensures C program (fun result => post (.ok result)) state := by
  unfold Ensures attempt
  rw [ExceptT.run_mk, map_eq_pure_bind, Program.ensures_bind]
  rfl

@[simp] theorem ensures_mapError
    (rewrite : ε → ε)
    (program : Fallible I ε α)
    (post : Except ε α → S.State → Prop)
    (state : S.State) :
    Ensures C (program.mapError rewrite) post state ↔
      Ensures C program
        (fun result => post (result.mapError rewrite)) state := by
  unfold Ensures mapError
  rw [ExceptT.run_mk, map_eq_pure_bind, Program.ensures_bind]
  rfl

@[simp] theorem ensures_ite
    (condition : Prop) [Decidable condition]
    (first second : Fallible I ε α)
    (post : Except ε α → S.State → Prop)
    (state : S.State) :
    Ensures C (if condition then first else second) post state ↔
      (condition → Ensures C first post state) ∧
        (¬condition → Ensures C second post state) := by
  split <;> simp [*]

/-- A weaker postcondition follows. -/
theorem Ensures.mono
    {program : Fallible I ε α}
    {post weaker : Except ε α → S.State → Prop}
    {state : S.State}
    (ensures : Ensures C program post state)
    (weaken : ∀ result final, post result final → weaker result final) :
    Ensures C program weaker state :=
  Program.Ensures.mono ensures weaken

/-- Two postconditions that hold separately hold together. -/
theorem Ensures.and
    {program : Fallible I ε α}
    {first second : Except ε α → S.State → Prop}
    {state : S.State}
    (ensuresFirst : Ensures C program first state)
    (ensuresSecond : Ensures C program second state) :
    Ensures C program
      (fun result final => first result final ∧ second result final) state :=
  Program.Ensures.and ensuresFirst ensuresSecond

/-- What follows a program that may issue every call has to be shown in every
state. -/
theorem ensures_bind_of_free
    (guarded : ∀ state request, C.guard state request)
    (program : Fallible I ε α)
    (continuation : α → Fallible I ε β)
    (post : Except ε β → S.State → Prop)
    (state : S.State)
    (failed : ∀ error final, post (.error error) final)
    (continues : ∀ value final, Ensures C (continuation value) post final) :
    Ensures C (program >>= continuation) post state := by
  rw [ensures_bind]
  refine Ensures.mono (Program.ensures_true guarded program.run state) ?_
  rintro (error | value) final _
  · exact failed error final
  · exact continues value final

end Fallible
end Interaction
