import FusionAccess.Interaction.Contract

/-!
# Safe programs

A program is safe for a contract and an invariant when, started in the
invariant, it keeps to the contract and ends in the invariant whatever its
result. Safety composes along the ways in which programs are put together, so
a large program is safe because each of its calls is.
-/

namespace Interaction
namespace Fallible

variable {I : Interface} {S : Server I} {α β ε : Type}

/-- The program keeps to the contract, preserves the invariant, and all its
results meet the postcondition. -/
def SafeThen
    (C : Contract S)
    (invariant : S.State → Prop)
    (program : Fallible I ε α)
    (post : Except ε α → Prop) : Prop :=
  ∀ state, invariant state →
    Ensures C program (fun result final => post result ∧ invariant final) state

/-- The program keeps to the contract and preserves the invariant. -/
abbrev Safe
    (C : Contract S)
    (invariant : S.State → Prop)
    (program : Fallible I ε α) : Prop :=
  SafeThen C invariant program fun _ => True

variable {C : Contract S} {invariant : S.State → Prop}

theorem SafeThen.mono
    {program : Fallible I ε α}
    {post weaker : Except ε α → Prop}
    (safe : SafeThen C invariant program post)
    (weaken : ∀ result, post result → weaker result) :
    SafeThen C invariant program weaker :=
  fun state holds => (safe state holds).mono fun result _ ensured =>
    ⟨weaken result ensured.1, ensured.2⟩

/-- What is known about the results may be forgotten. -/
theorem SafeThen.safe
    {program : Fallible I ε α}
    {post : Except ε α → Prop}
    (safe : SafeThen C invariant program post) :
    Safe C invariant program :=
  safe.mono fun _ _ => trivial

theorem safeThen_pure
    {post : Except ε α → Prop}
    {value : α}
    (holds : post (.ok value)) :
    SafeThen C invariant (pure value) post :=
  fun _ inv => ⟨holds, inv⟩

theorem safeThen_throw
    {post : Except ε α → Prop}
    {error : ε}
    (holds : post (.error error)) :
    SafeThen C invariant (throw error) post :=
  fun _ inv => ⟨holds, inv⟩

theorem safe_pure (value : α) :
    Safe C invariant (pure value : Fallible I ε α) :=
  safeThen_pure trivial

theorem safe_throw (error : ε) :
    Safe C invariant (throw error : Fallible I ε α) :=
  safeThen_throw trivial

/-- Safe programs compose along sequencing. -/
theorem SafeThen.bind
    {program : Fallible I ε α}
    {continuation : α → Fallible I ε β}
    {between : Except ε α → Prop}
    {post : Except ε β → Prop}
    (first : SafeThen C invariant program between)
    (failed : ∀ error, between (.error error) → post (.error error))
    (continues : ∀ value, between (.ok value) →
      SafeThen C invariant (continuation value) post) :
    SafeThen C invariant (program >>= continuation) post := by
  intro state holds
  rw [ensures_bind]
  refine (first state holds).mono ?_
  rintro (error | value) final ⟨known, inv⟩
  · exact ⟨failed error known, inv⟩
  · exact continues value known final inv

/-- Sequencing when nothing has to be known about the results. -/
theorem SafeThen.andThen
    {program : Fallible I ε α}
    {continuation : α → Fallible I ε β}
    {between : Except ε α → Prop}
    (first : SafeThen C invariant program between)
    (continues : ∀ value, between (.ok value) →
      Safe C invariant (continuation value)) :
    Safe C invariant (program >>= continuation) :=
  first.bind (fun _ _ => trivial) continues

/-- Sequencing with a program that carries on after errors. -/
theorem SafeThen.attempt
    {program : Fallible I ε α}
    {continuation : Except ε α → Fallible I ε β}
    {between : Except ε α → Prop}
    {post : Except ε β → Prop}
    (first : SafeThen C invariant program between)
    (continues : ∀ result, between result →
      SafeThen C invariant (continuation result) post) :
    SafeThen C invariant (program.attempt >>= continuation) post := by
  intro state holds
  rw [ensures_bind, ensures_attempt]
  exact (first state holds).mono fun result final ensured =>
    continues result ensured.1 final ensured.2

/-- Errors may be rewritten. -/
theorem SafeThen.mapError
    {rewrite : ε → ε}
    {program : Fallible I ε α}
    {post : Except ε α → Prop}
    (safe : SafeThen C invariant program post)
    (rewritten : ∀ error, post (.error error) → post (.error (rewrite error))) :
    SafeThen C invariant (program.mapError rewrite) post := by
  intro state holds
  rw [ensures_mapError]
  refine (safe state holds).mono ?_
  rintro (error | value) final ⟨known, inv⟩
  · exact ⟨rewritten error known, inv⟩
  · exact ⟨known, inv⟩

theorem safeThen_ite
    {condition : Prop} [Decidable condition]
    {first second : Fallible I ε α}
    {post : Except ε α → Prop}
    (whenTrue : condition → SafeThen C invariant first post)
    (whenFalse : ¬condition → SafeThen C invariant second post) :
    SafeThen C invariant (if condition then first else second) post := by
  split
  next holds => exact whenTrue holds
  next fails => exact whenFalse fails

end Fallible
end Interaction
