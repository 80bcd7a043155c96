import Mathlib.Control.Monad.Basic

/-!
# Results

A computation that makes no calls ends with a value or an error. A sequence of such
computations has a value if each of them has one.
-/

namespace Results

variable {ε α β : Type}

/-- The result is no error. -/
def Succeeds (result : Except ε α) : Prop := ∃ value, result = .ok value

@[simp] theorem succeeds_ok (value : α) : Succeeds (.ok value : Except ε α) := ⟨value, rfl⟩

@[simp] theorem succeeds_pure (value : α) : Succeeds (pure value : Except ε α) := ⟨value, rfl⟩

@[simp] theorem not_succeeds_error (err : ε) : ¬Succeeds (.error err : Except ε α) := by
  rintro ⟨value, impossible⟩
  cases impossible

/-- What precedes a value. -/
theorem bind_eq_ok {first : Except ε α} {next : α → Except ε β} {result : β} :
    (first >>= next) = .ok result ↔
      ∃ value, first = .ok value ∧ next value = .ok result := by
  cases first with
  | error err =>
      constructor
      · intro impossible
        cases impossible
      · rintro ⟨value, impossible, _⟩
        cases impossible
  | ok value =>
      constructor
      · exact fun ends => ⟨value, rfl, ends⟩
      · rintro ⟨_, ⟨⟩, ends⟩
        exact ends

theorem succeeds_bind {first : Except ε α} {next : α → Except ε β} :
    Succeeds (first >>= next) ↔ ∃ value, first = .ok value ∧ Succeeds (next value) := by
  constructor
  · rintro ⟨result, ends⟩
    obtain ⟨value, isFirst, isNext⟩ := bind_eq_ok.mp ends
    exact ⟨value, isFirst, result, isNext⟩
  · rintro ⟨value, isFirst, result, isNext⟩
    exact ⟨result, bind_eq_ok.mpr ⟨value, isFirst, isNext⟩⟩

/-- A last step that cannot fail. -/
theorem succeeds_bind_pure {first : Except ε α} {value : α → β} :
    Succeeds (first >>= fun result => pure (value result)) ↔ Succeeds first := by
  rw [succeeds_bind]
  exact ⟨fun ⟨result, ends, _⟩ => ⟨result, ends⟩, fun ⟨result, ends⟩ => ⟨result, ends, by simp⟩⟩

theorem eq_ok_of_mapError
    {program : Except ε α} {rewrite : ε → ε} {value : α}
    (ends : program.mapError rewrite = .ok value) :
    program = .ok value := by
  cases program with
  | error _ => cases ends
  | ok result => exact ends

/-- What holds at the start of a loop and is kept by every round holds at its end. -/
theorem foldlM_preserves
    {round : β → α → Except ε β} {holds : β → Prop} {items : List α} {start result : β}
    (ends : items.foldlM round start = .ok result)
    (initially : holds start)
    (kept : ∀ item ∈ items, ∀ before after, holds before →
      round before item = .ok after → holds after) :
    holds result := by
  induction items generalizing start with
  | nil =>
      cases ends
      exact initially
  | cons item rest inductionHypothesis =>
      rw [List.foldlM_cons] at ends
      obtain ⟨between, first, ends⟩ := bind_eq_ok.mp ends
      exact inductionHypothesis ends (kept item (by simp) start between initially first)
        fun later member => kept later (List.mem_cons_of_mem _ member)

end Results
