import Mathlib.Data.List.Basic

/-!
# Additions until a name is there

A loop goes through names and adds a record for each of them, until it comes to a
name that is there. It adds all that are missing exactly when nothing is missing
behind this name.
-/

namespace Registry

variable {κ : Type} [DecidableEq κ]

/-- The names that are added by the end of the loop, given those added so far. -/
def added (there : κ → Bool) : List κ → List κ → List κ
  | made, [] => made
  | made, name :: names =>
      if there name || name ∈ made then made else added there (made ++ [name]) names

/-- Once the loop has come to a name that is there, all later names are there. -/
def gapless (there : κ → Bool) : List κ → List κ → Bool
  | _, [] => true
  | made, name :: names =>
      if there name || name ∈ made then
        names.all fun later => there later || later ∈ made
      else gapless there (made ++ [name]) names

variable {there : κ → Bool} {made names : List κ} {name : κ}

theorem added_of_taken (taken : there name = true ∨ name ∈ made) :
    added there made (name :: names) = made :=
  if_pos (by simpa using taken)

theorem added_of_free (free : ¬(there name = true ∨ name ∈ made)) :
    added there made (name :: names) = added there (made ++ [name]) names :=
  if_neg (by simpa using free)

theorem subset_added (there : κ → Bool) (made names : List κ) :
    made ⊆ added there made names := by
  induction names generalizing made with
  | nil => exact List.Subset.refl made
  | cons name names inductionHypothesis =>
      by_cases taken : there name = true ∨ name ∈ made
      · rw [added_of_taken taken]
        exact List.Subset.refl made
      · rw [added_of_free taken]
        exact List.Subset.trans (List.subset_append_left made [name]) (inductionHypothesis _)

/-- Nothing is added when the first name, if there is one, is there. -/
theorem added_nil_iff :
    added there [] names = [] ↔ ∀ name ∈ names.head?, there name = true := by
  cases names with
  | nil => simp [added]
  | cons name names =>
      rw [List.head?_cons]
      constructor
      · rintro none _ ⟨⟩
        by_contra free
        rw [added_of_free (by simpa using free)] at none
        have member := subset_added there ([] ++ [name]) names (List.mem_singleton_self name)
        rw [none] at member
        cases member
      · exact fun taken => added_of_taken (Or.inl (taken name rfl))

/-- All names are there in the end if and only if the loop leaves no gap. -/
theorem gapless_iff :
    gapless there made names = true ↔
      ∀ name ∈ names, there name = true ∨ name ∈ added there made names := by
  induction names generalizing made with
  | nil => simp [gapless]
  | cons name names inductionHypothesis =>
      by_cases taken : there name = true ∨ name ∈ made
      · rw [added_of_taken taken, gapless, if_pos (by simpa using taken),
          List.forall_mem_cons]
        simp [taken]
      · rw [added_of_free taken, gapless, if_neg (by simpa using taken),
          inductionHypothesis, List.forall_mem_cons]
        have member := subset_added there (made ++ [name]) names (by simp : name ∈ _)
        simp [member]

end Registry
