import FusionAccess.Registry.Keyed
import Mathlib.Data.String.Basic

/-!
# Maps as lists of entries

A map is kept as the list of its entries in the order of their keys, which is
the order in which maps are encoded. Lookups find the first entry with a key.
-/

namespace Registry

/-- A map, as the list of its entries. -/
abbrev Entries (κ α : Type) : Type := List (κ × α)

namespace Entries

variable {κ α : Type} [LinearOrder κ]

/-- The value under a key. -/
def get? (entries : Entries κ α) (key : κ) : Option α :=
  (Registry.find? Prod.fst key entries).map Prod.snd

/-- Replace the value under a key, or insert it before the entries with larger
keys. -/
def set (key : κ) (value : α) : Entries κ α → Entries κ α
  | [] => [(key, value)]
  | head :: tail =>
      if head.1 = key then (key, value) :: tail
      else if key < head.1 then (key, value) :: head :: tail
      else head :: set key value tail

/-- Set all entries of the second map in the first. -/
def overwrite (entries updates : Entries κ α) : Entries κ α :=
  updates.foldr (fun entry entries => entries.set entry.1 entry.2) entries

@[simp] theorem get?_nil (key : κ) : get? ([] : Entries κ α) key = none := rfl

theorem get?_cons (head : κ × α) (tail : Entries κ α) (key : κ) :
    get? (head :: tail) key = if head.1 = key then some head.2 else get? tail key := by
  rw [get?, Registry.find?_cons]
  split <;> rfl

/-- Reading a map after setting one entry. -/
theorem get?_set (key : κ) (value : α) (entries : Entries κ α) (other : κ) :
    (entries.set key value).get? other =
      if key = other then some value else entries.get? other := by
  induction entries with
  | nil => rw [set, get?_cons, get?_nil]
  | cons head tail inductionHypothesis =>
      rw [set]
      split
      next replaced =>
        rw [get?_cons, get?_cons, replaced]
        split <;> rfl
      next other' =>
        split
        · rw [get?_cons]
        · rw [get?_cons, get?_cons, inductionHypothesis]
          by_cases same : head.1 = other
          · have different : key ≠ other := fun equal => other' (same.trans equal.symm)
            rw [if_pos same, if_neg different, if_pos same]
          · rw [if_neg same, if_neg same]

/-- Reading a map after setting all entries of another one. -/
theorem get?_overwrite (entries updates : Entries κ α) (key : κ) :
    (entries.overwrite updates).get? key = (updates.get? key).or (entries.get? key) := by
  induction updates with
  | nil => simp [overwrite]
  | cons head tail inductionHypothesis =>
      rw [overwrite, List.foldr_cons, get?_set, get?_cons]
      split
      · rfl
      · exact inductionHypothesis

/-! ### Entries in order -/

/-- The keys of the entries increase. -/
def Sorted (entries : Entries κ α) : Prop :=
  entries.Pairwise fun first second => first.1 < second.1

variable {entries : Entries κ α}

/-- All entries that follow have larger keys, and so none has the key. -/
theorem get?_eq_none_of_lt
    {key : κ} (larger : ∀ entry ∈ entries, key < entry.1) : entries.get? key = none := by
  rw [get?, Option.map_eq_none_iff, Registry.find?_eq_none]
  intro entry listed same
  exact lt_irrefl key (same ▸ larger entry listed)

theorem mem_set
    {key : κ} {value : α} {entry : κ × α} (listed : entry ∈ entries.set key value) :
    entry = (key, value) ∨ entry ∈ entries := by
  induction entries with
  | nil => exact Or.inl (List.mem_singleton.mp listed)
  | cons head tail inductionHypothesis =>
      rw [set] at listed
      split at listed
      · rcases List.mem_cons.mp listed with isNew | inTail
        · exact Or.inl isNew
        · exact Or.inr (List.mem_cons_of_mem _ inTail)
      · split at listed
        · exact List.mem_cons.mp listed
        · rcases List.mem_cons.mp listed with rfl | inTail
          · exact Or.inr List.mem_cons_self
          · exact (inductionHypothesis inTail).imp_right (List.mem_cons_of_mem _)

/-- Setting an entry keeps the order. -/
theorem sorted_set (sorted : Sorted entries) (key : κ) (value : α) :
    Sorted (entries.set key value) := by
  induction entries with
  | nil => exact List.pairwise_singleton _ _
  | cons head tail inductionHypothesis =>
      obtain ⟨larger, rest⟩ := List.pairwise_cons.mp sorted
      rw [set]
      by_cases same : head.1 = key
      · rw [if_pos same]
        exact List.pairwise_cons.mpr ⟨same ▸ larger, rest⟩
      · rw [if_neg same]
        by_cases before : key < head.1
        · rw [if_pos before]
          refine List.pairwise_cons.mpr ⟨fun entry listed => ?_, sorted⟩
          rcases List.mem_cons.mp listed with rfl | inTail
          · exact before
          · exact before.trans (larger entry inTail)
        · rw [if_neg before]
          refine List.pairwise_cons.mpr ⟨fun entry listed => ?_, inductionHypothesis rest⟩
          rcases mem_set listed with rfl | inTail
          · exact lt_of_le_of_ne (not_lt.mp before) same
          · exact larger entry inTail

theorem sorted_overwrite (sorted : Sorted entries) (updates : Entries κ α) :
    Sorted (entries.overwrite updates) := by
  induction updates with
  | nil => exact sorted
  | cons head tail inductionHypothesis =>
      rw [overwrite, List.foldr_cons]
      exact sorted_set inductionHypothesis _ _

/-- Ordered entries are told by what is found under each key. -/
theorem eq_of_sorted
    {other : Entries κ α} (sorted : Sorted entries) (sortedOther : Sorted other)
    (same : ∀ key, entries.get? key = other.get? key) : entries = other := by
  induction entries generalizing other with
  | nil =>
      cases other with
      | nil => rfl
      | cons head tail =>
          have found := same head.1
          rw [get?_cons, if_pos rfl] at found
          cases found
  | cons head tail inductionHypothesis =>
      obtain ⟨larger, rest⟩ := List.pairwise_cons.mp sorted
      cases other with
      | nil =>
          have found := same head.1
          rw [get?_cons, if_pos rfl] at found
          cases found
      | cons first others =>
          obtain ⟨largerOther, restOther⟩ := List.pairwise_cons.mp sortedOther
          have absent : get? tail head.1 = none := get?_eq_none_of_lt larger
          have absentOther : get? others first.1 = none := get?_eq_none_of_lt largerOther
          have sameKey : head.1 = first.1 := by
            rcases lt_trichotomy head.1 first.1 with before | equal | after
            · have found := same head.1
              rw [get?_cons, if_pos rfl, get?_cons, if_neg before.ne',
                get?_eq_none_of_lt fun entry listed => before.trans (largerOther entry listed)]
                at found
              cases found
            · exact equal
            · have found := same first.1
              rw [get?_cons, if_neg after.ne', get?_cons, if_pos rfl,
                get?_eq_none_of_lt fun entry listed => after.trans (larger entry listed)]
                at found
              cases found
          have sameValue := same head.1
          rw [get?_cons, if_pos rfl, get?_cons, if_pos sameKey.symm,
            Option.some.injEq] at sameValue
          have sameTail : tail = others := by
            apply inductionHypothesis rest restOther
            intro key
            have found := same key
            rw [get?_cons, get?_cons, ← sameKey] at found
            by_cases isKey : head.1 = key
            · rw [← isKey, absent, sameKey, absentOther]
            · rwa [if_neg isKey, if_neg isKey] at found
          rw [sameTail, Prod.ext sameKey sameValue]

end Entries
end Registry
