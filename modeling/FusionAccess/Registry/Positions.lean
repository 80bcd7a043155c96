import FusionAccess.Registry.Keyed
import Mathlib.Data.List.Induction

/-!
# Positions of records

Records are upserted one after the other. Every key keeps the position at which its
first record was appended, so that a list of records can be maintained by position,
and the keys stand in the order of their first occurrences.
-/

namespace Registry

variable {α κ : Type} [DecidableEq κ]

/-- The position of the first record with the given key. -/
def position? (key : α → κ) (name : κ) (records : List α) : Option Nat :=
  records.findIdx? fun record => key record = name

variable {key : α → κ} {name : κ} {records : List α} {record : α}

theorem position?_cons (head : α) (tail : List α) :
    position? key name (head :: tail) =
      if key head = name then some 0 else (position? key name tail).map (· + 1) := by
  unfold position?
  rw [List.findIdx?_cons]
  by_cases same : key head = name <;> simp [same]

theorem position?_append (first second : List α) :
    position? key name (first ++ second) =
      (position? key name first).or
        ((position? key name second).map (· + first.length)) := by
  unfold position?
  rw [List.findIdx?_append]

theorem position?_eq_none : position? key name records = none ↔ name ∉ records.map key := by
  unfold position?
  rw [List.findIdx?_eq_none_iff]
  simp

theorem position?_lt {index : Nat} (found : position? key name records = some index) :
    index < records.length := by
  unfold position? at found
  rw [List.findIdx?_eq_some_iff_findIdx_eq] at found
  exact found.1

/-- Only the keys decide about positions. -/
theorem position?_eq_of_map_eq
    {other : List α} (same : records.map key = other.map key) :
    position? key name records = position? key name other := by
  have byKeys : ∀ list : List α,
      position? key name list = (list.map key).findIdx? fun listed => listed = name := by
    intro list
    rw [List.findIdx?_map]
    rfl
  rw [byKeys, byKeys, same]

/-! ## Upserts by position -/

/-- A record with a new key is appended. -/
theorem upsert_of_position?_eq_none
    (absent : position? key (key record) records = none) :
    upsert key record records = records ++ [record] := by
  induction records with
  | nil => rfl
  | cons head tail inductionHypothesis =>
      rw [position?_cons] at absent
      split at absent
      · cases absent
      next different =>
        rw [Option.map_eq_none_iff] at absent
        rw [upsert, if_neg different, inductionHypothesis absent, List.cons_append]

/-- A record with a known key is written at the position of this key. -/
theorem upsert_of_position?_eq_some
    {index : Nat} (found : position? key (key record) records = some index) :
    upsert key record records = records.set index record := by
  induction records generalizing index with
  | nil => cases found
  | cons head tail inductionHypothesis =>
      rw [position?_cons] at found
      split at found
      next same =>
        cases found
        rw [upsert, if_pos same, List.set_cons_zero]
      next different =>
        obtain ⟨earlier, inTail, rfl⟩ := Option.map_eq_some_iff.mp found
        rw [upsert, if_neg different, inductionHypothesis inTail, List.set_cons_succ]

/-- An upsert appends the key unless it is there. -/
theorem map_key_upsert (record : α) (records : List α) :
    (upsert key record records).map key =
      if key record ∈ records.map key then records.map key
      else records.map key ++ [key record] := by
  induction records with
  | nil => rfl
  | cons head tail inductionHypothesis =>
      rw [upsert]
      by_cases replaced : key head = key record
      · rw [if_pos replaced, if_pos (by simp [replaced]), List.map_cons, List.map_cons,
          replaced]
      · have inTail : key record ∈ (head :: tail).map key ↔ key record ∈ tail.map key := by
          rw [List.map_cons, List.mem_cons, or_iff_right (Ne.symm replaced)]
        rw [if_neg replaced, List.map_cons, inductionHypothesis]
        simp only [inTail]
        split <;> rfl

/-- An upsert leaves all positions as they are, but for a key that is new. -/
theorem position?_upsert (record : α) (records : List α) :
    position? key name (upsert key record records) =
      (position? key name records).or
        (if key record = name then some records.length else none) := by
  cases found : position? key (key record) records with
  | none =>
      rw [upsert_of_position?_eq_none found, position?_append, position?_cons]
      split
      · rw [Option.map_some, Nat.zero_add]
      · rfl
  | some index =>
      have listed : key record ∈ records.map key := by
        by_contra absent
        rw [position?_eq_none.mpr absent] at found
        cases found
      have keys := @map_key_upsert _ _ _ key record records
      rw [if_pos listed] at keys
      rw [position?_eq_of_map_eq keys]
      split
      next same =>
        rw [← same, found, Option.some_or]
      next => rw [Option.or_none]

/-! ## The order of keys -/

theorem mem_map_key_foldl_upsert (updates : List α) :
    name ∈ (updates.foldl (fun records record => upsert key record records) []).map key ↔
      name ∈ updates.map key := by
  induction updates using List.reverseRecOn with
  | nil => rfl
  | append_singleton updates update inductionHypothesis =>
      rw [List.foldl_append, List.foldl_cons, List.foldl_nil, map_key_upsert,
        List.map_append, List.mem_append, ← inductionHypothesis]
      split
      next listed =>
        refine ⟨Or.inl, fun member => member.elim id fun last => ?_⟩
        rwa [List.mem_singleton.mp last]
      next => rw [List.mem_append, List.map_singleton]

/-- The keys stand in the order in which they occur first. -/
theorem pairwise_foldl_upsert (updates : List α) :
    ((updates.foldl (fun records record => upsert key record records) []).map
      key).Pairwise fun first second =>
        (updates.map key).idxOf first < (updates.map key).idxOf second := by
  induction updates using List.reverseRecOn with
  | nil => exact List.Pairwise.nil
  | append_singleton updates update inductionHypothesis =>
      have member := fun name => @mem_map_key_foldl_upsert α κ _ key name updates
      rw [List.foldl_append, List.foldl_cons, List.foldl_nil, map_key_upsert,
        List.map_append, List.map_singleton]
      -- what occurred earlier occurs first where it did
      have earlier : ∀ {name : κ}, name ∈ updates.map key →
          (updates.map key ++ [key update]).idxOf name = (updates.map key).idxOf name :=
        fun listed => List.idxOf_append_of_mem listed
      have before := inductionHypothesis.imp_of_mem
        (S := fun first second => (updates.map key ++ [key update]).idxOf first <
          (updates.map key ++ [key update]).idxOf second) fun first second less => by
            rw [earlier ((member _).mp first), earlier ((member _).mp second)]
            exact less
      split
      next => exact before
      next fresh =>
        rw [member] at fresh
        refine List.pairwise_append.mpr ⟨before, List.pairwise_singleton _ _, ?_⟩
        intro name listed last isLast
        rw [List.mem_singleton.mp isLast, earlier ((member name).mp listed),
          List.idxOf_append_of_notMem fresh]
        have inside := List.idxOf_lt_length_of_mem ((member name).mp listed)
        omega

end Registry
