import Mathlib.Data.List.Nodup

/-!
# Lists of keyed records

A registry is a list of records that are looked up, replaced and removed by
key. Lookups find the first record with a key; nothing here assumes that keys
are distinct, and the operations keep them distinct when they are.
-/

namespace Registry

variable {α κ : Type} [DecidableEq κ] (key : α → κ)

/-- The first record with the given key. -/
def find? (name : κ) (records : List α) : Option α :=
  records.find? fun record => key record = name

/-- Change the records with the given key. -/
def amend (name : κ) (change : α → α) (records : List α) : List α :=
  records.map fun record => if key record = name then change record else record

/-- Drop the records with the given key. -/
def remove (name : κ) (records : List α) : List α :=
  records.filter fun record => key record ≠ name

/-- Replace the first record with the key of the given one, or append it. -/
def upsert (record : α) : List α → List α
  | [] => [record]
  | head :: tail =>
      if key head = key record then record :: tail
      else head :: upsert record tail

section Lookup

variable {key} {name other : κ} {records : List α} {record : α}

@[simp] theorem find?_nil : find? key name ([] : List α) = none := rfl

theorem find?_cons (head : α) (tail : List α) :
    find? key name (head :: tail) =
      if key head = name then some head else find? key name tail := by
  unfold find?
  rw [List.find?_cons]
  by_cases same : key head = name <;> simp [same]

/-- A record that is found is listed under its own key. -/
theorem find?_eq_some
    (found : find? key name records = some record) :
    record ∈ records ∧ key record = name := by
  refine ⟨List.mem_of_find?_eq_some found, ?_⟩
  simpa using List.find?_some found

theorem find?_eq_none :
    find? key name records = none ↔
      ∀ record ∈ records, key record ≠ name := by
  simp [find?]

theorem find?_isSome_of_mem (member : record ∈ records) :
    (find? key (key record) records).isSome := by
  rw [find?, List.find?_isSome]
  exact ⟨record, member, by simp⟩

/-- With distinct keys a listed record is the one that is found. -/
theorem find?_eq_some_of_mem
    (distinct : (records.map key).Nodup)
    (member : record ∈ records) :
    find? key (key record) records = some record := by
  induction records with
  | nil => simp at member
  | cons head tail inductionHypothesis =>
      rw [List.map_cons, List.nodup_cons] at distinct
      rw [find?_cons]
      rcases List.mem_cons.mp member with rfl | inTail
      · simp
      · have different : key head ≠ key record := by
          intro same
          exact distinct.1 (same ▸ List.mem_map_of_mem inTail)
        rw [if_neg different]
        exact inductionHypothesis distinct.2 inTail

/-- With distinct keys a listed record is the only one with its key. -/
theorem filter_eq_singleton
    (distinct : (records.map key).Nodup)
    (member : record ∈ records) :
    records.filter (fun other => key other = key record) = [record] := by
  induction records with
  | nil => simp at member
  | cons head tail inductionHypothesis =>
      rw [List.map_cons, List.nodup_cons] at distinct
      rw [List.filter_cons]
      rcases List.mem_cons.mp member with rfl | inTail
      · have none : tail.filter (fun other => key other = key record) = [] := by
          rw [List.filter_eq_nil_iff]
          intro other inTail same
          exact distinct.1 (of_decide_eq_true same ▸ List.mem_map_of_mem inTail)
        rw [if_pos (by simp), none]
      · have different : key head ≠ key record := by
          intro same
          exact distinct.1 (same ▸ List.mem_map_of_mem inTail)
        rw [if_neg (by simpa using different)]
        exact inductionHypothesis distinct.2 inTail

theorem find?_append (first second : List α) :
    find? key name (first ++ second) =
      (find? key name first).or (find? key name second) := by
  simp [find?, List.find?_append]

end Lookup

section Amend

variable {key} {name other : κ} {change : α → α} {records : List α}

theorem amend_cons (head : α) (tail : List α) :
    amend key name change (head :: tail) =
      (if key head = name then change head else head) ::
        amend key name change tail := rfl

/-- Looking up an amended record finds the changed record. -/
theorem find?_amend_self
    (keeps : ∀ record, key record = name → key (change record) = name) :
    find? key name (amend key name change records) =
      (find? key name records).map change := by
  induction records with
  | nil => rfl
  | cons head tail inductionHypothesis =>
      rw [amend_cons, find?_cons, find?_cons]
      by_cases same : key head = name
      · simp [same, keeps head same]
      · simpa [same] using inductionHypothesis

/-- Amending one record leaves the lookups of all others alone. -/
theorem find?_amend_of_ne
    (keeps : ∀ record, key record = name → key (change record) = name)
    (different : other ≠ name) :
    find? key other (amend key name change records) =
      find? key other records := by
  induction records with
  | nil => rfl
  | cons head tail inductionHypothesis =>
      rw [amend_cons, find?_cons, find?_cons]
      by_cases same : key head = name
      · simpa [same, keeps head same, Ne.symm different] using inductionHypothesis
      · simp only [same, if_false]
        by_cases found : key head = other
        · simp [found]
        · simpa [found] using inductionHypothesis

theorem map_key_amend
    (keeps : ∀ record, key record = name → key (change record) = name) :
    (amend key name change records).map key = records.map key := by
  simp only [amend, List.map_map]
  apply List.map_congr_left
  intro record _
  by_cases same : key record = name
  · simp [same, keeps record same]
  · simp [same]

/-- A change that selection and view do not see does not change what is seen. -/
theorem map_filter_amend
    {β : Type} {select : α → Bool} {view : α → β}
    (selects : ∀ record, select (change record) = select record)
    (views : ∀ record, view (change record) = view record) :
    ((amend key name change records).filter select).map view =
      (records.filter select).map view := by
  induction records with
  | nil => rfl
  | cons head tail inductionHypothesis =>
      have head' : select (if key head = name then change head else head) = select head ∧
          view (if key head = name then change head else head) = view head := by
        split
        · exact ⟨selects head, views head⟩
        · exact ⟨rfl, rfl⟩
      rw [amend_cons, List.filter_cons, List.filter_cons, head'.1]
      split
      · rw [List.map_cons, List.map_cons, head'.2, inductionHypothesis]
      · exact inductionHypothesis

theorem mem_amend {record : α} :
    record ∈ amend key name change records ↔
      (record ∈ records ∧ key record ≠ name) ∨
        ∃ original ∈ records, key original = name ∧
          change original = record := by
  simp only [amend, List.mem_map]
  constructor
  · rintro ⟨original, member, rfl⟩
    by_cases same : key original = name
    · exact Or.inr ⟨original, member, same, by simp [same]⟩
    · exact Or.inl (by simp [same, member])
  · rintro (⟨member, different⟩ | ⟨original, member, same, rfl⟩)
    · exact ⟨record, member, by simp [different]⟩
    · exact ⟨original, member, by simp [same]⟩

end Amend

section Remove

variable {key} {name other : κ} {records : List α}

@[simp] theorem mem_remove {record : α} :
    record ∈ remove key name records ↔
      record ∈ records ∧ key record ≠ name := by
  simp [remove]

theorem find?_remove_self : find? key name (remove key name records) = none := by
  rw [find?_eq_none]
  intro record member
  exact (mem_remove.mp member).2

theorem find?_remove_of_ne (different : other ≠ name) :
    find? key other (remove key name records) = find? key other records := by
  unfold find? remove
  rw [List.find?_filter]
  congr 1
  funext record
  by_cases same : key record = other
  · simp [same, different]
  · simp [same]

end Remove

section Upsert

variable {key} {name : κ} {records : List α}

/-- After an upsert the new record is found under its key and every other key
finds what it found before. -/
theorem find?_upsert (record : α) :
    find? key name (upsert key record records) =
      if key record = name then some record else find? key name records := by
  induction records with
  | nil => simp [upsert, find?_cons]
  | cons head tail inductionHypothesis =>
      rw [upsert]
      by_cases replaced : key head = key record
      · rw [if_pos replaced, find?_cons, find?_cons, replaced]
        by_cases same : key record = name <;> simp [same]
      · rw [if_neg replaced, find?_cons, find?_cons, inductionHypothesis]
        by_cases found : key head = name
        · have different : key record ≠ name := fun same =>
            replaced (found.trans same.symm)
          simp [found, different]
        · simp [found]

theorem mem_upsert {record member : α}
    (listed : member ∈ upsert key record records) :
    member = record ∨ member ∈ records := by
  induction records with
  | nil => simpa [upsert] using listed
  | cons head tail inductionHypothesis =>
      rw [upsert] at listed
      split at listed
      · rcases List.mem_cons.mp listed with equal | inTail
        · exact Or.inl equal
        · exact Or.inr (List.mem_cons_of_mem _ inTail)
      · rcases List.mem_cons.mp listed with equal | inTail
        · exact Or.inr (by simp [equal])
        · rcases inductionHypothesis inTail with equal | inTail
          · exact Or.inl equal
          · exact Or.inr (List.mem_cons_of_mem _ inTail)

/-- An upsert keeps distinct keys distinct. -/
theorem nodup_upsert (record : α)
    (distinct : (records.map key).Nodup) :
    ((upsert key record records).map key).Nodup := by
  induction records with
  | nil => simp [upsert]
  | cons head tail inductionHypothesis =>
      rw [List.map_cons, List.nodup_cons] at distinct
      rw [upsert]
      by_cases replaced : key head = key record
      · rw [if_pos replaced, List.map_cons, List.nodup_cons, ← replaced]
        exact distinct
      · rw [if_neg replaced, List.map_cons, List.nodup_cons]
        refine ⟨?_, inductionHypothesis distinct.2⟩
        intro listed
        obtain ⟨member, inUpsert, sameKey⟩ := List.mem_map.mp listed
        rcases mem_upsert inUpsert with rfl | inTail
        · exact replaced sameKey.symm
        · exact distinct.1 (sameKey ▸ List.mem_map_of_mem inTail)

/-! ### Records seen through a function -/

theorem find?_map {β : Type} (view : β → α) (records : List β) :
    find? key name (records.map view) =
      (find? (fun record => key (view record)) name records).map view := by
  unfold find?
  rw [List.find?_map]
  rfl

theorem upsert_map {β : Type} (view : β → α) (record : β) (records : List β) :
    upsert key (view record) (records.map view) =
      (upsert (fun record => key (view record)) record records).map view := by
  induction records with
  | nil => rfl
  | cons head tail inductionHypothesis =>
      rw [List.map_cons, upsert, upsert]
      split
      · rfl
      · rw [List.map_cons, inductionHypothesis]

/-! ### Upserting one record after the other -/

/-- Of the records with one key the last one is kept. -/
theorem find?_foldl_upsert (updates records : List α) :
    find? key name
        (updates.foldl (fun records record => upsert key record records) records) =
      (find? key name updates.reverse).or (find? key name records) := by
  induction updates generalizing records with
  | nil => rfl
  | cons update rest inductionHypothesis =>
      rw [List.foldl_cons, inductionHypothesis, find?_upsert, List.reverse_cons,
        find?_append, Option.or_assoc, find?_cons]
      split <;> rfl

theorem nodup_foldl_upsert (updates : List α)
    (distinct : (records.map key).Nodup) :
    ((updates.foldl (fun records record => upsert key record records)
      records).map key).Nodup := by
  induction updates generalizing records with
  | nil => exact distinct
  | cons update rest inductionHypothesis =>
      exact inductionHypothesis (nodup_upsert update distinct)

theorem mem_foldl_upsert {updates : List α} {record : α} :
    record ∈ updates.foldl (fun records record => upsert key record records) [] ↔
      find? key (key record) updates.reverse = some record := by
  have found := @find?_foldl_upsert α κ _ key (key record) updates []
  rw [find?_nil, Option.or_none] at found
  rw [← found]
  constructor
  · exact find?_eq_some_of_mem (nodup_foldl_upsert updates List.nodup_nil)
  · intro kept
    exact (find?_eq_some kept).1

end Upsert
end Registry
