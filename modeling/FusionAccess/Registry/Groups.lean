import FusionAccess.Registry.Keyed
import Mathlib.Data.List.Induction

/-!
# Grouping records

The records of a list under each key, in the order of the list; the keys come
in the order in which they appear first.
-/

namespace Registry

variable {α κ : Type} [DecidableEq κ]

/-- Put one record into the group of its key. -/
def addToGroup
    (key : α → κ) (groups : List (κ × List α)) (record : α) :
    List (κ × List α) :=
  upsert Prod.fst
    (key record,
      ((find? Prod.fst (key record) groups).elim [] Prod.snd) ++ [record])
    groups

/-- The groups of a list. -/
def groupBy (key : α → κ) (records : List α) : List (κ × List α) :=
  records.foldl (addToGroup key) []

/-- The group of a key has the records with this key, and there is none
without records. -/
theorem find?_groupBy (key : α → κ) (records : List α) (name : κ) :
    find? Prod.fst name (groupBy key records) =
      if (records.filter fun record => key record = name) = [] then none
      else some (name, records.filter fun record => key record = name) := by
  induction records using List.reverseRecOn generalizing name with
  | nil => rfl
  | append_singleton records record inductionHypothesis =>
      have found : (find? Prod.fst (key record) (groupBy key records)).elim []
          Prod.snd = records.filter fun other => key other = key record := by
        rw [inductionHypothesis]
        split
        next none => rw [none]; rfl
        next => rfl
      unfold groupBy at found inductionHypothesis ⊢
      rw [List.foldl_append, List.foldl_cons, List.foldl_nil, addToGroup, found,
        find?_upsert, List.filter_append]
      by_cases same : key record = name
      · subst same
        simp
      · simp only [same, if_false]
        rw [inductionHypothesis]
        simp [same]

theorem nodup_groupBy (key : α → κ) (records : List α) :
    ((groupBy key records).map Prod.fst).Nodup := by
  unfold groupBy
  induction records using List.reverseRecOn with
  | nil => simp
  | append_singleton records record inductionHypothesis =>
      rw [List.foldl_append, List.foldl_cons, List.foldl_nil]
      exact nodup_upsert _ inductionHypothesis

/-- The groups of a list are the records of each of its keys. -/
theorem mem_groupBy {key : α → κ} {records : List α} {group : κ × List α} :
    group ∈ groupBy key records ↔
      group.2 ≠ [] ∧ group.2 = records.filter fun record => key record = group.1 := by
  constructor
  · intro member
    have found := find?_eq_some_of_mem (nodup_groupBy key records) member
    rw [find?_groupBy] at found
    split at found
    · cases found
    next some =>
      have same := congrArg Prod.snd (Option.some.inj found)
      exact ⟨by rw [← same]; exact some, same.symm⟩
  · rintro ⟨some, same⟩
    have found := find?_groupBy key records group.1
    rw [← same, if_neg some] at found
    exact (find?_eq_some found).1

theorem addToGroup_cons
    (key : α → κ) (head : κ × List α) (tail : List (κ × List α)) (record : α) :
    addToGroup key (head :: tail) record =
      if head.1 = key record then (key record, head.2 ++ [record]) :: tail
      else head :: addToGroup key tail record := by
  unfold addToGroup
  rw [upsert, find?_cons]
  split <;> rfl

/-- Grouping neither loses records nor lists them twice. -/
theorem perm_flatMap_groupBy (key : α → κ) (records : List α) :
    ((groupBy key records).flatMap Prod.snd).Perm records := by
  have added : ∀ (record : α) (groups : List (κ × List α)),
      ((addToGroup key groups record).flatMap Prod.snd).Perm
        (groups.flatMap Prod.snd ++ [record]) := by
    intro record groups
    induction groups with
    | nil => exact List.Perm.refl _
    | cons head tail inductionHypothesis =>
        rw [addToGroup_cons]
        split
        · simp only [List.flatMap_cons, List.append_assoc]
          exact List.perm_append_comm.append_left _
        · simp only [List.flatMap_cons, List.append_assoc]
          exact inductionHypothesis.append_left _
  unfold groupBy
  induction records using List.reverseRecOn with
  | nil => exact List.Perm.refl _
  | append_singleton records record inductionHypothesis =>
      rw [List.foldl_append, List.foldl_cons, List.foldl_nil]
      exact (added record _).trans (inductionHypothesis.append_right _)

/-! ## Members of several lists -/

section FlatMap

variable {β : Type} {lists : List β} {items : β → List α} {select : α → Bool}

theorem length_filter_flatMap_le
    (once : ∀ list ∈ lists, ((items list).filter select).length ≤ 1) :
    ((lists.flatMap items).filter select).length ≤ lists.length := by
  induction lists with
  | nil => simp
  | cons head tail inductionHypothesis =>
      have first := once head (by simp)
      have rest := inductionHypothesis fun list member =>
        once list (List.mem_cons_of_mem _ member)
      rw [List.flatMap_cons, List.filter_append, List.length_append, List.length_cons]
      omega

/-- When no list has two of the selected records, there are as many of them as
lists if and only if every list has one. -/
theorem length_filter_flatMap_eq
    (once : ∀ list ∈ lists, ((items list).filter select).length ≤ 1) :
    ((lists.flatMap items).filter select).length = lists.length ↔
      ∀ list ∈ lists, (items list).any select = true := by
  induction lists with
  | nil => simp
  | cons head tail inductionHypothesis =>
      have first := once head (by simp)
      have later := fun list member => once list (List.mem_cons_of_mem head member)
      have bound := length_filter_flatMap_le later
      have present : (items head).any select = true ↔
          0 < ((items head).filter select).length := by
        rw [← List.countP_eq_length_filter, List.countP_pos_iff, List.any_eq_true]
      rw [List.flatMap_cons, List.filter_append, List.length_append,
        List.length_cons, List.forall_mem_cons, ← inductionHypothesis later, present]
      omega

/-- The first selected record is one of the first list when that has one. -/
theorem head?_filter_flatMap_cons {head : β} {tail : List β} {record : α}
    (once : ((items head).filter select).length ≤ 1)
    (present : (items head).any select = true) :
    (((head :: tail).flatMap items).filter select).head? = some record ↔
      record ∈ items head ∧ select record = true := by
  rw [← List.mem_filter, List.flatMap_cons, List.filter_append, List.head?_append]
  match filtered : (items head).filter select with
  | [] =>
      rw [List.filter_eq_nil_iff] at filtered
      rw [List.any_eq_true] at present
      obtain ⟨selected, member, isSelected⟩ := present
      exact absurd isSelected (filtered selected member)
  | [only] => simp [eq_comm]
  | _ :: _ :: _ => simp [filtered] at once

end FlatMap

end Registry
