import FusionAccess.Registry.Keyed
import Mathlib.Data.List.Forall2

/-!
# Versions of a registry

A registry and a later version of it, record by record: the marked records
have changed in a described way and all others are the same. Amending further
records of the later version marks more of them.
-/

namespace Registry

variable {α β γ κ : Type} [DecidableEq κ]

/-- A record and its later version. -/
def Version
    (marked : α → Prop) (changed : α → α → Prop) (old new : α) : Prop :=
  (marked old → changed old new) ∧ (¬marked old → new = old)

/-- A registry and its later version, record by record. -/
abbrev Versions
    (marked : α → Prop) (changed : α → α → Prop) : List α → List α → Prop :=
  List.Forall₂ (Version marked changed)

section Pointwise

/-- Every record has a related one. -/
theorem exists_of_forall₂
    {related : α → β → Prop} {lefts : List α} {rights : List β} {left : α}
    (all : List.Forall₂ related lefts rights)
    (member : left ∈ lefts) :
    ∃ right ∈ rights, related left right := by
  induction all with
  | nil => simp at member
  | cons head _ inductionHypothesis =>
      rcases List.mem_cons.mp member with rfl | inTail
      · exact ⟨_, by simp, head⟩
      · obtain ⟨right, listed, holds⟩ := inductionHypothesis inTail
        exact ⟨right, List.mem_cons_of_mem _ listed, holds⟩

/-- Records that a selection keeps and a relation leaves alone are kept. -/
theorem filter_eq_of_forall₂
    {related : α → α → Prop} {select : α → Bool} {lefts rights : List α}
    (all : List.Forall₂ related lefts rights)
    (agrees : ∀ left ∈ lefts, ∀ right, related left right →
      select right = select left ∧ (select left = true → right = left)) :
    rights.filter select = lefts.filter select := by
  induction all with
  | nil => rfl
  | @cons left right lefts rights head _ inductionHypothesis =>
      have rest := inductionHypothesis fun left member =>
        agrees left (List.mem_cons_of_mem _ member)
      obtain ⟨selected, same⟩ := agrees left (by simp) right head
      rw [List.filter_cons, List.filter_cons, selected, rest]
      split
      next holds => rw [same holds]
      next => rfl

/-- Two selections that agree on related records see the same of them. -/
theorem map_filter_eq_of_forall₂
    {related : α → β → Prop} {select : β → Bool} {select' : α → Bool}
    {view : β → γ} {view' : α → γ} {lefts : List α} {rights : List β}
    (all : List.Forall₂ related lefts rights)
    (agrees : ∀ left ∈ lefts, ∀ right, related left right →
      select right = select' left ∧ view right = view' left) :
    (rights.filter select).map view = (lefts.filter select').map view' := by
  induction all with
  | nil => rfl
  | @cons left right lefts rights head _ inductionHypothesis =>
      have rest := inductionHypothesis fun left member =>
        agrees left (List.mem_cons_of_mem _ member)
      obtain ⟨selected, viewed⟩ := agrees left (by simp) right head
      rw [List.filter_cons, List.filter_cons, selected]
      split
      next => rw [List.map_cons, List.map_cons, viewed, rest]
      next => exact rest

end Pointwise

section Keys

variable {key : α → κ} {marked marked' : α → Prop}
  {changed changed' : α → α → Prop} {before after : List α}

omit [DecidableEq κ] in
/-- A later version has the same key. -/
theorem Version.key_eq
    {old new : α}
    (version : Version marked changed old new)
    (keeps : ∀ old new, changed old new → key new = key old) :
    key new = key old := by
  by_cases isMarked : marked old
  · exact keeps _ _ (version.1 isMarked)
  · rw [version.2 isMarked]

/-- Nothing has changed where nothing is marked. -/
theorem Versions.refl
    (unmarked : ∀ record ∈ before, ¬marked record) :
    Versions marked changed before before := by
  refine List.forall₂_same.mpr fun record member => ?_
  exact ⟨fun holds => absurd holds (unmarked record member), fun _ => rfl⟩

/-- Looking up a later version finds the later version of what was found. -/
theorem Versions.find?
    {name : κ} {old : α}
    (versions : Versions marked changed before after)
    (keeps : ∀ old new, changed old new → key new = key old)
    (found : Registry.find? key name before = some old) :
    ∃ new, Registry.find? key name after = some new ∧
      Version marked changed old new := by
  induction versions with
  | nil => simp at found
  | @cons head head' tail tail' version _ inductionHypothesis =>
      have sameKey : key head' = key head := version.key_eq keeps
      rw [find?_cons] at found
      rw [find?_cons, sameKey]
      by_cases named : key head = name
      · rw [if_pos named] at found ⊢
        cases found
        exact ⟨head', rfl, version⟩
      · rw [if_neg named] at found ⊢
        exact inductionHypothesis found

/-- What was not found is not found later. -/
theorem Versions.find?_eq_none
    {name : κ}
    (versions : Versions marked changed before after)
    (keeps : ∀ old new, changed old new → key new = key old)
    (missing : Registry.find? key name before = none) :
    Registry.find? key name after = none := by
  induction versions with
  | nil => rfl
  | @cons head head' tail tail' version _ inductionHypothesis =>
      have sameKey : key head' = key head := version.key_eq keeps
      rw [find?_cons] at missing
      rw [find?_cons, sameKey]
      split at missing
      · cases missing
      next different =>
        rw [if_neg different]
        exact inductionHypothesis missing

/-- A record that is not marked is found as it was. -/
theorem Versions.find?_unmarked
    {name : κ}
    (versions : Versions marked changed before after)
    (keeps : ∀ old new, changed old new → key new = key old)
    (unmarked : ∀ old ∈ Registry.find? key name before, ¬marked old) :
    Registry.find? key name after = Registry.find? key name before := by
  cases found : Registry.find? key name before with
  | none => exact versions.find?_eq_none keeps found
  | some old =>
      obtain ⟨new, foundNew, version⟩ := versions.find? keeps found
      rw [foundNew, version.2 (unmarked old found)]

omit [DecidableEq κ] in
/-- All versions of a registry have the same keys. -/
theorem Versions.map_key
    (versions : Versions marked changed before after)
    (keeps : ∀ old new, changed old new → key new = key old) :
    after.map key = before.map key := by
  induction versions with
  | nil => rfl
  | cons version _ inductionHypothesis =>
      rw [List.map_cons, List.map_cons, version.key_eq keeps, inductionHypothesis]

/-- The same versions may be described in other words. -/
theorem Versions.congr
    (versions : Versions marked changed before after)
    (marks : ∀ old ∈ before, (marked' old ↔ marked old))
    (changes : ∀ old ∈ before, ∀ new, marked old →
      changed old new → changed' old new) :
    Versions marked' changed' before after := by
  induction versions with
  | nil => exact .nil
  | @cons head head' tail tail' version _ inductionHypothesis =>
      refine .cons ⟨fun holds => ?_, fun unmarked => ?_⟩
        (inductionHypothesis
          (fun old member => marks old (List.mem_cons_of_mem _ member))
          fun old member => changes old (List.mem_cons_of_mem _ member))
      · have isMarked := (marks head (by simp)).mp holds
        exact changes head (by simp) _ isMarked (version.1 isMarked)
      · exact version.2 fun holds => unmarked ((marks head (by simp)).mpr holds)

/-- Amending a record that is not marked marks it. -/
theorem Versions.amend
    {name : κ} {change : α → α}
    (versions : Versions marked changed before after)
    (keeps : ∀ old new, changed old new → key new = key old)
    (marks : ∀ old ∈ before, (marked' old ↔ marked old ∨ key old = name))
    (unmarked : ∀ old ∈ before, key old = name → ¬marked old)
    (changes : ∀ old ∈ before, key old = name → changed old (change old)) :
    Versions marked' changed before (Registry.amend key name change after) := by
  induction versions with
  | nil => exact .nil
  | @cons head head' tail tail' version _ inductionHypothesis =>
      have rest := inductionHypothesis
        (fun old member => marks old (List.mem_cons_of_mem _ member))
        (fun old member => unmarked old (List.mem_cons_of_mem _ member))
        fun old member => changes old (List.mem_cons_of_mem _ member)
      have mark := marks head (by simp)
      rw [amend_cons]
      refine .cons ?_ rest
      by_cases named : key head = name
      · have notMarked := unmarked head (by simp) named
        have same : head' = head := version.2 notMarked
        subst same
        rw [if_pos named]
        exact ⟨fun _ => changes head' (by simp) named,
          fun notMarked' => absurd (mark.mpr (Or.inr named)) notMarked'⟩
      · have sameKey : key head' = key head := version.key_eq keeps
        rw [if_neg (by rw [sameKey]; exact named)]
        refine ⟨fun holds => ?_, fun notMarked' => ?_⟩
        · rcases mark.mp holds with isMarked | named'
          · exact version.1 isMarked
          · exact absurd named' named
        · exact version.2 fun isMarked => notMarked' (mark.mpr (Or.inl isMarked))

/-- Records found under the same name in related registries are related. -/
theorem find?_of_forall₂
    {related : α → α → Prop} {lefts rights : List α} {name : κ} {left : α}
    (all : List.Forall₂ related lefts rights)
    (keeps : ∀ left right, related left right → key right = key left)
    (found : Registry.find? key name lefts = some left) :
    ∃ right, Registry.find? key name rights = some right ∧ related left right := by
  induction all with
  | nil => simp at found
  | @cons head head' tail tail' relatedHeads _ inductionHypothesis =>
      rw [find?_cons] at found
      rw [find?_cons, keeps _ _ relatedHeads]
      by_cases named : key head = name
      · rw [if_pos named] at found ⊢
        cases found
        exact ⟨head', rfl, relatedHeads⟩
      · rw [if_neg named] at found ⊢
        exact inductionHypothesis found

omit [DecidableEq κ] in
/-- Two ways from one record: over a version in between, or at once. When every
record is marked on at most one of the two legs, and marked on one of them if
and only if it is marked on the direct way, both ways lead to the same. -/
theorem Version.compare
    {between final other : α} {marked₁ marked₂ marked₃ : α → Prop}
    {changed₁ changed₂ changed₃ same : α → α → Prop} {old : α}
    (first : Version marked₁ changed₁ old between)
    (second : Version marked₂ changed₂ between final)
    (direct : Version marked₃ changed₃ old other)
    (once : marked₁ old → ¬marked₂ between)
    (agree : marked₃ old ↔ marked₁ old ∨ marked₂ between)
    (unchanged : same old old)
    (earlier : changed₁ old between → changed₃ old other → same between other)
    (later : changed₂ old final → changed₃ old other → same final other) :
    same final other := by
  by_cases isFirst : marked₁ old
  · rw [second.2 (once isFirst)]
    exact earlier (first.1 isFirst) (direct.1 (agree.mpr (Or.inl isFirst)))
  · have sameBetween : between = old := first.2 isFirst
    subst sameBetween
    by_cases isSecond : marked₂ between
    · exact later (second.1 isSecond) (direct.1 (agree.mpr (Or.inr isSecond)))
    · rw [second.2 isSecond, direct.2 fun isDirect =>
        (agree.mp isDirect).elim isFirst isSecond]
      exact unchanged

omit [DecidableEq κ] in
/-- The same for whole registries. -/
theorem Versions.compare
    {between final other : List α} {marked₁ marked₂ marked₃ : α → Prop}
    {changed₁ changed₂ changed₃ same : α → α → Prop}
    (first : Versions marked₁ changed₁ before between)
    (second : Versions marked₂ changed₂ between final)
    (direct : Versions marked₃ changed₃ before other)
    (once : ∀ old ∈ before, ∀ middle ∈ between,
      Version marked₁ changed₁ old middle → marked₁ old → ¬marked₂ middle)
    (agree : ∀ old ∈ before, ∀ middle ∈ between,
      Version marked₁ changed₁ old middle →
        (marked₃ old ↔ marked₁ old ∨ marked₂ middle))
    (unchanged : ∀ old, same old old)
    (earlier : ∀ old middle direct,
      changed₁ old middle → changed₃ old direct → same middle direct)
    (later : ∀ old last direct,
      changed₂ old last → changed₃ old direct → same last direct) :
    List.Forall₂ same final other := by
  induction first generalizing final other with
  | nil =>
      cases second
      cases direct
      exact .nil
  | @cons old middle before between version _ inductionHypothesis =>
      cases second with
      | cons toFinal restFinal =>
          cases direct with
          | cons toOther restOther =>
              refine .cons (version.compare toFinal toOther
                (once _ (by simp) _ (by simp) version)
                (agree _ (by simp) _ (by simp) version) (unchanged _)
                (earlier _ _ _) (later _ _ _)) ?_
              refine inductionHypothesis restFinal restOther ?_ ?_
              · exact fun old member middle member' =>
                  once old (List.mem_cons_of_mem _ member) middle
                    (List.mem_cons_of_mem _ member')
              · exact fun old member middle member' =>
                  agree old (List.mem_cons_of_mem _ member) middle
                    (List.mem_cons_of_mem _ member')

end Keys
end Registry
