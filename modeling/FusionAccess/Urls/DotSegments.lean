import Mathlib.Data.List.Infix

/-!
# Dot segments

The segments of a path are walked from left to right. A segment names something in the
directory reached so far, stays there, or goes up. What is reached in the end is below a
given directory just if two counters say so, which the walk keeps instead of the path.
-/

namespace Urls

variable {σ : Type}

/-- What a segment does. -/
inductive Step
  | down
  | stay
  | up
  deriving DecidableEq

section Resolution

variable (kind : σ → Step)

/-- The path after one more segment; there is nothing above the root. -/
def push (path : List σ) (segment : σ) : List σ :=
  match kind segment with
  | .down => path ++ [segment]
  | .stay => path
  | .up => path.dropLast

/-- A path that ends in a dot segment ends in an empty one when it is resolved. -/
def closing (blank : σ) (segments : List σ) : List σ :=
  match segments.getLast? with
  | none => []
  | some last => if kind last = .down then [] else [blank]

/-- The path without its dot segments. -/
def resolve (blank : σ) (segments : List σ) : List σ :=
  (segments ++ closing kind blank segments).foldl (push kind) []

theorem foldl_push_of_down
    {segments : List σ} (down : ∀ segment ∈ segments, kind segment = .down) (path : List σ) :
    segments.foldl (push kind) path = path ++ segments := by
  induction segments generalizing path with
  | nil => rw [List.foldl_nil, List.append_nil]
  | cons head tail inductionHypothesis =>
      obtain ⟨isDown, others⟩ := List.forall_mem_cons.mp down
      rw [List.foldl_cons, inductionHypothesis others, push, isDown, List.append_assoc,
        List.singleton_append]

end Resolution

/-! ## Counting -/

/-- How many segments of the directory the path starts with, and how many others follow. -/
structure Position where
  kept : Nat
  others : Nat
  deriving DecidableEq

section Counters

variable (directory : List σ)

/-- The position is that of the path. -/
structure Position.Marks (path : List σ) (position : Position) : Prop where
  kept_le : position.kept ≤ directory.length
  split : ∃ rest, path = directory.take position.kept ++ rest ∧
    rest.length = position.others ∧
      ∀ segment, rest.head? = some segment → directory[position.kept]? ≠ some segment

variable {directory}

/-- The path is below the directory just if all of it is kept. -/
theorem Position.Marks.isPrefix_iff
    {path : List σ} {position : Position} (marks : position.Marks directory path) :
    directory <+: path ↔ position.kept = directory.length := by
  obtain ⟨rest, rfl, _, fresh⟩ := marks.split
  constructor
  · intro isBelow
    by_contra notAll
    have atMost := marks.kept_le
    have less : position.kept < directory.length := by omega
    obtain ⟨below, extended⟩ := isBelow
    have same := congrArg (·[position.kept]?) extended
    simp only [List.getElem?_append_left less] at same
    rw [List.getElem?_append_right (List.length_take_le _ _), List.length_take_of_le atMost,
      Nat.sub_self, ← List.head?_eq_getElem?, List.getElem?_eq_getElem less] at same
    exact fresh _ same.symm (List.getElem?_eq_getElem less)
  · intro all
    rw [all, List.take_length]
    exact List.prefix_append directory rest

variable [DecidableEq σ] (kind : σ → Step)

/-- The position after one more segment. -/
def advance (directory : List σ) (position : Position) (segment : σ) : Position :=
  match kind segment with
  | .down =>
      if position.others = 0 ∧ directory[position.kept]? = some segment then
        { position with kept := position.kept + 1 }
      else { position with others := position.others + 1 }
  | .stay => position
  | .up =>
      if position.others = 0 then { position with kept := position.kept - 1 }
      else { position with others := position.others - 1 }

/-- One more segment keeps the counters in step with the path. -/
theorem Position.Marks.advance
    {path : List σ} {position : Position} (marks : position.Marks directory path)
    (segment : σ) :
    (Urls.advance kind directory position segment).Marks directory (push kind path segment) := by
  obtain ⟨atMost, rest, rfl, counted, fresh⟩ := marks
  unfold Urls.advance push
  cases kind segment with
  | stay => exact ⟨atMost, rest, rfl, counted, fresh⟩
  | down =>
      dsimp only
      split
      next follows =>
        obtain ⟨empty, isNext⟩ := follows
        obtain rfl : rest = [] := List.eq_nil_of_length_eq_zero (counted.trans empty)
        obtain ⟨less, isNext'⟩ := List.getElem?_eq_some_iff.mp isNext
        refine ⟨less, [], ?_, empty.symm ▸ rfl, fun _ impossible => nomatch impossible⟩
        rw [List.append_nil, List.append_nil, List.take_succ_eq_append_getElem less, isNext']
      next other =>
        refine ⟨atMost, rest ++ [segment], List.append_assoc _ _ _, ?_, ?_⟩
        · rw [List.length_append, counted, List.length_singleton]
        · intro first isFirst
          cases rest with
          | nil =>
              cases isFirst
              exact fun isNext => other ⟨counted.symm, isNext⟩
          | cons head tail => exact fresh first isFirst
  | up =>
      dsimp only
      cases rest with
      | nil =>
          obtain empty : position.others = 0 := counted.symm
          rw [if_pos empty, List.append_nil, List.dropLast_eq_take,
            List.length_take_of_le atMost, List.take_take, Nat.min_eq_left (Nat.sub_le _ _)]
          exact ⟨Nat.le_trans (Nat.sub_le _ _) atMost, [], (List.append_nil _).symm, counted,
            fun _ impossible => nomatch impossible⟩
      | cons head tail =>
          have positive : position.others ≠ 0 := by
            rw [← counted, List.length_cons]
            omega
          rw [if_neg positive, List.dropLast_append_of_ne_nil (List.cons_ne_nil head tail)]
          refine ⟨atMost, (head :: tail).dropLast, rfl, ?_, ?_⟩
          · rw [List.length_dropLast, counted]
          · intro first isFirst
            rw [List.head?_dropLast] at isFirst
            split at isFirst
            · exact fresh first isFirst
            · cases isFirst

/-- A walk does so. -/
theorem Position.Marks.foldl
    {path : List σ} {position : Position} (marks : position.Marks directory path)
    (segments : List σ) :
    (segments.foldl (Urls.advance kind directory) position).Marks directory
      (segments.foldl (push kind) path) := by
  induction segments generalizing path position with
  | nil => exact marks
  | cons head tail inductionHypothesis => exact inductionHypothesis (marks.advance kind head)

/-- A segment that does not occur in the directory does not count. -/
theorem kept_advance_of_notMem
    {segment : σ} (isDown : kind segment = .down) (foreign : segment ∉ directory)
    (position : Position) :
    (advance kind directory position segment).kept = position.kept := by
  unfold advance
  rw [isDown]
  dsimp only
  split
  next follows => exact absurd (List.mem_of_getElem? follows.2) foreign
  · rfl

/-- Below a directory of ordinary names, the resolved path stays there just if the
segments that follow, counted from there, lead back to all of it. -/
theorem isPrefix_resolve_iff
    {blank : σ} (blankDown : kind blank = .down) (foreign : blank ∉ directory)
    (down : ∀ segment ∈ directory, kind segment = .down) (more : List σ) :
    directory <+: resolve kind blank (directory ++ more) ↔
      (more.foldl (advance kind directory) ⟨directory.length, 0⟩).kept = directory.length := by
  have start : Position.Marks directory directory ⟨directory.length, 0⟩ :=
    ⟨le_refl _, [], by simp, rfl, fun _ impossible => nomatch impossible⟩
  have ends := start.foldl kind (more ++ closing kind blank (directory ++ more))
  have uncounted : ((more ++ closing kind blank (directory ++ more)).foldl
      (advance kind directory) ⟨directory.length, 0⟩).kept =
      (more.foldl (advance kind directory) ⟨directory.length, 0⟩).kept := by
    rw [List.foldl_append]
    unfold closing
    split
    · rfl
    · split
      · rfl
      · exact kept_advance_of_notMem kind blankDown foreign _
  rw [resolve, List.append_assoc, List.foldl_append, foldl_push_of_down kind down,
    List.nil_append, ends.isPrefix_iff, uncounted]

end Counters

end Urls
