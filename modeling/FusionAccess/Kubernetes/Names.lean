import Mathlib.Data.List.Chain
import Mathlib.Data.String.Basic

/-!
# Names of objects

The API server takes an RFC 1123 subdomain as the name of an object: labels that are
separated by dots and consist of lower-case letters, digits and inner hyphens. Read with
a dot before it and one behind it, this is a question about adjacent characters: no dot
stands next to a dot or a hyphen.
-/

namespace Kubernetes

/-- A lower-case letter or a digit. -/
def isLowerAlphanumeric (char : Char) : Bool :=
  ('a' ≤ char && char ≤ 'z') || ('0' ≤ char && char ≤ '9')

/-- A label: lower-case letters, digits and hyphens, none of the latter at an end. -/
structure IsLabel (label : List Char) : Prop where
  first : label.head?.any isLowerAlphanumeric = true
  last : label.getLast?.any isLowerAlphanumeric = true
  inner : ∀ char ∈ label, isLowerAlphanumeric char = true ∨ char = '-'

/-- An RFC 1123 subdomain of at most 253 characters. -/
structure IsSubdomain (name : String) : Prop where
  short : name.length ≤ 253
  labels : ∀ label ∈ name.toList.splitOn '.', IsLabel label

instance (label : List Char) : Decidable (IsLabel label) :=
  decidable_of_iff
    (label.head?.any isLowerAlphanumeric = true ∧
      label.getLast?.any isLowerAlphanumeric = true ∧
        label.all (fun char => isLowerAlphanumeric char || char = '-') = true)
    ⟨fun holds => ⟨holds.1, holds.2.1, by simpa using holds.2.2⟩,
      fun isLabel => ⟨isLabel.first, isLabel.last, by simpa using isLabel.inner⟩⟩

instance (name : String) : Decidable (IsSubdomain name) :=
  decidable_of_iff
    (name.length ≤ 253 ∧ ∀ label ∈ name.toList.splitOn '.', IsLabel label)
    ⟨fun holds => ⟨holds.1, holds.2⟩, fun isSubdomain =>
      ⟨isSubdomain.short, isSubdomain.labels⟩⟩

/-! ## Adjacent characters -/

/-- Two characters may stand next to each other: no dot next to a dot or a hyphen. -/
def MayAdjoin (left right : Char) : Prop :=
  ¬(left = '.' ∧ (right = '.' ∨ right = '-')) ∧ ¬(left = '-' ∧ right = '.')

instance (left right : Char) : Decidable (MayAdjoin left right) :=
  inferInstanceAs (Decidable (_ ∧ _))

/-- The characters with a dot before them and one behind them. -/
abbrev delimited (chars : List Char) : List Char := '.' :: chars ++ ['.']

theorem isLowerAlphanumeric_ne
    {char : Char} (isLower : isLowerAlphanumeric char = true) :
    char ≠ '.' ∧ char ≠ '-' := by
  constructor
  · rintro rfl
    revert isLower
    decide
  · rintro rfl
    revert isLower
    decide

/-- Joined labels adjoin as each of them does between dots. -/
theorem isChain_intercalate
    {labels : List (List Char)} (some : labels ≠ []) :
    List.IsChain MayAdjoin (delimited (['.'].intercalate labels)) ↔
      ∀ label ∈ labels, List.IsChain MayAdjoin (delimited label) := by
  induction labels with
  | nil => exact absurd rfl some
  | cons label rest inductionHypothesis =>
      cases rest with
      | nil => simp
      | cons next others =>
          have joined : delimited (['.'].intercalate (label :: next :: others)) =
              ('.' :: label) ++ '.' ::
                (['.'].intercalate (next :: others) ++ ['.']) := by
            simp [List.intercalate_cons_cons]
          rw [joined, List.isChain_split, List.forall_mem_cons,
            ← inductionHypothesis (by simp)]
          exact Iff.rfl

theorem mayAdjoin_dot_left {char : Char} :
    MayAdjoin '.' char ↔ char ≠ '.' ∧ char ≠ '-' := by
  unfold MayAdjoin
  simp [not_or]

theorem mayAdjoin_dot_right {char : Char} :
    MayAdjoin char '.' ↔ char ≠ '.' ∧ char ≠ '-' := by
  unfold MayAdjoin
  simp

/-- Between dots, characters adjoin when they adjoin themselves and neither of the ends
is a dot or a hyphen. -/
theorem isChain_delimited {chars : List Char} :
    List.IsChain MayAdjoin (delimited chars) ↔
      chars ≠ [] ∧ (∀ char ∈ chars.head?, char ≠ '.' ∧ char ≠ '-') ∧
        (∀ char ∈ chars.getLast?, char ≠ '.' ∧ char ≠ '-') ∧
          List.IsChain MayAdjoin chars := by
  cases chars with
  | nil => simp [mayAdjoin_dot_left]
  | cons char rest =>
      rw [delimited, List.isChain_append, List.isChain_cons, List.getLast?_cons_cons]
      simp only [List.isChain_singleton, List.head?_cons, Option.mem_some,
        forall_eq', mayAdjoin_dot_left, mayAdjoin_dot_right, ne_eq, reduceCtorEq,
        not_false_eq_true, true_and]
      tauto

/-- What has no dots adjoins. -/
theorem isChain_of_no_dots
    {chars : List Char} (dotless : ∀ char ∈ chars, char ≠ '.') :
    List.IsChain MayAdjoin chars := by
  induction chars with
  | nil => exact List.isChain_nil
  | cons char rest inductionHypothesis =>
      rw [List.isChain_cons]
      refine ⟨fun next isNext => ?_, inductionHypothesis fun other member =>
        dotless other (List.mem_cons_of_mem _ member)⟩
      have first := dotless char List.mem_cons_self
      have second := dotless next (List.mem_cons_of_mem _ (List.mem_of_mem_head? isNext))
      exact ⟨fun dots => first dots.1, fun dots => second dots.2⟩

/-- An end of a label that is no hyphen is a letter or a digit. -/
theorem any_isLowerAlphanumeric_iff
    {ending : Option Char}
    (inner : ∀ char ∈ ending, isLowerAlphanumeric char = true ∨ char = '-') :
    ending.any isLowerAlphanumeric = true ↔
      ending ≠ none ∧ ∀ char ∈ ending, char ≠ '.' ∧ char ≠ '-' := by
  cases ending with
  | none => simp
  | some char =>
      have known := inner char rfl
      simp only [Option.any_some, ne_eq, reduceCtorEq, not_false_eq_true, Option.mem_some,
        forall_eq', true_and]
      constructor
      · exact isLowerAlphanumeric_ne
      · intro different
        exact known.resolve_right different.2

/-- Letters, digits and hyphens form a label when they adjoin between dots. -/
theorem isLabel_iff
    {label : List Char}
    (inner : ∀ char ∈ label, isLowerAlphanumeric char = true ∨ char = '-') :
    IsLabel label ↔ List.IsChain MayAdjoin (delimited label) := by
  have dotless : ∀ char ∈ label, char ≠ '.' := by
    intro char member
    rcases inner char member with isLower | rfl
    · exact (isLowerAlphanumeric_ne isLower).1
    · decide
  have first := any_isLowerAlphanumeric_iff fun char isFirst =>
    inner char (List.mem_of_mem_head? isFirst)
  have last := any_isLowerAlphanumeric_iff fun char isLast =>
    inner char (List.mem_of_mem_getLast? isLast)
  rw [isChain_delimited]
  constructor
  · intro isLabel
    refine ⟨?_, (first.mp isLabel.first).2, (last.mp isLabel.last).2,
      isChain_of_no_dots dotless⟩
    simpa using (first.mp isLabel.first).1
  · rintro ⟨some, firstEnd, lastEnd, _⟩
    exact ⟨first.mpr ⟨by simpa using some, firstEnd⟩,
      last.mpr ⟨by simpa using some, lastEnd⟩, inner⟩

/-! ## Subdomains -/

/-- A character that subdomains may contain. -/
def isSubdomainChar (char : Char) : Bool :=
  isLowerAlphanumeric char || char = '-' || char = '.'

/-- No label contains a dot. -/
theorem not_mem_of_mem_splitOn
    {chars label : List Char} (member : label ∈ chars.splitOn '.') : '.' ∉ label := by
  induction chars generalizing label with
  | nil => simp_all
  | cons char rest inductionHypothesis =>
      rw [List.splitOn_cons_eq_if_modifyHead] at member
      split at member
      · rcases List.mem_cons.mp member with rfl | later
        · simp
        · exact inductionHypothesis later
      next other =>
        cases split : rest.splitOn '.' with
        | nil => exact absurd split (List.splitOn_ne_nil _ _)
        | cons first others =>
            rw [split, List.modifyHead_cons, List.mem_cons] at member
            rw [split] at inductionHypothesis
            rcases member with rfl | later
            · have without := inductionHypothesis List.mem_cons_self
              rw [List.mem_cons, not_or]
              exact ⟨fun same => other (by rw [← same, beq_self_eq_true]), without⟩
            · exact inductionHypothesis (List.mem_cons_of_mem _ later)

/-- The characters of joined labels are dots and those of the labels. -/
theorem mem_intercalate
    {char : Char} (notDot : char ≠ '.') (labels : List (List Char)) :
    char ∈ ['.'].intercalate labels ↔ ∃ label ∈ labels, char ∈ label := by
  induction labels with
  | nil => simp
  | cons label rest inductionHypothesis =>
      cases rest with
      | nil => simp
      | cons next others =>
          rw [List.intercalate_cons_cons, List.append_assoc, List.mem_append,
            List.mem_append, inductionHypothesis, List.mem_singleton]
          simp [notDot]

/-- The labels of a name are labels when the name consists of their characters and these
adjoin between dots. -/
theorem labels_iff (chars : List Char) :
    (∀ label ∈ chars.splitOn '.', IsLabel label) ↔
      (∀ char ∈ chars, isSubdomainChar char = true) ∧
        List.IsChain MayAdjoin (delimited chars) := by
  have joined : ['.'].intercalate (chars.splitOn '.') = chars :=
    List.intercalate_splitOn '.'
  have known : ∀ char ≠ '.', char ∈ chars ↔ ∃ label ∈ chars.splitOn '.', char ∈ label := by
    intro char notDot
    rw [← mem_intercalate notDot, joined]
  have adjoins := isChain_intercalate (List.splitOn_ne_nil '.' chars)
  rw [joined] at adjoins
  rw [adjoins]
  constructor
  · intro labels
    refine ⟨fun char member => ?_, fun label isPiece =>
      (isLabel_iff (labels label isPiece).inner).mp (labels label isPiece)⟩
    by_cases dot : char = '.'
    · simp [isSubdomainChar, dot]
    · obtain ⟨label, isPiece, inside⟩ := (known char dot).mp member
      rcases (labels label isPiece).inner char inside with isLower | rfl
      · simp [isSubdomainChar, isLower]
      · simp [isSubdomainChar]
  · rintro ⟨characters, between⟩ label isPiece
    refine (isLabel_iff fun char inside => ?_).mpr (between label isPiece)
    have notDot : char ≠ '.' := fun same =>
      not_mem_of_mem_splitOn isPiece (same ▸ inside)
    have permitted := characters char ((known char notDot).mpr ⟨label, isPiece, inside⟩)
    simpa [isSubdomainChar, notDot] using permitted

/-! ## Sizes -/

/-- Characters of one byte make as many bytes as characters. -/
theorem utf8ByteSize_ofList
    {chars : List Char} (ascii : ∀ char ∈ chars, char.utf8Size = 1) :
    (String.ofList chars).utf8ByteSize = chars.length := by
  induction chars with
  | nil => rfl
  | cons char rest inductionHypothesis =>
      rw [String.ofList_cons, String.utf8ByteSize_append, String.utf8ByteSize_singleton,
        ascii char List.mem_cons_self, List.length_cons,
        inductionHypothesis fun other member => ascii other (List.mem_cons_of_mem _ member)]
      omega

theorem utf8ByteSize_of_ascii
    {name : String} (ascii : ∀ char ∈ name.toList, char.utf8Size = 1) :
    name.utf8ByteSize = name.length := by
  have size := utf8ByteSize_ofList ascii
  rwa [String.ofList_toList, String.length_toList] at size

theorem utf8Size_of_isSubdomainChar
    {char : Char} (permitted : isSubdomainChar char = true) : char.utf8Size = 1 := by
  rw [Char.utf8Size_eq_one_iff]
  simp only [isSubdomainChar, isLowerAlphanumeric, Bool.or_eq_true, Bool.and_eq_true,
    decide_eq_true_eq, Char.le_def] at permitted
  rcases permitted with ((letter | digit) | rfl) | rfl
  · exact UInt32.le_trans letter.2 (by decide)
  · exact UInt32.le_trans digit.2 (by decide)
  · decide
  · decide

/-- A subdomain has as many bytes as characters. -/
theorem IsSubdomain.utf8ByteSize_eq {name : String} (isSubdomain : IsSubdomain name) :
    name.utf8ByteSize = name.length :=
  utf8ByteSize_of_ascii fun char member => utf8Size_of_isSubdomainChar
    (((labels_iff name.toList).mp isSubdomain.labels).1 char member)

/-- Labels of all kinds, and names that are none. -/
example : IsSubdomain "naa.6005-1.x" ∧ ¬IsSubdomain "a..b" ∧ ¬IsSubdomain "a.-b" ∧
    ¬IsSubdomain "A" ∧ ¬IsSubdomain "" := by decide

end Kubernetes
