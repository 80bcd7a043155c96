import FusionAccess.Controller.Helpers
import FusionAccess.Kubernetes.Names

/-!
# WWNs as names

A LocalDisk is named after the WWN of its device. The controller checks by itself that
the WWN is a valid name: it scans the characters and looks at the first and the last one.
The scan admits letters of either case, and it does not look at the labels.
-/

namespace FusionAccess

open Kubernetes

/-- The scan of `isValidKubernetesName`: sizes, ends and characters. -/
structure PassesScan (name : String) : Prop where
  nonempty : name ≠ ""
  short : name.utf8ByteSize ≤ maxKubernetesNameLength
  first : name.toList.head?.any isAlphanumeric = true
  last : name.toList.getLast?.any isAlphanumeric = true
  inner : ∀ char ∈ name.toList, isAlphanumeric char = true ∨ char = '-' ∨ char = '.'

/-- An upper-case letter. -/
def isUpperCase (char : Char) : Bool := 'A' ≤ char && char ≤ 'Z'

/-- The name has no upper-case letters, and no dot next to a dot or a hyphen. -/
structure IsPlain (name : String) : Prop where
  lower : ∀ char ∈ name.toList, isUpperCase char = false
  adjoins : List.IsChain MayAdjoin name.toList

/-- The WWN is taken as the name of a LocalDisk if and only if the API server takes it. -/
def JudgedByGrammar (wwn : String) : Prop :=
  generateLocalDiskName wwn = .ok wwn ↔ IsSubdomain wwn

theorem isValidKubernetesName_iff (name : String) :
    isValidKubernetesName name = true ↔ PassesScan name := by
  unfold isValidKubernetesName
  constructor
  · intro valid
    split at valid
    · cases valid
    next fits =>
      split at valid
      · cases valid
      next ends =>
        simp only [Bool.or_eq_true, decide_eq_true_eq, not_or, Nat.not_lt] at fits
        simp only [Bool.or_eq_true, Bool.not_eq_true', not_or, Bool.not_eq_false] at ends
        refine ⟨fits.1, fits.2, ends.1, ends.2, fun char member => ?_⟩
        have permitted := List.all_eq_true.mp valid char member
        simpa [or_assoc] using permitted
  · intro passes
    have long : ¬maxKubernetesNameLength < name.utf8ByteSize := Nat.not_lt.mpr passes.short
    rw [if_neg (by simp [passes.nonempty, long]),
      if_neg (by simp [passes.first, passes.last]), List.all_eq_true]
    intro char member
    simpa [or_assoc] using passes.inner char member

/-- The name of a LocalDisk is the WWN itself. -/
theorem generateLocalDiskName_eq_ok_iff (wwn name : String) :
    generateLocalDiskName wwn = .ok name ↔ name = wwn ∧ PassesScan wwn := by
  rw [← isValidKubernetesName_iff]
  unfold generateLocalDiskName
  cases valid : isValidKubernetesName wwn with
  | true =>
      have passes := (isValidKubernetesName_iff wwn).mp valid
      have long : ¬maxKubernetesNameLength < wwn.utf8ByteSize := Nat.not_lt.mpr passes.short
      rw [if_neg passes.nonempty, if_neg long, if_neg (by simp)]
      simp [eq_comm]
  | false =>
      simp only [Bool.false_eq_true, and_false, iff_false]
      split
      · simp
      · split <;> simp

theorem isAlphanumeric_iff (char : Char) :
    isAlphanumeric char = true ↔
      isLowerAlphanumeric char = true ∨ isUpperCase char = true := by
  unfold isAlphanumeric isLowerAlphanumeric isUpperCase
  simp only [Bool.or_eq_true]
  tauto

theorem isAlphanumeric_ne
    {char : Char} (alphanumeric : isAlphanumeric char = true) :
    char ≠ '.' ∧ char ≠ '-' := by
  constructor
  · rintro rfl
    revert alphanumeric
    decide
  · rintro rfl
    revert alphanumeric
    decide

/-- A letter or a digit is no upper-case letter when it is a lower-case one. -/
theorem isUpperCase_of_isLowerAlphanumeric
    {char : Char} (isLower : isLowerAlphanumeric char = true) :
    isUpperCase char = false := by
  simp only [isLowerAlphanumeric, Bool.or_eq_true, Bool.and_eq_true, decide_eq_true_eq,
    Char.le_def, UInt32.le_iff_toNat_le] at isLower
  simp only [isUpperCase, Bool.and_eq_false_iff, decide_eq_false_iff_not, Char.le_def,
    UInt32.le_iff_toNat_le]
  have values : ('a'.val.toNat, 'z'.val.toNat, '0'.val.toNat, '9'.val.toNat,
    'A'.val.toNat, 'Z'.val.toNat) = (97, 122, 48, 57, 65, 90) := by decide
  simp only [Prod.mk.injEq] at values
  omega

/-- A character that both the scan and the case of its letters admit is one of a
subdomain. -/
theorem isSubdomainChar_iff (char : Char) :
    isSubdomainChar char = true ↔
      (isAlphanumeric char = true ∨ char = '-' ∨ char = '.') ∧
        isUpperCase char = false := by
  rw [isAlphanumeric_iff]
  simp only [isSubdomainChar, Bool.or_eq_true, decide_eq_true_eq]
  constructor
  · rintro ((isLower | rfl) | rfl)
    · exact ⟨Or.inl (Or.inl isLower), isUpperCase_of_isLowerAlphanumeric isLower⟩
    · decide
    · decide
  · rintro ⟨(isLower | isUpper) | rfl | rfl, notUpper⟩
    · exact Or.inl (Or.inl isLower)
    · rw [isUpper] at notUpper
      cases notUpper
    · exact Or.inl (Or.inr rfl)
    · exact Or.inr rfl

/-- An end of a name that the scan admits otherwise is a letter or a digit when it is
neither a dot nor a hyphen. -/
theorem any_isAlphanumeric_iff
    {ending : Option Char}
    (inner : ∀ char ∈ ending, isAlphanumeric char = true ∨ char = '-' ∨ char = '.') :
    ending.any isAlphanumeric = true ↔
      ending ≠ none ∧ ∀ char ∈ ending, char ≠ '.' ∧ char ≠ '-' := by
  cases ending with
  | none => simp
  | some char =>
      simp only [Option.any_some, ne_eq, reduceCtorEq, not_false_eq_true, Option.mem_some,
        forall_eq', true_and]
      constructor
      · exact isAlphanumeric_ne
      · intro different
        rcases inner char rfl with alphanumeric | hyphen | dot
        · exact alphanumeric
        · exact absurd hyphen different.2
        · exact absurd dot different.1

/-- The subdomains are the plain names that pass the scan. -/
theorem isSubdomain_iff (name : String) :
    IsSubdomain name ↔ PassesScan name ∧ IsPlain name := by
  have ends : (∀ char ∈ name.toList,
      isAlphanumeric char = true ∨ char = '-' ∨ char = '.') →
        (name.toList.head?.any isAlphanumeric = true ↔ name.toList.head? ≠ none ∧
          ∀ char ∈ name.toList.head?, char ≠ '.' ∧ char ≠ '-') ∧
        (name.toList.getLast?.any isAlphanumeric = true ↔ name.toList.getLast? ≠ none ∧
          ∀ char ∈ name.toList.getLast?, char ≠ '.' ∧ char ≠ '-') := fun inner =>
    ⟨any_isAlphanumeric_iff fun char isFirst => inner char (List.mem_of_mem_head? isFirst),
      any_isAlphanumeric_iff fun char isLast => inner char (List.mem_of_mem_getLast? isLast)⟩
  constructor
  · intro isSubdomain
    obtain ⟨permitted, between⟩ := (labels_iff name.toList).mp isSubdomain.labels
    obtain ⟨some, firstEnd, lastEnd, adjoins⟩ := isChain_delimited.mp between
    have characters := fun char member =>
      (isSubdomainChar_iff char).mp (permitted char member)
    have inner := fun char member => (characters char member).1
    refine ⟨⟨by simpa using some, ?_, ?_, ?_, inner⟩,
      fun char member => (characters char member).2, adjoins⟩
    · rw [isSubdomain.utf8ByteSize_eq]
      exact isSubdomain.short
    · exact (ends inner).1.mpr ⟨by simpa using some, firstEnd⟩
    · exact (ends inner).2.mpr ⟨by simpa using some, lastEnd⟩
  · rintro ⟨passes, plain⟩
    have permitted : ∀ char ∈ name.toList, isSubdomainChar char = true := fun char member =>
      (isSubdomainChar_iff char).mpr ⟨passes.inner char member, plain.lower char member⟩
    have firstEnd := ((ends passes.inner).1.mp passes.first).2
    have lastEnd := ((ends passes.inner).2.mp passes.last).2
    have some : name.toList ≠ [] := by simpa using passes.nonempty
    refine ⟨?_, (labels_iff name.toList).mpr ⟨permitted,
      isChain_delimited.mpr ⟨some, firstEnd, lastEnd, plain.adjoins⟩⟩⟩
    rw [← utf8ByteSize_of_ascii fun char member =>
      utf8Size_of_isSubdomainChar (permitted char member)]
    exact passes.short

/-- The controller judges a WWN by the grammar of names if and only if the WWN is plain or
fails the scan. -/
theorem wwn_judged_by_grammar_iff (wwn : String) :
    JudgedByGrammar wwn ↔ (PassesScan wwn → IsPlain wwn) := by
  unfold JudgedByGrammar
  rw [generateLocalDiskName_eq_ok_iff, isSubdomain_iff]
  tauto

/-- Dots side by side, a label that begins with a hyphen, and upper case: the controller
takes these names and the API server does not. -/
theorem wwn_taken_beyond_grammar :
    ¬JudgedByGrammar "uuid..1" ∧ ¬JudgedByGrammar "uuid.-1" ∧ ¬JudgedByGrammar "UUID.1" := by
  unfold JudgedByGrammar
  decide

end FusionAccess
