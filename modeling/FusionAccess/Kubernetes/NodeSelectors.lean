import FusionAccess.Kubernetes.Names
import FusionAccess.Kubernetes.Objects
import Mathlib

/-!
# Node selectors

A node selector is a list of terms, of which a node has to match one. A term is a
list of requirements on the labels and the fields of a node, which has to match all
of them. Errors of a term are only reported when no other term is matched.
-/

namespace Kubernetes

/-! ## Selectors -/

/-- `NodeSelectorOperator`. -/
inductive NodeSelectorOperator
  | isIn
  | notIn
  | exists
  | doesNotExist
  | gt
  | lt
  | other (text : String)
  deriving DecidableEq

/-- `NodeSelectorRequirement`. -/
structure NodeSelectorRequirement where
  key : String
  operator : NodeSelectorOperator
  values : List String := []
  deriving DecidableEq

/-- `NodeSelectorTerm`. -/
structure NodeSelectorTerm where
  matchExpressions : List NodeSelectorRequirement := []
  matchFields : List NodeSelectorRequirement := []
  deriving DecidableEq

/-- `NodeSelector`. -/
structure NodeSelector where
  nodeSelectorTerms : List NodeSelectorTerm
  deriving DecidableEq

/-! ## Requirements on labels -/

/-- A letter or a digit. -/
def isAlphanumeric (char : Char) : Bool :=
  isLowerAlphanumeric char || ('A' ≤ char && char ≤ 'Z')

/-- `qualifiedNameRegexp`. -/
def matchesQualifiedName (chars : List Char) : Bool :=
  chars.head?.any isAlphanumeric && chars.getLast?.any isAlphanumeric &&
    chars.all fun char => isAlphanumeric char || char ∈ ['-', '_', '.']

/-- `IsQualifiedName`. -/
def isQualifiedName (value : String) : Bool :=
  match value.toList.splitOn '/' with
  | [name] => matchesQualifiedName name && name.length ≤ 63
  | [domain, name] =>
      decide (IsSubdomain (String.ofList domain)) && matchesQualifiedName name &&
        name.length ≤ 63
  | _ => false

/-- `IsValidLabelValue`. -/
def isValidLabelValue (value : String) : Bool :=
  value = "" || (matchesQualifiedName value.toList && value.toList.length ≤ 63)

/-- The value of decimal digits. -/
def parseDigits (chars : List Char) : Option Nat :=
  if chars ≠ [] ∧ ∀ char ∈ chars, '0' ≤ char ∧ char ≤ '9' then
    some (chars.foldl (fun value char => value * 10 + (char.toNat - '0'.toNat)) 0)
  else none

/-- `ParseInt` with base 10 and 64 bits. -/
def parseInt (text : String) : Option Int :=
  let value : Option Int :=
    match text.toList with
    | '-' :: digits => (parseDigits digits).map fun value => -(value : Int)
    | '+' :: digits => (parseDigits digits).map fun value => (value : Int)
    | digits => (parseDigits digits).map fun value => (value : Int)
  value.filter fun value => -2 ^ 63 ≤ value && value < 2 ^ 63

/-- An error about a field; the value that is shown between the two texts is left
out. -/
structure FieldError where
  field : String
  detail : String
  deriving DecidableEq

/-- The errors about the values of a requirement on a label. -/
def valuesErrors (path : String) (requirement : NodeSelectorRequirement) :
    List FieldError :=
  match requirement.operator with
  | .isIn | .notIn =>
      if requirement.values = [] then
        [⟨path ++ ".values", "for 'in', 'notin' operators, values set can't be empty"⟩]
      else []
  | .exists | .doesNotExist =>
      if requirement.values ≠ [] then
        [⟨path ++ ".values", "values set must be empty for exists and does not exist"⟩]
      else []
  | .gt | .lt =>
      (if requirement.values.length ≠ 1 then
        [⟨path ++ ".values", "for 'Gt', 'Lt' operators, exactly one value is required"⟩]
      else []) ++
      (requirement.values.filter fun value => (parseInt value).isNone).map fun _ =>
        ⟨path ++ ".values", "for 'Gt', 'Lt' operators, the value must be an integer"⟩
  | .other _ => []

/-- The errors of `NewRequirement`. -/
def labelRequirementErrors (path : String) (requirement : NodeSelectorRequirement) :
    List FieldError :=
  match requirement.operator with
  | .other _ => [⟨path ++ ".operator", "unsupported operator"⟩]
  | _ =>
      (if isQualifiedName requirement.key then [] else
        [⟨path ++ ".key", "name part must consist of alphanumeric characters"⟩]) ++
      valuesErrors path requirement ++
      (requirement.values.filter fun value => !isValidLabelValue value).map fun _ =>
        ⟨path ++ ".values", "a valid label must be an empty string or consist of " ++
          "alphanumeric characters"⟩

/-- The number under a label compares with that of the requirement. -/
def comparesWith (compare : Int → Int → Bool) (requirement : NodeSelectorRequirement)
    (label : Option String) : Bool :=
  match label.bind parseInt, requirement.values with
  | some value, [bound] => (parseInt bound).any fun bound => compare value bound
  | _, _ => false

/-- `Matches` of a requirement on a label. -/
def NodeSelectorRequirement.matchesLabels
    (requirement : NodeSelectorRequirement) (labels : StringMap) : Bool :=
  let label := labels.get? requirement.key
  match requirement.operator with
  | .isIn => label.any fun value => value ∈ requirement.values
  | .notIn => label.all fun value => value ∉ requirement.values
  | .exists => label.isSome
  | .doesNotExist => label.isNone
  | .gt => comparesWith (fun value bound => bound < value) requirement label
  | .lt => comparesWith (fun value bound => value < bound) requirement label
  | .other _ => false

/-! ## Requirements on fields -/

/-- The errors of a requirement on a field. -/
def fieldRequirementErrors (path : String) (requirement : NodeSelectorRequirement) :
    List FieldError :=
  match requirement.operator with
  | .isIn | .notIn =>
      if requirement.values.length ≠ 1 then
        [⟨path ++ ".values", "must have one element"⟩]
      else []
  | _ => [⟨path ++ ".operator", "unsupported operator"⟩]

/-- The value of a field of a node; empty for all but its name. -/
def Node.field (node : Node) (key : String) : String :=
  if key = "metadata.name" then node.name else ""

/-- `Matches` of a requirement on a field. -/
def NodeSelectorRequirement.matchesFields
    (requirement : NodeSelectorRequirement) (node : Node) : Bool :=
  match requirement.operator with
  | .isIn => requirement.values = [node.field requirement.key]
  | .notIn => requirement.values ≠ [node.field requirement.key]
  | _ => false

/-! ## Terms -/

/-- `isEmptyNodeSelectorTerm`. -/
def NodeSelectorTerm.isEmpty (term : NodeSelectorTerm) : Bool :=
  term.matchExpressions.isEmpty && term.matchFields.isEmpty

/-- The errors of `newNodeSelectorTerm`. -/
def NodeSelectorTerm.parseErrs (path : String) (term : NodeSelectorTerm) :
    List FieldError :=
  (term.matchExpressions.zipIdx.flatMap fun (requirement, index) =>
    labelRequirementErrors s!"{path}.matchExpressions[{index}]" requirement) ++
  term.matchFields.zipIdx.flatMap fun (requirement, index) =>
    fieldRequirementErrors s!"{path}.matchFields[{index}]" requirement

/-- A node has all labels and fields that a term requires; a node without a name has
no fields to look at. -/
def NodeSelectorTerm.matches (term : NodeSelectorTerm) (node : Node) : Bool :=
  (term.matchExpressions.all fun requirement => requirement.matchesLabels node.labels) &&
    (node.name = "" || term.matchFields.all fun requirement =>
      requirement.matchesFields node)

/-- The terms that are looked at, with the errors of each. -/
def NodeSelector.parsedTerms (selector : NodeSelector) :
    List (NodeSelectorTerm × List FieldError) :=
  (selector.nodeSelectorTerms.zipIdx.filter fun (term, _) => !term.isEmpty).map
    fun (term, index) => (term, term.parseErrs s!"nodeSelectorTerms[{index}]")

/-- The loop of `Match` over the terms. -/
def matchTerms (node : Node) :
    List FieldError → List (NodeSelectorTerm × List FieldError) →
      Except (List FieldError) Bool
  | [], [] => .ok false
  | errs, [] => .error errs
  | errs, (term, parseErrs) :: terms =>
      if parseErrs ≠ [] then matchTerms node (errs ++ parseErrs) terms
      else if term.matches node then .ok true
      else matchTerms node errs terms

/-- `MatchNodeSelectorTerms`. -/
def matchNodeSelectorTerms (node : Node) (selector : NodeSelector) :
    Except (List FieldError) Bool :=
  matchTerms node [] selector.parsedTerms

/-! ## When a node matches -/

/-- A term without errors is matched. -/
def IsMatched (node : Node) (term : NodeSelectorTerm × List FieldError) : Prop :=
  term.2 = [] ∧ term.1.matches node = true

/-- The loop ends with a match where a term without errors is matched, or else with
the errors, if there are some. -/
theorem matchTerms_eq
    (node : Node) (errs : List FieldError)
    (terms : List (NodeSelectorTerm × List FieldError)) :
    (matchTerms node errs terms = .ok true ↔ ∃ term ∈ terms, IsMatched node term) ∧
      (matchTerms node errs terms = .ok false ↔
        errs = [] ∧ ∀ term ∈ terms, term.2 = [] ∧ term.1.matches node = false) := by
  induction terms generalizing errs with
  | nil => cases errs <;> simp [matchTerms]
  | cons term rest inductionHypothesis =>
      obtain ⟨term, parseErrs⟩ := term
      have next := inductionHypothesis (errs ++ parseErrs)
      have same := inductionHypothesis errs
      have step : matchTerms node errs ((term, parseErrs) :: rest) =
          if parseErrs ≠ [] then matchTerms node (errs ++ parseErrs) rest
          else if term.matches node then .ok true else matchTerms node errs rest := by
        cases errs <;> rfl
      rw [step]
      have head : IsMatched node (term, parseErrs) ↔
          parseErrs = [] ∧ term.matches node = true := Iff.rfl
      rw [List.exists_mem_cons_iff, List.forall_mem_cons, head]
      by_cases faulty : parseErrs = []
      · rw [if_neg (not_not.mpr faulty)]
        by_cases matched : term.matches node = true
        · simp [matched, faulty]
        · rw [if_neg matched, same.1, same.2]
          simp only [matched, faulty, true_and]
          simp
      · rw [if_pos faulty, next.1, next.2]
        simp only [faulty, false_and, false_or, List.append_eq_nil_iff, and_false, and_self]

/-- A node matches a selector just if it matches a term of it that has no errors. -/
theorem matchNodeSelectorTerms_eq_true_iff
    {node : Node} {selector : NodeSelector} :
    matchNodeSelectorTerms node selector = .ok true ↔
      ∃ term ∈ selector.parsedTerms, IsMatched node term :=
  (matchTerms_eq node [] selector.parsedTerms).1

/-- Whether a node matches can be told just if it matches a term without errors, or
no term has errors. -/
theorem exists_matchNodeSelectorTerms_eq_ok_iff
    {node : Node} {selector : NodeSelector} :
    (∃ matched, matchNodeSelectorTerms node selector = .ok matched) ↔
      (∃ term ∈ selector.parsedTerms, IsMatched node term) ∨
        ∀ term ∈ selector.parsedTerms, term.2 = [] := by
  have isFalse := (matchTerms_eq node [] selector.parsedTerms).2
  rw [Bool.exists_bool, matchNodeSelectorTerms_eq_true_iff, matchNodeSelectorTerms, isFalse]
  constructor
  · rintro (⟨-, unmatched⟩ | matched)
    · exact Or.inr fun term listed => (unmatched term listed).1
    · exact Or.inl matched
  · rintro (matched | faultless)
    · exact Or.inr matched
    · by_cases matched : ∃ term ∈ selector.parsedTerms, IsMatched node term
      · exact Or.inr matched
      · refine Or.inl ⟨rfl, fun term listed => ⟨faultless term listed, ?_⟩⟩
        rw [Bool.eq_false_iff]
        exact fun isTrue => matched ⟨term, listed, faultless term listed, isTrue⟩

end Kubernetes
