import Mathlib.Data.List.Basic

/-!
# Patterns

Regular expressions with named groups. A matcher tries the ways to match the beginning
of a text one after the other: repetitions take as much as they can before they take
less, and the first alternative comes before the second. A pattern that is anchored at
both ends finds the first way that leaves nothing over.
-/

namespace Patterns

/-- A regular expression. -/
inductive Pattern (ν : Type)
  | one (allowed : Char → Bool)
  | many (allowed : Char → Bool)
  | seq (first second : Pattern ν)
  | alt (first second : Pattern ν)
  | opt (pattern : Pattern ν)
  | group (name : ν) (pattern : Pattern ν)

/-- The texts of the groups that took part in a match. -/
abbrev Groups (ν : Type) : Type := List (ν × List Char)

/-- A way to match the beginning of a text. -/
structure Match (ν : Type) where
  groups : Groups ν
  taken : List Char
  rest : List Char

variable {ν : Type}

/-- The ways to take permitted characters, at least one, the longest first. -/
def repetitions (allowed : Char → Bool) : List Char → List (List Char × List Char)
  | [] => []
  | head :: tail =>
      if allowed head then
        (repetitions allowed tail).map (fun split => (head :: split.1, split.2)) ++
          [([head], tail)]
      else []

/-- The match of the second part after that of the first one. -/
def Match.andThen (one two : Match ν) : Match ν where
  groups := one.groups ++ two.groups
  taken := one.taken ++ two.taken
  rest := two.rest

/-- The ways to match the beginning of a text, in the order in which they are tried. -/
def Pattern.matches : Pattern ν → List Char → List (Match ν)
  | .one allowed, text =>
      match text with
      | [] => []
      | head :: tail => if allowed head then [⟨[], [head], tail⟩] else []
  | .many allowed, text =>
      (repetitions allowed text).map fun split => ⟨[], split.1, split.2⟩
  | .seq first second, text =>
      (first.matches text).flatMap fun one => (second.matches one.rest).map one.andThen
  | .alt first second, text => first.matches text ++ second.matches text
  | .opt pattern, text => pattern.matches text ++ [⟨[], [], text⟩]
  | .group name pattern, text =>
      (pattern.matches text).map fun found =>
        { found with groups := (name, found.taken) :: found.groups }

/-- The groups of the first way to match the whole text. -/
def Pattern.exec (pattern : Pattern ν) (text : List Char) : Option (Groups ν) :=
  ((pattern.matches text).find? fun found => found.rest.isEmpty).map Match.groups

/-! ## What patterns denote -/

/-- The pattern matches exactly this text, with these groups. -/
def Pattern.Denotes : Pattern ν → Groups ν → List Char → Prop
  | .one allowed, groups, text => groups = [] ∧ ∃ char, allowed char = true ∧ text = [char]
  | .many allowed, groups, text =>
      groups = [] ∧ text ≠ [] ∧ ∀ char ∈ text, allowed char = true
  | .seq first second, groups, text =>
      ∃ groups₁ text₁ groups₂ text₂, first.Denotes groups₁ text₁ ∧
        second.Denotes groups₂ text₂ ∧ groups = groups₁ ++ groups₂ ∧ text = text₁ ++ text₂
  | .alt first second, groups, text =>
      first.Denotes groups text ∨ second.Denotes groups text
  | .opt pattern, groups, text => pattern.Denotes groups text ∨ groups = [] ∧ text = []
  | .group name pattern, groups, text =>
      ∃ inner, pattern.Denotes inner text ∧ groups = (name, text) :: inner

theorem Pattern.Denotes.append
    {first second : Pattern ν} {groups₁ groups₂ : Groups ν} {text₁ text₂ : List Char}
    (denoted₁ : first.Denotes groups₁ text₁) (denoted₂ : second.Denotes groups₂ text₂) :
    (Pattern.seq first second).Denotes (groups₁ ++ groups₂) (text₁ ++ text₂) :=
  ⟨groups₁, text₁, groups₂, text₂, denoted₁, denoted₂, rfl, rfl⟩

theorem Pattern.Denotes.named
    {pattern : Pattern ν} {groups : Groups ν} {text : List Char} (name : ν)
    (denoted : pattern.Denotes groups text) :
    (Pattern.group name pattern).Denotes ((name, text) :: groups) text :=
  ⟨groups, denoted, rfl⟩

theorem mem_repetitions
    {allowed : Char → Bool} {text : List Char} {split : List Char × List Char} :
    split ∈ repetitions allowed text ↔
      text = split.1 ++ split.2 ∧ split.1 ≠ [] ∧ ∀ char ∈ split.1, allowed char = true := by
  induction text generalizing split with
  | nil =>
      constructor
      · intro listed
        cases listed
      · rintro ⟨same, some, _⟩
        exact absurd (List.append_eq_nil_iff.mp same.symm).1 some
  | cons head tail inductionHypothesis =>
      rw [repetitions]
      constructor
      · intro listed
        split at listed
        next permitted =>
          rcases List.mem_append.mp listed with longer | last
          · obtain ⟨inner, member, rfl⟩ := List.mem_map.mp longer
            obtain ⟨same, _, rest⟩ := inductionHypothesis.mp member
            refine ⟨by rw [same, List.cons_append], List.cons_ne_nil _ _, ?_⟩
            exact List.forall_mem_cons.mpr ⟨permitted, rest⟩
          · rw [List.mem_singleton.mp last]
            exact ⟨rfl, List.cons_ne_nil _ _, by simpa using permitted⟩
        next => cases listed
      · rintro ⟨same, some, permitted⟩
        obtain ⟨taken, rest⟩ := split
        cases taken with
        | nil => exact absurd rfl some
        | cons first others =>
            rw [List.cons_append] at same
            obtain ⟨rfl, rfl⟩ := List.cons.inj same
            rw [List.forall_mem_cons] at permitted
            rw [if_pos permitted.1, List.mem_append]
            cases others with
            | nil => exact Or.inr (List.mem_singleton_self _)
            | cons next others =>
                refine Or.inl (List.mem_map.mpr ⟨(next :: others, rest), ?_, rfl⟩)
                exact inductionHypothesis.mpr
                  ⟨rfl, List.cons_ne_nil _ _, permitted.2⟩

/-- The ways to match are those that split the text after what the pattern denotes. -/
theorem mem_matches {pattern : Pattern ν} {text : List Char} {found : Match ν} :
    found ∈ pattern.matches text ↔
      text = found.taken ++ found.rest ∧ pattern.Denotes found.groups found.taken := by
  induction pattern generalizing text found with
  | one allowed =>
      obtain ⟨groups, taken, rest⟩ := found
      cases text with
      | nil =>
          constructor
          · intro listed
            cases listed
          · rintro ⟨same, _, char, _, rfl⟩
            cases same
      | cons head tail =>
          rw [Pattern.matches]
          constructor
          · intro listed
            split at listed
            next permitted =>
              rw [List.mem_singleton, Match.mk.injEq] at listed
              obtain ⟨rfl, rfl, rfl⟩ := listed
              exact ⟨rfl, rfl, head, permitted, rfl⟩
            next => cases listed
          · rintro ⟨same, rfl, char, permitted, rfl⟩
            obtain ⟨rfl, rfl⟩ := List.cons.inj same
            rw [if_pos permitted]
            exact List.mem_singleton_self _
  | many allowed =>
      rw [Pattern.matches, List.mem_map]
      constructor
      · rintro ⟨split, listed, rfl⟩
        obtain ⟨same, some, permitted⟩ := mem_repetitions.mp listed
        exact ⟨same, rfl, some, permitted⟩
      · obtain ⟨groups, taken, rest⟩ := found
        rintro ⟨same, rfl, some, permitted⟩
        exact ⟨(taken, rest), mem_repetitions.mpr ⟨same, some, permitted⟩, rfl⟩
  | seq first second firstHypothesis secondHypothesis =>
      rw [Pattern.matches, List.mem_flatMap]
      constructor
      · rintro ⟨one, listed, continued⟩
        obtain ⟨two, listed₂, rfl⟩ := List.mem_map.mp continued
        obtain ⟨same, denoted⟩ := firstHypothesis.mp listed
        obtain ⟨same₂, denoted₂⟩ := secondHypothesis.mp listed₂
        have whole : text = (one.andThen two).taken ++ (one.andThen two).rest := by
          rw [same, same₂, Match.andThen, List.append_assoc]
        exact ⟨whole, Pattern.Denotes.append denoted denoted₂⟩
      · obtain ⟨groups, taken, rest⟩ := found
        rintro ⟨same, groups₁, text₁, groups₂, text₂, denoted, denoted₂, rfl, rfl⟩
        rw [List.append_assoc] at same
        refine ⟨⟨groups₁, text₁, text₂ ++ rest⟩, firstHypothesis.mpr ⟨same, denoted⟩, ?_⟩
        exact List.mem_map.mpr
          ⟨⟨groups₂, text₂, rest⟩, secondHypothesis.mpr ⟨rfl, denoted₂⟩, rfl⟩
  | alt first second firstHypothesis secondHypothesis =>
      rw [Pattern.matches, List.mem_append, firstHypothesis, secondHypothesis,
        Pattern.Denotes, ← and_or_left]
  | opt pattern inductionHypothesis =>
      rw [Pattern.matches, List.mem_append, inductionHypothesis, List.mem_singleton,
        Pattern.Denotes, and_or_left]
      apply or_congr Iff.rfl
      obtain ⟨groups, taken, rest⟩ := found
      constructor
      · intro same
        obtain ⟨rfl, rfl, rfl⟩ := Match.mk.inj same
        exact ⟨rfl, rfl, rfl⟩
      · rintro ⟨rfl, rfl, rfl⟩
        rfl
  | group name pattern inductionHypothesis =>
      rw [Pattern.matches, List.mem_map]
      constructor
      · rintro ⟨inner, listed, rfl⟩
        obtain ⟨same, denoted⟩ := inductionHypothesis.mp listed
        exact ⟨same, inner.groups, denoted, rfl⟩
      · obtain ⟨groups, taken, rest⟩ := found
        rintro ⟨same, inner, denoted, named⟩
        refine ⟨⟨inner, taken, rest⟩, inductionHypothesis.mpr ⟨same, denoted⟩, ?_⟩
        exact congrArg (Match.mk · taken rest) named.symm

/-- A match of the whole text leaves nothing over. -/
theorem exists_whole_match_iff
    {pattern : Pattern ν} {text : List Char} {groups : Groups ν} :
    (∃ found ∈ pattern.matches text, found.rest = [] ∧ found.groups = groups) ↔
      pattern.Denotes groups text := by
  constructor
  · rintro ⟨found, listed, rest, rfl⟩
    obtain ⟨same, denoted⟩ := mem_matches.mp listed
    rw [rest, List.append_nil] at same
    rw [same]
    exact denoted
  · intro denoted
    refine ⟨⟨groups, text, []⟩, mem_matches.mpr ⟨?_, denoted⟩, rfl, rfl⟩
    rw [List.append_nil]

/-- What is found is denoted. -/
theorem denotes_of_exec
    {pattern : Pattern ν} {text : List Char} {groups : Groups ν}
    (found : pattern.exec text = some groups) :
    pattern.Denotes groups text := by
  obtain ⟨first, chosen, rfl⟩ := Option.map_eq_some_iff.mp found
  have whole : first.rest.isEmpty = true :=
    List.find?_some (p := fun found : Match ν => found.rest.isEmpty) chosen
  rw [List.isEmpty_iff] at whole
  exact exists_whole_match_iff.mp ⟨first, List.mem_of_find?_eq_some chosen, whole, rfl⟩

/-- Something is found in each text that is denoted. -/
theorem exec_isSome_iff {pattern : Pattern ν} {text : List Char} :
    (∃ groups, pattern.exec text = some groups) ↔
      ∃ groups, pattern.Denotes groups text := by
  constructor
  · rintro ⟨groups, found⟩
    exact ⟨groups, denotes_of_exec found⟩
  · rintro ⟨groups, denoted⟩
    obtain ⟨way, listed, whole, _⟩ := exists_whole_match_iff.mpr denoted
    have some : ((pattern.matches text).find? fun found => found.rest.isEmpty).isSome := by
      rw [List.find?_isSome]
      exact ⟨way, listed, List.isEmpty_iff.mpr whole⟩
    obtain ⟨first, chosen⟩ := Option.isSome_iff_exists.mp some
    exact ⟨first.groups, by rw [Pattern.exec, chosen, Option.map_some]⟩

/-- Where only one way is denoted, it is found, whatever was tried before. -/
theorem exec_eq_some_of_unique
    {pattern : Pattern ν} {text : List Char} {groups : Groups ν}
    (denoted : pattern.Denotes groups text)
    (unique : ∀ others, pattern.Denotes others text → others = groups) :
    pattern.exec text = some groups := by
  obtain ⟨others, found⟩ := exec_isSome_iff.mpr ⟨groups, denoted⟩
  rw [found, unique others (denotes_of_exec found)]

/-! ## Searching -/

/-- The pattern matches somewhere in the text. -/
def Pattern.occursIn (pattern : Pattern ν) : List Char → Bool
  | [] => !(pattern.matches []).isEmpty
  | head :: tail => !(pattern.matches (head :: tail)).isEmpty || pattern.occursIn tail

/-- The ways to match are not empty when the pattern denotes a beginning of the text. -/
theorem matches_not_isEmpty_iff {pattern : Pattern ν} {text : List Char} :
    (!(pattern.matches text).isEmpty) = true ↔
      ∃ groups taken rest, text = taken ++ rest ∧ pattern.Denotes groups taken := by
  rw [Bool.not_eq_true', List.isEmpty_eq_false_iff_exists_mem]
  constructor
  · rintro ⟨found, listed⟩
    obtain ⟨same, denoted⟩ := mem_matches.mp listed
    exact ⟨found.groups, found.taken, found.rest, same, denoted⟩
  · rintro ⟨groups, taken, rest, same, denoted⟩
    exact ⟨⟨groups, taken, rest⟩, mem_matches.mpr ⟨same, denoted⟩⟩

/-- What is found somewhere in a text is a part of the text that the pattern denotes. -/
theorem occursIn_iff {pattern : Pattern ν} {text : List Char} :
    pattern.occursIn text = true ↔
      ∃ before groups taken after,
        text = before ++ taken ++ after ∧ pattern.Denotes groups taken := by
  induction text with
  | nil =>
      rw [Pattern.occursIn, matches_not_isEmpty_iff]
      constructor
      · rintro ⟨groups, taken, rest, same, denoted⟩
        exact ⟨[], groups, taken, rest, same, denoted⟩
      · rintro ⟨before, groups, taken, after, same, denoted⟩
        have parts := List.append_eq_nil_iff.mp same.symm
        rw [(List.append_eq_nil_iff.mp parts.1).2] at denoted
        exact ⟨groups, [], [], rfl, denoted⟩
  | cons head tail inductionHypothesis =>
      rw [Pattern.occursIn, Bool.or_eq_true, matches_not_isEmpty_iff, inductionHypothesis]
      constructor
      · rintro (⟨groups, taken, rest, same, denoted⟩ |
          ⟨before, groups, taken, after, same, denoted⟩)
        · exact ⟨[], groups, taken, rest, same, denoted⟩
        · exact ⟨head :: before, groups, taken, after, congrArg (head :: ·) same, denoted⟩
      · rintro ⟨before, groups, taken, after, same, denoted⟩
        cases before with
        | nil => exact Or.inl ⟨groups, taken, after, same, denoted⟩
        | cons first before =>
            obtain ⟨_, rest⟩ := List.cons.inj same
            exact Or.inr ⟨before, groups, taken, after, rest, denoted⟩

/-! ## Names and characters -/

/-- The names of the groups of a pattern. -/
def Pattern.names : Pattern ν → List ν
  | .one _ => []
  | .many _ => []
  | .seq first second => first.names ++ second.names
  | .alt first second => first.names ++ second.names
  | .opt pattern => pattern.names
  | .group name pattern => name :: pattern.names

theorem mem_names_of_denotes
    {pattern : Pattern ν} {groups : Groups ν} {text : List Char}
    (denoted : pattern.Denotes groups text) :
    ∀ group ∈ groups, group.1 ∈ pattern.names := by
  induction pattern generalizing groups text with
  | one allowed =>
      rw [denoted.1]
      exact List.forall_mem_nil _
  | many allowed =>
      rw [denoted.1]
      exact List.forall_mem_nil _
  | seq first second firstHypothesis secondHypothesis =>
      obtain ⟨groups₁, text₁, groups₂, text₂, denoted₁, denoted₂, rfl, _⟩ := denoted
      intro group member
      rw [Pattern.names, List.mem_append]
      rcases List.mem_append.mp member with member | member
      · exact Or.inl (firstHypothesis denoted₁ group member)
      · exact Or.inr (secondHypothesis denoted₂ group member)
  | alt first second firstHypothesis secondHypothesis =>
      intro group member
      rw [Pattern.names, List.mem_append]
      rcases denoted with denoted | denoted
      · exact Or.inl (firstHypothesis denoted group member)
      · exact Or.inr (secondHypothesis denoted group member)
  | opt pattern inductionHypothesis =>
      rcases denoted with denoted | ⟨rfl, _⟩
      · exact inductionHypothesis denoted
      · exact List.forall_mem_nil _
  | group name pattern inductionHypothesis =>
      obtain ⟨inner, denoted, rfl⟩ := denoted
      rw [List.forall_mem_cons]
      refine ⟨List.mem_cons_self, fun group member => ?_⟩
      exact List.mem_cons_of_mem _ (inductionHypothesis denoted group member)

/-- A pattern without groups leaves no groups. -/
theorem groups_eq_nil_of_denotes
    {pattern : Pattern ν} {groups : Groups ν} {text : List Char}
    (unnamed : pattern.names = []) (denoted : pattern.Denotes groups text) :
    groups = [] := by
  rw [List.eq_nil_iff_forall_not_mem]
  intro group member
  have named := mem_names_of_denotes denoted group member
  rw [unnamed] at named
  cases named

/-- All characters that the pattern takes are among these. -/
def Pattern.Within (among : Char → Prop) : Pattern ν → Prop
  | .one allowed => ∀ char, allowed char = true → among char
  | .many allowed => ∀ char, allowed char = true → among char
  | .seq first second => first.Within among ∧ second.Within among
  | .alt first second => first.Within among ∧ second.Within among
  | .opt pattern => pattern.Within among
  | .group _ pattern => pattern.Within among

theorem forall_mem_of_denotes
    {among : Char → Prop} {pattern : Pattern ν} {groups : Groups ν} {text : List Char}
    (within : pattern.Within among) (denoted : pattern.Denotes groups text) :
    ∀ char ∈ text, among char := by
  induction pattern generalizing groups text with
  | one allowed =>
      obtain ⟨_, char, permitted, rfl⟩ := denoted
      rw [List.forall_mem_singleton]
      exact within char permitted
  | many allowed =>
      obtain ⟨_, _, permitted⟩ := denoted
      exact fun char member => within char (permitted char member)
  | seq first second firstHypothesis secondHypothesis =>
      obtain ⟨groups₁, text₁, groups₂, text₂, denoted₁, denoted₂, _, rfl⟩ := denoted
      rw [List.forall_mem_append]
      exact ⟨firstHypothesis within.1 denoted₁, secondHypothesis within.2 denoted₂⟩
  | alt first second firstHypothesis secondHypothesis =>
      rcases denoted with denoted | denoted
      · exact firstHypothesis within.1 denoted
      · exact secondHypothesis within.2 denoted
  | opt pattern inductionHypothesis =>
      rcases denoted with denoted | ⟨_, rfl⟩
      · exact inductionHypothesis within denoted
      · exact List.forall_mem_nil _
  | group name pattern inductionHypothesis =>
      obtain ⟨inner, denoted, _⟩ := denoted
      exact inductionHypothesis within denoted

/-- A text splits in one way into characters of a kind and characters of the other kind. -/
theorem split_unique
    {kind : Char → Bool} {first second others₁ others₂ : List Char}
    (same : first ++ others₁ = second ++ others₂)
    (inFirst : ∀ char ∈ first, kind char = true)
    (inSecond : ∀ char ∈ second, kind char = true)
    (notIn₁ : ∀ char ∈ others₁, ¬ kind char = true)
    (notIn₂ : ∀ char ∈ others₂, ¬ kind char = true) :
    first = second ∧ others₁ = others₂ := by
  have taken := congrArg (List.filter kind) same
  rw [List.filter_append, List.filter_append, List.filter_eq_self.mpr inFirst,
    List.filter_eq_self.mpr inSecond, List.filter_eq_nil_iff.mpr notIn₁,
    List.filter_eq_nil_iff.mpr notIn₂, List.append_nil, List.append_nil] at taken
  refine ⟨taken, ?_⟩
  rw [taken] at same
  exact List.append_cancel_left same

end Patterns
