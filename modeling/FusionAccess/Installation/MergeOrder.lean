import FusionAccess.Installation.MergeLaws

/-!
# The order of the rounds of a merge

The data of a secret is a map, and a loop visits its entries in any order. Each
round overwrites what earlier ones wrote at the same place, so two payloads that
hold different values at one place make the result depend on the order; so does
the kind of the payload that is visited first when the destination holds null.
-/

namespace Installation

open Kubernetes Registry

/-! ## Outcomes -/

/-- Two payloads are the same value: they are equal, or they are objects with the
same entries under `auths` and the same fields beside it. -/
def SamePayload (first second : Payload) : Prop :=
  first = second ∨
    ∃ one other oneAuths otherAuths : Fields,
      first = .json (.object one) ∧ second = .json (.object other) ∧
        one.get? "auths" = some (.object oneAuths) ∧
        other.get? "auths" = some (.object otherAuths) ∧
        (∀ registry, oneAuths.get? registry = otherAuths.get? registry) ∧
        ∀ key, key ≠ "auths" → one.get? key = other.get? key

/-- Two merges end alike: with the same payload, both with an error, or both with
a panic. -/
def SameOutcome : Except Abort Secret → Except Abort Secret → Prop
  | .ok first, .ok second => SamePayload first.payload second.payload
  | .error (.error _), .error (.error _) => True
  | .error (.panic _), .error (.panic _) => True
  | _, _ => False

/-- Any two orders of the data of the source lead to the same outcome. -/
def OrderIrrelevant (dest src : Secret) : Prop :=
  ∀ first second : Entries String Payload,
    first.Perm src.data → second.Perm src.data →
      SameOutcome (mergeDockerSecrets (some dest) (some { src with data := first }))
        (mergeDockerSecrets (some dest) (some { src with data := second }))

/-- What an entry of the data is taken to hold at a place. -/
def readEntry (entry : String × Payload) : Place → Option Value :=
  entry.2.reading?

/-- The payloads do not contradict each other: into a configuration either some
payload cannot be merged or any two agree, and into null either all payloads are
maps or none is. -/
def PayloadsAgree (dest src : Secret) : Prop :=
  src.type.isDocker = true →
    (dest.payload.isConfiguration = true →
      (∃ entry ∈ src.data, entry.2.isMap = false) ∨
        ∀ first ∈ src.data, ∀ second ∈ src.data, Agree readEntry first second) ∧
    (dest.payload = .json .null →
      (∀ entry ∈ src.data, entry.2.isMap = true) ∨
        ∀ entry ∈ src.data, entry.2.isMap = false)

/-! ## Places after all rounds -/

theorem absorbAll_append (dest : Secret) (first second : Entries String Payload) :
    dest.absorbAll (first ++ second) = (dest.absorbAll first).absorbAll second := by
  unfold Secret.absorbAll
  rw [List.foldl_append]

/-- Each place holds what was read there last. -/
theorem configurationAt?_absorbAll
    (dest : Secret) (entries : Entries String Payload) (place : Place) :
    configurationAt? (dest.absorbAll entries).configuration place =
      (lastReading? readEntry entries place).or
        (configurationAt? dest.configuration place) := by
  induction entries generalizing dest with
  | nil => rfl
  | cons entry rest inductionHypothesis =>
      have first := inductionHypothesis (dest.absorb entry.2)
      rw [configurationAt?_absorb] at first
      rw [lastReading?_cons, Option.or_assoc]
      exact first

/-- After at least one round there is an object with an object under `auths`. -/
theorem payload_absorbAll
    {dest : Secret} {entries : Entries String Payload} (visited : entries ≠ []) :
    ∃ cfg listed : Fields, (dest.absorbAll entries).payload = .json (.object cfg) ∧
      (dest.absorbAll entries).configuration = cfg ∧
      cfg.get? "auths" = some (.object listed) := by
  obtain ⟨before, last, rfl⟩ := (List.eq_nil_or_concat' entries).resolve_left visited
  rw [absorbAll_append]
  obtain ⟨listed, object⟩ := get?_auths_absorb (dest.absorbAll before) last.2
  refine ⟨_, listed, payload_absorb (dest.absorbAll before) last.2, ?_, ?_⟩
  · exact configuration_absorb (dest.absorbAll before) last.2
  · rw [← configuration_absorb]
    exact object

/-- After rounds in two orders the payloads are the same just if every place
holds the same. -/
theorem samePayload_absorbAll_iff
    {dest : Secret} {first second : Entries String Payload}
    (permutes : first.Perm second) :
    SamePayload (dest.absorbAll first).payload (dest.absorbAll second).payload ↔
      ∀ place, configurationAt? (dest.absorbAll first).configuration place =
        configurationAt? (dest.absorbAll second).configuration place := by
  by_cases visited : first = []
  · have nothing : second = [] := by
      rw [visited] at permutes
      exact permutes.nil_eq.symm
    rw [visited, nothing]
    constructor
    · intro _ place
      rfl
    · intro _
      exact Or.inl rfl
  · have otherVisited : second ≠ [] := by
      intro nothing
      rw [nothing] at permutes
      exact visited permutes.eq_nil
    obtain ⟨one, oneAuths, onePayload, oneConfiguration, oneListed⟩ :=
      @payload_absorbAll dest first visited
    obtain ⟨other, otherAuths, otherPayload, otherConfiguration, otherListed⟩ :=
      @payload_absorbAll dest second otherVisited
    have oneEntries : auths one = oneAuths := by
      rw [auths, oneListed]
      rfl
    have otherEntries : auths other = otherAuths := by
      rw [auths, otherListed]
      rfl
    rw [onePayload, otherPayload, oneConfiguration, otherConfiguration]
    constructor
    · rintro (equal | ⟨_, _, listed, listed', same, same', oneGiven, otherGiven, entries,
        fields⟩) place
      · cases equal
        rfl
      · cases same
        cases same'
        cases oneListed.symm.trans oneGiven
        cases otherListed.symm.trans otherGiven
        cases place with
        | topLevel key =>
            rw [configurationAt?, configurationAt?]
            split
            · rfl
            next beside => exact fields key beside
        | registry name =>
            rw [configurationAt?, configurationAt?, oneEntries, otherEntries]
            exact entries name
    · intro places
      right
      refine ⟨one, other, oneAuths, otherAuths, rfl, rfl, oneListed, otherListed, ?_, ?_⟩
      · intro registry
        have entry := places (.registry registry)
        rw [configurationAt?, configurationAt?, oneEntries, otherEntries] at entry
        exact entry
      · intro key beside
        have field := places (.topLevel key)
        rw [configurationAt?, configurationAt?, if_neg beside, if_neg beside] at field
        exact field

/-! ## Orders -/

/-- Into a destination that is no configuration the entry that is visited first
decides: over null a map panics, and all else ends with an error. -/
theorem foldlM_mergePayload_unwritable
    {dest : Secret} (unwritable : dest.payload.isConfiguration = false)
    (entry : String × Payload) (rest : Entries String Payload) :
    ∃ message, (entry :: rest).foldlM mergePayload dest =
      .error (if dest.payload = .json .null ∧ entry.2.isMap = true then .panic message
        else .error message) := by
  rw [List.foldlM_cons]
  cases kind : entry.2.isMap with
  | false =>
      obtain ⟨message, fails⟩ := @mergePayload_of_not_isMap dest entry kind
      refine ⟨message, ?_⟩
      rw [fails, if_neg (by simp)]
      rfl
  | true =>
      obtain ⟨writable, -⟩ | ⟨null, message, panics⟩ | ⟨-, notNull, message, fails⟩ :=
        @mergePayload_of_isMap dest entry kind
      · rw [writable] at unwritable
        cases unwritable
      · refine ⟨message, ?_⟩
        rw [panics, if_pos ⟨null, rfl⟩]
        rfl
      · refine ⟨message, ?_⟩
        rw [fails, if_neg (by simp [notNull])]
        rfl

/-- Any two orders of the rounds lead to the same outcome. -/
def RoundsIrrelevant (dest : Secret) (entries : Entries String Payload) : Prop :=
  ∀ first second : Entries String Payload, first.Perm entries → second.Perm entries →
    SameOutcome (first.foldlM mergePayload dest) (second.foldlM mergePayload dest)

/-- Into a configuration the order makes no difference just if some payload is no
map or any two agree. -/
theorem roundsIrrelevant_configuration_iff
    {dest : Secret} {entries : Entries String Payload}
    (writable : dest.payload.isConfiguration = true) :
    RoundsIrrelevant dest entries ↔
      (∃ entry ∈ entries, entry.2.isMap = false) ∨
        ∀ first ∈ entries, ∀ second ∈ entries, Agree readEntry first second := by
  by_cases maps : ∀ entry ∈ entries, entry.2.isMap = true
  · have noOther : ¬ ∃ entry ∈ entries, entry.2.isMap = false := by
      intro other
      obtain ⟨entry, listed, kind⟩ := other
      rw [maps entry listed] at kind
      cases kind
    have merges : ∀ order : Entries String Payload, order.Perm entries →
        order.foldlM mergePayload dest = .ok (dest.absorbAll order) := by
      intro order permutes
      apply foldlM_mergePayload writable
      intro entry listed
      exact maps entry (permutes.mem_iff.mp listed)
    rw [or_iff_right noOther, ← lastReading?_order_irrelevant_iff entries
      (configurationAt? dest.configuration)]
    constructor
    · intro irrelevant first second firstPermutes secondPermutes place
      have same := irrelevant first second firstPermutes secondPermutes
      rw [merges first firstPermutes, merges second secondPermutes] at same
      have places := (samePayload_absorbAll_iff
        (firstPermutes.trans secondPermutes.symm)).mp same place
      rw [configurationAt?_absorbAll, configurationAt?_absorbAll] at places
      exact places
    · intro irrelevant first second firstPermutes secondPermutes
      rw [merges first firstPermutes, merges second secondPermutes]
      apply (samePayload_absorbAll_iff (firstPermutes.trans secondPermutes.symm)).mpr
      intro place
      rw [configurationAt?_absorbAll, configurationAt?_absorbAll]
      exact irrelevant first second firstPermutes secondPermutes place
  · have other : ∃ entry ∈ entries, entry.2.isMap = false := by
      push Not at maps
      obtain ⟨entry, listed, kind⟩ := maps
      exact ⟨entry, listed, Bool.eq_false_iff.mpr kind⟩
    have fails : ∀ order : Entries String Payload, order.Perm entries →
        ∃ message, order.foldlM mergePayload dest = .error (.error message) := by
      intro order permutes
      apply foldlM_mergePayload_fails writable
      obtain ⟨entry, listed, kind⟩ := other
      exact ⟨entry, permutes.mem_iff.mpr listed, kind⟩
    constructor
    · intro _
      exact Or.inl other
    · intro _ first second firstPermutes secondPermutes
      obtain ⟨one, oneFails⟩ := fails first firstPermutes
      obtain ⟨another, anotherFails⟩ := fails second secondPermutes
      rw [oneFails, anotherFails]
      trivial

/-- Elsewhere it makes none just if the entries that can come first end the merge
alike. -/
theorem roundsIrrelevant_unwritable_iff
    {dest : Secret} {entries : Entries String Payload}
    (unwritable : dest.payload.isConfiguration = false) :
    RoundsIrrelevant dest entries ↔
      (dest.payload = .json .null →
        (∀ entry ∈ entries, entry.2.isMap = true) ∨
          ∀ entry ∈ entries, entry.2.isMap = false) := by
  constructor
  · intro irrelevant null
    by_contra mixed
    rw [not_or] at mixed
    obtain ⟨someOther, someMap⟩ := mixed
    push Not at someOther someMap
    obtain ⟨other, otherListed, otherKind⟩ := someOther
    obtain ⟨map, mapListed, mapKind⟩ := someMap
    obtain ⟨afterMap, mapFirst⟩ := exists_perm_cons mapListed
    obtain ⟨afterOther, otherFirst⟩ := exists_perm_cons otherListed
    have same := irrelevant _ _ mapFirst otherFirst
    obtain ⟨message, panics⟩ := foldlM_mergePayload_unwritable unwritable map afterMap
    obtain ⟨message', fails⟩ :=
      foldlM_mergePayload_unwritable unwritable other afterOther
    rw [if_pos ⟨null, by simpa using mapKind⟩] at panics
    rw [if_neg (fun both => otherKind both.2)] at fails
    rw [panics, fails] at same
    exact same
  · intro alike first second firstPermutes secondPermutes
    match first, second with
    | [], [] => exact Or.inl rfl
    | [], entry :: rest => simp [firstPermutes.nil_eq.symm] at secondPermutes
    | entry :: rest, [] => simp [secondPermutes.nil_eq.symm] at firstPermutes
    | one :: others, another :: rest =>
        obtain ⟨message, ends⟩ := foldlM_mergePayload_unwritable unwritable one others
        obtain ⟨message', ends'⟩ := foldlM_mergePayload_unwritable unwritable another rest
        have oneListed : one ∈ entries := firstPermutes.mem_iff.mp (by simp)
        have anotherListed : another ∈ entries := secondPermutes.mem_iff.mp (by simp)
        rw [ends, ends']
        by_cases null : dest.payload = .json .null
        · obtain maps | others := alike null
          · rw [maps one oneListed, maps another anotherListed, if_pos ⟨null, rfl⟩,
              if_pos ⟨null, rfl⟩]
            trivial
          · rw [others one oneListed, others another anotherListed, if_neg (by simp),
              if_neg (by simp)]
            trivial
        · rw [if_neg (fun both => null both.1), if_neg (fun both => null both.1)]
          trivial

/-- The order of the data makes no difference for a merge just if its payloads
agree. -/
theorem merge_order_irrelevant_iff (dest src : Secret) :
    OrderIrrelevant dest src ↔ PayloadsAgree dest src := by
  unfold OrderIrrelevant PayloadsAgree
  cases docker : src.type.isDocker with
  | false =>
      have refused : ∀ order : Entries String Payload,
          mergeDockerSecrets (some dest) (some { src with data := order }) =
            .error (.error "source secret is not of Docker config type") := by
        intro order
        exact mergeDockerSecrets_of_not_isDocker docker
      simp only [refused, Bool.false_eq_true, false_imp_iff, iff_true]
      intro first second _ _
      trivial
  | true =>
      have rounds : ∃ start : Secret, start.payload = dest.payload ∧
          ∀ order : Entries String Payload,
            mergeDockerSecrets (some dest) (some { src with data := order }) =
              order.foldlM mergePayload start := by
        refine ⟨{ dest with
          type := if dest.type = .unset then .dockerConfigJson else dest.type }, rfl, ?_⟩
        intro order
        exact mergeDockerSecrets_of_isDocker docker
      obtain ⟨start, samePayload, rounds⟩ := rounds
      simp only [rounds, true_imp_iff]
      rw [← samePayload]
      change RoundsIrrelevant start src.data ↔ _
      cases writable : start.payload.isConfiguration with
      | true =>
          have notNull : start.payload ≠ .json .null := by
            intro null
            rw [null] at writable
            cases writable
          rw [roundsIrrelevant_configuration_iff writable]
          simp [notNull]
      | false =>
          rw [roundsIrrelevant_unwritable_iff writable]
          simp

/-- A source with two payloads that list one registry. -/
def contradictingSource : Secret where
  metadata := { name := "fusion-pullsecret-extra" }
  type := .dockerConfigJson
  data := [(".dockerconfigjson", .json (.object [("auths", .object
      [("quay.io", .object [("auth", .string "bmV3")])])])),
    ("backup.json", .json (.object [("auths", .object
      [("quay.io", .object [("auth", .string "b2xk")])])]))]

/-- Which credential it leaves depends on the order. -/
theorem credential_depends_on_order :
    ¬ OrderIrrelevant freshDestination contradictingSource := by
  intro irrelevant
  have same := irrelevant contradictingSource.data contradictingSource.data.reverse
    (List.Perm.refl _) (List.reverse_perm _)
  obtain equal | ⟨one, other, oneAuths, otherAuths, onePayload, otherPayload, oneListed,
    otherListed, entries, -⟩ := same
  · exact absurd equal (by decide)
  · cases onePayload
    cases otherPayload
    cases oneListed
    cases otherListed
    exact absurd (entries "quay.io") (by decide)

end Installation
