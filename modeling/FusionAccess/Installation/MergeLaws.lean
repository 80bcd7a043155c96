import FusionAccess.Installation.MergeRounds

/-!
# What a merge makes of one payload

The format of a payload is told by a key, whatever type its secret has. The
configuration after a merge is compared with what the declared type of the source
promises for its credentials and for all other fields.
-/

namespace Installation

open Kubernetes Registry

/-! ## Readings of a payload -/

/-- The places of a configuration: its fields, and the entries of registries
under `auths`. -/
inductive Place
  | topLevel (key : String)
  | registry (name : String)
  deriving DecidableEq

/-- What a configuration holds at a place; `auths` is read by registry. -/
def configurationAt? (cfg : Fields) : Place → Option Value
  | .topLevel key => if key = "auths" then none else cfg.get? key
  | .registry name => (auths cfg).get? name

/-- The entry of a registry in fields that are listed under `auths`. -/
def listedUnderAuths? (fields : Fields) (registry : String) : Option Value :=
  fields.findSome? fun entry =>
    if entry.1 = "auths" then Entries.get? entry.2.fields registry else none

/-- What a payload is taken to hold at a place: it is a configuration when it has
a field `auths`, and a list of registries otherwise. -/
def Payload.reading? (payload : Payload) : Place → Option Value
  | .topLevel key =>
      if key ≠ "auths" ∧ (payload.fields.get? "auths").isSome then
        payload.fields.get? key
      else none
  | .registry name =>
      if (payload.fields.get? "auths").isSome then
        listedUnderAuths? payload.fields name
      else payload.fields.get? name

theorem configurationAt?_mergeFields
    (srcCfg destCfg : Fields) (place : Place) :
    configurationAt? (srcCfg.foldr mergeField destCfg) place =
      (match place with
        | .topLevel key => if key = "auths" then none else srcCfg.get? key
        | .registry name => listedUnderAuths? srcCfg name).or
          (configurationAt? destCfg place) := by
  induction srcCfg with
  | nil =>
      cases place with
      | topLevel key => simp [configurationAt?]
      | registry name => simp [configurationAt?, listedUnderAuths?]
  | cons entry rest inductionHypothesis =>
      rw [List.foldr_cons]
      cases place with
      | topLevel key =>
          simp only [configurationAt?] at inductionHypothesis ⊢
          by_cases auths : key = "auths"
          · simp [auths]
          rw [if_neg auths, if_neg auths, if_neg auths] at *
          rw [Entries.get?_cons, mergeField]
          by_cases named : entry.1 = "auths"
          · have other : entry.1 ≠ key := fun same => auths (same ▸ named)
            rw [if_pos named, Entries.get?_set, if_neg (Ne.symm auths), if_neg other]
            exact inductionHypothesis
          · rw [if_neg named, Entries.get?_set]
            by_cases same : entry.1 = key
            · rw [if_pos same, if_pos same]
              rfl
            · rw [if_neg same, if_neg same]
              exact inductionHypothesis
      | registry name =>
          simp only [configurationAt?, listedUnderAuths?] at inductionHypothesis ⊢
          rw [auths_mergeField, List.findSome?_cons]
          by_cases named : entry.1 = "auths"
          · rw [if_pos named, if_pos named, Entries.get?_overwrite, inductionHypothesis]
            cases Entries.get? entry.2.fields name <;> rfl
          · rw [if_neg named, if_neg named]
            exact inductionHypothesis

/-- After a round each place holds what the payload is taken to hold there, or
else what it held before. -/
theorem configurationAt?_absorb
    (dest : Secret) (payload : Payload) (place : Place) :
    configurationAt? (dest.absorb payload).configuration place =
      (payload.reading? place).or (configurationAt? dest.configuration place) := by
  rw [configuration_absorb, configurationAt?_mergeFields]
  unfold normalizedFields Payload.reading?
  cases place with
  | topLevel key =>
      by_cases auths : key = "auths"
      · simp [auths]
      · by_cases present : (payload.fields.get? "auths").isSome
        · simp [auths, present]
        · have other : "auths" ≠ key := Ne.symm auths
          simp [auths, present, Entries.get?_cons, other]
  | registry name =>
      by_cases present : (payload.fields.get? "auths").isSome
      · simp [present]
      · simp [present, listedUnderAuths?, Value.fields]

/-- A round leaves an object under `auths`. -/
theorem get?_auths_mergeFields_isObject
    {srcCfg : Fields} (present : (srcCfg.get? "auths").isSome) (destCfg : Fields) :
    ∃ entries, (srcCfg.foldr mergeField destCfg).get? "auths" = some (.object entries) := by
  induction srcCfg with
  | nil => cases present
  | cons entry rest inductionHypothesis =>
      rw [List.foldr_cons, mergeField]
      by_cases named : entry.1 = "auths"
      · rw [if_pos named, Entries.get?_set, if_pos rfl]
        exact ⟨_, rfl⟩
      · rw [if_neg named, Entries.get?_set, if_neg named]
        rw [Entries.get?_cons, if_neg named] at present
        exact inductionHypothesis present

theorem isSome_auths_normalizedFields (fields : Fields) :
    ((normalizedFields fields).get? "auths").isSome := by
  unfold normalizedFields
  split
  next present => exact present
  next => rfl

theorem get?_auths_absorb (dest : Secret) (payload : Payload) :
    ∃ entries, (dest.absorb payload).configuration.get? "auths" =
      some (.object entries) := by
  rw [configuration_absorb]
  exact get?_auths_mergeFields_isObject (isSome_auths_normalizedFields _) _

/-! ## The law -/

/-- What is under `auths` is an object. -/
def AuthsIsObject (cfg : Fields) : Prop :=
  ∀ value, cfg.get? "auths" = some value → ∃ entries, value = .object entries

/-- The destination holds nothing yet or a configuration. -/
def IsStandardDestination (dest : Secret) : Prop :=
  dest.payload = .empty ∨
    ∃ cfg, dest.payload = .json (.object cfg) ∧ AuthsIsObject cfg

/-- The one key of the source is that of its type, and its payload is an object;
an object has each of its keys once. -/
structure IsStandardSource (src : Secret) (fields : Fields) : Prop where
  data : ∃ key, src.type.dataKey = some key ∧
    src.data = [(key, .json (.object fields))]
  distinct : (fields.map Prod.fst).Nodup
  auths : src.type = .dockerConfigJson → AuthsIsObject fields

/-- The field of a payload of the given type beside `auths`. -/
def SecretType.topLevel? (type : SecretType) (payload : Payload) (key : String) :
    Option Value :=
  match type with
  | .dockerConfigJson => payload.fields.get? key
  | _ => none

/-- The result holds what the source lists according to its type, and what the
destination held otherwise. -/
structure FollowsMergeLaw (dest src merged : Secret) (payload : Payload) : Prop where
  auths : ∃ (cfg : Fields) (entries : Fields), merged.payload = .json (.object cfg) ∧
    cfg.get? "auths" = some (.object entries)
  credentials : ∀ registry, merged.credential? registry =
    (src.type.credential? payload registry).or (dest.credential? registry)
  others : ∀ key, key ≠ "auths" → merged.configuration.get? key =
    (src.type.topLevel? payload key).or (dest.configuration.get? key)

/-- The destination already holds what the two formats of a payload differ in. -/
def HoldsDifference (dest : Secret) (type : SecretType) (fields : Fields) : Prop :=
  match type with
  | .dockerConfigJson =>
      ∀ key value, fields.get? key = some value →
        dest.configuration.get? key = some value ∧ dest.credential? key = some value
  | .dockercfg =>
      (∀ key value, key ≠ "auths" → fields.get? key = some value →
        dest.configuration.get? key = some value) ∧
      ∀ registry, ((Installation.auths fields).get? registry).or
          (dest.credential? registry) =
        (fields.get? registry).or (dest.credential? registry)
  | _ => True

/-- With distinct keys there is one list of registries. -/
theorem listedUnderAuths?_eq
    {fields : Fields} (distinct : (fields.map Prod.fst).Nodup) (registry : String) :
    listedUnderAuths? fields registry = (auths fields).get? registry := by
  unfold listedUnderAuths? auths
  induction fields with
  | nil => rfl
  | cons entry rest inductionHypothesis =>
      rw [List.map_cons, List.nodup_cons] at distinct
      rw [List.findSome?_cons, Entries.get?_cons]
      by_cases named : entry.1 = "auths"
      · have others : rest.findSome? (fun entry : String × Value =>
            if entry.1 = "auths" then Entries.get? entry.2.fields registry else none) =
              none := by
          rw [List.findSome?_eq_none_iff]
          intro other listed
          have different : other.1 ≠ "auths" := by
            intro same
            rw [named, ← same] at distinct
            exact distinct.1 (List.mem_map_of_mem listed)
          rw [if_neg different]
        rw [if_pos named, if_pos named, others]
        change _ = Entries.get? entry.2.fields registry
        cases Entries.get? entry.2.fields registry <;> rfl
      · rw [if_neg named, if_neg named]
        exact inductionHypothesis distinct.2

/-- A value is covered by a default just if it is the default where it is
given. -/
theorem or_eq_right_iff {α : Type} {value default : Option α} :
    value.or default = default ↔ ∀ given, value = some given → default = some given := by
  cases value with
  | none => simp
  | some given =>
      rw [Option.some_or]
      constructor
      · intro same other equal
        rw [← equal, same]
      · intro covered
        exact (covered given rfl).symm

/-- The merge of a standard source is one round. -/
theorem mergeDockerSecrets_of_standard
    {dest src : Secret} {fields : Fields}
    (destination : IsStandardDestination dest)
    (source : IsStandardSource src fields) :
    ∃ start : Secret, start.configuration = dest.configuration ∧
      mergeDockerSecrets (some dest) (some src) =
        .ok (start.absorb (.json (.object fields))) := by
  obtain ⟨key, typed, data⟩ := source.data
  have docker : src.type.isDocker = true := by
    cases type : src.type with
    | dockerConfigJson | dockercfg => rfl
    | unset | other => simp [type, SecretType.dataKey] at typed
  have writable : dest.payload.isConfiguration = true := by
    obtain empty | ⟨cfg, object, -⟩ := destination
    · rw [empty]
      rfl
    · rw [object]
      rfl
  refine ⟨{ dest with
    type := if dest.type = .unset then .dockerConfigJson else dest.type }, rfl, ?_⟩
  rw [mergeDockerSecrets_of_isDocker docker, data]
  exact foldlM_mergePayload writable (by simp [Payload.isMap])

/-- The law holds of a merge just if at every place the payload is taken to hold
what its type says, or the destination makes up for it. -/
theorem merge_follows_law_iff_readings
    {dest src : Secret} {fields : Fields}
    (destination : IsStandardDestination dest)
    (source : IsStandardSource src fields) :
    (∃ merged, mergeDockerSecrets (some dest) (some src) = .ok merged ∧
      FollowsMergeLaw dest src merged (.json (.object fields))) ↔
      (∀ registry,
        ((Payload.json (.object fields)).reading? (.registry registry)).or
            (dest.credential? registry) =
          (src.type.credential? (.json (.object fields)) registry).or
            (dest.credential? registry)) ∧
      ∀ key, key ≠ "auths" →
        ((Payload.json (.object fields)).reading? (.topLevel key)).or
            (dest.configuration.get? key) =
          (src.type.topLevel? (.json (.object fields)) key).or
            (dest.configuration.get? key) := by
  obtain ⟨start, same, merges⟩ := mergeDockerSecrets_of_standard destination source
  have credential : ∀ registry,
      (start.absorb (.json (.object fields))).credential? registry =
        ((Payload.json (.object fields)).reading? (.registry registry)).or
          (dest.credential? registry) := by
    intro registry
    have merged := configurationAt?_absorb start (.json (.object fields))
      (.registry registry)
    rw [same] at merged
    exact merged
  have other : ∀ key, key ≠ "auths" →
      (start.absorb (.json (.object fields))).configuration.get? key =
        ((Payload.json (.object fields)).reading? (.topLevel key)).or
          (dest.configuration.get? key) := by
    intro key beside
    have merged := configurationAt?_absorb start (.json (.object fields)) (.topLevel key)
    rw [same, configurationAt?, configurationAt?, if_neg beside, if_neg beside] at merged
    exact merged
  constructor
  · intro follows
    obtain ⟨merged, ends, law⟩ := follows
    rw [merges] at ends
    cases ends
    constructor
    · intro registry
      rw [← credential, law.credentials]
    · intro key beside
      rw [← other key beside, law.others key beside]
  · intro readings
    refine ⟨_, merges, ?_, ?_, ?_⟩
    · obtain ⟨entries, object⟩ := get?_auths_absorb start (.json (.object fields))
      refine ⟨_, entries, payload_absorb start _, ?_⟩
      rw [← configuration_absorb]
      exact object
    · intro registry
      rw [credential, readings.1]
    · intro key beside
      rw [other key beside, readings.2 key beside]

/-- A merge of a standard source follows the law just if its type is what the
format is taken for, or the destination already holds what the formats differ
in. -/
theorem merge_follows_law_iff
    {dest src : Secret} {fields : Fields}
    (destination : IsStandardDestination dest)
    (source : IsStandardSource src fields) :
    (∃ merged, mergeDockerSecrets (some dest) (some src) = .ok merged ∧
      FollowsMergeLaw dest src merged (.json (.object fields))) ↔
      (src.type = .dockerConfigJson ↔ (fields.get? "auths").isSome) ∨
        HoldsDifference dest src.type fields := by
  rw [merge_follows_law_iff_readings destination source]
  obtain ⟨key, typed, -⟩ := source.data
  have under := listedUnderAuths?_eq source.distinct
  have payloadFields : (Payload.json (.object fields)).fields = fields := rfl
  unfold Payload.reading? SecretType.credential? SecretType.topLevel? HoldsDifference
  simp only [payloadFields, under]
  cases type : src.type with
  | unset | other => simp [type, SecretType.dataKey] at typed
  | dockerConfigJson =>
      by_cases present : (fields.get? "auths").isSome
      · simp +contextual [present]
      · have nothing : fields.get? "auths" = none := by simpa using present
        have unlisted : auths fields = [] := by
          rw [auths, nothing]
          rfl
        simp only [present, unlisted, Entries.get?_nil, Option.none_or, and_false,
          Bool.false_eq_true, if_false, true_iff, false_or]
        constructor
        · rintro ⟨registries, others⟩ key value given
          have beside : key ≠ "auths" := by
            intro same
            rw [same, nothing] at given
            cases given
          exact ⟨or_eq_right_iff.mp (others key beside).symm value given,
            or_eq_right_iff.mp (registries key) value given⟩
        · intro held
          constructor
          · intro registry
            exact or_eq_right_iff.mpr fun value given => (held registry value given).2
          · intro key _
            exact (or_eq_right_iff.mpr fun value given => (held key value given).1).symm
  | dockercfg =>
      by_cases present : (fields.get? "auths").isSome
      · simp only [present, and_true, if_true, Option.none_or]
        constructor
        · rintro ⟨registries, others⟩
          right
          refine ⟨?_, registries⟩
          intro key value beside given
          have same := others key beside
          rw [if_pos beside] at same
          exact or_eq_right_iff.mp same value given
        · rintro (told | ⟨others, registries⟩)
          · cases told.mpr trivial
          · refine ⟨registries, ?_⟩
            intro key beside
            rw [if_pos beside]
            exact or_eq_right_iff.mpr fun value given => others key value beside given
      · simp [present]

/-- A destination without data. -/
def freshDestination : Secret where
  metadata := { name := "kmm-registry-push-pull-secret" }

/-- A configuration with one registry. -/
def oneRegistry : Fields :=
  [("auths", .object [("quay.io", .object [("auth", .string "dXNlcjpwYXNz")])])]

/-- It is merged into an empty destination by the law. -/
theorem one_registry_follows_law :
    ∃ merged, mergeDockerSecrets (some freshDestination) (some registrySource) =
        .ok merged ∧
      FollowsMergeLaw freshDestination registrySource merged
        (.json (.object oneRegistry)) := by
  have source : IsStandardSource registrySource oneRegistry := by
    refine ⟨⟨".dockerconfigjson", rfl, rfl⟩, by decide, ?_⟩
    intro _ value given
    cases given
    exact ⟨_, rfl⟩
  apply (merge_follows_law_iff (Or.inl rfl) source).mpr
  left
  decide

/-- A configuration that names a credential helper alone. -/
def onlyHelpers : Fields :=
  [("credHelpers", .object [("quay.io", .string "ecr-login")])]

/-- A source with this configuration. -/
def helperSource : Secret where
  metadata := { name := "fusion-pullsecret-extra" }
  type := .dockerConfigJson
  data := [(".dockerconfigjson", .json (.object onlyHelpers))]

/-- The helper is lost, and `credHelpers` is listed as a registry. -/
theorem cred_helpers_taken_for_registry :
    IsStandardDestination freshDestination ∧ IsStandardSource helperSource onlyHelpers ∧
      ¬ ∃ merged, mergeDockerSecrets (some freshDestination) (some helperSource) =
          .ok merged ∧
        FollowsMergeLaw freshDestination helperSource merged
          (.json (.object onlyHelpers)) := by
  refine ⟨Or.inl rfl, ⟨⟨".dockerconfigjson", rfl, rfl⟩, by decide, ?_⟩, ?_⟩
  · intro _ value given
    cases given
  · intro follows
    obtain ⟨merged, ends, law⟩ := follows
    cases ends
    have kept := law.others "credHelpers" (by decide)
    exact absurd kept (by decide)

end Installation
