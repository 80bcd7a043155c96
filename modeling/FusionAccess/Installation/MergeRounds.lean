import FusionAccess.Installation.DockerConfig
import FusionAccess.Registry.Readings

/-!
# Rounds of a merge

Each round of the loop over the data of a source secret converts one payload and
merges it into the configuration of the destination. How the round ends depends
on the kinds of the two payloads alone; a destination that holds the JSON null is
decoded into a map that cannot be written to.
-/

namespace Installation

open Kubernetes Registry

/-! ## Kinds of payloads -/

/-- The payload is decoded into a map: an object, or the nil map for null. -/
def Payload.isMap : Payload → Bool
  | .json (.object _) | .json .null => true
  | _ => false

/-- What a secret holds under the key that is merged into. -/
def Secret.payload (secret : Secret) : Payload :=
  (secret.data.get? ".dockerconfigjson").getD .empty

/-- The payload is absent, empty or an object, which can be written to. -/
def Payload.isConfiguration : Payload → Bool
  | .empty | .json (.object _) => true
  | _ => false

/-- What a conversion makes of the fields of a payload. -/
def normalizedFields (fields : Fields) : Fields :=
  if (fields.get? "auths").isSome then fields else [("auths", .object fields)]

/-- The destination after a round. -/
def Secret.absorb (dest : Secret) (payload : Payload) : Secret :=
  { dest with
    data := dest.data.set ".dockerconfigjson" (.json (.object
      ((normalizedFields payload.fields).foldr mergeField dest.configuration))) }

theorem payload_absorb (dest : Secret) (payload : Payload) :
    (dest.absorb payload).payload = .json (.object
      ((normalizedFields payload.fields).foldr mergeField dest.configuration)) := by
  unfold Secret.payload Secret.absorb
  rw [Entries.get?_set, if_pos rfl]
  rfl

theorem configuration_absorb (dest : Secret) (payload : Payload) :
    (dest.absorb payload).configuration =
      (normalizedFields payload.fields).foldr mergeField dest.configuration := by
  have absorbed := payload_absorb dest payload
  unfold Secret.payload at absorbed
  rw [Secret.configuration, absorbed]
  rfl

/-! ## Conversions -/

theorem unmarshal_of_not_isMap
    {payload : Payload} (noMap : payload.isMap = false) :
    ∃ message, payload.unmarshal = .error (.error message) := by
  match payload with
  | .empty | .malformed _ | .json (.bool _) | .json (.number _) | .json (.string _)
  | .json (.array _) => exact ⟨_, rfl⟩

/-- A conversion ends with an object that has at least one field, and is merged
like the normalized fields. -/
theorem convert_of_isMap
    {payload : Payload} (map : payload.isMap = true) :
    ∃ normalized,
      convertDockercfgToDockerconfigjson payload = .ok (.json (.object normalized)) ∧
      normalized ≠ [] ∧
      ∀ destCfg, normalized.foldr mergeField destCfg =
        (normalizedFields payload.fields).foldr mergeField destCfg := by
  match payload with
  | .json .null => exact ⟨[("auths", .null)], rfl, List.cons_ne_nil _ _, fun _ => rfl⟩
  | .json (.object fields) =>
      have converts : convertDockercfgToDockerconfigjson (.json (.object fields)) =
          if (Entries.get? fields "auths").isSome then .ok (.json (.object fields))
          else .ok (.json (.object [("auths", .object fields)])) := rfl
      by_cases present : (Entries.get? fields "auths").isSome
      · refine ⟨fields, ?_, ?_, ?_⟩
        · rw [converts, if_pos present]
        · intro nothing
          rw [nothing] at present
          exact absurd present (by simp)
        · intro destCfg
          rw [Payload.fields, Value.fields, normalizedFields, if_pos present]
      · refine ⟨[("auths", .object fields)], ?_, List.cons_ne_nil _ _, ?_⟩
        · rw [converts, if_neg present]
        · intro destCfg
          rw [Payload.fields, Value.fields, normalizedFields, if_neg present]

theorem convert_of_not_isMap
    {payload : Payload} (noMap : payload.isMap = false) :
    ∃ message, convertDockercfgToDockerconfigjson payload = .error (.error message) := by
  obtain ⟨message, fails⟩ := unmarshal_of_not_isMap noMap
  refine ⟨"invalid dockercfg: " ++ message, ?_⟩
  rw [convertDockercfgToDockerconfigjson, fails]
  rfl

/-! ## One round -/

/-- A payload that is no map ends the merge with an error. -/
theorem mergePayload_of_not_isMap
    {dest : Secret} {entry : String × Payload}
    (noMap : entry.2.isMap = false) :
    ∃ message, mergePayload dest entry = .error (.error message) := by
  obtain ⟨message, fails⟩ := convert_of_not_isMap noMap
  refine ⟨"failed to converto to .dockerconfigjson: " ++ message, ?_⟩
  rw [mergePayload, fails]
  rfl

/-- What a round does with a payload that is a map is up to the destination. -/
theorem mergePayload_of_isMap
    {dest : Secret} {entry : String × Payload}
    (map : entry.2.isMap = true) :
    (dest.payload.isConfiguration = true ∧
        mergePayload dest entry = .ok (dest.absorb entry.2)) ∨
      (dest.payload = .json .null ∧
        ∃ message, mergePayload dest entry = .error (.panic message)) ∨
      (dest.payload.isConfiguration = false ∧ dest.payload ≠ .json .null ∧
        ∃ message, mergePayload dest entry = .error (.error message)) := by
  obtain ⟨normalized, converts, someField, merges⟩ := convert_of_isMap map
  have configuration : dest.configuration = dest.payload.fields := rfl
  have round : mergePayload dest entry = ((mergeDockerConfigJSON dest.payload
      (.json (.object normalized))).mapError
        (Abort.wrap "failed to merge .dockerconfigjson: ") >>= fun mergedJSON =>
      pure { dest with data := dest.data.set ".dockerconfigjson" mergedJSON }) := by
    rw [mergePayload, converts]
    rfl
  rw [round]
  unfold Secret.absorb
  rw [← merges dest.configuration, configuration]
  match dest.payload with
  | .empty | .json (.object _) =>
      left
      exact ⟨rfl, rfl⟩
  | .json .null =>
      right
      left
      refine ⟨rfl, ?_⟩
      obtain ⟨field, others, rfl⟩ := List.exists_cons_of_ne_nil someField
      exact ⟨_, rfl⟩
  | .malformed _ | .json (.bool _) | .json (.number _) | .json (.string _)
  | .json (.array _) =>
      right
      right
      exact ⟨rfl, by simp, _, rfl⟩

/-! ## The whole loop -/

/-- The destination after rounds over all payloads. -/
def Secret.absorbAll (dest : Secret) (entries : Entries String Payload) : Secret :=
  entries.foldl (fun dest entry => dest.absorb entry.2) dest

/-- Into a configuration all payloads are merged when they are maps. -/
theorem foldlM_mergePayload
    {dest : Secret} {entries : Entries String Payload}
    (destination : dest.payload.isConfiguration = true)
    (maps : ∀ entry ∈ entries, entry.2.isMap = true) :
    entries.foldlM mergePayload dest = .ok (dest.absorbAll entries) := by
  induction entries generalizing dest with
  | nil => rfl
  | cons entry rest inductionHypothesis =>
      rw [List.forall_mem_cons] at maps
      have round : mergePayload dest entry = .ok (dest.absorb entry.2) := by
        obtain ⟨-, merges⟩ | ⟨null, -⟩ | ⟨unwritable, -⟩ := mergePayload_of_isMap maps.1
        · exact merges
        · rw [null] at destination
          cases destination
        · rw [destination] at unwritable
          cases unwritable
      have absorbed : (dest.absorb entry.2).payload.isConfiguration = true := by
        rw [payload_absorb]
        rfl
      rw [List.foldlM_cons, round]
      exact inductionHypothesis absorbed maps.2

/-- One payload that is no map ends the merge into a configuration with an
error. -/
theorem foldlM_mergePayload_fails
    {dest : Secret} {entries : Entries String Payload}
    (destination : dest.payload.isConfiguration = true)
    (noMap : ∃ entry ∈ entries, entry.2.isMap = false) :
    ∃ message, entries.foldlM mergePayload dest = .error (.error message) := by
  induction entries generalizing dest with
  | nil =>
      obtain ⟨entry, listed, -⟩ := noMap
      cases listed
  | cons entry rest inductionHypothesis =>
      rw [List.foldlM_cons]
      cases kind : entry.2.isMap with
      | false =>
          obtain ⟨message, fails⟩ := @mergePayload_of_not_isMap dest entry kind
          rw [fails]
          exact ⟨message, rfl⟩
      | true =>
          obtain ⟨-, merges⟩ | ⟨null, -⟩ | ⟨unwritable, -⟩ :=
            @mergePayload_of_isMap dest entry kind
          · have absorbed : (dest.absorb entry.2).payload.isConfiguration = true := by
              rw [payload_absorb]
              rfl
            have later : ∃ entry ∈ rest, entry.2.isMap = false := by
              obtain ⟨other, listed, otherKind⟩ := noMap
              rcases List.mem_cons.mp listed with rfl | listed
              · rw [kind] at otherKind
                cases otherKind
              · exact ⟨other, listed, otherKind⟩
            rw [merges]
            exact inductionHypothesis absorbed later
          · rw [null] at destination
            cases destination
          · rw [destination] at unwritable
            cases unwritable

/-! ## Panics -/

/-- A merge ends with a secret or with an error. -/
def Returns (outcome : Except Abort Secret) : Prop :=
  (∃ merged, outcome = .ok merged) ∨ ∃ message, outcome = .error (.error message)

/-- The types of the secrets that are merged. -/
def SecretType.isDocker (type : SecretType) : Bool :=
  type = .dockerConfigJson || type = .dockercfg

/-- The destination holds null, and the payload that is visited first is a
map. -/
def WritesIntoNull (dest src : Secret) : Prop :=
  src.type.isDocker = true ∧ dest.payload = .json .null ∧
    ∃ entry, src.data.head? = some entry ∧ entry.2.isMap = true

theorem not_returns_panic (message : String) : ¬ Returns (.error (.panic message)) := by
  rintro (⟨merged, ends⟩ | ⟨other, ends⟩)
  · cases ends
  · cases ends

theorem mergeDockerSecrets_of_isDocker
    {dest src : Secret} (docker : src.type.isDocker = true) :
    mergeDockerSecrets (some dest) (some src) =
      src.data.foldlM mergePayload { dest with
        type := if dest.type = .unset then .dockerConfigJson else dest.type } := by
  unfold SecretType.isDocker at docker
  rw [Bool.or_eq_true, decide_eq_true_eq, decide_eq_true_eq] at docker
  have listed : ¬ (src.type ≠ .dockerConfigJson ∧ src.type ≠ .dockercfg) := by
    rw [not_and_or, not_not, not_not]
    exact docker
  rw [mergeDockerSecrets, if_neg listed]

theorem mergeDockerSecrets_of_not_isDocker
    {dest src : Secret} (other : src.type.isDocker = false) :
    mergeDockerSecrets (some dest) (some src) =
      .error (.error "source secret is not of Docker config type") := by
  unfold SecretType.isDocker at other
  rw [Bool.or_eq_false_iff, decide_eq_false_iff_not, decide_eq_false_iff_not] at other
  rw [mergeDockerSecrets, if_pos other]

/-- The loop panics in its first round or not at all. -/
theorem returns_foldlM_mergePayload_iff
    {dest : Secret} {entries : Entries String Payload} :
    Returns (entries.foldlM mergePayload dest) ↔
      ¬ (dest.payload = .json .null ∧
        ∃ entry, entries.head? = some entry ∧ entry.2.isMap = true) := by
  cases entries with
  | nil =>
      constructor
      · rintro - ⟨-, entry, listed, -⟩
        cases listed
      · intro _
        exact Or.inl ⟨dest, rfl⟩
  | cons entry rest =>
      rw [List.foldlM_cons, List.head?_cons]
      cases kind : entry.2.isMap with
      | false =>
          obtain ⟨message, fails⟩ := @mergePayload_of_not_isMap dest entry kind
          rw [fails]
          constructor
          · rintro - ⟨-, other, same, otherKind⟩
            cases same
            rw [kind] at otherKind
            cases otherKind
          · intro _
            exact Or.inr ⟨message, rfl⟩
      | true =>
          obtain ⟨writable, merges⟩ | ⟨null, message, panics⟩ |
            ⟨-, notNull, message, fails⟩ := @mergePayload_of_isMap dest entry kind
          · rw [merges]
            constructor
            · rintro - ⟨null, -⟩
              rw [null] at writable
              cases writable
            · intro _
              have absorbed : (dest.absorb entry.2).payload.isConfiguration = true := by
                rw [payload_absorb]
                rfl
              by_cases maps : ∀ entry ∈ rest, entry.2.isMap = true
              · exact Or.inl ⟨_, foldlM_mergePayload absorbed maps⟩
              · push Not at maps
                obtain ⟨other, listed, otherKind⟩ := maps
                exact Or.inr (foldlM_mergePayload_fails absorbed
                  ⟨other, listed, Bool.eq_false_iff.mpr otherKind⟩)
          · rw [panics]
            constructor
            · intro returns
              exact absurd returns (not_returns_panic message)
            · intro fine
              exact absurd ⟨null, entry, rfl, kind⟩ fine
          · rw [fails]
            constructor
            · rintro - ⟨null, -⟩
              exact notNull null
            · intro _
              exact Or.inr ⟨message, rfl⟩

/-- A merge returns unless the first payload of the source is to be written into
null. -/
theorem merging_returns_iff (dest src : Option Secret) :
    Returns (mergeDockerSecrets dest src) ↔
      ∀ destination ∈ dest, ∀ source ∈ src, ¬ WritesIntoNull destination source := by
  match dest, src with
  | none, src =>
      constructor
      · intro _ destination given
        cases given
      · intro _
        exact Or.inr ⟨_, rfl⟩
  | some dest, none =>
      constructor
      · intro _ destination _ source given
        cases given
      · intro _
        exact Or.inr ⟨_, rfl⟩
  | some dest, some src =>
      simp only [Option.mem_def, Option.some.injEq, forall_eq']
      cases docker : src.type.isDocker with
      | false =>
          rw [mergeDockerSecrets_of_not_isDocker docker]
          constructor
          · rintro - ⟨docker', -⟩
            rw [docker] at docker'
            cases docker'
          · intro _
            exact Or.inr ⟨_, rfl⟩
      | true =>
          rw [mergeDockerSecrets_of_isDocker docker, returns_foldlM_mergePayload_iff]
          unfold WritesIntoNull
          rw [docker]
          simp only [true_and]
          rfl

/-- A destination that holds null. -/
def nullDestination : Secret where
  metadata := { name := "kmm-registry-push-pull-secret" }
  type := .dockerConfigJson
  data := [(".dockerconfigjson", .json .null)]

/-- A source with one registry. -/
def registrySource : Secret where
  metadata := { name := "ibm-entitlement-key" }
  type := .dockerConfigJson
  data := [(".dockerconfigjson", .json (.object [("auths", .object
    [("quay.io", .object [("auth", .string "dXNlcjpwYXNz")])])]))]

/-- Merging them panics. -/
theorem merging_into_null_panics :
    ¬ Returns (mergeDockerSecrets (some nullDestination) (some registrySource)) := by
  have panics : mergeDockerSecrets (some nullDestination) (some registrySource) =
      .error (.panic "assignment to entry in nil map") := by
    rfl
  rw [panics]
  exact not_returns_panic _

end Installation
