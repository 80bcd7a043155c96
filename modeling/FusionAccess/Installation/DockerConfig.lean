import FusionAccess.Interaction.Results
import FusionAccess.Kubernetes.Cluster
import FusionAccess.Registry.Entries

/-!
# Docker configurations

Credentials for image registries come as a secret of one of two types. The
payload of a dockerconfigjson secret keeps them under `auths`; that of a
dockercfg secret consists of nothing else. The operator merges secrets of
either type into one of the first type.
-/

namespace Installation

open Kubernetes Registry Results

/-! ## Payloads -/

/-- The bytes of a payload, by what `json.Unmarshal` makes of them. -/
inductive Payload
  | empty
  | malformed (message : String)
  | json (value : Value)
  deriving DecidableEq

/-- How a function ends without a result. -/
inductive Abort
  | error (message : String)
  | panic (message : String)
  deriving DecidableEq

/-- `fmt.Errorf` with a wrapped error at the end of the text. -/
def Abort.wrap (message : String) : Abort → Abort
  | .error inner => .error (message ++ inner)
  | .panic inner => .panic inner

/-- A decoded JSON object. -/
abbrev Fields : Type := Entries String Value

/-- The kind of a value in the messages of `json.Unmarshal`. -/
def jsonKind : Value → String
  | .null => "null"
  | .bool _ => "bool"
  | .number _ => "number"
  | .string _ => "string"
  | .array _ => "array"
  | .object _ => "object"

/-- `json.Unmarshal` into a map; null leaves the map nil. The numbers of a value are whole;
fractions, and the rounding of numbers to `float64`, are left to how bytes are read as a
`Payload`. -/
def Payload.unmarshal : Payload → Except Abort (Option Fields)
  | .empty => .error (.error "unexpected end of JSON input")
  | .malformed message => .error (.error message)
  | .json (.object fields) => .ok (some fields)
  | .json .null => .ok none
  | .json value => .error (.error (s!"json: cannot unmarshal {jsonKind value} into " ++
      "Go value of type map[string]interface \x7b\x7d"))

/-- The same for bytes that may be missing. -/
def Payload.decode (message : String) (raw : Payload) : Except Abort (Option Fields) :=
  if raw = .empty then .ok (some [])
  else raw.unmarshal.mapError (Abort.wrap message)

/-- A map as a value. -/
def valueOf : Option Fields → Value
  | some fields => .object fields
  | none => .null

/-- The credentials of a configuration. -/
def auths (cfg : Fields) : Fields := ((cfg.get? "auths").map Value.fields).getD []

/-- One round of the loop of `mergeDockerConfigJSON`. -/
def mergeField (entry : String × Value) (destCfg : Fields) : Fields :=
  if entry.1 = "auths" then
    destCfg.set "auths" (.object ((auths destCfg).overwrite entry.2.fields))
  else destCfg.set entry.1 entry.2

/-- `mergeDockerConfigJSON`. -/
def mergeDockerConfigJSON (destRaw srcRaw : Payload) : Except Abort Payload := do
  let destCfg ← destRaw.decode "invalid dest .dockerconfigjson: "
  let srcCfg ← srcRaw.decode "invalid src .dockerconfigjson: "
  match destCfg, srcCfg.getD [] with
  | none, [] => return .json (valueOf none)
  | none, _ :: _ => throw (.panic "assignment to entry in nil map")
  | some destCfg, srcCfg => return .json (valueOf (some (srcCfg.foldr mergeField destCfg)))

/-- `convertDockercfgToDockerconfigjson`. -/
def convertDockercfgToDockerconfigjson (dockercfg : Payload) : Except Abort Payload := do
  let cfg ← dockercfg.unmarshal.mapError (Abort.wrap "invalid dockercfg: ")
  -- the type of the secret is not known here; the format is told by the key
  if ((cfg.getD []).get? "auths").isSome then return dockercfg
  else return .json (.object [("auths", valueOf cfg)])

/-! ## Secrets -/

/-- `SecretType`. -/
inductive SecretType
  | unset
  | dockerConfigJson
  | dockercfg
  | other (name : String)
  deriving DecidableEq

/-- `Secret`. The entries of the data stand in the order in which a loop visits
them. -/
structure Secret where
  metadata : ObjectMeta
  type : SecretType := .unset
  data : Entries String Payload := []
  deriving DecidableEq

/-- One round of the loop of `MergeDockerSecrets`. -/
def mergePayload (dest : Secret) (entry : String × Payload) : Except Abort Secret := do
  let normalizedSrc ← (convertDockercfgToDockerconfigjson entry.2).mapError
    (Abort.wrap "failed to converto to .dockerconfigjson: ")
  let mergedJSON ← (mergeDockerConfigJSON
    ((dest.data.get? ".dockerconfigjson").getD .empty) normalizedSrc).mapError
    (Abort.wrap "failed to merge .dockerconfigjson: ")
  return { dest with data := dest.data.set ".dockerconfigjson" mergedJSON }

/-- `MergeDockerSecrets`. -/
def mergeDockerSecrets : (dest src : Option Secret) → Except Abort Secret
  | some dest, some src =>
      if src.type ≠ .dockerConfigJson ∧ src.type ≠ .dockercfg then
        .error (.error "source secret is not of Docker config type")
      else
        src.data.foldlM mergePayload { dest with
          type := if dest.type = .unset then .dockerConfigJson else dest.type }
  | _, _ => .error (.error "cannot merge nil secrets")

/-! ## Credentials -/

/-- The fields of a payload; none when it is no object. -/
def Payload.fields : Payload → Fields
  | .json value => value.fields
  | _ => []

/-- The configuration that secrets are merged into. -/
def Secret.configuration (secret : Secret) : Fields :=
  ((secret.data.get? ".dockerconfigjson").getD .empty).fields

/-- The entry of a registry in this configuration. -/
def Secret.credential? (secret : Secret) (registry : String) : Option Value :=
  (auths secret.configuration).get? registry

/-- The entry of a registry in a payload of the given type. -/
def SecretType.credential? (type : SecretType) (payload : Payload) (registry : String) :
    Option Value :=
  match type with
  | .dockerConfigJson => (auths payload.fields).get? registry
  | .dockercfg => payload.fields.get? registry
  | _ => none

/-- The key of the data of a secret of the given type. -/
def SecretType.dataKey : SecretType → Option String
  | .dockerConfigJson => some ".dockerconfigjson"
  | .dockercfg => some ".dockercfg"
  | _ => none

/-! ## What merging does -/

theorem auths_set (cfg : Fields) (key : String) (value : Value) :
    auths (cfg.set key value) = if key = "auths" then value.fields else auths cfg := by
  unfold auths
  rw [Entries.get?_set]
  split <;> rfl

theorem auths_mergeField (entry : String × Value) (destCfg : Fields) :
    auths (mergeField entry destCfg) =
      if entry.1 = "auths" then (auths destCfg).overwrite entry.2.fields
      else auths destCfg := by
  unfold mergeField
  split
  · rw [auths_set, if_pos rfl]
    rfl
  next other => rw [auths_set, if_neg other]

/-- No registry loses its entry. -/
theorem isSome_auths_mergeFields
    {destCfg : Fields} {registry : String}
    (listed : ((auths destCfg).get? registry).isSome)
    (srcCfg : Fields) :
    ((auths (srcCfg.foldr mergeField destCfg)).get? registry).isSome := by
  induction srcCfg with
  | nil => exact listed
  | cons entry rest inductionHypothesis =>
      rw [List.foldr_cons, auths_mergeField]
      split
      · rw [Entries.get?_overwrite, Option.isSome_or, inductionHypothesis, Bool.or_true]
      · exact inductionHypothesis

/-- The merged entries win. -/
theorem get?_auths_mergeFields
    {srcCfg : Fields} {registry : String} {credential : Value}
    (listed : (auths srcCfg).get? registry = some credential)
    (destCfg : Fields) :
    (auths (srcCfg.foldr mergeField destCfg)).get? registry = some credential := by
  induction srcCfg with
  | nil => cases listed
  | cons entry rest inductionHypothesis =>
      rw [auths, Entries.get?_cons] at listed
      rw [List.foldr_cons, auths_mergeField]
      split
      next named =>
        rw [if_pos named] at listed
        rw [Entries.get?_overwrite, show Entries.get? entry.2.fields registry = _ from listed]
        rfl
      next other =>
        rw [if_neg other] at listed
        exact inductionHypothesis listed

/-! ### Payloads and secrets -/

/-- The map that a payload is decoded into has its fields. -/
theorem fields_of_unmarshal
    {payload : Payload} {cfg : Option Fields}
    (decoded : payload.unmarshal = .ok cfg) :
    payload.fields = cfg.getD [] := by
  match payload with
  | .json (.object fields) | .json .null =>
      cases decoded
      rfl

theorem fields_of_decode
    {payload : Payload} {cfg : Option Fields} {message : String}
    (decoded : payload.decode message = .ok cfg) :
    payload.fields = cfg.getD [] := by
  unfold Payload.decode at decoded
  split at decoded
  next nothing =>
    subst nothing
    cases decoded
    rfl
  · exact fields_of_unmarshal (eq_ok_of_mapError decoded)

/-- The fields of a merge. -/
theorem fields_mergeDockerConfigJSON
    {destRaw srcRaw merged : Payload}
    (merges : mergeDockerConfigJSON destRaw srcRaw = .ok merged) :
    merged.fields = srcRaw.fields.foldr mergeField destRaw.fields := by
  obtain ⟨destCfg, destination, merges⟩ := bind_eq_ok.mp merges
  obtain ⟨srcCfg, source, merges⟩ := bind_eq_ok.mp merges
  rw [fields_of_decode destination, fields_of_decode source]
  cases destCfg with
  | some destCfg =>
      cases merges
      rfl
  | none =>
      cases listed : srcCfg.getD [] with
      | nil =>
          rw [listed] at merges
          cases merges
          rfl
      | cons _ _ =>
          rw [listed] at merges
          cases merges

/-- A conversion keeps a payload with the key, and puts the fields of any other
under the key. -/
theorem fields_convertDockercfgToDockerconfigjson
    {dockercfg converted : Payload}
    (converts : convertDockercfgToDockerconfigjson dockercfg = .ok converted) :
    auths converted.fields =
      if (dockercfg.fields.get? "auths").isSome then auths dockercfg.fields
      else dockercfg.fields := by
  obtain ⟨cfg, decoded, converts⟩ := bind_eq_ok.mp converts
  have fields := fields_of_unmarshal (eq_ok_of_mapError decoded)
  rw [fields]
  split at converts
  next present =>
    cases converts
    rw [if_pos present, fields]
  next absent =>
    cases converts
    rw [if_neg absent]
    cases cfg <;> rfl

theorem configuration_of_mergePayload
    {dest merged : Secret} {entry : String × Payload}
    (merges : mergePayload dest entry = .ok merged) :
    ∃ normalized, convertDockercfgToDockerconfigjson entry.2 = .ok normalized ∧
      merged.configuration = normalized.fields.foldr mergeField dest.configuration ∧
      merged.metadata = dest.metadata := by
  obtain ⟨normalized, converted, merges⟩ := bind_eq_ok.mp merges
  obtain ⟨mergedJSON, joined, merges⟩ := bind_eq_ok.mp merges
  refine ⟨normalized, eq_ok_of_mapError converted, ?_, ?_⟩
  all_goals cases merges
  · rw [Secret.configuration, Entries.get?_set, if_pos rfl]
    exact fields_mergeDockerConfigJSON (eq_ok_of_mapError joined)
  · rfl

/-- What holds of the destination and is kept by every round holds of the result
of a merge. -/
theorem mergeDockerSecrets_preserves
    {dest src merged : Secret} {holds : Secret → Prop}
    (merges : mergeDockerSecrets (some dest) (some src) = .ok merged)
    (initially : ∀ type, holds { dest with type })
    (kept : ∀ entry before after, holds before →
      mergePayload before entry = .ok after → holds after) :
    holds merged := by
  simp only [mergeDockerSecrets] at merges
  split at merges
  · cases merges
  · exact foldlM_preserves merges (initially _) fun entry _ => kept entry

/-- A merge keeps every registry of the destination. -/
theorem isSome_credential?_mergeDockerSecrets
    {dest src merged : Secret} {registry : String}
    (merges : mergeDockerSecrets (some dest) (some src) = .ok merged)
    (listed : (dest.credential? registry).isSome) :
    (merged.credential? registry).isSome := by
  refine @mergeDockerSecrets_preserves dest src merged
    (fun secret => (secret.credential? registry).isSome) merges (fun _ => listed) ?_
  intro entry before after kept round
  obtain ⟨normalized, -, configuration, -⟩ := configuration_of_mergePayload round
  rw [Secret.credential?, configuration]
  exact isSome_auths_mergeFields kept _

theorem metadata_mergeDockerSecrets
    {dest src merged : Secret}
    (merges : mergeDockerSecrets (some dest) (some src) = .ok merged) :
    merged.metadata = dest.metadata := by
  refine @mergeDockerSecrets_preserves dest src merged
    (fun secret => secret.metadata = dest.metadata) merges (fun _ => rfl) ?_
  intro entry before after kept round
  obtain ⟨normalized, -, -, metadata⟩ := configuration_of_mergePayload round
  rw [metadata, kept]

/-- The credentials of a source with its one key are merged, unless it is a
dockercfg secret that lists a registry called `auths`. -/
theorem credential?_mergeDockerSecrets
    {dest src merged : Secret} {key registry : String} {payload : Payload}
    {credential : Value}
    (merges : mergeDockerSecrets (some dest) (some src) = .ok merged)
    (data : src.data = [(key, payload)])
    (listed : src.type.credential? payload registry = some credential)
    (told : src.type = .dockercfg → src.type.credential? payload "auths" = none) :
    merged.credential? registry = some credential := by
  simp only [mergeDockerSecrets] at merges
  split at merges
  · cases merges
  rw [data, List.foldlM_cons] at merges
  obtain ⟨after, round, merges⟩ := bind_eq_ok.mp merges
  cases merges
  obtain ⟨normalized, converted, configuration, -⟩ := configuration_of_mergePayload round
  rw [Secret.credential?, configuration]
  refine get?_auths_mergeFields ?_ _
  rw [fields_convertDockercfgToDockerconfigjson converted]
  cases typed : src.type with
  | dockerConfigJson =>
      rw [typed] at listed
      have present : (payload.fields.get? "auths").isSome := by
        by_contra absent
        rw [Option.not_isSome_iff_eq_none] at absent
        rw [SecretType.credential?, auths, absent] at listed
        cases listed
      rw [if_pos present]
      exact listed
  | dockercfg =>
      rw [typed] at listed told
      have absent := told rfl
      rw [SecretType.credential?] at absent
      rw [if_neg (by rw [absent]; simp)]
      exact listed
  | unset => rw [typed] at listed; cases listed
  | other name => rw [typed] at listed; cases listed

end Installation
