import FusionAccess.Interaction.Results
import FusionAccess.Kubernetes.Value
import FusionAccess.Registry.Entries

/-!
# YAML documents

A document is given as the tree that the parser makes of it, with aliases and merge keys
expanded. It is decoded into a value of any kind, or into one of a type that is known
beforehand. The two differ in what they visit: the fields that a structure does not have
are skipped together with the errors below them.
-/

namespace Kubernetes
namespace Yaml

open Registry Results

/-! ## Trees -/

/-- What a scalar stands for. -/
inductive Meaning
  | null
  | string
  /-- A string with a tag of its own, such as binary data. -/
  | tagged
  | bool (value : Bool)
  | int (value : Int)
  /-- A float or a point in time. -/
  | other
  /-- The text is not one of its tag. -/
  | malformed (message : String)
  deriving DecidableEq

/-- A scalar: its text, decoded if it is binary data, and what it stands for. -/
structure Scalar where
  text : String
  meaning : Meaning := .string
  deriving DecidableEq

/-- A key of a mapping; of a collection only that it is one. -/
inductive Key
  | scalar (scalar : Scalar)
  | collection
  deriving DecidableEq

/-- A node of the tree. -/
inductive Node
  | scalar (scalar : Scalar)
  | sequence (items : List Node)
  | mapping (entries : List (Key × Node))

/-- The text of a key. -/
def Key.text? : Key → Option String
  | .scalar leaf => some leaf.text
  | .collection => none

/-- No key of a mapping is repeated. -/
abbrev Distinct (entries : List (Key × Node)) : Prop :=
  (entries.filterMap fun entry => entry.1.text?).Nodup

/-- The key is a plain string. -/
def Key.isString : Key → Bool
  | .scalar leaf => leaf.meaning = .string
  | .collection => false

/-- `isStringMap`. -/
abbrev IsStringMap (entries : List (Key × Node)) : Prop :=
  ∀ entry ∈ entries, entry.1.isString = true

/-! ## Decoding -/

/-- The error about a repeated key. -/
def alreadyDefined : String := "mapping key already defined"

/-- The error about a node of the wrong kind. -/
def cannotUnmarshal (type : String) : String := s!"cannot unmarshal into {type}"

/-- A scalar as a value of any kind. Maps with keys other than strings and the numbers and
times that are no integers are kept as arrays: they are neither strings nor string maps. -/
def Scalar.decodeAny (scalar : Scalar) : Except String Value :=
  match scalar.meaning with
  | .null => .ok .null
  | .string | .tagged => .ok (.string scalar.text)
  | .bool value => .ok (.bool value)
  | .int value => .ok (.number value)
  | .other => .ok (.array [.string scalar.text])
  | .malformed message => .error message

/-- A scalar as a string; null is none. -/
def Scalar.decodeString (scalar : Scalar) : Except String (Option String) :=
  match scalar.meaning with
  | .null => .ok none
  | .malformed message => .error message
  | _ => .ok (some scalar.text)

/-- The name under which a map or a structure has the value of a key. -/
def Key.decodeString : Key → Except String (Option String)
  | .scalar leaf => leaf.decodeString
  | .collection => .error (cannotUnmarshal "string")

mutual

/-- `unmarshal` into an `interface{}`. -/
def decodeAny : Node → Except String Value
  | .scalar scalar => scalar.decodeAny
  | .sequence items => do return .array (← decodeItems items)
  | .mapping entries =>
      if Distinct entries then do
        let fields ← decodeFields entries
        if IsStringMap entries then return .object fields
        else return .array (fields.map fun field => .array [.string field.1, field.2])
      else .error alreadyDefined

/-- The items of a sequence. -/
def decodeItems : List Node → Except String (List Value)
  | [] => .ok []
  | node :: nodes => do return (← decodeAny node) :: (← decodeItems nodes)

/-- The entries of a mapping, by the texts of their keys. -/
def decodeFields : List (Key × Node) → Except String (Entries String Value)
  | [] => .ok []
  | (.collection, _) :: _ => .error "invalid map key"
  | (.scalar scalar, node) :: entries => do
      let _ ← scalar.decodeAny
      let value ← decodeAny node
      return (← decodeFields entries).set scalar.text value

end

/-- `unmarshal` into a string; null leaves it empty. -/
def decodeString : Node → Except String String
  | .scalar scalar => do return (← scalar.decodeString).getD ""
  | .sequence _ | .mapping _ => .error (cannotUnmarshal "string")

section Collections

variable {α σ : Type}

/-- The entries of a map. A null key is skipped with its value. Keys are distinct here, so
it does not matter in which order they are set. -/
def decodeEntries (decodeItem : Node → Except String α) :
    List (Key × Node) → Except String (Entries String α)
  | [] => .ok []
  | (key, node) :: entries => do
      match ← key.decodeString with
      | none => decodeEntries decodeItem entries
      | some name =>
          let value ← decodeItem node
          return (← decodeEntries decodeItem entries).set name value

/-- `unmarshal` into a map with strings as keys; null leaves it nil. -/
def decodeMap (decodeItem : Node → Except String α) : Node → Except String (Entries String α)
  | .scalar scalar =>
      match scalar.decodeString with
      | .ok none => .ok []
      | .ok (some _) => .error (cannotUnmarshal "map")
      | .error message => .error message
  | .sequence _ => .error (cannotUnmarshal "map")
  | .mapping entries =>
      if Distinct entries then decodeEntries decodeItem entries else .error alreadyDefined

/-- The entries of a mapping as the fields of a record. -/
def decodeRecord (decodeField : String → Node → σ → Except String σ) :
    List (Key × Node) → σ → Except String σ
  | [], record => .ok record
  | (key, node) :: entries, record => do
      match ← key.decodeString with
      | none => decodeRecord decodeField entries record
      | some name => decodeRecord decodeField entries (← decodeField name node record)

/-- `unmarshal` into a structure; null leaves it as it is. -/
def decodeStruct
    (decodeField : String → Node → σ → Except String σ) (record : σ) : Node → Except String σ
  | .scalar scalar =>
      match scalar.decodeString with
      | .ok none => .ok record
      | .ok (some _) => .error (cannotUnmarshal "struct")
      | .error message => .error message
  | .sequence _ => .error (cannotUnmarshal "struct")
  | .mapping entries =>
      if Distinct entries then decodeRecord decodeField entries record
      else .error alreadyDefined

end Collections

/-- `yaml.Unmarshal` reads the first document; an empty text is null. -/
def unmarshal (parse : String → List (Except String Node)) (text : String) :
    Except String Node :=
  match parse text with
  | [] => .ok (.scalar { text := "", meaning := .null })
  | document :: _ => document

/-! ## What can be decoded -/

/-- The text is one of the tag. -/
def Scalar.Legible (leaf : Scalar) : Prop := ∀ message, leaf.meaning ≠ .malformed message

theorem Scalar.succeeds_decodeAny (leaf : Scalar) : Succeeds leaf.decodeAny ↔ leaf.Legible := by
  obtain ⟨text, meaning⟩ := leaf
  cases meaning <;> simp [Scalar.decodeAny, Scalar.Legible]

theorem Scalar.succeeds_decodeString (leaf : Scalar) :
    Succeeds leaf.decodeString ↔ leaf.Legible := by
  obtain ⟨text, meaning⟩ := leaf
  cases meaning <;> simp [Scalar.decodeString, Scalar.Legible]

/-- The key is a legible scalar. -/
def Key.Legible : Key → Prop
  | .scalar leaf => leaf.Legible
  | .collection => False

theorem Key.succeeds_decodeString (key : Key) : Succeeds key.decodeString ↔ key.Legible := by
  cases key with
  | scalar leaf => exact leaf.succeeds_decodeString
  | collection => simp [Key.decodeString, Key.Legible]

mutual

/-- Neither the node nor any below it has repeated or illegible keys, or an illegible
scalar. -/
def Node.WellFormed : Node → Prop
  | .scalar leaf => leaf.Legible
  | .sequence items => ItemsWellFormed items
  | .mapping entries => Distinct entries ∧ EntriesWellFormed entries

/-- The same for all items. -/
def ItemsWellFormed : List Node → Prop
  | [] => True
  | node :: nodes => node.WellFormed ∧ ItemsWellFormed nodes

/-- The same for all entries. -/
def EntriesWellFormed : List (Key × Node) → Prop
  | [] => True
  | (key, node) :: entries => key.Legible ∧ node.WellFormed ∧ EntriesWellFormed entries

end

mutual

/-- What is well-formed all through can be decoded into any value. -/
theorem succeeds_decodeAny : (node : Node) → (Succeeds (decodeAny node) ↔ node.WellFormed)
  | .scalar leaf => by
      rw [decodeAny, Node.WellFormed]
      exact leaf.succeeds_decodeAny
  | .sequence items => by
      rw [decodeAny, Node.WellFormed, succeeds_bind_pure]
      exact succeeds_decodeItems items
  | .mapping entries => by
      rw [decodeAny, Node.WellFormed, ← succeeds_decodeFields entries]
      by_cases distinct : Distinct entries
      · rw [if_pos distinct, succeeds_bind]
        constructor
        · rintro ⟨fields, decoded, _⟩
          exact ⟨distinct, fields, decoded⟩
        · rintro ⟨_, fields, decoded⟩
          refine ⟨fields, decoded, ?_⟩
          split <;> exact succeeds_pure _
      · rw [if_neg distinct]
        simp [distinct]

theorem succeeds_decodeItems :
    (items : List Node) → (Succeeds (decodeItems items) ↔ ItemsWellFormed items)
  | [] => by simp [decodeItems, ItemsWellFormed]
  | node :: nodes => by
      rw [decodeItems, ItemsWellFormed, ← succeeds_decodeAny node,
        ← succeeds_decodeItems nodes, succeeds_bind]
      simp only [succeeds_bind_pure]
      exact ⟨fun ⟨value, decoded, others⟩ => ⟨⟨value, decoded⟩, others⟩,
        fun ⟨⟨value, decoded⟩, others⟩ => ⟨value, decoded, others⟩⟩

theorem succeeds_decodeFields :
    (entries : List (Key × Node)) → (Succeeds (decodeFields entries) ↔ EntriesWellFormed entries)
  | [] => by simp [decodeFields, EntriesWellFormed]
  | (.collection, node) :: entries => by
      simp [decodeFields, EntriesWellFormed, Key.Legible]
  | (.scalar leaf, node) :: entries => by
      rw [decodeFields, EntriesWellFormed, ← succeeds_decodeAny node,
        ← succeeds_decodeFields entries, Key.Legible, ← leaf.succeeds_decodeAny]
      simp only [succeeds_bind, succeeds_pure, and_true]
      constructor
      · rintro ⟨name, legible, value, decoded, fields, others⟩
        exact ⟨⟨name, legible⟩, ⟨value, decoded⟩, fields, others⟩
      · rintro ⟨⟨name, legible⟩, ⟨value, decoded⟩, fields, others⟩
        exact ⟨name, legible, value, decoded, fields, others⟩

end

/-! ## What maps hold -/

/-- The value of the first key with the name. -/
def nodeUnder (name : String) : List (Key × Node) → Option Node
  | [] => none
  | (key, node) :: entries =>
      if key.decodeString = .ok (some name) then some node else nodeUnder name entries

theorem exists_mem_of_nodeUnder
    {name : String} {entries : List (Key × Node)} {node : Node}
    (found : nodeUnder name entries = some node) :
    ∃ entry ∈ entries, entry.1.decodeString = .ok (some name) ∧ entry.2 = node := by
  induction entries with
  | nil => cases found
  | cons head tail inductionHypothesis =>
      rw [nodeUnder] at found
      split at found
      next named =>
        cases found
        exact ⟨head, List.mem_cons_self, named, rfl⟩
      · obtain ⟨entry, listed, isNamed⟩ := inductionHypothesis found
        exact ⟨entry, List.mem_cons_of_mem _ listed, isNamed⟩

theorem Key.text?_of_decodeString
    {key : Key} {name : String} (read : key.decodeString = .ok (some name)) :
    key.text? = some name := by
  cases key with
  | collection => cases read
  | scalar leaf =>
      obtain ⟨text, meaning⟩ := leaf
      cases meaning <;> cases read <;> rfl

/-- A string is its own name. -/
theorem Key.exists_decodeString_of_isString
    {key : Key} (isString : key.isString = true) :
    ∃ name, key.decodeString = .ok (some name) := by
  cases key with
  | collection => cases isString
  | scalar leaf =>
      obtain ⟨text, meaning⟩ := leaf
      obtain rfl : meaning = .string := by simpa [Key.isString] using isString
      exact ⟨text, rfl⟩

/-- A name that is distinct from all that follow is not found again. -/
theorem nodeUnder_eq_none_of_distinct
    {key : Key} {node : Node} {entries : List (Key × Node)} {name : String}
    (distinct : Distinct ((key, node) :: entries))
    (read : key.decodeString = .ok (some name)) : nodeUnder name entries = none := by
  rw [Option.eq_none_iff_forall_ne_some]
  intro other found
  obtain ⟨entry, listed, named, _⟩ := exists_mem_of_nodeUnder found
  have text := Key.text?_of_decodeString read
  simp only [Distinct, List.filterMap_cons, text, List.nodup_cons] at distinct
  exact distinct.1 (List.mem_filterMap.mpr
    ⟨entry, listed, Key.text?_of_decodeString named⟩)

theorem Distinct.tail
    {head : Key × Node} {entries : List (Key × Node)} (distinct : Distinct (head :: entries)) :
    Distinct entries :=
  List.Nodup.sublist (List.Sublist.filterMap _ (List.sublist_cons_self head entries)) distinct

/-- All keys are legible and distinct, and the values under names satisfy the condition. -/
structure Reads (condition : Node → Prop) (entries : List (Key × Node)) : Prop where
  distinct : Distinct entries
  legible : ∀ entry ∈ entries, entry.1.Legible
  values : ∀ entry ∈ entries, ∀ name, entry.1.decodeString = .ok (some name) →
    condition entry.2

/-- The condition holds of what stands under a name. -/
theorem Reads.of_nodeUnder
    {condition : Node → Prop} {entries : List (Key × Node)}
    (reads : Reads condition entries) {name : String} {node : Node}
    (found : nodeUnder name entries = some node) : condition node := by
  obtain ⟨entry, listed, named, rfl⟩ := exists_mem_of_nodeUnder found
  exact reads.values entry listed name named

/-- In a map of strings the condition holds of all values. -/
theorem reads_iff_of_isStringMap
    {condition : Node → Prop} {entries : List (Key × Node)}
    (isStringMap : IsStringMap entries) :
    Reads condition entries ↔
      Distinct entries ∧ ∀ entry ∈ entries, condition entry.2 := by
  constructor
  · refine fun reads => ⟨reads.distinct, fun entry listed => ?_⟩
    obtain ⟨name, named⟩ := Key.exists_decodeString_of_isString (isStringMap entry listed)
    exact reads.values entry listed name named
  · rintro ⟨distinct, holds⟩
    refine ⟨distinct, fun entry listed => ?_, fun entry listed _ _ => holds entry listed⟩
    obtain ⟨name, named⟩ := Key.exists_decodeString_of_isString (isStringMap entry listed)
    exact (Key.succeeds_decodeString entry.1).mp ⟨_, named⟩

theorem Reads.mono
    {condition weaker : Node → Prop} {entries : List (Key × Node)}
    (reads : Reads condition entries) (weaken : ∀ node, condition node → weaker node) :
    Reads weaker entries :=
  ⟨reads.distinct, reads.legible,
    fun entry listed name named => weaken _ (reads.values entry listed name named)⟩

section Maps

variable {α : Type} {decodeItem : Node → Except String α}

theorem succeeds_decodeEntries (entries : List (Key × Node)) :
    Succeeds (decodeEntries decodeItem entries) ↔
      (∀ entry ∈ entries, entry.1.Legible) ∧
        ∀ entry ∈ entries, ∀ name, entry.1.decodeString = .ok (some name) →
          Succeeds (decodeItem entry.2) := by
  induction entries with
  | nil => simp [decodeEntries]
  | cons head tail inductionHypothesis =>
      obtain ⟨key, node⟩ := head
      rw [decodeEntries, List.forall_mem_cons, List.forall_mem_cons, succeeds_bind,
        ← Key.succeeds_decodeString]
      cases read : key.decodeString with
      | error message => simp
      | ok name =>
          cases name with
          | none => simp [inductionHypothesis]
          | some name =>
              simp only [Except.ok.injEq, exists_eq_left', succeeds_ok, true_and,
                Option.some.injEq, forall_eq']
              rw [succeeds_bind]
              simp only [succeeds_bind_pure, inductionHypothesis]
              constructor
              · rintro ⟨value, decoded, legible, others⟩
                exact ⟨legible, ⟨value, decoded⟩, others⟩
              · rintro ⟨legible, ⟨value, decoded⟩, others⟩
                exact ⟨value, decoded, legible, others⟩

theorem succeeds_decodeMap (entries : List (Key × Node)) :
    Succeeds (decodeMap decodeItem (.mapping entries)) ↔
      Reads (fun node => Succeeds (decodeItem node)) entries := by
  rw [decodeMap]
  by_cases distinct : Distinct entries
  · rw [if_pos distinct, succeeds_decodeEntries]
    exact ⟨fun ⟨legible, values⟩ => ⟨distinct, legible, values⟩,
      fun reads => ⟨reads.legible, reads.values⟩⟩
  · rw [if_neg distinct]
    exact ⟨fun impossible => absurd impossible (not_succeeds_error _),
      fun reads => absurd reads.distinct distinct⟩

/-- A map holds under a name what is decoded from the node there. -/
theorem get?_decodeEntries
    {entries : List (Key × Node)} {fields : Entries String α}
    (decoded : decodeEntries decodeItem entries = .ok fields) (name : String) (value : α) :
    fields.get? name = some value ↔
      ∃ node, nodeUnder name entries = some node ∧ decodeItem node = .ok value := by
  induction entries generalizing fields with
  | nil =>
      cases decoded
      simp [nodeUnder]
  | cons head tail inductionHypothesis =>
      obtain ⟨key, node⟩ := head
      rw [decodeEntries, bind_eq_ok] at decoded
      obtain ⟨read, isRead, decoded⟩ := decoded
      rw [nodeUnder, isRead]
      cases read with
      | none =>
          rw [if_neg (by simp)]
          exact inductionHypothesis decoded
      | some first =>
          obtain ⟨own, isOwn, decoded⟩ := bind_eq_ok.mp decoded
          obtain ⟨others, isOthers, decoded⟩ := bind_eq_ok.mp decoded
          cases decoded
          rw [Entries.get?_set]
          by_cases same : first = name
          · rw [if_pos same, if_pos (by rw [same])]
            simp [isOwn]
          · rw [if_neg same, if_neg (by simpa using same)]
            exact inductionHypothesis isOthers

theorem get?_decodeMap
    {entries : List (Key × Node)} {fields : Entries String α}
    (decoded : decodeMap decodeItem (.mapping entries) = .ok fields)
    (name : String) (value : α) :
    fields.get? name = some value ↔
      ∃ node, nodeUnder name entries = some node ∧ decodeItem node = .ok value := by
  rw [decodeMap] at decoded
  split at decoded
  · exact get?_decodeEntries decoded name value
  · cases decoded

end Maps

/-- With strings as keys, a value of any kind is decoded as a map. -/
theorem decodeFields_eq_decodeEntries
    {entries : List (Key × Node)} (isStringMap : IsStringMap entries) :
    decodeFields entries = decodeEntries decodeAny entries := by
  induction entries with
  | nil => rw [decodeFields, decodeEntries]
  | cons head tail inductionHypothesis =>
      obtain ⟨key, node⟩ := head
      obtain ⟨isString, others⟩ := List.forall_mem_cons.mp isStringMap
      cases key with
      | collection => cases isString
      | scalar leaf =>
          obtain ⟨text, meaning⟩ := leaf
          obtain rfl : meaning = .string := by simpa [Key.isString] using isString
          rw [decodeFields, decodeEntries, inductionHypothesis others]
          rfl

/-- A sequence is decoded as an array. -/
theorem exists_array_of_decodeAny
    {items : List Node} {value : Value} (decoded : decodeAny (.sequence items) = .ok value) :
    ∃ values, value = .array values := by
  rw [decodeAny, bind_eq_ok] at decoded
  obtain ⟨values, _, ⟨⟩⟩ := decoded
  exact ⟨values, rfl⟩

/-- A mapping is decoded as a map if its keys are strings, and as an array otherwise. -/
theorem decodeAny_mapping
    {entries : List (Key × Node)} {value : Value}
    (decoded : decodeAny (.mapping entries) = .ok value) :
    IsStringMap entries ∧ (∃ fields, decodeMap decodeAny (.mapping entries) = .ok fields ∧
        value = .object fields) ∨
      ¬IsStringMap entries ∧ ∃ values, value = .array values := by
  rw [decodeAny] at decoded
  rw [decodeMap]
  split at decoded
  next distinct =>
    obtain ⟨fields, isFields, decoded⟩ := bind_eq_ok.mp decoded
    rw [if_pos distinct]
    split at decoded
    next isStringMap =>
      cases decoded
      rw [decodeFields_eq_decodeEntries isStringMap] at isFields
      exact Or.inl ⟨isStringMap, fields, isFields, rfl⟩
    next otherKeys =>
      cases decoded
      exact Or.inr ⟨otherKeys, _, rfl⟩
  · cases decoded

/-- A node is decoded as a map only if it is one with strings as keys. -/
theorem decodeAny_eq_object
    {node : Node} {fields : Entries String Value}
    (decoded : decodeAny node = .ok (.object fields)) :
    ∃ entries, node = .mapping entries ∧ IsStringMap entries ∧
      decodeMap decodeAny node = .ok fields := by
  cases node with
  | scalar leaf =>
      obtain ⟨text, meaning⟩ := leaf
      cases meaning <;> cases decoded
  | sequence items =>
      obtain ⟨values, impossible⟩ := exists_array_of_decodeAny decoded
      cases impossible
  | mapping entries =>
      rcases decodeAny_mapping decoded with
        ⟨isStringMap, _, isFields, ⟨⟩⟩ | ⟨_, _, impossible⟩
      · exact ⟨entries, rfl, isStringMap, isFields⟩
      · cases impossible

/-- A node is decoded as a string just if it is a scalar that stands for one. -/
theorem decodeAny_eq_string_iff {node : Node} {text : String} :
    decodeAny node = .ok (.string text) ↔
      node = .scalar { text } ∨ node = .scalar { text, meaning := .tagged } := by
  constructor
  · intro decoded
    cases node with
    | scalar leaf =>
        obtain ⟨text, meaning⟩ := leaf
        cases meaning <;> cases decoded
        · exact Or.inl rfl
        · exact Or.inr rfl
    | sequence items =>
        obtain ⟨values, impossible⟩ := exists_array_of_decodeAny decoded
        cases impossible
    | mapping entries =>
        rcases decodeAny_mapping decoded with ⟨_, _, _, impossible⟩ | ⟨_, _, impossible⟩
        · cases impossible
        · cases impossible
  · rintro (rfl | rfl)
    · rw [decodeAny]
      rfl
    · rw [decodeAny]
      rfl

end Yaml
end Kubernetes
