import FusionAccess.Installation.KernelModule
import FusionAccess.Kubernetes.Yaml

/-!
# The two readers of the core image

The image that the kernel module is built from and the image that the pull check tests
come from one entry of a ConfigMap. The one is read from the cluster, by type assertions on
a tree of any values; the other from the install manifest, by decoding into structures.
-/

namespace Installation
namespace CoreImage

open Registry Interaction Fallible Results
open Kubernetes hiding Node
open Kubernetes.Yaml

/-- The entry of the ConfigMap. -/
abbrev configKey : String := "controller_manager_config.yaml"

/-- The parser of YAML streams, which yields the documents up to an error. -/
abbrev Parser : Type := String → List (Except String Node)

variable {parse : Parser}

/-! ## The ConfigMap in the cluster -/

/-- `yaml.Unmarshal` into a map of any values. -/
def decodeObjmap (parse : Parser) (text : String) : Except String Fields :=
  unmarshal parse text >>= decodeMap decodeAny

/-- `getIBMCoreImage` on the ConfigMap that it has read. -/
def coreImage (parse : Parser) (cm : ConfigMap) : Except Abort String :=
  match decodeObjmap parse ((cm.data.get? configKey).getD "") with
  | .error message => .error (.error message)
  | .ok objmap => coreInit objmap

/-! ## The ConfigMap in the manifest -/

/-- `metadata` of `kindNode`. -/
structure KindMetadata where
  name : String := ""

/-- `kindNode`. -/
structure KindNode where
  kind : String := ""
  metadata : KindMetadata := {}

/-- `ConfigMap` as the manifest has it. -/
structure ManifestConfigMap where
  kind : String := ""
  metadata : Entries String Value := []
  data : Entries String String := []

/-- `ControllerManagerConfig`. -/
structure ControllerManagerConfig where
  images : Entries String String := []

/-- `node.Decode(&kindNode)`. -/
def decodeKindNode : Node → Except String KindNode :=
  decodeStruct (fun name node kindNode =>
    if name = "kind" then do return { kindNode with kind := ← decodeString node }
    else if name = "metadata" then do
      let metadata ← decodeStruct (fun name node (metadata : KindMetadata) =>
        if name = "name" then do return { metadata with name := ← decodeString node }
        else return metadata) kindNode.metadata node
      return { kindNode with metadata }
    else return kindNode) {}

/-- `node.Decode(&cm)`. -/
def decodeConfigMap : Node → Except String ManifestConfigMap :=
  decodeStruct (fun name node cm =>
    if name = "kind" then do return { cm with kind := ← decodeString node }
    else if name = "metadata" then do return { cm with metadata := ← decodeMap decodeAny node }
    else if name = "data" then do return { cm with data := ← decodeMap decodeString node }
    else return cm) {}

/-- The field of a controller manager configuration. -/
def decodeImages
    (name : String) (node : Node) (config : ControllerManagerConfig) :
    Except String ControllerManagerConfig :=
  if name = "images" then do return { config with images := ← decodeMap decodeString node }
  else return config

/-- `yaml.Unmarshal` into a controller manager configuration. -/
def decodeConfig (parse : Parser) (text : String) : Except String ControllerManagerConfig :=
  unmarshal parse text >>= decodeStruct decodeImages {}

/-- The document is the ConfigMap that is looked for. -/
def KindNode.isManagerConfig (kindNode : KindNode) : Bool :=
  kindNode.kind = "ConfigMap" && kindNode.metadata.name = "ibm-spectrum-scale-manager-config"

/-- What `ParseYAMLAndExtractTestImage` reads from the embedded document. -/
def embeddedImage (parse : Parser) (embeddedYAML : String) : Except String String := do
  let config ← (decodeConfig parse embeddedYAML).mapError
    ("failed to parse embedded YAML: " ++ ·)
  match config.images.get? "coreInit" with
  | none => throw "coreInit not found in images"
  | some coreInit => return coreInit

/-- What `ParseYAMLAndExtractTestImage` returns for the ConfigMap. -/
def extractTestImage (parse : Parser) (node : Node) : Except String String := do
  let cm ← (decodeConfigMap node).mapError ("failed to decode ConfigMap: " ++ ·)
  match cm.data.get? configKey with
  | none => throw "controller_manager_config.yaml not found in ConfigMap"
  | some embeddedYAML => embeddedImage parse embeddedYAML

/-- The loop of `ParseYAMLAndExtractTestImage` over the documents. -/
def scanDocuments (parse : Parser) : List (Except String Node) → Except String String
  | [] => .error "ConfigMap object in install yaml not found"
  | .error message :: _ => .error s!"failed to decode YAML: {message}"
  | .ok node :: documents =>
      match decodeKindNode node with
      -- not a valid resource
      | .error _ => scanDocuments parse documents
      | .ok kindNode =>
          if kindNode.isManagerConfig then extractTestImage parse node
          else scanDocuments parse documents

/-- `ParseYAMLAndExtractTestImage`. -/
def parseYAMLAndExtractTestImage (parse : Parser) (yamlContent : String) :
    Except String String :=
  scanDocuments parse (parse yamlContent)

/-! ## Agreement -/

/-- The same image, or an error of either. -/
def SameOutcome : Except Abort String → Except String String → Prop
  | .ok image, .ok other => image = other
  | .error (.error _), .error _ => True
  | _, _ => False

/-- The reader of the cluster ends as `coreImage` says, and like that of the manifest. -/
structure Agree (parse : Parser) (depot : Depot) (cm : ConfigMap) (manifest : String) :
    Prop where
  run : ((getIBMCoreImage (decodeObjmap parse)).run.run depotServer (fun _ => .none) depot).value =
    (coreImage parse cm).mapError Abort.failure
  same : SameOutcome (coreImage parse cm) (parseYAMLAndExtractTestImage parse manifest)

/-- The document is taken for the ConfigMap. -/
def IsManagerConfig (node : Node) : Prop :=
  ∃ kindNode, decodeKindNode node = .ok kindNode ∧ kindNode.isManagerConfig = true

/-- The manifest contains the ConfigMap, the first of its name, with the given text. -/
def Contains (parse : Parser) (manifest text : String) : Prop :=
  ∃ (before : List Node) (node : Node) (after : List (Except String Node)),
    parse manifest = before.map Except.ok ++ Except.ok node :: after ∧
    (∀ other ∈ before, ¬IsManagerConfig other) ∧ IsManagerConfig node ∧
      ∃ cm, decodeConfigMap node = .ok cm ∧ cm.data.get? configKey = some text

/-- The value is a scalar, or null. -/
def IsText (node : Node) : Prop := ∃ leaf : Scalar, node = .scalar leaf ∧ leaf.Legible

/-- The scalar is a string, with whatever tag. -/
def IsString (leaf : Scalar) : Prop :=
  leaf.meaning = .string ∨ leaf.meaning = .tagged

/-- The structure decoder finds an image: under `images` there are texts, one of them for
`coreInit`. -/
def NamesText (entries : List (Key × Node)) : Prop :=
  Reads (fun _ => True) entries ∧
    ∃ images, nodeUnder "images" entries = some (.mapping images) ∧ Reads IsText images ∧
      ∃ node, nodeUnder "coreInit" images = some node

/-- The type assertions find a string where the structure decoder finds a text. -/
def NamesString (entries : List (Key × Node)) : Prop :=
  ∃ images, nodeUnder "images" entries = some (.mapping images) ∧ IsStringMap images ∧
    (∀ entry ∈ images, IsText entry.2) ∧
      ∃ leaf, nodeUnder "coreInit" images = some (.scalar leaf) ∧ IsString leaf

/-- The content does not tell the readers apart: neither gets anything from it, or all of
it can be decoded and the image is a string among texts. -/
def ReadAlike : Except String Node → Prop
  | .error _ => True
  | .ok (.scalar leaf) => leaf.meaning ≠ .null
  | .ok (.sequence _) => True
  | .ok (.mapping entries) =>
      Reads Node.WellFormed entries ∧ NamesString entries ∨
        ¬Reads Node.WellFormed entries ∧ ¬NamesText entries

/-! ## The reader of the cluster -/

variable {depot : Depot} {cm : ConfigMap} {text manifest : String}

theorem run_getIBMCoreImage
    (held : depot.find? .configMap
      ⟨"ibm-spectrum-scale-operator", "ibm-spectrum-scale-manager-config"⟩ = some cm) :
    ((getIBMCoreImage (decodeObjmap parse)).run.run depotServer (fun _ => .none) depot).value =
      (coreImage parse cm).mapError Abort.failure := by
  have run : LeadsTo (S := depotServer) (getIBMCoreImage (decodeObjmap parse))
      (fun _ => .none)
      (fun result _ _ => result = (coreImage parse cm).mapError Abort.failure) depot := by
    rw [getIBMCoreImage, leadsTo_bind, Api.leadsTo_ask, Api.serve_none]
    simp only [Depot.answer, held]
    rw [coreImage]
    cases decodeObjmap parse ((cm.data.get? configKey).getD "") with
    | error message => exact rfl
    | ok objmap =>
        dsimp only
        cases coreInit objmap <;> rfl
  exact run

theorem coreInit_eq_ok_iff {objmap : Fields} {image : String} :
    coreInit objmap = .ok image ↔
      ∃ images : Fields, objmap.get? "images" = some (.object images) ∧
        images.get? "coreInit" = some (.string image) := by
  unfold coreInit
  split
  next images found =>
    split
    next other text =>
      simp [found, text]
    next missing =>
      constructor
      · intro impossible
        cases impossible
      · rintro ⟨images', found', text⟩
        rw [found, Option.some.injEq, Value.object.injEq] at found'
        subst found'
        exact absurd text (missing image)
  next missing =>
    constructor
    · intro impossible
      cases impossible
    · rintro ⟨images, found, _⟩
      exact absurd found (missing images)

/-- The type assertions on a decoded tree succeed just if they find a string. -/
theorem coreInit_of_decodeMap
    {entries : List (Key × Node)} {objmap : Fields} {image : String}
    (decoded : decodeMap decodeAny (.mapping entries) = .ok objmap) :
    coreInit objmap = .ok image ↔
      ∃ images leaf, nodeUnder "images" entries = some (.mapping images) ∧
        IsStringMap images ∧ nodeUnder "coreInit" images = some (.scalar leaf) ∧
          IsString leaf ∧ leaf.text = image := by
  rw [coreInit_eq_ok_iff]
  simp only [get?_decodeMap decoded]
  constructor
  · rintro ⟨fields, ⟨node, atImages, isObject⟩, named⟩
    obtain ⟨images, rfl, isStringMap, isFields⟩ := decodeAny_eq_object isObject
    obtain ⟨node, atCoreInit, isImage⟩ := (get?_decodeMap isFields _ _).mp named
    rcases decodeAny_eq_string_iff.mp isImage with rfl | rfl
    · exact ⟨images, _, atImages, isStringMap, atCoreInit, Or.inl rfl, rfl⟩
    · exact ⟨images, _, atImages, isStringMap, atCoreInit, Or.inr rfl, rfl⟩
  · rintro ⟨images, ⟨text, meaning⟩, atImages, isStringMap, atCoreInit, isString, rfl⟩
    obtain ⟨value, isValue⟩ :=
      ((succeeds_decodeMap entries).mp ⟨objmap, decoded⟩).of_nodeUnder atImages
    rcases decodeAny_mapping isValue with ⟨_, fields, isFields, rfl⟩ | ⟨otherKeys, _⟩
    · refine ⟨fields, ⟨_, atImages, isValue⟩, ?_⟩
      refine (get?_decodeMap isFields _ _).mpr ⟨_, atCoreInit, ?_⟩
      rw [decodeAny_eq_string_iff]
      rcases isString with isString | isString
      · exact Or.inl (by cases isString; rfl)
      · exact Or.inr (by cases isString; rfl)
    · exact absurd isStringMap otherKeys

theorem coreImage_eq (embedded : cm.data.get? configKey = some text) :
    coreImage parse cm =
      match unmarshal parse text >>= decodeMap decodeAny with
      | .error message => .error (.error message)
      | .ok objmap => coreInit objmap := by
  rw [coreImage, embedded]
  rfl

/-- On a mapping, the reader of the cluster gets an error just if a part of it cannot be
decoded. -/
theorem coreImage_mapping
    {entries : List (Key × Node)} (embedded : cm.data.get? configKey = some text)
    (document : unmarshal parse text = .ok (.mapping entries)) :
    (¬Reads Node.WellFormed entries ∧ ∃ message, coreImage parse cm = .error (.error message)) ∨
      Reads Node.WellFormed entries ∧ ∃ objmap,
        decodeMap decodeAny (.mapping entries) = .ok objmap ∧
          coreImage parse cm = coreInit objmap := by
  have whole := @succeeds_decodeMap _ decodeAny entries
  simp only [succeeds_decodeAny] at whole
  rw [coreImage_eq embedded, document]
  change _ ∨ _ ∧ ∃ objmap, _ ∧ (match decodeMap decodeAny (.mapping entries) with
    | .error message => .error (.error message)
    | .ok objmap => coreInit objmap) = coreInit objmap
  rw [← whole]
  cases decoded : decodeMap decodeAny (.mapping entries) with
  | error message =>
      exact Or.inl ⟨not_succeeds_error message, message, by simp [decoded, bind, Except.bind]⟩
  | ok objmap => exact Or.inr ⟨succeeds_ok objmap, objmap, rfl, rfl⟩

/-! ## The reader of the manifest -/

theorem scanDocuments_append
    {before : List Node} (others : ∀ other ∈ before, ¬IsManagerConfig other)
    (documents : List (Except String Node)) :
    scanDocuments parse (before.map Except.ok ++ documents) = scanDocuments parse documents := by
  induction before with
  | nil => rfl
  | cons head tail inductionHypothesis =>
      obtain ⟨other, rest⟩ := List.forall_mem_cons.mp others
      rw [List.map_cons, List.cons_append, scanDocuments, inductionHypothesis rest]
      split
      · rfl
      next kindNode decoded =>
        rw [if_neg fun isConfig => other ⟨kindNode, decoded, isConfig⟩]

/-- From a manifest with the ConfigMap, the text that is embedded in it is read. -/
theorem parse_of_contains (contains : Contains parse manifest text) :
    parseYAMLAndExtractTestImage parse manifest = embeddedImage parse text := by
  obtain ⟨before, node, after, documents, others, ⟨kindNode, isKind, isConfig⟩,
    manifestMap, decoded, embedded⟩ := contains
  rw [parseYAMLAndExtractTestImage, documents, scanDocuments_append others, scanDocuments,
    isKind]
  dsimp only
  rw [if_pos isConfig, extractTestImage, decoded]
  change (match manifestMap.data.get? configKey with
    | none => throw _
    | some embeddedYAML => embeddedImage parse embeddedYAML) = _
  rw [embedded]

/-- The structure decoder takes the images from the value under `images`. -/
theorem decodeRecord_decodeImages
    {entries : List (Key × Node)} (distinct : Distinct entries)
    (config result : ControllerManagerConfig) :
    decodeRecord decodeImages entries config = .ok result ↔
      (∀ entry ∈ entries, entry.1.Legible) ∧
        match nodeUnder "images" entries with
        | none => result = config
        | some node => ∃ images, decodeMap decodeString node = .ok images ∧ result = { images } := by
  induction entries generalizing config with
  | nil => simp [decodeRecord, nodeUnder, eq_comm]
  | cons head tail inductionHypothesis =>
      obtain ⟨key, node⟩ := head
      have ofTail := inductionHypothesis distinct.tail
      rw [decodeRecord, nodeUnder, List.forall_mem_cons, ← Key.succeeds_decodeString]
      cases read : key.decodeString with
      | error message =>
          constructor
          · intro impossible
            cases impossible
          · rintro ⟨⟨legible, _⟩, _⟩
            exact absurd legible (not_succeeds_error message)
      | ok name =>
          cases name with
          | none =>
              change decodeRecord decodeImages tail config = .ok result ↔ _
              rw [ofTail config, if_neg (by simp)]
              simp
          | some name =>
              change (decodeImages name node config >>= decodeRecord decodeImages tail) =
                .ok result ↔ _
              rw [bind_eq_ok, decodeImages]
              by_cases isImages : name = "images"
              · subst isImages
                rw [nodeUnder_eq_none_of_distinct distinct read] at ofTail
                simp only [if_pos, bind_eq_ok, ofTail]
                constructor
                · rintro ⟨_, ⟨images, decoded, ⟨⟩⟩, legible, rfl⟩
                  exact ⟨⟨succeeds_ok _, legible⟩, images, decoded, rfl⟩
                · rintro ⟨⟨_, legible⟩, images, decoded, rfl⟩
                  exact ⟨_, ⟨images, decoded, rfl⟩, legible, rfl⟩
              · rw [if_neg (by simpa using isImages)]
                simp [isImages, ofTail, pure, Except.pure]

theorem succeeds_decodeString (node : Node) : Succeeds (decodeString node) ↔ IsText node := by
  cases node with
  | scalar leaf =>
      rw [decodeString, succeeds_bind_pure, leaf.succeeds_decodeString]
      simp [IsText]
  | sequence items => simp [decodeString, IsText]
  | mapping entries => simp [decodeString, IsText]

/-- Of the nodes that are no mapping, no map of strings has an entry. -/
theorem exists_mapping_of_get?
    {node : Node} {images : Entries String String} {name value : String}
    (decoded : decodeMap decodeString node = .ok images) (named : images.get? name = some value) :
    ∃ entries, node = .mapping entries := by
  cases node with
  | scalar leaf =>
      rw [decodeMap] at decoded
      split at decoded
      · cases decoded
        cases named
      · cases decoded
      · cases decoded
  | sequence items => cases decoded
  | mapping entries => exact ⟨entries, rfl⟩

theorem embeddedImage_eq_ok_iff {image : String} :
    embeddedImage parse text = .ok image ↔
      ∃ config, decodeConfig parse text = .ok config ∧
        config.images.get? "coreInit" = some image := by
  rw [embeddedImage]
  cases decodeConfig parse text with
  | error message =>
      constructor
      · intro impossible
        cases impossible
      · rintro ⟨config, impossible, _⟩
        cases impossible
  | ok config =>
      simp only [Except.ok.injEq, exists_eq_left']
      change (match config.images.get? "coreInit" with
        | none => .error "coreInit not found in images"
        | some coreInit => .ok coreInit : Except String String) = .ok image ↔ _
      cases config.images.get? "coreInit" <;> simp

/-- The reader of the manifest gets the text of `coreInit` from a mapping. -/
theorem embeddedImage_mapping
    {entries : List (Key × Node)} {image : String}
    (document : unmarshal parse text = .ok (.mapping entries)) :
    embeddedImage parse text = .ok image ↔
      Reads (fun _ => True) entries ∧
        ∃ images, nodeUnder "images" entries = some (.mapping images) ∧ Reads IsText images ∧
          ∃ node, nodeUnder "coreInit" images = some node ∧ decodeString node = .ok image := by
  rw [embeddedImage_eq_ok_iff]
  have config_iff : ∀ config, decodeConfig parse text = .ok config ↔
      Distinct entries ∧ decodeRecord decodeImages entries {} = .ok config := by
    intro config
    rw [decodeConfig, document]
    change (if Distinct entries then _ else _) = _ ↔ _
    split <;> simp [*]
  have texts : ∀ images, Succeeds (decodeMap decodeString (.mapping images)) ↔
      Reads IsText images := by
    intro images
    simp only [succeeds_decodeMap, succeeds_decodeString]
  constructor
  · rintro ⟨config, decoded, named⟩
    obtain ⟨distinct, isRecord⟩ := (config_iff config).mp decoded
    obtain ⟨legible, found⟩ := (decodeRecord_decodeImages distinct {} config).mp isRecord
    refine ⟨⟨distinct, legible, fun _ _ _ _ => trivial⟩, ?_⟩
    cases atImages : nodeUnder "images" entries with
    | none =>
        rw [atImages] at found
        subst found
        cases named
    | some node =>
        rw [atImages] at found
        obtain ⟨images, isMap, rfl⟩ := found
        obtain ⟨inner, rfl⟩ := exists_mapping_of_get? isMap named
        exact ⟨inner, rfl, (texts inner).mp ⟨images, isMap⟩,
          (get?_decodeMap isMap _ _).mp named⟩
  · rintro ⟨reads, inner, atImages, isText, atCoreInit⟩
    obtain ⟨images, isMap⟩ := (texts inner).mpr isText
    refine ⟨{ images }, (config_iff _).mpr ⟨reads.distinct, ?_⟩,
      (get?_decodeMap isMap _ _).mpr atCoreInit⟩
    rw [decodeRecord_decodeImages reads.distinct, atImages]
    exact ⟨reads.legible, images, isMap, rfl⟩

/-- On a mapping it succeeds just if there is a text for `coreInit`. -/
theorem succeeds_embeddedImage
    {entries : List (Key × Node)}
    (document : unmarshal parse text = .ok (.mapping entries)) :
    Succeeds (embeddedImage parse text) ↔ NamesText entries := by
  constructor
  · rintro ⟨image, succeeded⟩
    obtain ⟨reads, images, atImages, isText, node, atCoreInit, _⟩ :=
      (embeddedImage_mapping document).mp succeeded
    exact ⟨reads, images, atImages, isText, node, atCoreInit⟩
  · rintro ⟨reads, images, atImages, isText, node, atCoreInit⟩
    obtain ⟨image, decoded⟩ :=
      (succeeds_decodeString node).mpr (isText.of_nodeUnder atCoreInit)
    exact ⟨image, (embeddedImage_mapping document).mpr
      ⟨reads, images, atImages, isText, node, atCoreInit, decoded⟩⟩

/-- Of a document that is no mapping, it gets nothing. -/
theorem not_succeeds_embeddedImage
    (noMapping : ∀ entries, unmarshal parse text ≠ .ok (.mapping entries)) :
    ¬Succeeds (embeddedImage parse text) := by
  rintro ⟨image, succeeded⟩
  obtain ⟨config, decoded, named⟩ := embeddedImage_eq_ok_iff.mp succeeded
  obtain ⟨node, document, isConfig⟩ := bind_eq_ok.mp decoded
  cases node with
  | scalar leaf =>
      rw [decodeStruct] at isConfig
      split at isConfig
      · cases isConfig
        cases named
      · cases isConfig
      · cases isConfig
  | sequence items => cases isConfig
  | mapping entries => exact noMapping entries document

/-! ## Where they agree -/

theorem sameOutcome_ok {image : String} {second : Except String String} :
    SameOutcome (.ok image) second ↔ second = .ok image := by
  cases second with
  | error message => simp [SameOutcome]
  | ok other => simp [SameOutcome, eq_comm]

theorem sameOutcome_error {message : String} {second : Except String String} :
    SameOutcome (.error (.error message)) second ↔ ¬Succeeds second := by
  cases second <;> simp [SameOutcome]

/-- The type assertions do not return errors, they panic. -/
theorem sameOutcome_coreInit {objmap : Fields} {second : Except String String} :
    SameOutcome (coreInit objmap) second ↔
      ∃ image, coreInit objmap = .ok image ∧ second = .ok image := by
  cases ends : coreInit objmap with
  | ok image => simp [sameOutcome_ok]
  | error abort =>
      have panics : ∃ message, abort = .panic message := by
        unfold coreInit at ends
        split at ends
        · split at ends <;> cases ends
          exact ⟨_, rfl⟩
        · cases ends
          exact ⟨_, rfl⟩
      obtain ⟨message, rfl⟩ := panics
      simp [SameOutcome]

/-- A string is decoded as its text by either. -/
theorem decodeString_of_isString {leaf : Scalar} (isString : IsString leaf) :
    decodeString (.scalar leaf) = .ok leaf.text := by
  obtain ⟨text, meaning⟩ := leaf
  rcases isString with isString | isString
  · cases isString
    rfl
  · cases isString
    rfl

/-- The readers never return different images. -/
theorem image_unique
    (embedded : cm.data.get? configKey = some text) {image other : String}
    (first : coreImage parse cm = .ok image) (second : embeddedImage parse text = .ok other) :
    image = other := by
  by_cases isMapping : ∃ entries, unmarshal parse text = .ok (.mapping entries)
  · obtain ⟨entries, document⟩ := isMapping
    rcases coreImage_mapping embedded document with
      ⟨_, message, ends⟩ | ⟨_, objmap, decoded, ends⟩
    · cases first.symm.trans ends
    · obtain ⟨images, leaf, atImages, _, atCoreInit, isString, rfl⟩ :=
        (coreInit_of_decodeMap decoded).mp (ends.symm.trans first)
      obtain ⟨_, images', atImages', _, node, atCoreInit', isOther⟩ :=
        (embeddedImage_mapping document).mp second
      rw [atImages, Option.some.injEq, Node.mapping.injEq] at atImages'
      subst atImages'
      rw [atCoreInit, Option.some.injEq] at atCoreInit'
      rw [← atCoreInit', decodeString_of_isString isString, Except.ok.injEq] at isOther
      exact isOther
  · exact absurd ⟨other, second⟩
      (not_succeeds_embeddedImage fun entries document => isMapping ⟨entries, document⟩)

/-- On a mapping that can be decoded, they agree just if the image is a string. -/
theorem sameOutcome_of_wellFormed
    {entries : List (Key × Node)} {objmap : Fields}
    (document : unmarshal parse text = .ok (.mapping entries))
    (wellFormed : Reads Node.WellFormed entries)
    (decoded : decodeMap decodeAny (.mapping entries) = .ok objmap) :
    SameOutcome (coreInit objmap) (embeddedImage parse text) ↔ NamesString entries := by
  rw [sameOutcome_coreInit]
  simp only [coreInit_of_decodeMap decoded, embeddedImage_mapping document]
  constructor
  · rintro ⟨image, ⟨images, leaf, atImages, isStringMap, atCoreInit, isString, _⟩,
      _, images', atImages', isText, _⟩
    rw [atImages, Option.some.injEq, Node.mapping.injEq] at atImages'
    subst atImages'
    exact ⟨images, atImages, isStringMap, ((reads_iff_of_isStringMap isStringMap).mp isText).2,
      leaf, atCoreInit, isString⟩
  · rintro ⟨images, atImages, isStringMap, isText, leaf, atCoreInit, isString⟩
    have inner : Node.WellFormed (.mapping images) := wellFormed.of_nodeUnder atImages
    rw [Node.WellFormed] at inner
    have isImage := decodeString_of_isString isString
    exact ⟨leaf.text, ⟨images, leaf, atImages, isStringMap, atCoreInit, isString, rfl⟩,
      wellFormed.mono fun _ _ => trivial, images, atImages,
      (reads_iff_of_isStringMap isStringMap).mpr ⟨inner.1, isText⟩, _, atCoreInit, isImage⟩

/-- On a scalar they agree unless it is null, which makes the type assertions panic. -/
theorem sameOutcome_scalar
    {leaf : Scalar} {second : Except String String} (failed : ¬Succeeds second)
    (embedded : cm.data.get? configKey = some text)
    (document : unmarshal parse text = .ok (.scalar leaf)) :
    SameOutcome (coreImage parse cm) second ↔ leaf.meaning ≠ .null := by
  rw [coreImage_eq embedded, document]
  obtain ⟨text, meaning⟩ := leaf
  cases meaning with
  | null =>
      refine iff_of_false ?_ (by simp)
      change ¬SameOutcome (coreInit []) second
      rw [sameOutcome_coreInit]
      rintro ⟨image, impossible, _⟩
      cases impossible
  | _ => exact iff_of_true (sameOutcome_error.mpr failed) (by simp)

/-- With the same text embedded, the readers agree just if the content does not tell them
apart. -/
theorem same_core_image_iff
    (held : depot.find? .configMap
      ⟨"ibm-spectrum-scale-operator", "ibm-spectrum-scale-manager-config"⟩ = some cm)
    (embedded : cm.data.get? configKey = some text)
    (contains : Contains parse manifest text) :
    Agree parse depot cm manifest ↔ ReadAlike (unmarshal parse text) := by
  have agree_iff : Agree parse depot cm manifest ↔
      SameOutcome (coreImage parse cm) (embeddedImage parse text) := by
    rw [← parse_of_contains contains]
    exact ⟨fun agree => agree.same, fun same => ⟨run_getIBMCoreImage held, same⟩⟩
  rw [agree_iff]
  cases document : unmarshal parse text with
  | error message =>
      have failed := @not_succeeds_embeddedImage parse text (by simp [document])
      rw [coreImage_eq embedded, document]
      exact iff_of_true (sameOutcome_error.mpr failed) trivial
  | ok node =>
      cases node with
      | scalar leaf =>
          have failed := @not_succeeds_embeddedImage parse text (by simp [document])
          exact sameOutcome_scalar failed embedded document
      | sequence items =>
          have failed := @not_succeeds_embeddedImage parse text (by simp [document])
          rw [coreImage_eq embedded, document]
          exact iff_of_true (sameOutcome_error.mpr failed) trivial
      | mapping entries =>
          rw [ReadAlike]
          rcases coreImage_mapping embedded document with
            ⟨malformed, message, ends⟩ | ⟨wellFormed, objmap, decoded, ends⟩
          · rw [ends, sameOutcome_error, succeeds_embeddedImage document]
            simp [malformed]
          · rw [ends, sameOutcome_of_wellFormed document wellFormed decoded]
            simp [wellFormed]

/-! ## Two configurations -/

/-- An entry whose key is a string. -/
def field (name : String) (node : Node) : Key × Node := (.scalar { text := name }, node)

/-- A string. -/
def string (text : String) : Node := .scalar { text }

/-- The manifest's document for the ConfigMap. -/
def configMapDocument (text : String) : Node :=
  .mapping [
    field "apiVersion" (string "v1"),
    field "kind" (string "ConfigMap"),
    field "metadata" (.mapping [
      field "name" (string "ibm-spectrum-scale-manager-config"),
      field "namespace" (string "ibm-spectrum-scale-operator")]),
    field "data" (.mapping [field configKey (string text)])]

/-- The ConfigMap in the cluster. -/
def managerConfigMap (text : String) : ConfigMap where
  metadata :=
    { name := "ibm-spectrum-scale-manager-config", ns := "ibm-spectrum-scale-operator" }
  data := [(configKey, text)]

/-- It is all that is stored. -/
def depotWith (text : String) : Depot where
  objects
    | .secret => []
    | .configMap => [managerConfigMap text]
    | .module => []

/-- What stands before the text in the manifest. -/
def manifestHead : String :=
  "apiVersion: v1\nkind: ConfigMap\nmetadata:\n  name: ibm-spectrum-scale-manager-config\n" ++
  "  namespace: ibm-spectrum-scale-operator\ndata:\n  controller_manager_config.yaml: '"

/-- A manifest of this document. -/
def manifestOf (text : String) : String := manifestHead ++ text ++ "'\n"

/-- What the parser yields for a manifest with the text and for the text. -/
def parserOf (text : String) (content : Node) : Parser := fun yaml =>
  if yaml = text then [.ok content]
  else if yaml = manifestOf text then [.ok (configMapDocument text)]
  else []

theorem unmarshal_parserOf (text : String) (content : Node) :
    unmarshal (parserOf text content) text = .ok content := by
  rw [unmarshal, parserOf, if_pos rfl]

theorem contains_parserOf (text : String) (content : Node) :
    Contains (parserOf text content) (manifestOf text) text := by
  have longer : manifestOf text ≠ text := by
    intro same
    have lengths := congrArg String.length same
    have closing : "'\n".length = 2 := rfl
    rw [manifestOf, String.length_append, String.length_append, closing] at lengths
    omega
  refine ⟨[], configMapDocument text, [], ?_, ?_, ⟨_, rfl, rfl⟩, _, rfl, rfl⟩
  · rw [parserOf, if_neg longer, if_pos rfl]
    rfl
  · intro other impossible
    cases impossible

/-- The configuration of a release. -/
def releaseConfig : String := 
  "images: \x7bcoreInit: cp.icr.io/cp/gpfs/core-init:v5.2.3.1\x7d"

/-- Its images. -/
def releaseImages : List (Key × Node) :=
  [field "coreInit" (string "cp.icr.io/cp/gpfs/core-init:v5.2.3.1")]

/-- Its tree. -/
def releaseTree : Node := .mapping [field "images" (.mapping releaseImages)]

theorem same_core_image_iff_release :
    Agree (parserOf releaseConfig releaseTree) (depotWith releaseConfig)
      (managerConfigMap releaseConfig) (manifestOf releaseConfig) := by
  refine (same_core_image_iff rfl rfl (contains_parserOf _ _)).mpr ?_
  rw [unmarshal_parserOf]
  have isText : ∀ entry ∈ releaseImages, IsText entry.2 := by
    intro entry listed
    obtain rfl := List.mem_singleton.mp listed
    exact ⟨_, rfl, by simp [Scalar.Legible]⟩
  refine Or.inl ⟨(reads_iff_of_isStringMap (by decide)).mpr ⟨by decide, ?_⟩,
    releaseImages, rfl, by decide, isText, _, rfl, Or.inl rfl⟩
  intro entry listed
  obtain rfl := List.mem_singleton.mp listed
  have wellFormed : EntriesWellFormed releaseImages := by
    simp [field, string, releaseImages, EntriesWellFormed, Node.WellFormed, Key.Legible,
      Scalar.Legible]
  rw [field, Node.WellFormed]
  exact ⟨by decide, wellFormed⟩

/-- A configuration without the image. -/
def incompleteConfig : String := 
  "images: \x7boperator: cp.icr.io/cp/gpfs/operator:v5.2.3.1\x7d"

/-- Its tree. -/
def incompleteTree : Node :=
  .mapping [field "images" (.mapping [
    field "operator" (string "cp.icr.io/cp/gpfs/operator:v5.2.3.1")])]

/-- The parser on it. -/
abbrev parseIncomplete : Parser := parserOf incompleteConfig incompleteTree

/-- The reader of the manifest reports that the image is missing; that of the cluster
panics. -/
theorem missing_image_panics :
    Contains parseIncomplete (manifestOf incompleteConfig) incompleteConfig ∧
    parseYAMLAndExtractTestImage parseIncomplete (manifestOf incompleteConfig) =
      .error "coreInit not found in images" ∧
    coreImage parseIncomplete (managerConfigMap incompleteConfig) =
      .error (.panic "interface conversion: not a string") ∧
    ¬Agree parseIncomplete (depotWith incompleteConfig) (managerConfigMap incompleteConfig)
      (manifestOf incompleteConfig) := by
  have contains := contains_parserOf incompleteConfig incompleteTree
  have panics : coreImage parseIncomplete (managerConfigMap incompleteConfig) =
      .error (.panic "interface conversion: not a string") := by
    rw [@coreImage_eq _ _ incompleteConfig rfl, unmarshal_parserOf]
    rfl
  have missing : embeddedImage parseIncomplete incompleteConfig =
      .error "coreInit not found in images" := by
    rw [embeddedImage, decodeConfig, unmarshal_parserOf]
    rfl
  refine ⟨contains, ?_, panics, fun agree => ?_⟩
  · rw [parse_of_contains contains, missing]
  · have same := agree.same
    rw [panics] at same
    exact same

end CoreImage
end Installation
