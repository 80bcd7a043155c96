import FusionAccess.Installation.KernelModule

/-!
# Image references

The tag of the kernel module is taken from the reference of the core image: what follows
the digest algorithm, or else what follows the last colon unless a slash comes after it.
In a reference a colon stands before a port, before a tag and within a digest, and the
two searches tell these apart.
-/

namespace Installation

/-! ## References -/

/-- The text has none of the given separators. -/
def Avoids (separators : List Char) (text : String) : Prop :=
  ∀ separator ∈ separators, separator ∉ text.toList

instance (separators : List Char) (text : String) : Decidable (Avoids separators text) :=
  List.decidableBAll (fun separator => separator ∉ text.toList) separators

/-- A registry, as it stands before the path. -/
structure RegistryHost where
  name : String
  port : Option String := none
  name_avoids : Avoids ['@'] name
  port_avoids : ∀ number ∈ port, Avoids ['@'] number

/-- An image reference: `[host[:port]/]path[:tag][@sha256:hex]`. -/
structure ImageReference where
  host : Option RegistryHost := none
  path : List String
  tag : Option String := none
  digest : Option String := none
  path_avoids : ∀ segment ∈ path, Avoids [':', '@'] segment
  tag_avoids : ∀ version ∈ tag, Avoids [':', '/', '@'] version

/-- The text of an optional part after its mark. -/
def marked (mark : String) (part : Option String) : String :=
  part.elim "" fun text => mark ++ text

/-- The registry and the slash after it. -/
def RegistryHost.text (host : RegistryHost) : String :=
  host.name ++ marked ":" host.port ++ "/"

/-- The path, in which segments are separated by slashes. -/
def ImageReference.pathText (reference : ImageReference) : String :=
  String.intercalate "/" reference.path

/-- The image without tag and digest. -/
def ImageReference.repository (reference : ImageReference) : String :=
  reference.host.elim "" RegistryHost.text ++ reference.pathText

/-- The whole reference. -/
def ImageReference.text (reference : ImageReference) : String :=
  reference.repository ++ marked ":" reference.tag ++ marked "@sha256:" reference.digest

/-! ## Searches -/

section Searches

variable {mark : Char} {pattern front rest text : List Char}

/-- The first occurrence of a pattern is not in a text without its first character. -/
theorem afterFirst_append (absent : mark ∉ front) :
    afterFirst (mark :: pattern) (front ++ rest) = afterFirst (mark :: pattern) rest := by
  induction front with
  | nil => rfl
  | cons head tail inductionHypothesis =>
      rw [List.mem_cons, not_or] at absent
      have notHere : (mark :: pattern).isPrefixOf (head :: (tail ++ rest)) = false := by
        rw [List.isPrefixOf, beq_false_of_ne absent.1, Bool.false_and]
      rw [List.cons_append, afterFirst, notHere, if_neg Bool.false_ne_true,
        inductionHypothesis absent.2]

theorem afterFirst_self :
    afterFirst (mark :: pattern) (mark :: pattern ++ rest) = some rest := by
  have here : (mark :: pattern).isPrefixOf (mark :: pattern ++ rest) = true := by
    rw [List.isPrefixOf_iff_prefix]
    exact List.prefix_append _ _
  rw [List.cons_append] at here ⊢
  rw [afterFirst, if_pos here, ← List.cons_append, List.drop_left]

theorem afterFirst_eq_none (absent : mark ∉ text) :
    afterFirst (mark :: pattern) text = none := by
  have skipped := @afterFirst_append mark pattern text [] absent
  rwa [List.append_nil] at skipped

/-- The last occurrence in two texts is that in the second one, if there is one. -/
theorem afterLast_append (separator : Char) (first second : List Char) :
    afterLast separator (first ++ second) =
      (afterLast separator second).or
        ((afterLast separator first).map fun rest => rest ++ second) := by
  induction first with
  | nil => rw [List.nil_append, afterLast, Option.map_none, Option.or_none]
  | cons head tail inductionHypothesis =>
      rw [List.cons_append, afterLast, inductionHypothesis, afterLast]
      cases afterLast separator second with
      | some rest => rfl
      | none =>
          cases afterLast separator tail with
          | some rest => rfl
          | none =>
              dsimp only [Option.none_or, Option.map_none]
              split <;> rfl

theorem afterLast_eq_none {separator : Char} (absent : separator ∉ text) :
    afterLast separator text = none := by
  induction text with
  | nil => rfl
  | cons head tail inductionHypothesis =>
      rw [List.mem_cons, not_or] at absent
      rw [afterLast, inductionHypothesis absent.2]
      exact if_neg (Ne.symm absent.1)

theorem mem_of_mem_intercalate
    {char : Char} {separator : List Char} {parts : List (List Char)}
    (listed : char ∈ separator.intercalate parts) :
    char ∈ separator ∨ ∃ part ∈ parts, char ∈ part := by
  induction parts with
  | nil => simp at listed
  | cons head tail inductionHypothesis =>
      cases tail with
      | nil => exact Or.inr ⟨head, List.mem_singleton_self head, by simpa using listed⟩
      | cons next others =>
          rw [List.intercalate_cons_cons, List.append_assoc, List.mem_append,
            List.mem_append] at listed
          rcases listed with here | between | later
          · exact Or.inr ⟨head, List.mem_cons_self, here⟩
          · exact Or.inl between
          · refine (inductionHypothesis later).imp_right ?_
            rintro ⟨part, member, inPart⟩
            exact ⟨part, List.mem_cons_of_mem _ member, inPart⟩

end Searches

/-! ## What the searches find -/

theorem toList_marked (mark : String) (part : Option String) :
    (marked mark part).toList =
      part.elim [] fun text => mark.toList ++ text.toList := by
  cases part with
  | none => rfl
  | some text => exact String.toList_append

namespace ImageReference

variable (reference : ImageReference)

theorem notMem_pathText {separator : Char} (known : separator = ':' ∨ separator = '@') :
    separator ∉ reference.pathText.toList := by
  intro listed
  rw [pathText, String.toList_intercalate] at listed
  rcases mem_of_mem_intercalate listed with between | ⟨part, member, inPart⟩
  · rcases known with rfl | rfl <;> simp at between
  · obtain ⟨segment, inPath, rfl⟩ := List.mem_map.mp member
    refine reference.path_avoids segment inPath separator ?_ inPart
    rcases known with rfl | rfl <;> simp

theorem notMem_host {host : RegistryHost} : '@' ∉ host.text.toList := by
  intro listed
  rw [RegistryHost.text, String.toList_append, String.toList_append, toList_marked,
    List.mem_append, List.mem_append] at listed
  rcases listed with (inName | inPort) | slash
  · exact host.name_avoids '@' (by simp) inName
  · cases port : host.port with
    | none => simp [port] at inPort
    | some number =>
        rw [port, Option.elim_some, List.mem_append] at inPort
        rcases inPort with colon | inNumber
        · simp at colon
        · exact host.port_avoids number port '@' (by simp) inNumber
  · simp at slash

/-- There is no at sign before the digest. -/
theorem notMem_untilDigest :
    '@' ∉ reference.repository.toList ++ (marked ":" reference.tag).toList := by
  intro listed
  rw [repository, String.toList_append, toList_marked, List.mem_append,
    List.mem_append] at listed
  rcases listed with (inHost | inPath) | inTag
  · cases host : reference.host with
    | none => simp [host] at inHost
    | some registry =>
        rw [host, Option.elim_some] at inHost
        exact notMem_host inHost
  · exact reference.notMem_pathText (Or.inr rfl) inPath
  · cases tag : reference.tag with
    | none => simp [tag] at inTag
    | some version =>
        rw [tag, Option.elim_some, List.mem_append] at inTag
        rcases inTag with colon | inVersion
        · simp at colon
        · exact reference.tag_avoids version tag '@' (by simp) inVersion

/-- A slash follows each colon of the repository. -/
theorem slash_of_afterLast_repository
    {rest : List Char} (found : afterLast ':' reference.repository.toList = some rest) :
    '/' ∈ rest := by
  have noColon := reference.notMem_pathText (Or.inl rfl)
  rw [repository, String.toList_append, afterLast_append, afterLast_eq_none noColon,
    Option.none_or] at found
  cases host : reference.host with
  | none =>
      rw [host] at found
      cases found
  | some registry =>
      -- the text of a registry ends with a slash
      rw [host, Option.elim_some, RegistryHost.text, String.toList_append, afterLast_append,
        afterLast_eq_none (by decide), Option.none_or, Option.map_map,
        Option.map_eq_some_iff] at found
      obtain ⟨port, _, rfl⟩ := found
      simp

theorem afterFirst_text :
    afterFirst "@sha256:".toList reference.text.toList =
      reference.digest.map String.toList := by
  have pattern : "@sha256:".toList = '@' :: "sha256:".toList := by decide
  have untilDigest := reference.notMem_untilDigest
  rw [text, String.toList_append, String.toList_append, toList_marked "@sha256:", pattern]
  cases reference.digest with
  | some hex =>
      rw [Option.elim_some, afterFirst_append untilDigest, afterFirst_self, Option.map_some]
  | none =>
      rw [Option.elim_none, List.append_nil, afterFirst_eq_none untilDigest,
        Option.map_none]

/-- Without a digest the last colon stands before the tag, or before a slash. -/
theorem afterLast_text (undigested : reference.digest = none) :
    afterLast ':' reference.text.toList =
      match reference.tag with
      | some version => some version.toList
      | none => afterLast ':' reference.repository.toList := by
  rw [text, String.toList_append, String.toList_append, toList_marked, toList_marked,
    undigested, Option.elim_none, List.append_nil]
  cases tag : reference.tag with
  | some version =>
      have noColon := reference.tag_avoids version tag ':' (by simp)
      have colon : ":".toList = [':'] := by decide
      have found : afterLast ':' (':' :: version.toList) = some version.toList := by
        rw [afterLast, afterLast_eq_none noColon]
        exact if_pos rfl
      rw [Option.elim_some, colon, List.singleton_append, afterLast_append, found,
        Option.some_or]
  | none => rw [Option.elim_none, List.append_nil]

/-- The hash of a core image is its digest, or else its tag, or else empty; the port of
the registry is never taken for a tag. -/
theorem core_image_hash_of_reference :
    getIBMCoreImageHash reference.text = reference.digest.getD (reference.tag.getD "") := by
  unfold getIBMCoreImageHash
  rw [afterFirst_text]
  cases digest : reference.digest with
  | some hex => exact String.ofList_toList
  | none =>
      rw [Option.map_none, afterLast_text reference digest, Option.getD_none]
      cases tag : reference.tag with
      | some version =>
          have noSlash : ¬version.toList.contains '/' = true := by
            rw [List.contains_iff_mem]
            exact reference.tag_avoids version tag '/' (by simp)
          rw [Option.getD_some]
          change (if version.toList.contains '/' then ""
            else String.ofList version.toList) = _
          rw [if_neg noSlash]
          exact String.ofList_toList
      | none =>
          rw [Option.getD_none]
          cases found : afterLast ':' reference.repository.toList with
          | none => rfl
          | some rest =>
              have slash := reference.slash_of_afterLast_repository found
              exact if_pos (List.contains_iff_mem.mpr slash)

end ImageReference

/-- A reference with all its parts. -/
def fullReference : ImageReference where
  host := some
    { name := "registry.example.com"
      port := some "5000"
      name_avoids := by decide
      port_avoids := by decide }
  path := ["ibm-spectrum-scale", "core"]
  tag := some "v5.2.3.1"
  digest := some "0f1e2d"
  path_avoids := by decide
  tag_avoids := by decide

example : fullReference.text =
      "registry.example.com:5000/ibm-spectrum-scale/core:v5.2.3.1@sha256:0f1e2d" ∧
    getIBMCoreImageHash fullReference.text = "0f1e2d" := by
  decide

end Installation
