import FusionAccess.Urls.DotSegments
import Mathlib.Data.List.TakeWhile

/-!
# URLs

A URL is split at its delimiters: the scheme ends before the first colon, the authority
before the next slash, question mark or number sign, and the path before the first of the
latter two. The parts consist of the characters that are permitted there, and of
percent-encoded bytes.
-/

namespace Urls

/-- A text. -/
abbrev Text : Type := List Char

/-! ## Characters -/

/-- Characters without a meaning of their own. -/
def isUnreserved (char : Char) : Bool :=
  char.isAlphanum || "-._~".toList.contains char

/-- Delimiters within a part. -/
def isSubDelim (char : Char) : Bool := "!$&\x27()*+,;=".toList.contains char

/-- The characters of a path. -/
def isPathChar (char : Char) : Bool :=
  isUnreserved char || isSubDelim char || ":@/".toList.contains char

/-- The characters of a query or a fragment. -/
def isQueryChar (char : Char) : Bool := isPathChar char || char = '?'

/-- The characters of an authority. -/
def isAuthorityChar (char : Char) : Bool :=
  isUnreserved char || isSubDelim char || ":@[]".toList.contains char

/-- A hexadecimal digit. -/
def isHexDigit (char : Char) : Bool :=
  char.isDigit || "abcdefABCDEF".toList.contains char

/-- The text consists of permitted characters and percent-encoded bytes. -/
def isEncoded (permitted : Char → Bool) : Text → Bool
  | [] => true
  | '%' :: first :: second :: rest =>
      isHexDigit first && isHexDigit second && isEncoded permitted rest
  | char :: rest => permitted char && isEncoded permitted rest

/-- The text is the name of a scheme. -/
def isScheme : Text → Bool
  | [] => false
  | first :: rest =>
      first.isAlpha && rest.all fun char => char.isAlphanum || "+-.".toList.contains char

/-! ## Parts -/

/-- What follows the authority. -/
structure Target where
  path : Text
  query : Option Text := none
  fragment : Option Text := none
  deriving DecidableEq

/-- A URL. -/
structure Url extends Target where
  scheme : Text
  authority : Text
  deriving DecidableEq

/-- Before a query and a fragment. -/
def isBeforeQuery (char : Char) : Bool := char ≠ '?' && char ≠ '#'

/-- Before the path as well. -/
def isBeforePath (char : Char) : Bool := char ≠ '/' && isBeforeQuery char

/-- Split off the query and the fragment. -/
def splitTarget (text : Text) : Target :=
  let path := text.takeWhile isBeforeQuery
  match text.dropWhile isBeforeQuery with
  | '?' :: rest =>
      { path, query := some (rest.takeWhile (· ≠ '#'))
        fragment := (rest.dropWhile (· ≠ '#')).tail? }
  | rest => { path, fragment := rest.tail? }

/-- The parts consist of the characters that are permitted there. -/
def Target.wellFormed (target : Target) : Bool :=
  isEncoded isPathChar target.path && (target.query.all (isEncoded isQueryChar) &&
    target.fragment.all (isEncoded isQueryChar))

/-- The same for a URL. -/
def Url.wellFormed (url : Url) : Bool :=
  isScheme url.scheme && isEncoded isAuthorityChar url.authority && url.toTarget.wellFormed

/-- The URL that a text is, if it is one with an authority. -/
def parse (text : Text) : Option Url :=
  match text.dropWhile (· ≠ ':') with
  | ':' :: '/' :: '/' :: rest =>
      let url : Url := { splitTarget (rest.dropWhile isBeforePath) with
        scheme := text.takeWhile (· ≠ ':')
        authority := rest.takeWhile isBeforePath }
      if url.wellFormed then some url else none
  | _ => none

/-! ## Paths -/

/-- The segments of a path; each of them follows a slash. -/
def segments (path : Text) : List Text := (path.splitOn '/').tail

/-- The ways to write a dot. -/
def dots : List Text := [".".toList, "%2e".toList, "%2E".toList]

/-- Dot segments stay where they are or go up. -/
def kind (segment : Text) : Step :=
  if segment ∈ dots then .stay
  else if segment ∈ dots.flatMap fun first => dots.map fun second => first ++ second then .up
  else .down

/-- The segments of a path after its dot segments are resolved. -/
abbrev resolved (path : Text) : List Text := resolve kind [] (segments path)

/-- The text of a path with the given segments. -/
def render (directory : List Text) : Text := directory.flatMap fun segment => '/' :: segment

/-- What follows a path is another segment, a query or a fragment. -/
def Delimited (rest : Text) : Prop := ∀ char, rest.head? = some char → isBeforePath char = false

/-- The text is below a directory that it follows: it delimits the last name, and its
segments, counted from the directory, lead back to all of it. -/
structure StaysBelow (directory : List Text) (rest : Text) : Prop where
  delimited : Delimited rest
  wellFormed : (splitTarget rest).wellFormed = true
  returns : ((segments (splitTarget rest).path).foldl (advance kind directory)
    ⟨directory.length, 0⟩).kept = directory.length

/-! ## Texts one after the other -/

theorem isPathChar_of_isUnreserved {char : Char} (plain : isUnreserved char = true) :
    isPathChar char = true := by
  rw [isPathChar, plain]
  rfl

theorem isAuthorityChar_of_isUnreserved {char : Char} (plain : isUnreserved char = true) :
    isAuthorityChar char = true := by
  rw [isAuthorityChar, plain]
  rfl

theorem ne_of_isUnreserved
    {char other : Char} (plain : isUnreserved char = true) (special : isUnreserved other = false) :
    char ≠ other := by
  rintro rfl
  rw [plain] at special
  cases special

theorem isBeforeQuery_of_isUnreserved {char : Char} (plain : isUnreserved char = true) :
    isBeforeQuery char = true := by
  have question : char ≠ '?' := ne_of_isUnreserved plain (by decide)
  have number : char ≠ '#' := ne_of_isUnreserved plain (by decide)
  simp [isBeforeQuery, question, number]

theorem isBeforePath_of_isUnreserved {char : Char} (plain : isUnreserved char = true) :
    isBeforePath char = true := by
  have slash : char ≠ '/' := ne_of_isUnreserved plain (by decide)
  simp [isBeforePath, slash, isBeforeQuery_of_isUnreserved plain]

/-- Characters that stand for themselves do not matter for what follows them. -/
theorem isEncoded_append
    {permitted : Char → Bool} {text : Text}
    (plain : ∀ char ∈ text, permitted char = true ∧ char ≠ '%') (rest : Text) :
    isEncoded permitted (text ++ rest) = isEncoded permitted rest := by
  induction text with
  | nil => rfl
  | cons head tail inductionHypothesis =>
      obtain ⟨⟨isPermitted, noPercent⟩, others⟩ := List.forall_mem_cons.mp plain
      rw [List.cons_append, isEncoded, isPermitted, inductionHypothesis others, Bool.true_and]
      exact fun _ _ _ isPercent => absurd isPercent noPercent

theorem splitTarget_append
    {text : Text} (before : ∀ char ∈ text, isBeforeQuery char = true) (rest : Text) :
    splitTarget (text ++ rest) =
      { splitTarget rest with path := text ++ (splitTarget rest).path } := by
  unfold splitTarget
  rw [List.takeWhile_append_of_pos before, List.dropWhile_append_of_pos before]
  dsimp only
  split <;> rfl

theorem splitTarget_path (text : Text) :
    (splitTarget text).path = text.takeWhile isBeforeQuery := by
  unfold splitTarget
  dsimp only
  split <;> rfl

/-- A text is delimited if its path is empty or starts with a slash. -/
theorem delimited_iff (rest : Text) :
    Delimited rest ↔
      (splitTarget rest).path = [] ∨ (splitTarget rest).path.head? = some '/' := by
  rw [splitTarget_path]
  cases rest with
  | nil => simp [Delimited]
  | cons head tail =>
      by_cases before : isBeforeQuery head = true
      · rw [List.takeWhile_cons_of_pos before]
        simp [Delimited, isBeforePath, before]
      · rw [List.takeWhile_cons_of_neg before]
        simp [Delimited, isBeforePath, before]

theorem Delimited.dropWhile {rest : Text} (delimited : Delimited rest) :
    rest.dropWhile isBeforePath = rest ∧ rest.takeWhile isBeforePath = [] := by
  cases rest with
  | nil => exact ⟨rfl, rfl⟩
  | cons head tail =>
      have isDelimiter : ¬isBeforePath head = true := by simp [delimited head rfl]
      exact ⟨List.dropWhile_cons_of_neg isDelimiter, List.takeWhile_cons_of_neg isDelimiter⟩

/-- A text that is put together of the parts of a URL is split into them. -/
theorem parse_append
    {scheme authority rest : Text} (noColon : ∀ char ∈ scheme, decide (char ≠ ':') = true)
    (before : ∀ char ∈ authority, isBeforePath char = true) (delimited : Delimited rest) :
    parse (scheme ++ ("://".toList ++ (authority ++ rest))) =
      let url : Url := { splitTarget rest with scheme, authority }
      if url.wellFormed then some url else none := by
  have colon : ¬(fun char : Char => decide (char ≠ ':')) ':' = true := by decide
  obtain ⟨target, noMore⟩ := delimited.dropWhile
  rw [parse, List.dropWhile_append_of_pos noColon, List.takeWhile_append_of_pos noColon]
  change (let url : Url := { splitTarget ((authority ++ rest).dropWhile isBeforePath) with
      scheme := scheme ++ ([':', '/', '/'] ++ (authority ++ rest)).takeWhile (· ≠ ':')
      authority := (authority ++ rest).takeWhile isBeforePath }
    if url.wellFormed then some url else none) = _
  rw [List.dropWhile_append_of_pos before, List.takeWhile_append_of_pos before, target, noMore,
    List.cons_append, @List.takeWhile_cons_of_neg _ _ ':' _ colon, List.append_nil, List.append_nil]

/-! ## Segments one after the other -/

theorem segments_slash (rest : Text) : segments ('/' :: rest) = rest.splitOn '/' := by
  rw [segments, List.splitOn_cons_eq_if_modifyHead, if_pos (by decide), List.tail_cons]

/-- The first segment ends before the next slash. -/
theorem head?_segments_slash (rest : Text) :
    (segments ('/' :: rest)).head? = some (rest.takeWhile (· ≠ '/')) := by
  rw [segments_slash]
  induction rest with
  | nil => rfl
  | cons head tail inductionHypothesis =>
      rw [List.splitOn_cons_eq_if_modifyHead]
      by_cases isSlash : head = '/'
      · subst isSlash
        rfl
      · rw [if_neg (by simpa using isSlash), List.takeWhile_cons_of_pos (by simpa using isSlash)]
        rw [List.head?_modifyHead, inductionHypothesis]
        rfl

theorem splitOn_append
    {segment : Text} (none : '/' ∉ segment)
    {rest : Text} (slash : rest = [] ∨ rest.head? = some '/') :
    (segment ++ rest).splitOn '/' = segment :: segments rest := by
  cases rest with
  | nil =>
      rw [List.append_nil, List.splitOn_eq_singleton none]
      rfl
  | cons head tail =>
      obtain rfl : head = '/' := by simpa using slash
      rw [List.splitOn_append_cons_self_of_not_mem none, segments_slash]

theorem slash_render_append
    (directory : List Text) {path : Text} (slash : path = [] ∨ path.head? = some '/') :
    render directory ++ path = [] ∨ (render directory ++ path).head? = some '/' := by
  cases directory with
  | nil => exact slash
  | cons head tail => exact Or.inr rfl

/-- The names of a directory are the first segments of what it starts. -/
theorem segments_render_append
    {directory : List Text} (noSlash : ∀ segment ∈ directory, '/' ∉ segment)
    {path : Text} (slash : path = [] ∨ path.head? = some '/') :
    segments (render directory ++ path) = directory ++ segments path := by
  induction directory with
  | nil => rfl
  | cons head tail inductionHypothesis =>
      obtain ⟨none, others⟩ := List.forall_mem_cons.mp noSlash
      have follows := slash_render_append tail slash
      rw [render, List.flatMap_cons, ← render, List.append_assoc, List.cons_append, segments_slash,
        splitOn_append none follows, inductionHypothesis others, List.cons_append]

/-- They are not if the last name goes on. -/
theorem isPrefix_segments_iff
    {directory : List Text} (named : directory ≠ [])
    (noSlash : ∀ segment ∈ directory, '/' ∉ segment) (path : Text) :
    directory <+: segments (render directory ++ path) ↔
      path = [] ∨ path.head? = some '/' := by
  constructor
  · intro isBelow
    induction directory with
    | nil => exact absurd rfl named
    | cons head tail inductionHypothesis =>
        obtain ⟨none, others⟩ := List.forall_mem_cons.mp noSlash
        rw [render, List.flatMap_cons, ← render, List.append_assoc, List.cons_append] at isBelow
        cases tail with
        | nil =>
            obtain ⟨more, same⟩ := isBelow
            have first := head?_segments_slash (head ++ path)
            have inside : ∀ char ∈ head, decide (char ≠ '/') = true := fun char listed =>
              decide_eq_true fun isSlash => none (isSlash ▸ listed)
            change [head] ++ more = segments ('/' :: (head ++ path)) at same
            rw [← same, List.takeWhile_append_of_pos inside, List.singleton_append,
              List.head?_cons, Option.some.injEq, List.self_eq_append_right] at first
            cases path with
            | nil => exact Or.inl rfl
            | cons next rest => simpa using first
        | cons next names =>
            rw [segments_slash, splitOn_append none (Or.inr rfl)] at isBelow
            exact inductionHypothesis (List.cons_ne_nil _ _) others
              (List.cons_prefix_cons.mp isBelow).2
  · intro slash
    rw [segments_render_append noSlash slash]
    exact List.prefix_append directory _

/-! ## Locations -/

/-- A directory at an authority; the names are ordinary ones. -/
structure Location where
  scheme : Text
  authority : Text
  directory : List Text
  schemeValid : isScheme scheme = true
  schemePlain : (scheme.all fun char => decide (char ≠ ':')) = true
  authorityPlain : authority.all isUnreserved = true
  directoryPlain : (directory.all fun segment => segment.all isUnreserved) = true
  ordinary : ∀ segment ∈ directory, segment ≠ [] ∧ kind segment = .down
  named : directory ≠ []

namespace Location

variable (location : Location)

/-- The text of a location. -/
def text : Text :=
  location.scheme ++ ("://".toList ++ (location.authority ++ render location.directory))

/-- The URL is one of the location, before and after its dot segments are resolved. -/
structure Contains (url : Url) : Prop where
  scheme : url.scheme = location.scheme
  authority : url.authority = location.authority
  directory : location.directory <+: segments url.path
  resolved : location.directory <+: resolved url.path

instance (url : Url) : Decidable (location.Contains url) :=
  decidable_of_iff
    (url.scheme = location.scheme ∧ url.authority = location.authority ∧
      location.directory <+: segments url.path ∧ location.directory <+: Urls.resolved url.path)
    ⟨fun ⟨scheme, authority, directory, resolved⟩ => ⟨scheme, authority, directory, resolved⟩,
      fun ⟨scheme, authority, directory, resolved⟩ => ⟨scheme, authority, directory, resolved⟩⟩

theorem isUnreserved_of_mem_authority {char : Char} (listed : char ∈ location.authority) :
    isUnreserved char = true :=
  List.all_eq_true.mp location.authorityPlain char listed

theorem isUnreserved_of_mem_directory
    {segment : Text} (listed : segment ∈ location.directory) {char : Char}
    (within : char ∈ segment) : isUnreserved char = true :=
  List.all_eq_true.mp (List.all_eq_true.mp location.directoryPlain segment listed) char within

theorem noSlash (segment : Text) (listed : segment ∈ location.directory) : '/' ∉ segment :=
  fun isSlash => ne_of_isUnreserved (location.isUnreserved_of_mem_directory listed isSlash)
    (by decide) rfl

theorem blank_notMem : [] ∉ location.directory := fun listed => (location.ordinary [] listed).1 rfl

/-- The characters of the directory. -/
theorem isPathChar_of_mem_render {char : Char} (listed : char ∈ render location.directory) :
    isPathChar char = true ∧ char ≠ '%' ∧ isBeforeQuery char = true := by
  obtain ⟨segment, isSegment, within⟩ := List.mem_flatMap.mp listed
  rcases List.mem_cons.mp within with rfl | within
  · decide
  · have plain := location.isUnreserved_of_mem_directory isSegment within
    exact ⟨isPathChar_of_isUnreserved plain, ne_of_isUnreserved plain (by decide),
      isBeforeQuery_of_isUnreserved plain⟩

/-- What follows the authority of a location, with more text after it. -/
theorem splitTarget_render_append (rest : Text) :
    splitTarget (render location.directory ++ rest) =
      { splitTarget rest with path := render location.directory ++ (splitTarget rest).path } :=
  splitTarget_append (fun _ listed => (location.isPathChar_of_mem_render listed).2.2) rest

theorem delimited_render_append (rest : Text) : Delimited (render location.directory ++ rest) := by
  intro char isFirst
  cases names : location.directory with
  | nil => exact absurd names location.named
  | cons head tail =>
      rw [names] at isFirst
      cases isFirst
      rfl

/-- It is well-formed just if the rest is. -/
theorem wellFormed_render_append (rest : Text) :
    (splitTarget (render location.directory ++ rest)).wellFormed = (splitTarget rest).wellFormed := by
  have plain : ∀ char ∈ render location.directory, isPathChar char = true ∧ char ≠ '%' :=
    fun char listed => ⟨(location.isPathChar_of_mem_render listed).1,
      (location.isPathChar_of_mem_render listed).2.1⟩
  rw [splitTarget_render_append, Target.wellFormed, isEncoded_append plain]
  rfl

theorem isEncoded_authority : isEncoded isAuthorityChar location.authority = true := by
  have plain : ∀ char ∈ location.authority, isAuthorityChar char = true ∧ char ≠ '%' :=
    fun char listed =>
      ⟨isAuthorityChar_of_isUnreserved (location.isUnreserved_of_mem_authority listed),
        ne_of_isUnreserved (location.isUnreserved_of_mem_authority listed) (by decide)⟩
  rw [← List.append_nil location.authority, isEncoded_append plain]
  rfl

/-- The text of a location with more after it is a URL just if the rest is well-formed. -/
theorem parse_text_append (rest : Text) :
    parse (location.text ++ rest) =
      if (splitTarget rest).wellFormed then
        some { splitTarget (render location.directory ++ rest) with
          scheme := location.scheme, authority := location.authority }
      else none := by
  have before : ∀ char ∈ location.authority, isBeforePath char = true := fun char listed =>
    isBeforePath_of_isUnreserved (location.isUnreserved_of_mem_authority listed)
  rw [text, List.append_assoc, List.append_assoc, List.append_assoc,
    parse_append (List.all_eq_true.mp location.schemePlain) before (location.delimited_render_append rest)]
  dsimp only
  rw [Url.wellFormed, location.schemeValid, location.isEncoded_authority,
    location.wellFormed_render_append, Bool.true_and, Bool.true_and]

theorem authority_of_parse
    {rest : Text} {url : Url} (isUrl : parse (location.text ++ rest) = some url) :
    url.authority = location.authority := by
  rw [parse_text_append] at isUrl
  split at isUrl
  · cases isUrl
    rfl
  · cases isUrl

/-- A text that starts with that of a location is a URL of the location just if the rest stays
below its directory. -/
theorem contains_append_iff (rest : Text) :
    (∃ url, parse (location.text ++ rest) = some url ∧ location.Contains url) ↔
      StaysBelow location.directory rest := by
  have down : ∀ segment ∈ location.directory, kind segment = .down :=
    fun segment listed => (location.ordinary segment listed).2
  have resolved_iff : ∀ path : Text, path = [] ∨ path.head? = some '/' →
      (location.directory <+: resolved (render location.directory ++ path) ↔
        ((segments path).foldl (advance kind location.directory)
          ⟨location.directory.length, 0⟩).kept = location.directory.length) := by
    intro path slash
    rw [resolved, segments_render_append location.noSlash slash]
    exact isPrefix_resolve_iff kind (by decide) location.blank_notMem down (segments path)
  rw [location.parse_text_append]
  constructor
  · rintro ⟨url, isUrl, contains⟩
    split at isUrl
    next wellFormed =>
      cases isUrl
      have inside := contains.directory
      have returns := contains.resolved
      simp only [splitTarget_render_append] at inside returns
      have slash := (isPrefix_segments_iff location.named location.noSlash _).mp inside
      exact ⟨(delimited_iff rest).mpr slash, wellFormed, (resolved_iff _ slash).mp returns⟩
    · cases isUrl
  · intro stays
    have slash := (delimited_iff rest).mp stays.delimited
    rw [if_pos stays.wellFormed]
    refine ⟨_, rfl, rfl, rfl, ?_, ?_⟩
    · simp only [splitTarget_render_append]
      exact (isPrefix_segments_iff location.named location.noSlash _).mpr slash
    · simp only [splitTarget_render_append]
      exact (resolved_iff _ slash).mpr stays.returns

end Location
end Urls
