import FusionAccess.Urls.Syntax

/-!
# External manifests

The install manifest may come from a URL of the administrator, which is applied with the
rights of the operator. It has to start with one of two texts.
-/

namespace Installation
namespace ManifestUrl

open Urls

/-! ## The check -/

/-- `unicode.IsSpace`. -/
def isSpace (char : Char) : Bool :=
  let code := char.toNat
  9 ≤ code && code ≤ 13 || 0x2000 ≤ code && code ≤ 0x200A ||
    [0x20, 0x85, 0xA0, 0x1680, 0x2028, 0x2029, 0x202F, 0x205F, 0x3000].contains code

/-- `strings.TrimSpace`. -/
def trimSpace (text : Text) : Text :=
  ((text.dropWhile isSpace).reverse.dropWhile isSpace).reverse

/-- The prefixes of allowed URLs. -/
def allowedPrefixes : List Text := [
  "https://raw.githubusercontent.com/openshift-storage-scale".toList,
  "https://raw.github.ibm.com/ibmspectrumscale/ibm-spectrum-scale-container-native".toList]

/-- The URL after trimming and lower-casing, for any lower case of characters. -/
def normalized (toLower : Char → Char) (url : String) : Text :=
  (trimSpace url.toList).map toLower

/-- `IsExternalManifestURLAllowed`. -/
def isExternalManifestURLAllowed (toLower : Char → Char) (url : String) : Bool :=
  allowedPrefixes.any fun allowed => allowed.isPrefixOf (normalized toLower url)

/-! ## The organisations -/

/-- The directory of the organisation on GitHub. -/
def openshiftStorageScale : Location where
  scheme := "https".toList
  authority := "raw.githubusercontent.com".toList
  directory := ["openshift-storage-scale".toList]
  schemeValid := by decide
  schemePlain := by decide
  authorityPlain := by decide
  directoryPlain := by decide
  ordinary := by decide
  named := by decide

/-- The directory of the repository at IBM. -/
def ibmSpectrumScale : Location where
  scheme := "https".toList
  authority := "raw.github.ibm.com".toList
  directory := ["ibmspectrumscale".toList, "ibm-spectrum-scale-container-native".toList]
  schemeValid := by decide
  schemePlain := by decide
  authorityPlain := by decide
  directoryPlain := by decide
  ordinary := by decide
  named := by decide

/-- The locations that manifests may come from. -/
def allowedLocations : List Location := [openshiftStorageScale, ibmSpectrumScale]

/-- The prefixes are the texts of the locations. -/
theorem allowedPrefixes_eq : allowedPrefixes = allowedLocations.map Location.text := by
  decide

/-- The text is a URL of one of the locations. -/
def ComesFromAllowedLocation (text : Text) : Prop :=
  ∃ url, parse text = some url ∧ ∃ location ∈ allowedLocations, location.Contains url

/-- What follows the prefix stays below the directory of the location. -/
def StaysInAllowedLocation (text : Text) : Prop :=
  ∃ location ∈ allowedLocations, ∃ rest, text = location.text ++ rest ∧ StaysBelow location.directory rest

theorem isExternalManifestURLAllowed_iff (toLower : Char → Char) (url : String) :
    isExternalManifestURLAllowed toLower url = true ↔
      ∃ location ∈ allowedLocations, ∃ rest, normalized toLower url = location.text ++ rest := by
  rw [isExternalManifestURLAllowed, allowedPrefixes_eq, List.any_map, List.any_eq_true]
  simp only [Function.comp_apply, List.isPrefixOf_iff_prefix]
  constructor
  · rintro ⟨location, listed, rest, same⟩
    exact ⟨location, listed, rest, same.symm⟩
  · rintro ⟨location, listed, rest, same⟩
    exact ⟨location, listed, rest, same.symm⟩

/-- The locations differ in their authorities. -/
theorem eq_of_authority :
    ∀ location ∈ allowedLocations, ∀ other ∈ allowedLocations, location.authority = other.authority →
      location = other := by
  intro location listed other listed' same
  simp only [allowedLocations, List.mem_cons, List.not_mem_nil, or_false] at listed listed'
  rcases listed with rfl | rfl <;> rcases listed' with rfl | rfl
  · rfl
  · exact absurd same (by decide)
  · exact absurd same (by decide)
  · rfl

/-- An accepted URL is one of an allowed location, also after its dot segments are resolved,
just if what follows the prefix stays below the directory. -/
theorem accepted_url_comes_from_allowed_location_iff
    (toLower : Char → Char) (url : String)
    (accepted : isExternalManifestURLAllowed toLower url = true) :
    ComesFromAllowedLocation (normalized toLower url) ↔
      StaysInAllowedLocation (normalized toLower url) := by
  constructor
  · rintro ⟨parsed, isUrl, other, listed', contains⟩
    obtain ⟨location, listed, rest, same⟩ :=
      (isExternalManifestURLAllowed_iff toLower url).mp accepted
    rw [same] at isUrl
    obtain rfl : location = other := eq_of_authority location listed other listed'
      ((location.authority_of_parse isUrl).symm.trans contains.authority)
    exact ⟨location, listed, rest, same,
      (location.contains_append_iff rest).mp ⟨parsed, isUrl, contains⟩⟩
  · rintro ⟨location, listed, rest, same, stays⟩
    obtain ⟨parsed, isUrl, contains⟩ := (location.contains_append_iff rest).mpr stays
    exact ⟨parsed, same ▸ isUrl, location, listed, contains⟩

theorem accepted_url_comes_from_allowed_location_iff_project :
    ComesFromAllowedLocation
      (normalized Char.toLower "https://raw.githubusercontent.com/openshift-storage-scale/project1") := by
  have accepted : isExternalManifestURLAllowed Char.toLower
      "https://raw.githubusercontent.com/openshift-storage-scale/project1" = true := by decide
  refine (accepted_url_comes_from_allowed_location_iff Char.toLower _ accepted).mpr
    ⟨openshiftStorageScale, List.mem_cons_self, "/project1".toList, by decide, ?_⟩
  exact ⟨fun _ isSlash => by cases isSlash; rfl, by decide, by decide⟩

/-! ## URLs of others -/

/-- In the directory of an organisation whose name goes on. -/
def longerName : String :=
  "https://raw.githubusercontent.com/openshift-storage-scale-fork/project1/install.yaml"

/-- Next to the directory of the organisation. -/
def throughParent : String :=
  "https://raw.githubusercontent.com/openshift-storage-scale/../fork/project1/install.yaml"

theorem not_comesFromAllowedLocation
    {text : Text} (foreign : ∀ url ∈ parse text, ∀ location ∈ allowedLocations, ¬location.Contains url) :
    ¬ComesFromAllowedLocation text := by
  rintro ⟨url, isUrl, location, listed, contains⟩
  exact foreign url isUrl location listed contains

/-- Both are accepted. -/
theorem foreign_urls_accepted :
    (isExternalManifestURLAllowed Char.toLower longerName = true ∧
      ¬ComesFromAllowedLocation (normalized Char.toLower longerName)) ∧
    isExternalManifestURLAllowed Char.toLower throughParent = true ∧
      ¬ComesFromAllowedLocation (normalized Char.toLower throughParent) := by
  refine ⟨⟨by decide, not_comesFromAllowedLocation ?_⟩, by decide, not_comesFromAllowedLocation ?_⟩
  · decide
  · decide

end ManifestUrl
end Installation
