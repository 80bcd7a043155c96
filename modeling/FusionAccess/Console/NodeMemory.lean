import FusionAccess.Kubernetes.Objects
import FusionAccess.Patterns.Matching
import Mathlib.Algebra.Order.Field.Basic
import Mathlib.Algebra.Order.Field.Rat
import Mathlib.Data.List.TakeWhile
import Mathlib.Data.Nat.Digits.Defs
import Mathlib.Data.Rat.Defs
import Mathlib.Tactic.FieldSimp
import Mathlib.Tactic.NormNum
import Mathlib.Tactic.Ring

/-!
# The memory of a node

The row of a node shows its memory, and warns where this is too small for a storage
cluster. The memory is a quantity of Kubernetes, a decimal number and a suffix. The
console takes it apart with a regular expression and hands number and unit to a library,
which converts them. Numbers are exact here.
-/

namespace Console.NodeMemory

open Kubernetes Patterns

/-! ## Numbers -/

/-- The value of a digit. -/
def digitValue (digit : Char) : ℕ := digit.toNat - '0'.toNat

/-- The value of a sequence of digits. -/
def digitsValue (digits : List Char) : ℕ :=
  digits.foldl (fun value digit => 10 * value + digitValue digit) 0

/-- `parseInt` with radix 10, of a text that begins with a digit. -/
def parseInt (text : List Char) : ℚ := digitsValue (text.takeWhile Char.isDigit)

/-- `parseFloat`, of a text that begins with a number without sign and exponent. -/
def parseFloat (text : List Char) : ℚ :=
  let whole := text.takeWhile Char.isDigit
  match text.dropWhile Char.isDigit with
  | '.' :: rest =>
      let fraction := rest.takeWhile Char.isDigit
      digitsValue whole + digitsValue fraction / 10 ^ fraction.length
  | _ => digitsValue whole

/-! ## Quantities -/

/-- `QuantityDescriptorUnit`, a union of texts. The matched suffix is cast to it. -/
abbrev QuantityDescriptorUnit : Type := String

/-- `QuantityDescriptor`. -/
structure QuantityDescriptor where
  unit : QuantityDescriptorUnit := "B"
  value : ℚ := 0

/-- A text or a number. -/
inductive Quantity
  | string (quantity : String)
  | number (quantity : ℚ)

/-- `QUANTITY_RE` as it is written. -/
def quantityREText : String :=
  "/^(?<sign>[+-])?(?<number>\\d+|\\d+\\.\\d+|\\.\\d+|\\d+\\.)" ++
    "(?<suffix>[mk]|Ki|[MGTPE]i?)?$/"

/-- One of these characters. -/
def oneOf (chars : String) : Pattern String := .one chars.toList.contains

/-- `\d+`. -/
def digits : Pattern String := .many Char.isDigit

/-- `\d+|\d+\.\d+|\.\d+|\d+\.`. -/
def numberRE : Pattern String :=
  .alt digits
    (.alt (.seq digits (.seq (oneOf ".") digits))
      (.alt (.seq (oneOf ".") digits) (.seq digits (oneOf "."))))

/-- `[mk]|Ki|[MGTPE]i?`. -/
def suffixRE : Pattern String :=
  .alt (oneOf "mk")
    (.alt (.seq (oneOf "K") (oneOf "i")) (.seq (oneOf "MGTPE") (.opt (oneOf "i"))))

/-- `QUANTITY_RE`. -/
def quantityRE : Pattern String :=
  .seq (.opt (.group "sign" (oneOf "+-")))
    (.seq (.group "number" numberRE) (.opt (.group "suffix" suffixRE)))

/-- The text of a group, unless it is undefined or empty. -/
def groupText (groups : Groups String) (name : String) : Option (List Char) :=
  (groups.lookup name).filter (· ≠ [])

/-- `parseQuantity`. -/
def parseQuantity : Quantity → Except String QuantityDescriptor
  | .number quantity => .ok { value := quantity }
  | .string quantity =>
      match quantityRE.exec quantity.toList with
      | none =>
          .error ("quantities must match the regular expression " ++ quantityREText)
      | some groups =>
          match groupText groups "number" with
          | none => .error "unable to parse numeric part of quantity"
          | some number =>
              match groupText groups "suffix" with
              | none => .error "unable to parse quantity's suffix"
              | some suffix =>
                  .ok
                    { unit := String.ofList suffix
                      value := if number.contains '.' then parseFloat number
                        else parseInt number }

/-! ## The memory -/

/-- The status of a node. -/
structure NodeStatus where
  capacity : Option StringMap := none

/-- `IoK8sApiCoreV1Node`. -/
structure IoK8sApiCoreV1Node where
  status : Option NodeStatus := none

/-- `node.status?.capacity?.memory`. -/
def IoK8sApiCoreV1Node.memory? (node : IoK8sApiCoreV1Node) : Option String :=
  node.status.bind fun status => status.capacity.bind fun capacity => capacity.get? "memory"

/-- The library that converts amounts between units: `convert(value, unit)` and
`converter.to(unit)`. -/
structure ConvertLibrary where
  Converter : Type
  convert : ℚ → String → Converter
  toUnit : Converter → String → ℚ

/-- The amount and the unit for the library, which lacks exabytes and exbibytes. -/
def adapt (quantity : QuantityDescriptor) : ℚ × String :=
  if quantity.unit = "B" then (quantity.value, quantity.unit)
  else if quantity.unit = "E" then (quantity.value * 1000, "PB")
  else if quantity.unit = "Ei" then (quantity.value * 1024, "PiB")
  else (quantity.value, quantity.unit ++ "B")

/-- `getMemory`. -/
def getMemory (library : ConvertLibrary) (node : IoK8sApiCoreV1Node) :
    Except String library.Converter :=
  match node.memory? with
  | none => .error "node's memory is not available"
  | some memory =>
      if memory = "" then .error "node's memory is not available"
      else do
        let quantity ← parseQuantity (.string memory)
        let (adaptedValue, adaptedUnit) := adapt quantity
        return library.convert adaptedValue adaptedUnit

/-- `MINIMUM_AMOUNT_OF_MEMORY_GIB`. -/
def minimumAmountOfMemoryGiB : ℚ := 20

/-- The row of a node warns that its memory is insufficient. -/
def warnsOfInsufficientMemory
    (library : ConvertLibrary) (node : IoK8sApiCoreV1Node) : Bool :=
  match getMemory library node with
  | .error _ => false
  | .ok value => library.toUnit value "GiB" < minimumAmountOfMemoryGiB

/-! ## What quantities and units mean -/

/-- An unsigned decimal number: digits, with or without a point and digits after it. -/
structure DecimalNumber where
  whole : List Char
  fraction : Option (List Char)
  wholeDigits : ∀ digit ∈ whole, digit.isDigit = true
  fractionDigits : ∀ digit ∈ fraction.getD [], digit.isDigit = true
  nonempty : whole ≠ [] ∨ fraction.getD [] ≠ []

/-- The number as it is written. -/
def DecimalNumber.text (number : DecimalNumber) : List Char :=
  match number.fraction with
  | none => number.whole
  | some fraction => number.whole ++ '.' :: fraction

/-- The value in positional notation, the first digit after the point being a tenth. -/
def DecimalNumber.value (number : DecimalNumber) : ℚ :=
  Nat.ofDigits (10 : ℚ) (number.whole.reverse.map digitValue) +
    Nat.ofDigits (10⁻¹ : ℚ) (0 :: (number.fraction.getD []).map digitValue)

/-- The suffixes of quantities of bytes. -/
inductive Suffix
  | none
  | k
  | M
  | G
  | T
  | P
  | E
  | Ki
  | Mi
  | Gi
  | Ti
  | Pi
  | Ei
  deriving DecidableEq

/-- The suffix as it is written. -/
def Suffix.text : Suffix → String
  | .none => ""
  | .k => "k"
  | .M => "M"
  | .G => "G"
  | .T => "T"
  | .P => "P"
  | .E => "E"
  | .Ki => "Ki"
  | .Mi => "Mi"
  | .Gi => "Gi"
  | .Ti => "Ti"
  | .Pi => "Pi"
  | .Ei => "Ei"

/-- The number of bytes that a suffix stands for. -/
def Suffix.multiplier : Suffix → ℕ
  | .none => 1
  | .k => 1000
  | .M => 1000 ^ 2
  | .G => 1000 ^ 3
  | .T => 1000 ^ 4
  | .P => 1000 ^ 5
  | .E => 1000 ^ 6
  | .Ki => 1024
  | .Mi => 1024 ^ 2
  | .Gi => 1024 ^ 3
  | .Ti => 1024 ^ 4
  | .Pi => 1024 ^ 5
  | .Ei => 1024 ^ 6

/-- `ConvertableUnit`. -/
inductive ConvertableUnit
  | B
  | kB
  | MB
  | GB
  | TB
  | PB
  | KiB
  | MiB
  | GiB
  | TiB
  | PiB

/-- The unit as it is written. -/
def ConvertableUnit.text : ConvertableUnit → String
  | .B => "B"
  | .kB => "kB"
  | .MB => "MB"
  | .GB => "GB"
  | .TB => "TB"
  | .PB => "PB"
  | .KiB => "KiB"
  | .MiB => "MiB"
  | .GiB => "GiB"
  | .TiB => "TiB"
  | .PiB => "PiB"

/-- The number of bytes that a unit stands for. -/
def ConvertableUnit.bytes : ConvertableUnit → ℕ
  | .B => 1
  | .kB => 1000
  | .MB => 1000 ^ 2
  | .GB => 1000 ^ 3
  | .TB => 1000 ^ 4
  | .PB => 1000 ^ 5
  | .KiB => 1024
  | .MiB => 1024 ^ 2
  | .GiB => 1024 ^ 3
  | .TiB => 1024 ^ 4
  | .PiB => 1024 ^ 5

/-- The library is correct on all units that it is given. -/
def ConvertLibrary.IsCorrect (library : ConvertLibrary) : Prop :=
  ∀ (value : ℚ) (unit target : ConvertableUnit),
    library.toUnit (library.convert value unit.text) target.text =
      value * unit.bytes / target.bytes

/-! ## The value of a number -/

theorem digitsValue_eq_ofDigits (digits : List Char) :
    (digitsValue digits : ℚ) = Nat.ofDigits (10 : ℚ) (digits.reverse.map digitValue) := by
  have natural : digitsValue digits = Nat.ofDigits 10 (digits.reverse.map digitValue) := by
    rw [digitsValue, Nat.ofDigits_eq_foldr, List.map_reverse, List.foldr_reverse,
      List.foldl_map]
    congr 1
    funext value digit
    exact Nat.add_comm _ _
  rw [natural, Nat.coe_ofDigits]
  rfl

theorem ofDigits_append_singleton (digits : List ℕ) (last : ℕ) :
    Nat.ofDigits (10 : ℚ) (digits ++ [last]) =
      Nat.ofDigits (10 : ℚ) digits + 10 ^ digits.length * last := by
  induction digits with
  | nil => simp [Nat.ofDigits]
  | cons head tail inductionHypothesis =>
      rw [List.cons_append, Nat.ofDigits, inductionHypothesis, Nat.ofDigits,
        List.length_cons, pow_succ]
      ring

/-- Digits after the point: as many tenths of their value as there are digits. -/
theorem digitsValue_div_pow (digits : List Char) :
    (digitsValue digits : ℚ) / 10 ^ digits.length =
      Nat.ofDigits (10⁻¹ : ℚ) (0 :: digits.map digitValue) := by
  rw [digitsValue_eq_ofDigits]
  induction digits with
  | nil => simp [Nat.ofDigits]
  | cons head tail inductionHypothesis =>
      rw [List.reverse_cons, List.map_append, List.map_singleton, ofDigits_append_singleton,
        List.length_map, List.length_reverse, List.length_cons, List.map_cons]
      rw [Nat.ofDigits, Nat.cast_zero, zero_add] at inductionHypothesis ⊢
      rw [Nat.ofDigits, ← inductionHypothesis, pow_succ]
      field_simp
      ring

theorem DecimalNumber.value_eq (number : DecimalNumber) :
    number.value = digitsValue number.whole +
      digitsValue (number.fraction.getD []) / 10 ^ (number.fraction.getD []).length := by
  rw [DecimalNumber.value, ← digitsValue_eq_ofDigits, ← digitsValue_div_pow]

/-- Digits without a point are what they are worth together. -/
theorem DecimalNumber.value_of_integer
    {number : DecimalNumber} (integer : number.fraction = none) :
    number.value = digitsValue number.whole := by
  have none : (digitsValue [] : ℚ) / 10 ^ 0 = 0 := by norm_num [digitsValue]
  rw [value_eq, integer, Option.getD_none, List.length_nil, none, add_zero]

theorem parseFloat_point
    {whole fraction : List Char} (wholeDigits : ∀ digit ∈ whole, digit.isDigit = true)
    (fractionDigits : ∀ digit ∈ fraction, digit.isDigit = true) :
    parseFloat (whole ++ '.' :: fraction) =
      digitsValue whole + digitsValue fraction / 10 ^ fraction.length := by
  have taken : (whole ++ '.' :: fraction).takeWhile Char.isDigit = whole := by
    rw [List.takeWhile_append_of_pos wholeDigits, List.takeWhile_cons_of_neg (by decide),
      List.append_nil]
  have left : (whole ++ '.' :: fraction).dropWhile Char.isDigit = '.' :: fraction := by
    rw [List.dropWhile_append_of_pos wholeDigits, List.dropWhile_cons_of_neg (by decide)]
  rw [parseFloat, taken, left]
  change (digitsValue whole : ℚ) + digitsValue (fraction.takeWhile _) /
    10 ^ (fraction.takeWhile _).length = _
  rw [List.takeWhile_eq_self_iff.mpr fractionDigits]

/-- What is read off a number is its value, whichever parser is chosen. -/
theorem parse_text (number : DecimalNumber) :
    (if number.text.contains '.' then parseFloat number.text else parseInt number.text) =
      number.value := by
  obtain ⟨whole, fraction, wholeDigits, fractionDigits, nonempty⟩ := number
  cases fraction with
  | none =>
      have noPoint : ¬ whole.contains '.' = true := by
        rw [List.contains_iff_mem]
        exact fun member => absurd (wholeDigits '.' member) (by decide)
      change (if whole.contains '.' then parseFloat whole else parseInt whole) = _
      rw [if_neg noPoint, parseInt, List.takeWhile_eq_self_iff.mpr wholeDigits,
        DecimalNumber.value_of_integer rfl]
  | some fraction =>
      rw [Option.getD_some] at fractionDigits
      have point : (whole ++ '.' :: fraction).contains '.' = true := by
        rw [List.contains_iff_mem]
        exact List.mem_append_right whole List.mem_cons_self
      change (if (whole ++ '.' :: fraction).contains '.' then
        parseFloat (whole ++ '.' :: fraction) else parseInt (whole ++ '.' :: fraction)) = _
      rw [if_pos point, parseFloat_point wholeDigits fractionDigits, DecimalNumber.value_eq,
        Option.getD_some]

/-! ## The text of a quantity -/

/-- A character of a number. -/
def isNumeric (char : Char) : Bool := char.isDigit || char == '.'

theorem numberRE_within : numberRE.Within fun char => isNumeric char = true := by
  have digit : ∀ char : Char, char.isDigit = true → isNumeric char = true :=
    fun char isDigit => by rw [isNumeric, isDigit, Bool.true_or]
  have point : ∀ char : Char, ".".toList.contains char = true → isNumeric char = true := by
    intro char isPoint
    rw [List.contains_iff_mem] at isPoint
    rw [List.mem_singleton.mp isPoint]
    rfl
  exact ⟨digit, ⟨digit, point, digit⟩, ⟨point, digit⟩, digit, point⟩

theorem suffixRE_within : suffixRE.Within fun char => ¬ isNumeric char = true := by
  have letters (chars : String) (none : chars.toList.any isNumeric = false) :
      ∀ char, chars.toList.contains char = true → ¬ isNumeric char = true :=
    fun char member => List.any_eq_false.mp none char (List.contains_iff_mem.mp member)
  exact ⟨letters "mk" rfl, ⟨letters "K" rfl, letters "i" rfl⟩, letters "MGTPE" rfl,
    letters "i" rfl⟩

theorem oneOf_denotes {chars : String} {char : Char} (member : char ∈ chars.toList) :
    (oneOf chars).Denotes [] [char] :=
  ⟨rfl, char, List.contains_iff_mem.mpr member, rfl⟩

/-- Numbers are written as the expression has it. -/
theorem numberRE_denotes (number : DecimalNumber) : numberRE.Denotes [] number.text := by
  obtain ⟨whole, fraction, wholeDigits, fractionDigits, nonempty⟩ := number
  have point : (oneOf ".").Denotes [] ['.'] := oneOf_denotes (by decide)
  cases fraction with
  | none =>
      have some : whole ≠ [] := nonempty.resolve_right fun other => other rfl
      exact Or.inl ⟨rfl, some, wholeDigits⟩
  | some fraction =>
      rw [Option.getD_some] at fractionDigits nonempty
      change numberRE.Denotes [] (whole ++ (['.'] ++ fraction))
      by_cases noWhole : whole = []
      · have after : digits.Denotes [] fraction :=
          ⟨rfl, nonempty.resolve_left fun other => other noWhole, fractionDigits⟩
        rw [noWhole, List.nil_append]
        exact Or.inr (Or.inr (Or.inl (point.append after)))
      · have before : digits.Denotes [] whole := ⟨rfl, noWhole, wholeDigits⟩
        by_cases noFraction : fraction = []
        · rw [noFraction, List.append_nil]
          exact Or.inr (Or.inr (Or.inr (before.append point)))
        · have after : digits.Denotes [] fraction := ⟨rfl, noFraction, fractionDigits⟩
          exact Or.inr (Or.inl (before.append (point.append after)))

theorem suffixRE_decimal {letter : Char} (member : letter ∈ "MGTPE".toList) :
    suffixRE.Denotes [] [letter] :=
  Or.inr (Or.inr ((oneOf_denotes member).append (Or.inr ⟨rfl, rfl⟩)))

theorem suffixRE_binary {letter : Char} (member : letter ∈ "MGTPE".toList) :
    suffixRE.Denotes [] [letter, 'i'] :=
  Or.inr (Or.inr ((oneOf_denotes member).append (Or.inl (oneOf_denotes (by decide)))))

/-- Suffixes are written as the expression has it. -/
theorem suffixRE_denotes (suffix : Suffix) (some : suffix ≠ .none) :
    suffixRE.Denotes [] suffix.text.toList := by
  cases suffix with
  | none => exact absurd rfl some
  | k => exact Or.inl (oneOf_denotes (by decide))
  | Ki =>
      exact Or.inr (Or.inl ((oneOf_denotes (by decide)).append (oneOf_denotes (by decide))))
  | M | G | T | P | E => exact suffixRE_decimal (by decide)
  | Mi | Gi | Ti | Pi | Ei => exact suffixRE_binary (by decide)

theorem suffixRE_ne_nil
    {groups : Groups String} {text : List Char} (denoted : suffixRE.Denotes groups text) :
    text ≠ [] := by
  rcases denoted with ⟨_, char, _, rfl⟩ | binary | decimal
  · exact List.cons_ne_nil _ _
  · obtain ⟨_, _, _, _, ⟨_, char, _, rfl⟩, _, _, rfl⟩ := binary
    exact List.cons_ne_nil _ _
  · obtain ⟨_, _, _, _, ⟨_, char, _, rfl⟩, _, _, rfl⟩ := decimal
    exact List.cons_ne_nil _ _

theorem DecimalNumber.text_numeric (number : DecimalNumber) :
    ∀ char ∈ number.text, isNumeric char = true :=
  forall_mem_of_denotes numberRE_within (numberRE_denotes number)

theorem DecimalNumber.text_ne_nil (number : DecimalNumber) : number.text ≠ [] := by
  obtain ⟨whole, fraction, wholeDigits, fractionDigits, nonempty⟩ := number
  cases fraction with
  | none => exact nonempty.resolve_right fun other => other rfl
  | some fraction => exact List.append_ne_nil_of_right_ne_nil _ (List.cons_ne_nil _ _)

theorem Suffix.text_notNumeric (suffix : Suffix) :
    ∀ char ∈ suffix.text.toList, ¬ isNumeric char = true := by
  by_cases missing : suffix = .none
  · rw [missing]
    exact List.forall_mem_nil _
  · exact forall_mem_of_denotes suffixRE_within (suffixRE_denotes suffix missing)

theorem Suffix.eq_none_of_text_eq_nil
    (suffix : Suffix) (empty : suffix.text.toList = []) :
    suffix = .none := by
  by_contra present
  exact suffixRE_ne_nil (suffixRE_denotes suffix present) empty

/-- A quantity that begins with a number has no sign. -/
theorem no_sign
    {number : DecimalNumber} {after rest : List Char} {groups : Groups String}
    {text : List Char} (same : number.text ++ after = text ++ rest)
    (denoted : (Pattern.opt (.group "sign" (oneOf "+-"))).Denotes groups text) :
    groups = [] ∧ text = [] := by
  rcases denoted with ⟨_, ⟨_, sign, isSign, rfl⟩, _⟩ | skipped
  · exfalso
    cases written : number.text with
    | nil => exact number.text_ne_nil written
    | cons head tail =>
        rw [written] at same
        have first : head = sign := (List.cons.inj same).1
        have numeric := number.text_numeric head (written ▸ List.mem_cons_self)
        rw [first] at numeric
        have notNumeric : "+-".toList.any isNumeric = false := rfl
        exact List.any_eq_false.mp notNumeric sign (List.contains_iff_mem.mp isSign) numeric
  · exact skipped

/-- The groups that a quantity is taken apart into. -/
def quantityGroups (number : DecimalNumber) (suffix : Suffix) : Groups String :=
  ("number", number.text) ::
    if suffix = .none then [] else [("suffix", suffix.text.toList)]

theorem quantityRE_denotes (number : DecimalNumber) (suffix : Suffix) :
    quantityRE.Denotes (quantityGroups number suffix)
      (number.text ++ suffix.text.toList) := by
  have written := (numberRE_denotes number).named "number"
  have unsigned : (Pattern.opt (.group "sign" (oneOf "+-"))).Denotes [] [] :=
    Or.inr ⟨rfl, rfl⟩
  rw [quantityGroups]
  by_cases missing : suffix = .none
  · rw [if_pos missing, missing]
    exact unsigned.append (written.append (Or.inr ⟨rfl, rfl⟩))
  · rw [if_neg missing]
    exact unsigned.append
      (written.append (Or.inl ((suffixRE_denotes suffix missing).named "suffix")))

/-- There is no other way to take a quantity apart. -/
theorem quantityRE_unique
    {number : DecimalNumber} {suffix : Suffix} {groups : Groups String}
    (denoted : quantityRE.Denotes groups (number.text ++ suffix.text.toList)) :
    groups = quantityGroups number suffix := by
  obtain ⟨signs, sign, others, rest, signDenoted, denoted, rfl, same⟩ := denoted
  obtain ⟨rfl, rfl⟩ := no_sign same signDenoted
  obtain ⟨_, numberText, _, suffixText, numberDenoted, suffixDenoted, rfl, rfl⟩ := denoted
  obtain ⟨inner, numberDenoted, rfl⟩ := numberDenoted
  have unnamed : inner = [] := groups_eq_nil_of_denotes rfl numberDenoted
  have within : (Pattern.opt (.group "suffix" suffixRE)).Within
      fun char => ¬ isNumeric char = true := suffixRE_within
  rw [List.nil_append] at same
  -- numbers have digits and points, suffixes letters, so only one split is possible
  obtain ⟨sameNumber, sameSuffix⟩ := split_unique same number.text_numeric
    (forall_mem_of_denotes numberRE_within numberDenoted) suffix.text_notNumeric
    (forall_mem_of_denotes within suffixDenoted)
  rw [unnamed, ← sameNumber, quantityGroups]
  rcases suffixDenoted with ⟨inner, suffixDenoted, rfl⟩ | ⟨rfl, skipped⟩
  · have present : suffix ≠ .none := by
      intro missing
      rw [missing] at sameSuffix
      exact suffixRE_ne_nil suffixDenoted sameSuffix.symm
    have unnamed : inner = [] := groups_eq_nil_of_denotes rfl suffixDenoted
    rw [if_neg present, unnamed, sameSuffix]
    rfl
  · rw [skipped] at sameSuffix
    rw [if_pos (suffix.eq_none_of_text_eq_nil sameSuffix)]
    rfl

/-- The expression takes a quantity apart into its number and its suffix. -/
theorem quantityRE_exec (number : DecimalNumber) (suffix : Suffix) :
    quantityRE.exec (number.text ++ suffix.text.toList) =
      some (quantityGroups number suffix) :=
  exec_eq_some_of_unique (quantityRE_denotes number suffix) fun _ => quantityRE_unique

/-! ## The memory in bytes -/

theorem groupText_number (number : DecimalNumber) (suffix : Suffix) :
    groupText (quantityGroups number suffix) "number" = some number.text := by
  rw [groupText, quantityGroups, List.lookup_cons_self]
  exact Option.filter_eq_some_iff.mpr ⟨rfl, decide_eq_true number.text_ne_nil⟩

theorem groupText_suffix (number : DecimalNumber) (suffix : Suffix) :
    groupText (quantityGroups number suffix) "suffix" =
      if suffix = .none then none else some suffix.text.toList := by
  have other : ("suffix" == "number") = false := by decide
  rw [groupText, quantityGroups, List.lookup_cons, other]
  by_cases missing : suffix = .none
  · rw [if_pos missing, if_pos missing]
    rfl
  · have some : suffix.text.toList ≠ [] :=
      fun empty => missing (suffix.eq_none_of_text_eq_nil empty)
    rw [if_neg missing, if_neg missing]
    exact Option.filter_eq_some_iff.mpr ⟨List.lookup_cons_self, decide_eq_true some⟩

/-- A quantity with a suffix becomes its value and this suffix; one without is refused. -/
theorem parseQuantity_text (number : DecimalNumber) (suffix : Suffix) :
    parseQuantity (.string (String.ofList (number.text ++ suffix.text.toList))) =
      if suffix = .none then .error "unable to parse quantity's suffix"
      else .ok { unit := suffix.text, value := number.value } := by
  rw [parseQuantity, String.toList_ofList, quantityRE_exec]
  dsimp only
  rw [groupText_number]
  dsimp only
  rw [groupText_suffix, parse_text]
  by_cases missing : suffix = .none
  · rw [if_pos missing, if_pos missing]
  · rw [if_neg missing, if_neg missing]
    dsimp only
    rw [String.ofList_toList]

theorem adapt_other
    {unit : QuantityDescriptorUnit} {value : ℚ} (notB : unit ≠ "B") (notE : unit ≠ "E")
    (notEi : unit ≠ "Ei") :
    adapt { unit := unit, value := value } = (value, unit ++ "B") := by
  rw [adapt, if_neg notB, if_neg notE, if_neg notEi]

/-- The unit and the amount that the library is given stand for the same number of bytes. -/
theorem adapt_suffix (value : ℚ) {suffix : Suffix} (present : suffix ≠ .none) :
    ∃ (amount : ℚ) (unit : ConvertableUnit),
      adapt { unit := suffix.text, value := value } = (amount, unit.text) ∧
        amount * unit.bytes = value * suffix.multiplier := by
  cases suffix with
  | none => exact absurd rfl present
  | k => exact ⟨value, .kB, adapt_other (by decide) (by decide) (by decide), rfl⟩
  | M => exact ⟨value, .MB, adapt_other (by decide) (by decide) (by decide), rfl⟩
  | G => exact ⟨value, .GB, adapt_other (by decide) (by decide) (by decide), rfl⟩
  | T => exact ⟨value, .TB, adapt_other (by decide) (by decide) (by decide), rfl⟩
  | P => exact ⟨value, .PB, adapt_other (by decide) (by decide) (by decide), rfl⟩
  | E =>
      refine ⟨value * 1000, .PB, rfl, ?_⟩
      rw [ConvertableUnit.bytes, Suffix.multiplier]
      push_cast
      ring
  | Ki => exact ⟨value, .KiB, adapt_other (by decide) (by decide) (by decide), rfl⟩
  | Mi => exact ⟨value, .MiB, adapt_other (by decide) (by decide) (by decide), rfl⟩
  | Gi => exact ⟨value, .GiB, adapt_other (by decide) (by decide) (by decide), rfl⟩
  | Ti => exact ⟨value, .TiB, adapt_other (by decide) (by decide) (by decide), rfl⟩
  | Pi => exact ⟨value, .PiB, adapt_other (by decide) (by decide) (by decide), rfl⟩
  | Ei =>
      refine ⟨value * 1024, .PiB, rfl, ?_⟩
      rw [ConvertableUnit.bytes, Suffix.multiplier]
      push_cast
      ring

/-- The node reports this quantity as its memory. -/
def Reports (node : IoK8sApiCoreV1Node) (number : DecimalNumber) (suffix : Suffix) : Prop :=
  node.memory? = some (String.ofList (number.text ++ suffix.text.toList))

instance (node : IoK8sApiCoreV1Node) (number : DecimalNumber) (suffix : Suffix) :
    Decidable (Reports node number suffix) :=
  inferInstanceAs (Decidable (_ = _))

/-- The memory of a node that reports a quantity comes from this quantity. -/
theorem getMemory_reports
    (library : ConvertLibrary) {node : IoK8sApiCoreV1Node} {number : DecimalNumber}
    {suffix : Suffix} (reports : Reports node number suffix) :
    getMemory library node =
      if suffix = .none then .error "unable to parse quantity's suffix"
      else
        let (amount, unit) := adapt { unit := suffix.text, value := number.value }
        .ok (library.convert amount unit) := by
  have nonempty : String.ofList (number.text ++ suffix.text.toList) ≠ "" := by
    intro empty
    have chars := congrArg String.toList empty
    rw [String.toList_ofList] at chars
    exact number.text_ne_nil (List.append_eq_nil_iff.mp chars).1
  rw [getMemory, reports]
  dsimp only
  rw [if_neg nonempty, parseQuantity_text]
  by_cases missing : suffix = .none
  · rw [if_pos missing, if_pos missing]
    rfl
  · rw [if_neg missing, if_neg missing]
    rfl

/-- A quantity with a suffix is handed to the library as what it stands for. -/
theorem getMemory_suffix
    (library : ConvertLibrary) {node : IoK8sApiCoreV1Node} {number : DecimalNumber}
    {suffix : Suffix} (reports : Reports node number suffix) (present : suffix ≠ .none) :
    ∃ (amount : ℚ) (unit : ConvertableUnit),
      getMemory library node = .ok (library.convert amount unit.text) ∧
        amount * unit.bytes = number.value * suffix.multiplier := by
  obtain ⟨amount, unit, adapted, same⟩ := adapt_suffix number.value present
  refine ⟨amount, unit, ?_, same⟩
  rw [getMemory_reports library reports, if_neg present, adapted]

/-- The row warns exactly of a quantity with a suffix that is less than the minimum. -/
theorem warnsOfInsufficientMemory_iff
    {library : ConvertLibrary} (correct : library.IsCorrect) {node : IoK8sApiCoreV1Node}
    {number : DecimalNumber} {suffix : Suffix} (reports : Reports node number suffix) :
    warnsOfInsufficientMemory library node = true ↔
      suffix ≠ .none ∧ number.value * suffix.multiplier < 20 * 1024 ^ 3 := by
  by_cases missing : suffix = .none
  · rw [warnsOfInsufficientMemory, getMemory_reports library reports, if_pos missing]
    constructor
    · intro warned
      exact absurd warned Bool.false_ne_true
    · rintro ⟨present, _⟩
      exact absurd missing present
  · obtain ⟨amount, unit, got, same⟩ := getMemory_suffix library reports missing
    have converted : library.toUnit (library.convert amount unit.text) "GiB" =
        number.value * suffix.multiplier / 1024 ^ 3 := by
      rw [← same]
      exact_mod_cast correct amount unit .GiB
    rw [warnsOfInsufficientMemory, got]
    dsimp only
    rw [converted, decide_eq_true_iff, minimumAmountOfMemoryGiB,
      div_lt_iff₀ (by norm_num), and_iff_right missing]

/-- The memory of a node is the quantity that it reports, in bytes, if and only if this
quantity has a suffix. A plain number of bytes is an error. -/
theorem memory_is_reported_quantity_iff
    {library : ConvertLibrary} (correct : library.IsCorrect) {node : IoK8sApiCoreV1Node}
    {number : DecimalNumber} {suffix : Suffix} (reports : Reports node number suffix) :
    (∃ memory, getMemory library node = .ok memory ∧
        library.toUnit memory "B" = number.value * suffix.multiplier) ↔
      suffix ≠ .none := by
  constructor
  · rintro ⟨memory, got, _⟩ missing
    rw [getMemory_reports library reports, if_pos missing] at got
    cases got
  · intro present
    obtain ⟨amount, unit, got, same⟩ := getMemory_suffix library reports present
    refine ⟨library.convert amount unit.text, got, ?_⟩
    calc library.toUnit (library.convert amount unit.text) "B"
        = amount * unit.bytes / (1 : ℕ) := correct amount unit .B
      _ = number.value * suffix.multiplier := by rw [same, Nat.cast_one, div_one]

/-! ## Two nodes -/

/-- The number of bytes of a unit, and 1 where the unit is not known. -/
def bytesOf (unit : String) : ℚ :=
  match [ConvertableUnit.B, .kB, .MB, .GB, .TB, .PB, .KiB, .MiB, .GiB, .TiB, .PiB].find?
    (fun known => known.text = unit) with
  | some known => known.bytes
  | none => 1

/-- A library that keeps amounts in bytes. -/
def bytesLibrary : ConvertLibrary where
  Converter := ℚ
  convert value unit := value * bytesOf unit
  toUnit converter unit := converter / bytesOf unit

theorem bytesLibrary_isCorrect : bytesLibrary.IsCorrect := by
  have known (unit : ConvertableUnit) : bytesOf unit.text = unit.bytes := by
    cases unit <;> rfl
  intro value unit target
  change value * bytesOf unit.text / bytesOf target.text = _
  rw [known, known]

/-- A node that reports its memory like this. -/
def nodeWithMemory (memory : String) : IoK8sApiCoreV1Node where
  status := some { capacity := some [("memory", memory)] }

/-- The number 1.5. -/
def oneAndAHalf : DecimalNumber where
  whole := ['1']
  fraction := some ['5']
  wholeDigits := List.all_eq_true.mp rfl
  fractionDigits := List.all_eq_true.mp rfl
  nonempty := by decide

/-- The number of bytes in 16 GiB. -/
def sixteenGiB : DecimalNumber where
  whole := "17179869184".toList
  fraction := none
  wholeDigits := List.all_eq_true.mp rfl
  fractionDigits := List.forall_mem_nil _
  nonempty := by decide

theorem memory_is_reported_quantity_iff_fraction :
    ∃ memory, getMemory bytesLibrary (nodeWithMemory "1.5Gi") = .ok memory ∧
      bytesLibrary.toUnit memory "B" = 1610612736 := by
  have value : oneAndAHalf.value * (Suffix.Gi.multiplier : ℚ) = 1610612736 := by
    have one : digitsValue oneAndAHalf.whole = 1 := by decide
    have five : digitsValue ['5'] = 5 := by decide
    rw [DecimalNumber.value_eq, one]
    norm_num [oneAndAHalf, five, Suffix.multiplier]
  have reports : Reports (nodeWithMemory "1.5Gi") oneAndAHalf .Gi := by decide
  obtain ⟨memory, got, bytes⟩ :=
    (memory_is_reported_quantity_iff bytesLibrary_isCorrect reports).mpr (by decide)
  exact ⟨memory, got, bytes.trans value⟩

/-- The memory of a node with 16 GiB, written as a plain number of bytes, is an error; and
although this is less than the minimum, the row does not warn. -/
theorem plain_bytes_refused :
    Reports (nodeWithMemory "17179869184") sixteenGiB .none ∧
      sixteenGiB.value * (Suffix.none.multiplier : ℚ) = 17179869184 ∧
      getMemory bytesLibrary (nodeWithMemory "17179869184") =
        .error "unable to parse quantity's suffix" ∧
      warnsOfInsufficientMemory bytesLibrary (nodeWithMemory "17179869184") = false := by
  have reports : Reports (nodeWithMemory "17179869184") sixteenGiB .none := by decide
  have value : sixteenGiB.value * (Suffix.none.multiplier : ℚ) = 17179869184 := by
    have whole : digitsValue sixteenGiB.whole = 17179869184 := by decide +kernel
    rw [DecimalNumber.value_of_integer rfl, whole, Suffix.multiplier, Nat.cast_one, mul_one,
      Nat.cast_ofNat]
  refine ⟨reports, value, ?_, ?_⟩
  · rw [getMemory_reports bytesLibrary reports, if_pos rfl]
  · rw [warnsOfInsufficientMemory, getMemory_reports bytesLibrary reports, if_pos rfl]

end Console.NodeMemory
