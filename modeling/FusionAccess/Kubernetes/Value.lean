/-!
# Untyped object content

The content of an unstructured object is a tree of JSON values. Objects are
kept with their keys in the order in which they are encoded, so equality of
trees is equality of content.
-/

namespace Kubernetes

/-- A JSON value. -/
inductive Value
  | null
  | bool (value : Bool)
  | number (value : Int)
  | string (text : String)
  | array (items : List Value)
  | object (fields : List (String × Value))

namespace Value

mutual

/-- Equality of values is decidable. -/
def decideEq : (left right : Value) → Decidable (left = right)
  | .null, .null => isTrue rfl
  | .bool left, .bool right =>
      decidable_of_iff (left = right) (by rw [bool.injEq])
  | .number left, .number right =>
      decidable_of_iff (left = right) (by rw [number.injEq])
  | .string left, .string right =>
      decidable_of_iff (left = right) (by rw [string.injEq])
  | .array left, .array right =>
      match decideEqItems left right with
      | isTrue equal => isTrue (by rw [equal])
      | isFalse different => isFalse (by rw [array.injEq]; exact different)
  | .object left, .object right =>
      match decideEqFields left right with
      | isTrue equal => isTrue (by rw [equal])
      | isFalse different => isFalse (by rw [object.injEq]; exact different)
  | .null, .bool _ | .null, .number _ | .null, .string _ | .null, .array _
  | .null, .object _ | .bool _, .null | .bool _, .number _ | .bool _, .string _
  | .bool _, .array _ | .bool _, .object _ | .number _, .null
  | .number _, .bool _ | .number _, .string _ | .number _, .array _
  | .number _, .object _ | .string _, .null | .string _, .bool _
  | .string _, .number _ | .string _, .array _ | .string _, .object _
  | .array _, .null | .array _, .bool _ | .array _, .number _
  | .array _, .string _ | .array _, .object _ | .object _, .null
  | .object _, .bool _ | .object _, .number _ | .object _, .string _
  | .object _, .array _ => isFalse (by simp)

/-- Equality of lists of values is decidable. -/
def decideEqItems : (left right : List Value) → Decidable (left = right)
  | [], [] => isTrue rfl
  | [], _ :: _ => isFalse (by simp)
  | _ :: _, [] => isFalse (by simp)
  | left :: lefts, right :: rights =>
      match decideEq left right, decideEqItems lefts rights with
      | isTrue head, isTrue tail => isTrue (by rw [head, tail])
      | isFalse head, _ => isFalse (by simp [head])
      | _, isFalse tail => isFalse (by simp [tail])

/-- Equality of lists of fields is decidable. -/
def decideEqFields :
    (left right : List (String × Value)) → Decidable (left = right)
  | [], [] => isTrue rfl
  | [], _ :: _ => isFalse (by simp)
  | _ :: _, [] => isFalse (by simp)
  | (leftKey, left) :: lefts, (rightKey, right) :: rights =>
      if keys : leftKey = rightKey then
        match decideEq left right, decideEqFields lefts rights with
        | isTrue head, isTrue tail => isTrue (by rw [keys, head, tail])
        | isFalse head, _ => isFalse (by simp [head])
        | _, isFalse tail => isFalse (by simp [tail])
      else isFalse (by simp [keys])

end

instance : DecidableEq Value := decideEq

/-- The field of an object under a key. -/
def field? (key : String) : Value → Option Value
  | .object fields => fields.lookup key
  | _ => none

/-- The string found by following keys; empty when there is none. -/
def nestedString : Value → List String → String
  | .string text, [] => text
  | _, [] => ""
  | value, key :: keys =>
      match value.field? key with
      | some inner => nestedString inner keys
      | none => ""

/-- The items of an array; none for any other value. -/
def items : Value → List Value
  | .array items => items
  | _ => []

/-- The fields of an object; none for any other value. -/
def fields : Value → List (String × Value)
  | .object fields => fields
  | _ => []

/-- The text of a string. -/
def text? : Value → Option String
  | .string text => some text
  | _ => none

end Value
end Kubernetes
