/-
# JSON values

What a JSON text denotes once it is parsed.  A number is an unsigned integer, a negative integer
or a float, the last by its bits; the members of an object stand in the order of their names, and
no name stands twice.

The queries at the end answer `none` when the value is of another kind, as a program that picks
members out of a document needs them.
-/
import Mathlib.Data.List.Basic

inductive JsonNumber where
  | posInt (value : UInt64)
  | negInt (value : Int64)
  | float (bits : UInt64)
deriving DecidableEq

inductive Json where
  | null
  | bool (value : Bool)
  | number (value : JsonNumber)
  | string (value : String)
  | array (elements : List Json)
  | object (members : List (String × Json))

namespace Json

/-! ## 1. Equality -/

mutual

def decEq : (a b : Json) → Decidable (a = b)
  | .null, .null => isTrue rfl
  | .bool a, .bool b => decidable_of_iff (a = b) (by simp)
  | .number a, .number b => decidable_of_iff (a = b) (by simp)
  | .string a, .string b => decidable_of_iff (a = b) (by simp)
  | .array a, .array b =>
    match decEqElements a b with
    | isTrue h => isTrue (by rw [h])
    | isFalse h => isFalse (by simpa using h)
  | .object a, .object b =>
    match decEqMembers a b with
    | isTrue h => isTrue (by rw [h])
    | isFalse h => isFalse (by simpa using h)
  | .null, .bool _ | .null, .number _ | .null, .string _ | .null, .array _ | .null, .object _
  | .bool _, .null | .bool _, .number _ | .bool _, .string _ | .bool _, .array _
  | .bool _, .object _
  | .number _, .null | .number _, .bool _ | .number _, .string _ | .number _, .array _
  | .number _, .object _
  | .string _, .null | .string _, .bool _ | .string _, .number _ | .string _, .array _
  | .string _, .object _
  | .array _, .null | .array _, .bool _ | .array _, .number _ | .array _, .string _
  | .array _, .object _
  | .object _, .null | .object _, .bool _ | .object _, .number _ | .object _, .string _
  | .object _, .array _ => isFalse (by simp)

def decEqElements : (a b : List Json) → Decidable (a = b)
  | [], [] => isTrue rfl
  | [], _ :: _ | _ :: _, [] => isFalse (by simp)
  | a :: as, b :: bs =>
    match decEq a b, decEqElements as bs with
    | isTrue h, isTrue hs => isTrue (by rw [h, hs])
    | isFalse h, _ => isFalse (by simp [h])
    | _, isFalse hs => isFalse (by simp [hs])

def decEqMembers : (a b : List (String × Json)) → Decidable (a = b)
  | [], [] => isTrue rfl
  | [], _ :: _ | _ :: _, [] => isFalse (by simp)
  | (k, a) :: as, (l, b) :: bs =>
    match decEq a b, decEqMembers as bs with
    | isTrue h, isTrue hs => decidable_of_iff (k = l) (by simp [h, hs])
    | isFalse h, _ => isFalse (by simp [h])
    | _, isFalse hs => isFalse (by simp [hs])

end

instance : DecidableEq Json := decEq

/-! ## 2. Queries -/

def asStr : Json → Option String
  | .string value => some value
  | _ => none

def asBool : Json → Option Bool
  | .bool value => some value
  | _ => none

def asU64 : Json → Option UInt64
  | .number (.posInt value) => some value
  | _ => none

def asArray : Json → Option (List Json)
  | .array elements => some elements
  | _ => none

def asObject : Json → Option (List (String × Json))
  | .object members => some members
  | _ => none

def isNull (value : Json) : Bool := decide (value = .null)

/-- The member of that name. -/
def get (value : Json) (name : String) : Option Json := do
  let members ← value.asObject
  members.lookup name

def getStr (value : Json) (name : String) : Option String := value.get name >>= asStr

def getBool (value : Json) (name : String) : Option Bool := value.get name >>= asBool

def getU64 (value : Json) (name : String) : Option UInt64 := value.get name >>= asU64

/-- The member of that name, or `null`. -/
def getOrNull (value : Json) (name : String) : Json := (value.get name).getD .null

end Json
