import DispatchScan.Binary64

/-!
# JSON values

The data of a JSON text. An object keeps its members in text order; when a key is repeated, its
last member counts. Numbers that fit 64 bits are exact, all others are binary64 values.
-/

namespace DispatchScan.Json

/-- A number as it was written. -/
inductive Number where
  /-- Digits alone, below `2^64`. -/
  | natural (n : Nat)
  /-- A minus sign and digits of a positive number up to `2^63`. -/
  | negative (n : Nat)
  /-- Anything else: a fraction, an exponent, minus zero or too many digits. -/
  | real (minus : Bool) (size : Binary64)
  deriving DecidableEq, Repr

/-- A JSON value. -/
inductive Value where
  /-- The literal `null`. -/
  | null
  /-- One of the two truth values. -/
  | bool (b : Bool)
  /-- A number. -/
  | number (n : Number)
  /-- A text. -/
  | string (s : String)
  /-- The elements of an array, in order. -/
  | array (elements : List Value)
  /-- The members of an object, in text order. -/
  | object (members : List (String × Value))
  deriving Repr, Inhabited

/-- The value of the last member with the given key. -/
def lookup? (key : String) : List (String × Value) → Option Value
  | [] => none
  | (k, v) :: members => (lookup? key members).or (if k = key then some v else none)

namespace Value

/-- A field of an object; none for every other value. -/
def get? (key : String) : Value → Option Value
  | .object members => lookup? key members
  | _ => none

/-- The text of a string value. -/
def text? : Value → Option String
  | .string s => some s
  | _ => none

/-- The elements of an array value. -/
def elements? : Value → Option (List Value)
  | .array elements => some elements
  | _ => none

/-- An array of texts. -/
def texts (ss : List String) : Value :=
  .array (ss.map .string)

end Value

end DispatchScan.Json
