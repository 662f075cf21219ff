import DispatchScan.Binary64.Shortest
import DispatchScan.Json.Value

/-!
# The compact text of a JSON value

No space stands between tokens. A string escapes the quote, the backslash and the controls below
U+0020, five of them by a letter, and holds every other character as it is.
-/

namespace DispatchScan.Json

/-- The characters that a string holds for `c`. -/
def escapeChar (c : Char) : List Char :=
  if c = '"' then ['\\', '"']
  else if c = '\\' then ['\\', '\\']
  else if c = '\x08' then ['\\', 'b']
  else if c = '\x0c' then ['\\', 'f']
  else if c = '\n' then ['\\', 'n']
  else if c = '\r' then ['\\', 'r']
  else if c = '\t' then ['\\', 't']
  else if c.toNat < 0x20 then
    ['\\', 'u', '0', '0', Nat.digitChar (c.toNat / 16), Nat.digitChar (c.toNat % 16)]
  else [c]

/-- The token of a string. -/
def stringToken (s : String) : List Char :=
  '"' :: s.toList.flatMap escapeChar ++ ['"']

/-- The token of a number. -/
def numberToken : Number → List Char
  | .natural n => Nat.toDigits 10 n
  | .negative n => '-' :: Nat.toDigits 10 n
  | .real minus size =>
    (if minus then ['-'] else []) ++ (size.render Binary64.messageLayout).toList

/-- Join the items of an array or object with commas. -/
def commaSeparated : List (List Char) → List Char
  | [] => []
  | [item] => item
  | item :: items => item ++ ',' :: commaSeparated items

mutual

/-- The characters of a value. -/
def Value.tokens : Value → List Char
  | .null => ['n', 'u', 'l', 'l']
  | .bool true => ['t', 'r', 'u', 'e']
  | .bool false => ['f', 'a', 'l', 's', 'e']
  | .number n => numberToken n
  | .string s => stringToken s
  | .array elements => '[' :: commaSeparated (elementTokens elements) ++ [']']
  | .object members => '\x7b' :: commaSeparated (memberTokens members) ++ ['\x7d']

/-- The characters of each element of an array. -/
def elementTokens : List Value → List (List Char)
  | [] => []
  | v :: vs => v.tokens :: elementTokens vs

/-- The characters of each member of an object. -/
def memberTokens : List (String × Value) → List (List Char)
  | [] => []
  | (k, v) :: ms => (stringToken k ++ ':' :: v.tokens) :: memberTokens ms

end

/-- The compact text of a value. -/
def Value.render (v : Value) : String :=
  String.ofList v.tokens

end DispatchScan.Json
