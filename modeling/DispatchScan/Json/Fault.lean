import DispatchScan.Binary64.Shortest
import DispatchScan.Json.Value
import DispatchScan.Text.Quoted
import DispatchScan.Text.Utf8

/-!
# Faults in JSON texts

A fault has a cause and a place. Readers state the place as the number of bytes not yet taken,
which needs no knowledge of the whole text; with the text at hand it becomes a line and a column,
counted in bytes. Causes fall into two classes: the text is no JSON, or it is JSON of the wrong
shape.
-/

namespace DispatchScan.Json

/-- What stands where something else was wanted. -/
inductive Found where
  /-- The literal `null`. -/
  | null
  /-- A truth value. -/
  | boolean (b : Bool)
  /-- A number that fits 64 bits. -/
  | integer (n : Int)
  /-- Any other number. -/
  | real (minus : Bool) (size : Binary64)
  /-- A text. -/
  | text (s : String)
  /-- An array. -/
  | sequence
  /-- An object. -/
  | map
  deriving DecidableEq, Repr

/-- The wording for what was found. -/
def Found.message : Found → String
  | .null => "null"
  | .boolean b => s!"boolean `{b}`"
  | .integer n => s!"integer `{n}`"
  | .real minus size =>
    let sign := if minus then "-" else ""
    s!"floating point `{sign}{size.render Binary64.messageLayout}`"
  | .text s => s!"string {Text.quoted s}"
  | .sequence => "sequence"
  | .map => "map"

/-- A number as what stands where something else was wanted. -/
def Number.found : Number → Found
  | .natural n => .integer n
  | .negative n => .integer (-(n : Int))
  | .real minus size => .real minus size

/-- Why reading stopped. -/
inductive Cause where
  /-- The text ends where a value is wanted. -/
  | endInValue
  /-- The text ends inside an array. -/
  | endInList
  /-- The text ends inside an object. -/
  | endInObject
  /-- The text ends inside a string. -/
  | endInString
  /-- No value starts here. -/
  | noValue
  /-- A literal is misspelled. -/
  | badLiteral
  /-- A number breaks the grammar. -/
  | badNumber
  /-- A number exceeds the largest binary64 value. -/
  | numberTooLarge
  /-- A string holds a raw control character. -/
  | controlCharacter
  /-- A backslash starts no escape. -/
  | badEscape
  /-- One half of a surrogate pair is missing or misplaced. -/
  | loneSurrogate
  /-- The second half of a surrogate pair is no escape. -/
  | noSecondEscape
  /-- The bytes of a string are not UTF-8. -/
  | notUtf8
  /-- Neither a comma nor the end of the array follows an element. -/
  | noListComma
  /-- Neither a comma nor the end of the object follows a member. -/
  | noObjectComma
  /-- No colon follows a key. -/
  | noColon
  /-- A key is no string. -/
  | badKey
  /-- A comma stands before a closing bracket. -/
  | trailingComma
  /-- Something follows the value. -/
  | trailingText
  /-- Arrays and objects nest too deeply. -/
  | tooDeep
  /-- The value has the wrong type. -/
  | wrongType (found : Found) (wanted : String)
  /-- The value has the right type, but lies out of range. -/
  | outOfRange (found : Found) (wanted : String)
  /-- The name is none of the known ones. -/
  | unknownName (name : String) (known : List String)
  /-- The key of a field occurs a second time. -/
  | repeatedField (key : String)
  /-- An array ends before a field that must be there. -/
  | tooShort (length : Nat) (wanted : String)
  /-- The text of an embedded value has a fault, at a place of its own. -/
  | embedded (cause : Cause) (line column : Nat)
  deriving DecidableEq, Repr

/-- The names of a closed list, each between backticks. -/
def alternatives (names : List String) : String :=
  " or ".intercalate (names.map fun name => s!"`{name}`")

/-- The wording of a cause. -/
def Cause.message : Cause → String
  | .endInValue => "EOF while parsing a value"
  | .endInList => "EOF while parsing a list"
  | .endInObject => "EOF while parsing an object"
  | .endInString => "EOF while parsing a string"
  | .noValue => "expected value"
  | .badLiteral => "expected ident"
  | .badNumber => "invalid number"
  | .numberTooLarge => "number out of range"
  | .controlCharacter => "control character (\\u0000-\\u001F) found while parsing a string"
  | .badEscape => "invalid escape"
  | .loneSurrogate => "lone leading surrogate in hex escape"
  | .noSecondEscape => "unexpected end of hex escape"
  | .notUtf8 => "invalid unicode code point"
  | .noListComma => "expected `,` or `]`"
  | .noObjectComma => "expected `,` or `\x7d`"
  | .noColon => "expected `:`"
  | .badKey => "key must be a string"
  | .trailingComma => "trailing comma"
  | .trailingText => "trailing characters"
  | .tooDeep => "recursion limit exceeded"
  | .wrongType found wanted => s!"invalid type: {found.message}, expected {wanted}"
  | .outOfRange found wanted => s!"invalid value: {found.message}, expected {wanted}"
  | .unknownName name known => s!"unknown variant `{name}`, expected {alternatives known}"
  | .repeatedField key => s!"duplicate field `{key}`"
  | .tooShort length wanted => s!"invalid length {length}, expected {wanted}"
  | .embedded cause _ _ => cause.message

/-- Whether the text is JSON as far as it was read, but not of the wanted shape. An embedded text
with a fault is a string of the wrong shape. -/
def Cause.isShape : Cause → Bool
  | .wrongType .. | .outOfRange .. | .unknownName .. | .repeatedField .. | .tooShort ..
  | .embedded .. => true
  | _ => false

/-- A cause and the number of bytes after the place that it is reported for. -/
structure Fault where
  /-- Why reading stopped. -/
  cause : Cause
  /-- How many bytes of the text lie behind the reported place. -/
  unread : Nat
  deriving DecidableEq, Repr

/-- The line of the place after the given bytes, counted from one. -/
def lineAfter (taken : List UInt8) : Nat :=
  1 + taken.count 0x0a

/-- The number of bytes since the last line feed. -/
def columnAfter (taken : List UInt8) : Nat :=
  (taken.reverse.takeWhile (· ≠ 0x0a)).length

/-- A cause with its place in a text. -/
structure Located where
  /-- Why reading stopped. -/
  cause : Cause
  /-- The line, counted from one. -/
  line : Nat
  /-- The column, counted in bytes. -/
  column : Nat
  deriving DecidableEq, Repr

/-- Find the place of a fault in the text that was read. In an embedded text it has a place already,
which stays. -/
def Fault.locate (text : List UInt8) (fault : Fault) : Located :=
  match fault.cause with
  | .embedded _ line column => ⟨fault.cause, line, column⟩
  | _ =>
    let taken := text.take (text.length - fault.unread)
    ⟨fault.cause, lineAfter taken, columnAfter taken⟩

/-- The wording of a fault with its place. -/
def Located.message (located : Located) : String :=
  s!"{located.cause.message} at line {located.line} column {located.column}"

end DispatchScan.Json
