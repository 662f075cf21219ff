import DispatchScan.Hex
import DispatchScan.Text.Blank

/-!
# Spellings of a byte string

Users and files may spell bytecode with white space anywhere, in either case and with one mark.
`normalize` reduces every spelling to its plain form, an even number of lowercase digits, and
otherwise names the first fault: a character that is no digit wins over an odd number of digits.
-/

namespace DispatchScan.Hex

/-- Why a text spells no byte string. -/
inductive SpellingError where
  /-- The first character that is no digit, and its byte offset in the text without white space
  and mark. -/
  | badDigit (c : Char) (offset : Nat)
  /-- There are only digits, but an odd number of them. -/
  | oddLength (count : Nat)
  deriving DecidableEq, Repr

/-- The wording of a spelling error. -/
def SpellingError.message : SpellingError → String
  | .badDigit c offset => s!"hex decode failed: {badDigitText c offset}"
  | .oddLength count => s!"hex string has odd length: {count}"

/-- The first character that is no digit, with the number of digits before it. These are one byte
each, so the number is also its byte offset. -/
def firstBadDigit? : List Char → Option (Char × Nat)
  | [] => none
  | c :: cs =>
    if isDigit c then (firstBadDigit? cs).map fun (bad, offset) => (bad, offset + 1)
    else some (c, 0)

/-- The characters of a spelling that must be digits. -/
def significant (text : String) : List Char :=
  dropMark (Text.withoutBlanks text.toList)

/-- Reduce a spelling to an even number of lowercase digits. -/
def normalize (text : String) : Except SpellingError String :=
  let cs := significant text
  match firstBadDigit? cs with
  | some (c, offset) => .error (.badDigit c offset)
  | none =>
    if cs.length % 2 = 1 then .error (.oddLength cs.length)
    else .ok (String.ofList (cs.map Char.toLower))

end DispatchScan.Hex
