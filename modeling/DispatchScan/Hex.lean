import DispatchScan.Text.Quoted
import DispatchScan.Text.Utf8

/-!
# Hexadecimal digits

Bytes as two lowercase digits each, and the strict reading of a fixed number of bytes, which works
on the UTF-8 bytes of a text and reports the first fault. An optional `0x` or `0X` in front of the
digits is called the mark. Main statements: a digit has its value, and reading undoes writing.
-/

namespace DispatchScan.Hex

/-- The value of the digit with code `n`, in either case. -/
def digitValue? (n : Nat) : Option Nat :=
  if 0x30 ≤ n ∧ n ≤ 0x39 then some (n - 0x30)
  else if 0x61 ≤ n ∧ n ≤ 0x66 then some (n - 0x57)
  else if 0x41 ≤ n ∧ n ≤ 0x46 then some (n - 0x37)
  else none

/-- Whether `c` is one of `0-9a-fA-F`. -/
def isDigit (c : Char) : Bool :=
  (digitValue? c.toNat).isSome

/-- The two lowercase digits of a byte. -/
def ofByte (b : UInt8) : List Char :=
  [Nat.digitChar (b.toNat / 16), Nat.digitChar (b.toNat % 16)]

/-- The digits of several bytes, in order. -/
def digits (bytes : List UInt8) : List Char :=
  bytes.flatMap ofByte

/-- The values of the digits of several bytes, in order. -/
def nibbles (bytes : List UInt8) : List Nat :=
  bytes.flatMap fun b => [b.toNat / 16, b.toNat % 16]

/-- The text of several bytes: two lowercase digits for each. -/
def encode (bytes : List UInt8) : String :=
  String.ofList (digits bytes)

/-- The characters after one leading mark, or all of them when there is none. -/
def dropMark : List Char → List Char
  | '0' :: 'x' :: rest => rest
  | '0' :: 'X' :: rest => rest
  | cs => cs

/-- A text without its leading mark. Only one mark is removed. -/
def withoutMark (s : String) : String :=
  String.ofList (dropMark s.toList)

/-- Why a text is not the digits of the wanted number of bytes. -/
inductive ReadError where
  /-- The text has an odd number of bytes. -/
  | oddDigits
  /-- The text has an even number of bytes, but not the wanted one. -/
  | wrongLength
  /-- The first byte that is no digit, as the character with that code, and where it stands. -/
  | badDigit (c : Char) (position : Nat)
  deriving DecidableEq, Repr

/-- The wording for a character that is no digit. -/
def badDigitText (c : Char) (position : Nat) : String :=
  s!"Invalid character {Text.quotedChar c} at position {position}"

/-- The wording of a reading error. -/
def ReadError.message : ReadError → String
  | .oddDigits => "Odd number of digits"
  | .wrongLength => "Invalid string length"
  | .badDigit c position => badDigitText c position

/-- Read pairs of digits as bytes, where `position` bytes stand before the text. -/
def readPairs (position : Nat) : List UInt8 → Except ReadError (List UInt8)
  | hi :: lo :: rest =>
    match digitValue? hi.toNat, digitValue? lo.toNat with
    | none, _ => .error (.badDigit (Char.ofNat hi.toNat) position)
    | some _, none => .error (.badDigit (Char.ofNat lo.toNat) (position + 1))
    | some h, some l =>
      match readPairs (position + 2) rest with
      | .error e => .error e
      | .ok bytes => .ok (UInt8.ofNat (h * 16 + l) :: bytes)
  | _ => .ok []

/-- Read a text as exactly `size` bytes. The length is judged before any digit. -/
def readExactly (size : Nat) (text : List UInt8) : Except ReadError (List UInt8) :=
  if text.length % 2 = 1 then .error .oddDigits
  else if text.length ≠ 2 * size then .error .wrongLength
  else readPairs 0 text

/-- A digit has its value. -/
theorem digitValue?_digitChar : ∀ n < 16, digitValue? (Nat.digitChar n).toNat = some n := by
  decide

/-- A digit is one byte long. -/
theorem utf8EncodeChar_digitChar :
    ∀ n < 16, String.utf8EncodeChar (Nat.digitChar n) = [UInt8.ofNat (Nat.digitChar n).toNat] := by
  decide

/-- The code of a digit fits a byte. -/
theorem toNat_digitChar_lt : ∀ n < 16, (Nat.digitChar n).toNat < 256 := by
  decide

/-- The UTF-8 bytes of digits are their codes, two for each byte. -/
theorem utf8_encode_cons (b : UInt8) (bytes : List UInt8) :
    Text.utf8 (encode (b :: bytes))
      = UInt8.ofNat (Nat.digitChar (b.toNat / 16)).toNat
        :: UInt8.ofNat (Nat.digitChar (b.toNat % 16)).toNat :: Text.utf8 (encode bytes) := by
  have hb := b.toNat_lt
  have hhigh : b.toNat / 16 < 16 := by omega
  have hlow : b.toNat % 16 < 16 := by omega
  simp [Text.utf8, encode, digits, ofByte, utf8EncodeChar_digitChar _ hhigh,
    utf8EncodeChar_digitChar _ hlow]

/-- Each byte has two digits. -/
theorem length_utf8_encode (bytes : List UInt8) :
    (Text.utf8 (encode bytes)).length = 2 * bytes.length := by
  induction bytes with
  | nil => rfl
  | cons b bytes ih =>
    rw [utf8_encode_cons, List.length_cons, List.length_cons, ih, List.length_cons]
    omega

/-- Pairs of digits that were written for bytes are read as these bytes. -/
theorem readPairs_utf8_encode (position : Nat) (bytes : List UInt8) :
    readPairs position (Text.utf8 (encode bytes)) = .ok bytes := by
  induction bytes generalizing position with
  | nil => rfl
  | cons b bytes ih =>
    have hb := b.toNat_lt
    have hhigh : b.toNat / 16 < 16 := by omega
    have hlow : b.toNat % 16 < 16 := by omega
    have hcode : ∀ n < 16, (UInt8.ofNat (Nat.digitChar n).toNat).toNat = (Nat.digitChar n).toNat :=
      fun n hn => by simp [Nat.mod_eq_of_lt (toNat_digitChar_lt n hn)]
    have hbyte : UInt8.ofNat (b.toNat / 16 * 16 + b.toNat % 16) = b := by
      apply UInt8.toNat_inj.mp
      rw [UInt8.toNat_ofNat']
      omega
    rw [utf8_encode_cons, readPairs]
    simp only [hcode _ hhigh, hcode _ hlow, digitValue?_digitChar _ hhigh,
      digitValue?_digitChar _ hlow, ih, hbyte]

/-- Reading undoes writing. -/
theorem readExactly_utf8_encode (bytes : List UInt8) :
    readExactly bytes.length (Text.utf8 (encode bytes)) = .ok bytes := by
  unfold readExactly
  rw [length_utf8_encode, if_neg (by omega), if_neg (by omega), readPairs_utf8_encode]

end DispatchScan.Hex
