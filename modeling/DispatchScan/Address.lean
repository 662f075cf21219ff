import DispatchScan.CheckError
import DispatchScan.Hex
import DispatchScan.Keccak

/-!
# Contract addresses

An address is twenty bytes. Its text has forty digits after an optional mark: all letters in one
case, or the letters in the checksum case, where a letter is uppercase if the digit at its place in
the digest of the lowercase text is at least eight.
-/

namespace DispatchScan

/-- The twenty bytes of a contract's address. -/
structure Address where
  /-- The bytes, most significant first. -/
  bytes : List UInt8
  /-- There are twenty of them. -/
  length_bytes : bytes.length = 20
  deriving DecidableEq, Repr

namespace Address

/-- The forty lowercase digits. -/
def lowerDigits (a : Address) : List Char :=
  Hex.digits a.bytes

/-- The text in lowercase with the mark. -/
def text (a : Address) : String :=
  String.ofList ('0' :: 'x' :: a.lowerDigits)

/-- The forty digits in the checksum case. -/
def checksumDigits (a : Address) : List Char :=
  let digest := Keccak.hash (Text.utf8 (String.ofList a.lowerDigits))
  List.zipWith (fun c nibble => if 8 ≤ nibble then c.toUpper else c) a.lowerDigits
    (Hex.nibbles digest)

/-- The text in the checksum case with the mark. -/
def checksummed (a : Address) : String :=
  String.ofList ('0' :: 'x' :: a.checksumDigits)

/-- Read an address. Digits with letters in both cases must be in the checksum case. -/
def parse? (text : String) : Option Address :=
  let digits := Hex.dropMark text.toList
  match Hex.readExactly 20 (Text.utf8 (String.ofList digits)) with
  | .error _ => none
  | .ok bytes =>
    if h : bytes.length = 20 then
      let address : Address := ⟨bytes, h⟩
      if digits.any Char.isLower && digits.any Char.isUpper && digits != address.checksumDigits then
        none
      else some address
    else none

/-- Read an address, or refuse the text. -/
def parse (text : String) : Except CheckError Address :=
  match parse? text with
  | some address => .ok address
  | none => .error (.address text)

/-- A text that is refused is named by the refusal. -/
theorem eq_of_parse_eq_error {text : String} {error : CheckError} (h : parse text = .error error) :
    error = .address text := by
  unfold parse at h
  cases hparse : parse? text with
  | some address =>
    rw [hparse] at h
    exact absurd h nofun
  | none =>
    rw [hparse] at h
    exact (Except.error.inj h).symm

end Address

end DispatchScan
