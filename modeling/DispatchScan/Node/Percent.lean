import DispatchScan.Hex

/-!
# Percent-encoding

Inside an address a byte may be written as a percent sign and its two digits. Controls and bytes
beyond ASCII always are in the normal form of an address; which other characters are depends on
where in the address they stand.
-/

namespace DispatchScan.Node

/-- The byte that the two digits in front of a text spell. -/
def leadingByte? : List UInt8 → Option UInt8
  | h :: l :: _ => do
    let h ← Hex.digitValue? h.toNat
    let l ← Hex.digitValue? l.toNat
    return UInt8.ofNat (h * 16 + l)
  | _ => none

/-- Replace percent-encoded bytes after leaving out the first `skipped` bytes. A percent sign
without two digits stays. -/
def percentDecode : Nat → List UInt8 → List UInt8
  | _, [] => []
  | skipped + 1, _ :: rest => percentDecode skipped rest
  | 0, b :: rest =>
    match if b = 0x25 then leadingByte? rest else none with
    | some decoded => decoded :: percentDecode 2 rest
    | none => b :: percentDecode 0 rest

/-- The percent-encoded form of a byte, with capital digits. -/
def percentByte (b : UInt8) : List Char :=
  '%' :: (Hex.ofByte b).map Char.toUpper

/-- Percent-encode the given ASCII characters of a text, its controls and all beyond ASCII. -/
def percentEncode (marks : String) (cs : List Char) : List Char :=
  cs.flatMap fun c =>
    if c.toNat < 0x20 || 0x7f ≤ c.toNat || marks.toList.contains c then
      (String.utf8EncodeChar c).flatMap percentByte
    else [c]

end DispatchScan.Node
