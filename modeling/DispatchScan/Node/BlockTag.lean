import DispatchScan.Hex

/-!
# Block tags

The state of a chain that a node is asked for: one of five names, or the number of a block, in
decimal digits or as up to sixteen hexadecimal digits after `0x`.
-/

namespace DispatchScan

/-- A state of the chain. -/
inductive BlockTag where
  /-- The newest block. -/
  | latest
  /-- The newest block that cannot be undone. -/
  | finalized
  /-- The newest block that is unlikely to be undone. -/
  | safe
  /-- The first block. -/
  | earliest
  /-- The block in the making. -/
  | pending
  /-- The block with the given number. -/
  | number (n : UInt64)
  deriving DecidableEq, Repr

namespace BlockTag

/-- The value of digits in a base, given each digit's value. -/
def valueIn (base : Nat) (digits : List Nat) : Nat :=
  digits.foldl (fun value digit => value * base + digit) 0

/-- The number of up to sixteen hexadecimal digits. No digits stand for zero. -/
def hexNumber? (cs : List Char) : Option UInt64 := do
  let digits ← cs.mapM fun c => Hex.digitValue? c.toNat
  if 16 < digits.length then none else some (UInt64.ofNat (valueIn 16 digits))

/-- The number of decimal digits below `2^64`. There is at least one digit. -/
def decimalNumber? (cs : List Char) : Option UInt64 := do
  let digits ← cs.mapM fun c => if c.isDigit then some (c.toNat - 0x30) else none
  let n := valueIn 10 digits
  if digits.isEmpty ∨ Nat.pow 2 64 ≤ n then none else some (UInt64.ofNat n)

/-- Read a tag. A decimal number may have a plus sign in front. -/
def parse? (text : String) : Option BlockTag :=
  if text = "latest" then some .latest
  else if text = "finalized" then some .finalized
  else if text = "safe" then some .safe
  else if text = "earliest" then some .earliest
  else if text = "pending" then some .pending
  else
    match text.toList with
    | '0' :: 'x' :: cs => (hexNumber? cs).map number
    | '+' :: cs => (decimalNumber? cs).map number
    | cs => (decimalNumber? cs).map number

/-- The tag as nodes are asked for it: a name, or `0x` and digits without leading zeros. -/
def text : BlockTag → String
  | .latest => "latest"
  | .finalized => "finalized"
  | .safe => "safe"
  | .earliest => "earliest"
  | .pending => "pending"
  | .number n => String.ofList ('0' :: 'x' :: Nat.toDigits 16 n.toNat)

end BlockTag

end DispatchScan
