import DispatchScan.Hex

/-!
# The opcodes of a dispatch check

A contract finds the handler of a call by comparing the call's selector with those of its functions
through `PUSH4 selector EQ PUSHn destination JUMPI`. Only these opcodes are told apart; every other
byte is carried as it is.
-/

namespace DispatchScan

/-- An instruction byte, as far as dispatch checks need it. -/
inductive Opcode where
  /-- Compare two words, byte 0x14. -/
  | eq
  /-- Jump if a word is not zero, byte 0x57. -/
  | jumpi
  /-- Push as many bytes as the number says, bytes 0x60 to 0x7f for 1 to 32. -/
  | push (width : UInt8)
  /-- Any other byte. -/
  | other (byte : UInt8)
  deriving DecidableEq, Repr

namespace Opcode

/-- The number of bytes that an instruction byte pushes, if it is one of 0x60 to 0x7f. -/
def pushWidth? (byte : UInt8) : Option Nat :=
  if 0x60 ≤ byte.toNat ∧ byte.toNat ≤ 0x7f then some (byte.toNat - 0x5f) else none

/-- The opcode of an instruction byte. -/
def ofByte (byte : UInt8) : Opcode :=
  if byte = 0x14 then .eq
  else if byte = 0x57 then .jumpi
  else
    match pushWidth? byte with
    | some width => .push (UInt8.ofNat width)
    | none => .other byte

/-- The instruction byte of an opcode. -/
def toByte : Opcode → UInt8
  | .eq => 0x14
  | .jumpi => 0x57
  | .push width => 0x5f + width
  | .other byte => byte

/-- The number of bytes after the instruction byte that belong to the instruction. -/
def immediateSize : Opcode → Nat
  | .push width => width.toNat
  | _ => 0

/-- The name of an opcode in listings. -/
def mnemonic : Opcode → String
  | .eq => "EQ"
  | .jumpi => "JUMPI"
  | .push width => s!"PUSH{width.toNat}"
  | .other byte => s!"UNKNOWN{Hex.encode [byte]}"

/-- The name of an opcode with its argument in decimal digits. -/
def debugName : Opcode → String
  | .eq => "EQ"
  | .jumpi => "JUMPI"
  | .push width => s!"PUSH({width.toNat})"
  | .other byte => s!"Other({byte.toNat})"

end Opcode

end DispatchScan
