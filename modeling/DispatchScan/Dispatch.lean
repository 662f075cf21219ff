import DispatchScan.Opcode
import DispatchScan.Selector

/-!
# Dispatch checks in bytecode text

A dispatch check is the text of `PUSH4 selector EQ PUSHn destination JUMPI`; its front up to `EQ` is
the probe. The scan looks for probes at every byte of a text, hexadecimal or not and at odd offsets
too, and then reads `PUSHn` and `JUMPI` as pairs of lowercase digits; the destination is passed over
unread. A text is scanned as its UTF-8 bytes, by recursion on what is left of them; the probes that
were looked at are the result, and the verdict is read off them.
-/

namespace DispatchScan

/-- Which occurrences of a probe are examined. -/
inductive Strategy where
  /-- Only the first one decides. -/
  | firstOccurrence
  /-- One after the other until one is followed by a branch; they may overlap. -/
  | allOccurrences
  deriving DecidableEq, Repr

namespace Dispatch

/-- The bytes of `PUSH4 selector EQ`. -/
def probeBytes (selector : Selector) : List UInt8 :=
  (Opcode.push 4).toByte :: selector.bytes ++ [Opcode.eq.toByte]

/-- The text of `PUSH4 selector EQ`. -/
def probe (selector : Selector) : String :=
  Hex.encode (probeBytes selector)

/-- The text of a whole dispatch check; none unless the destination has 1 to 32 bytes. -/
def check? (selector : Selector) (destination : List UInt8) : Option String :=
  if destination.isEmpty ∨ 32 < destination.length then none
  else
    some <| Hex.encode <|
      probeBytes selector ++ [(Opcode.push (UInt8.ofNat destination.length)).toByte] ++ destination
        ++ [Opcode.jumpi.toByte]

/-- The value of a lowercase digit. -/
def lowerDigit? (b : UInt8) : Option Nat :=
  if 0x30 ≤ b.toNat ∧ b.toNat ≤ 0x39 then some (b.toNat - 0x30)
  else if 0x61 ≤ b.toNat ∧ b.toNat ≤ 0x66 then some (b.toNat - 0x57)
  else none

/-- The byte that the pair of lowercase digits number `index` spells. -/
def byteAt? (text : List UInt8) (index : Nat) : Option UInt8 :=
  match text.drop (2 * index) with
  | high :: low :: _ => do
    let h ← lowerDigit? high
    let l ← lowerDigit? low
    return UInt8.ofNat (h * 16 + l)
  | _ => none

/-- Whether a text starts with `PUSHn`, `n` bytes of any kind and `JUMPI`. -/
def branches (tail : List UInt8) : Bool :=
  match byteAt? tail 0 >>= Opcode.pushWidth? with
  | none => false
  | some width => byteAt? tail (1 + width) == some Opcode.jumpi.toByte

/-- A probe that a scan looks at. -/
structure Visit where
  /-- The byte offset at which the probe starts. -/
  start : Nat
  /-- Whether a branch follows the probe. -/
  branches : Bool
  deriving DecidableEq, Repr

/-- The probes that a scan looks at in what is left of a text after `offset` bytes. It goes on at
the byte after the start of a probe, and ends with a probe that decides. -/
def visits (probe : List UInt8) (strategy : Strategy) (offset : Nat) : List UInt8 → List Visit
  | [] => []
  | b :: rest =>
    if probe.isPrefixOf (b :: rest) then
      let visit : Visit := ⟨offset, branches ((b :: rest).drop probe.length)⟩
      if visit.branches ∨ strategy = .firstOccurrence then [visit]
      else visit :: visits probe strategy (offset + 1) rest
    else visits probe strategy (offset + 1) rest

/-- The probes for a selector that a scan of a text looks at. -/
def visitsOf (text : String) (selector : Selector) (strategy : Strategy) : List Visit :=
  visits (Text.utf8 (probe selector)) strategy 0 (Text.utf8 text)

/-- Whether a text holds a dispatch check for the selector. -/
def occurs (text : String) (selector : Selector) (strategy : Strategy) : Bool :=
  (visitsOf text selector strategy).any Visit.branches

end Dispatch

end DispatchScan
