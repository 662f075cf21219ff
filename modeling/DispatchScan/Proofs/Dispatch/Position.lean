import DispatchScan.Proofs.Dispatch.Branch
import DispatchScan.Proofs.Dispatch.Occurrence
import Mathlib.Order.Bounds.Defs

/-!
# Checks by the positions of their bytes

What a scan looks for, told by the single bytes at fixed distances from an offset, for any text: the
digits of the probe, the two digits of `PUSHn`, and `57` behind the room for `n` bytes. Main
statement: every occurrence counts when all are examined, and otherwise only the least offset at
which the probe starts.
-/

namespace DispatchScan.Dispatch

/-- The byte of the lowercase digit with a value below sixteen. -/
def digitByte (value : Nat) : UInt8 := Text.asciiByte (Nat.digitChar value)

/-- The two digits of a number below 256 stand at an offset of a text. -/
def DigitsAt (text : List UInt8) (offset number : Nat) : Prop :=
  text[offset]? = some (digitByte (number / 16)) ∧
    text[offset + 1]? = some (digitByte (number % 16))

/-- Two bytes stand at an offset exactly when the rest of the text begins with them. -/
theorem exists_drop_eq_cons_cons_iff {text : List UInt8} {offset : Nat} {a b : UInt8} :
    (∃ rest, text.drop offset = a :: b :: rest) ↔
      text[offset]? = some a ∧ text[offset + 1]? = some b := by
  have hfirst : (text.drop offset)[0]? = text[offset]? := List.getElem?_drop
  have hsecond : (text.drop offset)[1]? = text[offset + 1]? := List.getElem?_drop
  rw [← hfirst, ← hsecond]
  constructor
  · rintro ⟨rest, hrest⟩
    rw [hrest]
    exact ⟨rfl, rfl⟩
  · rintro ⟨ha, hb⟩
    match hrest : text.drop offset with
    | [] =>
      rw [hrest] at ha
      exact absurd ha nofun
    | [c] =>
      rw [hrest] at hb
      exact absurd hb nofun
    | c :: d :: rest =>
      rw [hrest] at ha hb
      obtain rfl := Option.some.inj ha
      obtain rfl := Option.some.inj hb
      exact ⟨rest, rfl⟩

/-- The scan reads a byte where its two digits stand. -/
theorem byteAt?_drop_eq_some_iff {text : List UInt8} {offset index : Nat} {b : UInt8} :
    byteAt? (text.drop offset) index = some b ↔ DigitsAt text (offset + 2 * index) b.toNat := by
  have hdigits : Text.utf8 (Hex.encode [b])
      = [digitByte (b.toNat / 16), digitByte (b.toNat % 16)] := Hex.utf8_encode_cons b []
  rw [byteAt?_eq_some_iff, List.drop_drop, DigitsAt, ← exists_drop_eq_cons_cons_iff, hdigits]
  rfl

/-- Behind an offset a branch follows exactly when the digits of `PUSHn` stand there, and `57` after
the room for `n` bytes. -/
theorem branches_drop_eq_true_iff {text : List UInt8} {offset : Nat} :
    branches (text.drop offset) = true ↔
      ∃ n, 1 ≤ n ∧ n ≤ 32 ∧ DigitsAt text offset (0x5f + n) ∧
        text[offset + 2 + 2 * n]? = some 0x35 ∧ text[offset + 3 + 2 * n]? = some 0x37 := by
  rw [branches_eq_true_iff_byteAt?]
  refine exists_congr fun n => and_congr_right fun _ => and_congr_right fun hn => ?_
  have hjumpi : offset + 2 * (1 + n) = offset + 2 + 2 * n := by omega
  rw [byteAt?_drop_eq_some_iff, byteAt?_drop_eq_some_iff, toNat_toByte_push hn, hjumpi,
    Nat.mul_zero, Nat.add_zero]
  refine and_congr_right fun _ => ?_
  have hnext : offset + 2 + 2 * n + 1 = offset + 3 + 2 * n := by omega
  rw [DigitsAt, hnext]
  rfl

/-- A check for the selector starts at a byte offset of a text. Nothing is required of the bytes
between `PUSHn` and `57`. -/
structure SpelledAt (text : List UInt8) (selector : Selector) (offset : Nat) : Prop where
  /-- The twelve bytes at the offset are the probe. -/
  probe : (text.drop offset).take 12 = Text.utf8 (probe selector)
  /-- The digits of `PUSHn` follow, and `57` behind two bytes for each of the `n`. -/
  branch : ∃ n, 1 ≤ n ∧ n ≤ 32 ∧ DigitsAt text (offset + 12) (0x5f + n) ∧
    text[offset + 14 + 2 * n]? = some 0x35 ∧ text[offset + 15 + 2 * n]? = some 0x37

/-- The probe for a selector starts where its twelve bytes stand. -/
theorem probeAt_probe_iff {text : List UInt8} {selector : Selector} {offset : Nat} :
    ProbeAt (Text.utf8 (probe selector)) text offset ↔
      (text.drop offset).take 12 = Text.utf8 (probe selector) := by
  rw [ProbeAt, List.prefix_iff_eq_take, length_utf8_probe]
  exact eq_comm

/-- The scan accepts an offset exactly when the bytes of a check stand there. -/
theorem checkAt_probe_iff {text : List UInt8} {selector : Selector} {offset : Nat} :
    CheckAt (Text.utf8 (probe selector)) text offset ↔ SpelledAt text selector offset := by
  rw [CheckAt, probeAt_probe_iff, length_utf8_probe, branches_drop_eq_true_iff]
  constructor
  · rintro ⟨hprobe, hbranch⟩
    exact ⟨hprobe, hbranch⟩
  · rintro ⟨hprobe, hbranch⟩
    exact ⟨hprobe, hbranch⟩

/-- The offsets at which the probe for a selector starts. -/
def starts (text : String) (selector : Selector) : Set Nat :=
  {start | ProbeAt (Text.utf8 (probe selector)) (Text.utf8 text) start}

/-- A check starts with a probe. -/
theorem SpelledAt.mem_starts {text : String} {selector : Selector} {offset : Nat}
    (h : SpelledAt (Text.utf8 text) selector offset) : offset ∈ starts text selector :=
  probeAt_probe_iff.mpr h.probe

/-- When every occurrence is examined, a selector occurs where a check is spelled. -/
theorem occurs_allOccurrences_iff {text : String} {selector : Selector} :
    occurs text selector .allOccurrences = true ↔
      ∃ offset, SpelledAt (Text.utf8 text) selector offset := by
  have hall : Strategy.allOccurrences ≠ .firstOccurrence := by decide
  rw [occurs_eq_true_iff]
  refine exists_congr fun offset => ?_
  rw [Decisive, checkAt_probe_iff]
  exact and_iff_left fun h => absurd h hall

/-- By default a selector occurs where a check is spelled at the least offset with its probe. -/
theorem occurs_firstOccurrence_iff {text : String} {selector : Selector} :
    occurs text selector .firstOccurrence = true ↔
      ∃ offset, IsLeast (starts text selector) offset ∧
        SpelledAt (Text.utf8 text) selector offset := by
  rw [occurs_eq_true_iff]
  refine exists_congr fun offset => ?_
  rw [Decisive, checkAt_probe_iff, and_comm]
  refine and_congr_left fun hspelled => ?_
  constructor
  · intro hfirst
    exact ⟨hspelled.mem_starts, fun start hstart =>
      Nat.le_of_not_lt fun hlt => hfirst rfl start hlt hstart⟩
  · intro hleast _ earlier hlt hstart
    exact absurd hlt (Nat.not_lt.mpr (hleast.2 hstart))

/-- When every occurrence is examined, a selector occurs in a text exactly when a check for it is
spelled at some offset. By default it occurs exactly when the probe starts somewhere in the text and
a check is spelled at the least such offset. -/
theorem occurs_iff_spelledAt (text : String) (selector : Selector) :
    (occurs text selector .allOccurrences = true ↔
      ∃ offset, SpelledAt (Text.utf8 text) selector offset) ∧
    (occurs text selector .firstOccurrence = true ↔
      ∃ offset, IsLeast {start | ProbeAt (Text.utf8 (probe selector)) (Text.utf8 text) start} offset ∧
        SpelledAt (Text.utf8 text) selector offset) :=
  ⟨occurs_allOccurrences_iff, occurs_firstOccurrence_iff⟩

end DispatchScan.Dispatch
