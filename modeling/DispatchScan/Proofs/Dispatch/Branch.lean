import DispatchScan.Dispatch
import DispatchScan.Proofs.Hex.Plain

/-!
# Branches behind a probe

The scan reads single bytes as pairs of lowercase digits. Main statement: a branch follows a probe
exactly when the text behind it splits into `PUSHn`, two digits' room for each of `n` bytes, and
`JUMPI`. The bytes in between may be anything.
-/

namespace DispatchScan.Dispatch

/-- A lowercase digit has its value in the scan. -/
theorem lowerDigit?_digitChar :
    ∀ n < 16, lowerDigit? (UInt8.ofNat (Nat.digitChar n).toNat) = some n := by
  decide

/-- Only the lowercase digits have a value in the scan. -/
theorem eq_digitChar_of_lowerDigit? {b : UInt8} {n : Nat} (h : lowerDigit? b = some n) :
    n < 16 ∧ b = UInt8.ofNat (Nat.digitChar n).toNat := by
  have hdecimal : ∀ n < 10, (Nat.digitChar n).toNat = n + 0x30 := by decide
  have hletter : ∀ n < 16, 10 ≤ n → (Nat.digitChar n).toNat = n + 0x57 := by decide
  unfold lowerDigit? at h
  split at h
  · obtain rfl := Option.some.inj h
    refine ⟨by omega, ?_⟩
    rw [hdecimal _ (by omega), Nat.sub_add_cancel (by omega), UInt8.ofNat_toNat]
  · split at h
    · obtain rfl := Option.some.inj h
      refine ⟨by omega, ?_⟩
      rw [hletter _ (by omega) (by omega), Nat.sub_add_cancel (by omega), UInt8.ofNat_toNat]
    · exact absurd h (by simp)

/-- A byte is read at an index exactly when its two digits stand there. -/
theorem byteAt?_eq_some_iff {text : List UInt8} {index : Nat} {b : UInt8} :
    byteAt? text index = some b ↔
      ∃ rest, text.drop (2 * index) = Text.utf8 (Hex.encode [b]) ++ rest := by
  constructor
  · intro h
    unfold byteAt? at h
    split at h
    · rename_i high low rest hdrop
      simp only [Option.bind_eq_bind, Option.bind_eq_some_iff] at h
      obtain ⟨hi, hhigh, lo, hlow, hb⟩ := h
      obtain ⟨hhi, rfl⟩ := eq_digitChar_of_lowerDigit? hhigh
      obtain ⟨hlo, rfl⟩ := eq_digitChar_of_lowerDigit? hlow
      obtain rfl := Option.some.inj hb
      exact ⟨rest, by rw [hdrop, Hex.utf8_encode_pair hhi hlo]; rfl⟩
    · exact absurd h (by simp)
  · rintro ⟨rest, hdrop⟩
    have hlt := b.toNat_lt
    have hhigh : b.toNat / 16 < 16 := by omega
    have hlow : b.toNat % 16 < 16 := by omega
    have hb : UInt8.ofNat (b.toNat / 16 * 16 + b.toNat % 16) = b := by
      rw [Nat.div_add_mod', UInt8.ofNat_toNat]
    rw [Hex.utf8_encode_cons, List.cons_append, List.cons_append] at hdrop
    unfold byteAt?
    rw [hdrop]
    simp only [lowerDigit?_digitChar _ hhigh, lowerDigit?_digitChar _ hlow, Option.bind_eq_bind,
      Option.bind_some, hb]
    rfl

/-- The instruction byte of a push of up to 32 bytes. -/
theorem toNat_toByte_push {width : Nat} (h : width ≤ 32) :
    ((Opcode.push (UInt8.ofNat width)).toByte).toNat = 0x5f + width := by
  simp only [Opcode.toByte, UInt8.toNat_add, UInt8.toNat_ofNat', UInt8.reduceToNat, Nat.reducePow]
  omega

/-- The widths of pushes are 1 to 32, each with one instruction byte. -/
theorem pushWidth?_eq_some_iff {b : UInt8} {width : Nat} :
    Opcode.pushWidth? b = some width ↔
      1 ≤ width ∧ width ≤ 32 ∧ b = (Opcode.push (UInt8.ofNat width)).toByte := by
  constructor
  · intro h
    unfold Opcode.pushWidth? at h
    split at h
    · obtain rfl := Option.some.inj h
      refine ⟨by omega, by omega, UInt8.toNat_inj.mp ?_⟩
      rw [toNat_toByte_push (by omega)]
      omega
    · exact absurd h (by simp)
  · rintro ⟨hlow, hhigh, rfl⟩
    unfold Opcode.pushWidth?
    rw [toNat_toByte_push hhigh, if_pos (by omega)]
    congr 1
    omega

/-- A branch is read off two bytes: `PUSHn` at the front, and `JUMPI` behind `n` bytes more. -/
theorem branches_eq_true_iff_byteAt? {tail : List UInt8} :
    branches tail = true ↔ ∃ width, 1 ≤ width ∧ width ≤ 32 ∧
      byteAt? tail 0 = some (Opcode.push (UInt8.ofNat width)).toByte ∧
      byteAt? tail (1 + width) = some Opcode.jumpi.toByte := by
  constructor
  · intro h
    unfold branches at h
    split at h
    · exact absurd h Bool.false_ne_true
    · rename_i width hwidth
      obtain ⟨push, hpush, hsome⟩ := Option.bind_eq_some_iff.mp hwidth
      obtain ⟨hlow, hhigh, rfl⟩ := pushWidth?_eq_some_iff.mp hsome
      exact ⟨width, hlow, hhigh, hpush, beq_iff_eq.mp h⟩
  · rintro ⟨width, hlow, hhigh, hpush, hjumpi⟩
    have hwidth : Opcode.pushWidth? (Opcode.push (UInt8.ofNat width)).toByte = some width :=
      pushWidth?_eq_some_iff.mpr ⟨hlow, hhigh, rfl⟩
    unfold branches
    rw [hpush, Option.bind_eq_bind, Option.bind_some, hwidth]
    exact beq_iff_eq.mpr hjumpi

/-- The two digits of `PUSHn`. -/
def pushText (width : Nat) : List UInt8 :=
  Text.utf8 (Hex.encode [(Opcode.push (UInt8.ofNat width)).toByte])

/-- The two digits of `JUMPI`. -/
def jumpiText : List UInt8 :=
  Text.utf8 (Hex.encode [Opcode.jumpi.toByte])

/-- An instruction byte has two digits. -/
theorem length_pushText (width : Nat) : (pushText width).length = 2 :=
  Hex.length_utf8_encode _

/-- Behind `PUSHn` the text is read one byte on. -/
theorem drop_pushText_append (width index : Nat) (rest : List UInt8) :
    (pushText width ++ rest).drop (2 * (1 + index)) = rest.drop (2 * index) := by
  have hoffset : 2 * (1 + index) = (pushText width).length + 2 * index := by
    rw [length_pushText]
    omega
  rw [hoffset, List.drop_length_add_append]

/-- The text behind a probe splits into `PUSHn`, room for `n` bytes, `JUMPI` and anything. -/
structure BranchSplit (tail : List UInt8) (width : Nat) (middle back : List UInt8) : Prop where
  /-- At least one byte is pushed. -/
  one_le : 1 ≤ width
  /-- At most 32 bytes are pushed. -/
  le_max : width ≤ 32
  /-- Each pushed byte has room for two digits. -/
  length_middle : middle.length = 2 * width
  /-- The parts in order. -/
  eq_append : tail = pushText width ++ (middle ++ (jumpiText ++ back))

/-- A branch follows exactly when the text splits. -/
theorem branches_eq_true_iff {tail : List UInt8} :
    branches tail = true ↔ ∃ width middle back, BranchSplit tail width middle back := by
  rw [branches_eq_true_iff_byteAt?]
  constructor
  · rintro ⟨width, hlow, hhigh, hpush, hjumpi⟩
    obtain ⟨rest, hrest⟩ := byteAt?_eq_some_iff.mp hpush
    obtain ⟨back, hback⟩ := byteAt?_eq_some_iff.mp hjumpi
    have htail : tail = pushText width ++ rest := hrest
    rw [htail, drop_pushText_append] at hback
    have hlength : (rest.take (2 * width)).length = 2 * width := by
      have hdrop := congrArg List.length hback
      rw [List.length_drop, List.length_append, Hex.length_utf8_encode, List.length_singleton]
        at hdrop
      rw [List.length_take]
      omega
    refine ⟨width, rest.take (2 * width), back, hlow, hhigh, hlength, ?_⟩
    rw [htail, jumpiText, ← hback, List.take_append_drop]
  · rintro ⟨width, middle, back, hlow, hhigh, hmiddle, rfl⟩
    refine ⟨width, hlow, hhigh, byteAt?_eq_some_iff.mpr ⟨middle ++ (jumpiText ++ back), rfl⟩,
      byteAt?_eq_some_iff.mpr ⟨back, ?_⟩⟩
    rw [drop_pushText_append, ← hmiddle, List.drop_left, jumpiText]

end DispatchScan.Dispatch
