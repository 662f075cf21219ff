import DispatchScan.Proofs.Dispatch.Branch
import DispatchScan.Proofs.Dispatch.Occurrence
import Mathlib.Algebra.Ring.Parity

/-!
# Checks in the text of code

Code is a byte string, but it is its digits that are scanned, and a probe may start at the second
digit of a byte. What is read there is made of the second digit of each byte and the first digit of
the next one: the bytes that straddle those of the code. Main statement: the scan of the digits finds
the checks among the bytes of the code, and those among the straddling bytes too, although no
instruction of the code stands there.
-/

namespace DispatchScan

namespace Hex

/-- The bytes that straddle the given ones: the second digit of each and the first digit of the
next. -/
def straddling : List UInt8 → List UInt8
  | a :: b :: rest => UInt8.ofNat (a.toNat % 16 * 16 + b.toNat / 16) :: straddling (b :: rest)
  | _ => []

/-- Behind its first digit a text of bytes is the text of the straddling ones, and at most one digit
more. -/
theorem exists_tail_utf8_encode_drop_one (bytes : List UInt8) :
    ∃ tail, tail.length ≤ 1 ∧
      (Text.utf8 (encode bytes)).drop 1 = Text.utf8 (encode (straddling bytes)) ++ tail := by
  induction bytes with
  | nil => exact ⟨[], Nat.zero_le 1, rfl⟩
  | cons a bytes ih =>
    cases bytes with
    | nil =>
      refine ⟨[UInt8.ofNat (Nat.digitChar (a.toNat % 16)).toNat], Nat.le_refl 1, ?_⟩
      rw [utf8_encode_cons, List.drop_one, List.tail_cons]
      rfl
    | cons b rest =>
      obtain ⟨tail, htail, hrest⟩ := ih
      refine ⟨tail, htail, ?_⟩
      have hlow : a.toNat % 16 < 16 := Nat.mod_lt _ (by decide)
      have hhigh : b.toNat / 16 < 16 := by
        have hb := b.toNat_lt
        omega
      rw [utf8_encode_cons b, List.drop_one, List.tail_cons] at hrest
      have hcons := utf8_encode_append [UInt8.ofNat (a.toNat % 16 * 16 + b.toNat / 16)]
        (straddling (b :: rest))
      rw [List.singleton_append, utf8_encode_pair hlow hhigh] at hcons
      rw [straddling, hcons, List.append_assoc, ← hrest, utf8_encode_cons a, utf8_encode_cons b]
      rfl

/-- Behind the digits of some bytes stand those of the others. -/
theorem drop_utf8_encode (count : Nat) (bytes : List UInt8) :
    (Text.utf8 (encode bytes)).drop (2 * count) = Text.utf8 (encode (bytes.drop count)) := by
  induction count generalizing bytes with
  | zero => rfl
  | succ count ih =>
    cases bytes with
    | nil => rw [List.drop_nil]; exact List.drop_nil
    | cons b bytes =>
      rw [utf8_encode_cons, Nat.mul_succ, List.drop_succ_cons, List.drop_succ_cons, ih,
        List.drop_succ_cons]

/-- A byte is known by its two digits. -/
theorem eq_of_digits {x y : UInt8}
    (hhigh : UInt8.ofNat (Nat.digitChar (x.toNat / 16)).toNat
      = UInt8.ofNat (Nat.digitChar (y.toNat / 16)).toNat)
    (hlow : UInt8.ofNat (Nat.digitChar (x.toNat % 16)).toNat
      = UInt8.ofNat (Nat.digitChar (y.toNat % 16)).toNat) : x = y := by
  have hdigits : ∀ n < 16, ∀ m < 16, UInt8.ofNat (Nat.digitChar n).toNat
      = UInt8.ofNat (Nat.digitChar m).toNat → n = m := by
    decide
  have hx := x.toNat_lt
  have hy := y.toNat_lt
  have hdiv := hdigits _ (by omega) _ (by omega) hhigh
  have hmod := hdigits _ (by omega) _ (by omega) hlow
  apply UInt8.toNat_inj.mp
  omega

/-- The text of bytes starts a longer text of bytes, or one with a digit more, exactly when the bytes
start the others. -/
theorem utf8_encode_prefix_iff {part bytes tail : List UInt8} (htail : tail.length ≤ 1) :
    Text.utf8 (encode part) <+: Text.utf8 (encode bytes) ++ tail ↔ part <+: bytes := by
  constructor
  · intro h
    induction part generalizing bytes with
    | nil => exact List.nil_prefix
    | cons x part ih =>
      rw [utf8_encode_cons] at h
      cases bytes with
      | nil =>
        have hlength := h.length_le
        rw [List.length_cons, List.length_cons, List.length_append] at hlength
        have hnil : (Text.utf8 (encode [])).length = 0 := rfl
        omega
      | cons y bytes =>
        rw [utf8_encode_cons, List.cons_append, List.cons_append, List.cons_prefix_cons,
          List.cons_prefix_cons] at h
        obtain ⟨hhigh, hlow, hrest⟩ := h
        obtain rfl := eq_of_digits hhigh hlow
        exact (List.prefix_cons_inj x).mpr (ih hrest)
  · rintro ⟨rest, rfl⟩
    rw [utf8_encode_append, List.append_assoc]
    exact List.prefix_append _ _

end Hex

namespace Dispatch

/-- The bytes that are read from the text of code, even with a digit more, are those of the code. -/
theorem byteAt?_utf8_encode_append (code : List UInt8) {tail : List UInt8}
    (htail : tail.length ≤ 1) (index : Nat) :
    byteAt? (Text.utf8 (Hex.encode code) ++ tail) index = code[index]? := by
  induction code generalizing index with
  | nil =>
    have hnil : Text.utf8 (Hex.encode []) ++ tail = tail := rfl
    have hshort : (tail.drop (2 * index)).length ≤ 1 := by
      rw [List.length_drop]
      omega
    rw [hnil, List.getElem?_nil, byteAt?]
    split
    · rename_i hdrop
      rw [hdrop, List.length_cons, List.length_cons] at hshort
      omega
    · rfl
  | cons b code ih =>
    cases index with
    | zero =>
      rw [List.getElem?_cons_zero, byteAt?_eq_some_iff]
      refine ⟨Text.utf8 (Hex.encode code) ++ tail, ?_⟩
      rw [Nat.mul_zero, List.drop_zero, ← List.append_assoc, ← Hex.utf8_encode_append,
        List.singleton_append]
    | succ index =>
      rw [List.getElem?_cons_succ, ← ih index, Hex.utf8_encode_cons, byteAt?, byteAt?, Nat.mul_succ]
      rfl

/-- The dispatch check for a selector stands at an index of code: `PUSH4`, the bytes of the selector,
`EQ`, `PUSHn` and, behind `n` bytes, `JUMPI`. -/
structure CodedAt (code : List UInt8) (selector : Selector) (index : Nat) : Prop where
  /-- `PUSH4` stands at the index. -/
  push4 : code[index]? = some 0x63
  /-- The bytes of the selector are pushed. -/
  selector : (code.drop (index + 1)).take 4 = selector.bytes
  /-- They are compared. -/
  eq : code[index + 5]? = some 0x14
  /-- A destination of `n` bytes is pushed, and jumped to. -/
  branch : ∃ n, 1 ≤ n ∧ n ≤ 32 ∧ code[index + 6]? = some (UInt8.ofNat (0x5f + n)) ∧
    code[index + 7 + n]? = some 0x57

/-- Code goes on with the bytes of a probe exactly when their single bytes stand in it. -/
theorem probeBytes_prefix_drop_iff {code : List UInt8} {selector : Selector} {index : Nat} :
    probeBytes selector <+: code.drop index ↔
      code[index]? = some 0x63 ∧ (code.drop (index + 1)).take 4 = selector.bytes ∧
        code[index + 5]? = some 0x14 := by
  have hfirst : (code.drop index)[0]? = code[index]? := List.getElem?_drop
  have hlast : (code.drop index)[5]? = code[index + 5]? := List.getElem?_drop
  rw [← hfirst, ← hlast, ← List.drop_drop]
  generalize code.drop index = rest
  constructor
  · rintro ⟨back, rfl⟩
    exact ⟨rfl, rfl, rfl⟩
  · rintro ⟨hpush, hselector, heq⟩
    cases rest with
    | nil => exact absurd hpush nofun
    | cons b rest =>
      obtain rfl := Option.some.inj hpush
      rw [List.drop_one, List.tail_cons] at hselector
      have hrest := List.take_append_drop 4 rest
      rw [hselector] at hrest
      rw [← hrest] at heq ⊢
      cases hback : rest.drop 4 with
      | nil =>
        rw [hback] at heq
        exact absurd heq nofun
      | cons c back =>
        rw [hback] at heq
        obtain rfl := Option.some.inj heq
        exact ⟨back, rfl⟩

/-- Behind whole bytes the reading of bytes goes on. -/
theorem byteAt?_drop (text : List UInt8) (count index : Nat) :
    byteAt? (text.drop (2 * count)) index = byteAt? text (count + index) := by
  rw [byteAt?, byteAt?, List.drop_drop, Nat.mul_add]

/-- The instruction byte of `PUSHn` as a number. -/
theorem toByte_push_eq {width : Nat} (h : width ≤ 32) :
    (Opcode.push (UInt8.ofNat width)).toByte = UInt8.ofNat (0x5f + width) := by
  apply UInt8.toNat_inj.mp
  rw [toNat_toByte_push h, UInt8.toNat_ofNat', Nat.mod_eq_of_lt (by omega)]

/-- At an even offset of the text of code, even with a digit more, the scan accepts the checks that
stand in the code. -/
theorem checkAt_even_iff {code tail : List UInt8} (htail : tail.length ≤ 1) {selector : Selector}
    {index : Nat} :
    CheckAt (Text.utf8 (probe selector)) (Text.utf8 (Hex.encode code) ++ tail) (2 * index) ↔
      CodedAt code selector index := by
  have hprobe : ProbeAt (Text.utf8 (probe selector)) (Text.utf8 (Hex.encode code) ++ tail)
      (2 * index) ↔ probeBytes selector <+: code.drop index := by
    have hshort : (tail.drop (2 * index - (Text.utf8 (Hex.encode code)).length)).length ≤ 1 := by
      rw [List.length_drop]
      omega
    rw [ProbeAt, List.drop_append, Hex.drop_utf8_encode, probe, Hex.utf8_encode_prefix_iff hshort]
  have hbranch : branches ((Text.utf8 (Hex.encode code) ++ tail).drop (2 * index + 12)) = true ↔
      ∃ n, 1 ≤ n ∧ n ≤ 32 ∧ code[index + 6]? = some (UInt8.ofNat (0x5f + n)) ∧
        code[index + 7 + n]? = some 0x57 := by
    have hoffset : 2 * index + 12 = 2 * (index + 6) := by omega
    rw [hoffset, branches_eq_true_iff_byteAt?]
    refine exists_congr fun n => and_congr_right fun _ => and_congr_right fun hn => ?_
    have hindex : index + 6 + (1 + n) = index + 7 + n := by omega
    rw [byteAt?_drop, byteAt?_drop, byteAt?_utf8_encode_append code htail,
      byteAt?_utf8_encode_append code htail, toByte_push_eq hn, hindex, Nat.add_zero]
    rfl
  rw [CheckAt, hprobe, length_utf8_probe, hbranch, probeBytes_prefix_drop_iff]
  constructor
  · rintro ⟨⟨hpush, hselector, heq⟩, hbranch⟩
    exact ⟨hpush, hselector, heq, hbranch⟩
  · rintro ⟨hpush, hselector, heq, hbranch⟩
    exact ⟨⟨hpush, hselector, heq⟩, hbranch⟩

/-- At an odd offset of the text of code the scan accepts the checks that stand among the straddling
bytes. -/
theorem checkAt_odd_iff {code : List UInt8} {selector : Selector} {index : Nat} :
    CheckAt (Text.utf8 (probe selector)) (Text.utf8 (Hex.encode code)) (2 * index + 1) ↔
      CodedAt (Hex.straddling code) selector index := by
  obtain ⟨tail, htail, hdrop⟩ := Hex.exists_tail_utf8_encode_drop_one code
  rw [Nat.add_comm, ← checkAt_drop_iff, hdrop, checkAt_even_iff htail]

/-- When every occurrence is examined, a selector occurs in the text of code exactly when a check for
it stands among the bytes of the code or among those that straddle them. -/
theorem occurs_encode_iff (code : List UInt8) (selector : Selector) :
    occurs (Hex.encode code) selector .allOccurrences = true ↔
      (∃ index, CodedAt code selector index) ∨
        ∃ index, CodedAt (Hex.straddling code) selector index := by
  have hnil : ([] : List UInt8).length ≤ 1 := by decide
  have heven : ∀ index, CheckAt (Text.utf8 (probe selector)) (Text.utf8 (Hex.encode code))
      (2 * index) ↔ CodedAt code selector index := by
    intro index
    rw [← checkAt_even_iff hnil, List.append_nil]
  rw [occurs_eq_true_iff]
  constructor
  · rintro ⟨offset, hcheck, -⟩
    rcases Nat.even_or_odd' offset with ⟨index, rfl | rfl⟩
    · exact .inl ⟨index, (heven index).mp hcheck⟩
    · exact .inr ⟨index, checkAt_odd_iff.mp hcheck⟩
  · rintro (⟨index, hcoded⟩ | ⟨index, hcoded⟩)
    · exact ⟨2 * index, (heven index).mpr hcoded, nofun⟩
    · exact ⟨2 * index + 1, checkAt_odd_iff.mpr hcoded, nofun⟩

/-- In these ten bytes no `PUSH4` stands at all, but a check for a transfer is found in their text:
its digits start at the second digit of the first byte. -/
theorem occurs_without_instruction :
    ¬(occurs (Hex.encode [0x06, 0x3a, 0x90, 0x59, 0xcb, 0xb1, 0x46, 0x04, 0x55, 0x70])
        ⟨0xa9, 0x05, 0x9c, 0xbb⟩ .allOccurrences = true ↔
      ∃ index, CodedAt [0x06, 0x3a, 0x90, 0x59, 0xcb, 0xb1, 0x46, 0x04, 0x55, 0x70]
        ⟨0xa9, 0x05, 0x9c, 0xbb⟩ index) := by
  have hoccurs : occurs (Hex.encode [0x06, 0x3a, 0x90, 0x59, 0xcb, 0xb1, 0x46, 0x04, 0x55, 0x70])
      ⟨0xa9, 0x05, 0x9c, 0xbb⟩ .allOccurrences = true := by
    decide +kernel
  intro hclaim
  obtain ⟨index, hcoded⟩ := hclaim.mp hoccurs
  have hmem := List.mem_of_getElem? hcoded.push4
  exact absurd hmem (by decide)

end Dispatch

end DispatchScan
