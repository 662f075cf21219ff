import DispatchScan.Dispatch
import DispatchScan.Proofs.Text.Ascii

/-!
# Plain hexadecimal text

A text is plain when it consists of the lowercase digits alone. Encoded bytes are plain, and plain
text with an even number of digits is the text of a byte string. The scan's own digit values are
those of the digits that encoding writes.
-/

namespace DispatchScan.Hex

/-- The sixteen digits of plain text. -/
def lowerDigits : List Char := "0123456789abcdef".toList

/-- Whether a text consists of lowercase digits alone. -/
def IsPlain (text : String) : Prop := ∀ c ∈ text.toList, c ∈ lowerDigits

instance : DecidablePred IsPlain := fun text =>
  List.decidableBAll (· ∈ lowerDigits) text.toList

/-- Joined byte strings have joined texts. -/
theorem encode_append (front back : List UInt8) :
    encode (front ++ back) = encode front ++ encode back := by
  apply String.toList_inj.mp
  simp only [encode, digits, String.toList_append, String.toList_ofList, List.flatMap_append]

/-- The bytes of the texts of joined byte strings are joined. -/
theorem utf8_encode_append (front back : List UInt8) :
    Text.utf8 (encode (front ++ back)) = Text.utf8 (encode front) ++ Text.utf8 (encode back) := by
  rw [encode_append, Text.utf8_append]

/-- The digits that encoding writes are lowercase digits. -/
theorem digitChar_mem_lowerDigits : ∀ n < 16, Nat.digitChar n ∈ lowerDigits := by decide

/-- Encoded bytes are plain. -/
theorem isPlain_encode (bytes : List UInt8) : IsPlain (encode bytes) := by
  intro c hc
  rw [encode, String.toList_ofList, digits, List.mem_flatMap] at hc
  obtain ⟨b, -, hb⟩ := hc
  have hlt := b.toNat_lt
  simp only [ofByte, List.mem_cons, List.not_mem_nil, or_false] at hb
  rcases hb with rfl | rfl
  · exact digitChar_mem_lowerDigits _ (by omega)
  · exact digitChar_mem_lowerDigits _ (by omega)

/-- Each byte has two digits. -/
theorem length_digits (bytes : List UInt8) : (digits bytes).length = 2 * bytes.length := by
  induction bytes with
  | nil => rfl
  | cons b bytes ih =>
    have hcons : digits (b :: bytes) = ofByte b ++ digits bytes := List.flatMap_cons
    have hb : (ofByte b).length = 2 := rfl
    rw [hcons, List.length_append, ih, List.length_cons, hb]
    omega

/-- Each digit of encoded bytes is a lowercase digit. -/
theorem mem_lowerDigits_of_mem_digits {bytes : List UInt8} {c : Char} (h : c ∈ digits bytes) :
    c ∈ lowerDigits := by
  refine isPlain_encode bytes c ?_
  rw [encode, String.toList_ofList]
  exact h

/-- The lowercase digits are those of the values below sixteen. -/
theorem lowerDigits_eq_map : lowerDigits = (List.range 16).map Nat.digitChar := by decide

/-- Each lowercase digit is the digit of some value. -/
theorem exists_digitChar_of_mem_lowerDigits {c : Char} (h : c ∈ lowerDigits) :
    ∃ n < 16, c = Nat.digitChar n := by
  rw [lowerDigits_eq_map] at h
  obtain ⟨n, hn, rfl⟩ := List.mem_map.mp h
  exact ⟨n, List.mem_range.mp hn, rfl⟩

/-- A lowercase digit is ASCII. -/
theorem toNat_lt_of_mem_lowerDigits {c : Char} (h : c ∈ lowerDigits) : c.toNat < 0x80 := by
  have hascii : ∀ n < 16, (Nat.digitChar n).toNat < 0x80 := by decide
  obtain ⟨n, hn, rfl⟩ := exists_digitChar_of_mem_lowerDigits h
  exact hascii n hn

/-- Plain text is ASCII. -/
theorem IsPlain.isAscii {text : String} (h : IsPlain text) : Text.IsAscii text :=
  fun c hc => toNat_lt_of_mem_lowerDigits (h c hc)

/-- The bytes of plain text are the codes of digits. -/
theorem IsPlain.mem_utf8 {text : String} (h : IsPlain text) :
    ∀ b ∈ Text.utf8 text, ∃ n < 16, b = UInt8.ofNat (Nat.digitChar n).toNat := by
  intro b hb
  obtain ⟨c, hc, hbc⟩ := List.mem_flatMap.mp hb
  have hlower := h c hc
  rw [Text.utf8EncodeChar_of_lt (toNat_lt_of_mem_lowerDigits hlower), List.mem_singleton] at hbc
  obtain ⟨n, hn, rfl⟩ := exists_digitChar_of_mem_lowerDigits hlower
  exact ⟨n, hn, hbc⟩

/-- Bytes taken from plain text spell a text of their own. -/
theorem IsPlain.exists_utf8_eq {text : String} (h : IsPlain text) {bytes : List UInt8}
    (hbytes : ∀ b ∈ bytes, b ∈ Text.utf8 text) : ∃ s, Text.utf8 s = bytes := by
  refine Text.exists_utf8_eq fun b hb => ?_
  obtain ⟨n, hn, rfl⟩ := h.mem_utf8 b (hbytes b hb)
  have hascii : ∀ n < 16, (UInt8.ofNat (Nat.digitChar n).toNat).toNat < 0x80 := by decide
  exact hascii n hn

/-- The two digits of a byte made of two digit values. -/
theorem utf8_encode_pair {h l : Nat} (hh : h < 16) (hl : l < 16) :
    Text.utf8 (encode [UInt8.ofNat (h * 16 + l)])
      = [UInt8.ofNat (Nat.digitChar h).toNat, UInt8.ofNat (Nat.digitChar l).toNat] := by
  have hb : (UInt8.ofNat (h * 16 + l)).toNat = h * 16 + l := by
    rw [UInt8.toNat_ofNat']
    omega
  have hdiv : (h * 16 + l) / 16 = h := by omega
  have hmod : (h * 16 + l) % 16 = l := by omega
  rw [utf8_encode_cons, hb, hdiv, hmod]
  rfl

/-- An even number of digits is the text of half as many bytes. -/
theorem exists_utf8_encode_eq {count : Nat} {codes : List UInt8}
    (hlength : codes.length = 2 * count)
    (hcodes : ∀ b ∈ codes, ∃ n < 16, b = UInt8.ofNat (Nat.digitChar n).toNat) :
    ∃ bytes : List UInt8, bytes.length = count ∧ Text.utf8 (encode bytes) = codes := by
  induction count generalizing codes with
  | zero => exact ⟨[], rfl, (List.length_eq_zero_iff.mp hlength).symm⟩
  | succ count ih =>
    match codes, hlength with
    | high :: low :: rest, hlength =>
      obtain ⟨h, hh, rfl⟩ := hcodes high List.mem_cons_self
      obtain ⟨l, hl, rfl⟩ := hcodes low (List.mem_cons_of_mem _ List.mem_cons_self)
      have hrest : rest.length = 2 * count := by
        simp only [List.length_cons] at hlength
        omega
      obtain ⟨bytes, hbytes, hutf8⟩ := ih hrest fun b hb =>
        hcodes b (List.mem_cons_of_mem _ (List.mem_cons_of_mem _ hb))
      refine ⟨UInt8.ofNat (h * 16 + l) :: bytes, by rw [List.length_cons, hbytes], ?_⟩
      rw [← List.singleton_append, utf8_encode_append, utf8_encode_pair hh hl, hutf8]
      rfl

end DispatchScan.Hex
