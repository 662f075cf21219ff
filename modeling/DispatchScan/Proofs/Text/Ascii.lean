import DispatchScan.Text.Utf8

/-!
# ASCII texts and their bytes

Joined texts have joined bytes, and the bytes of a text determine it. Where every character is below
U+0080 a byte is a character: each list of such bytes spells a text, and the parts of the text are
the parts of its bytes.
-/

namespace DispatchScan.Text

/-- Joined texts have joined bytes. -/
theorem utf8_append (s t : String) : utf8 (s ++ t) = utf8 s ++ utf8 t := by
  rw [utf8, String.toList_append, List.flatMap_append, utf8, utf8]

/-- The bytes of a text determine it. -/
theorem utf8_injective {s t : String} (h : utf8 s = utf8 t) : s = t := by
  have hs := ofUtf8?_utf8 s
  rw [h, ofUtf8?_utf8] at hs
  exact (Option.some.inj hs).symm

/-- What holds of each code below a bound holds of the characters with such codes. -/
theorem of_forall_code_lt {bound : Nat} {p : Char → Prop} (h : ∀ n < bound, p (Char.ofNat n))
    {c : Char} (hc : c.toNat < bound) : p c := by
  have hcode := h c.toNat hc
  rwa [Char.ofNat_toNat] at hcode

/-- An ASCII character is written as one byte, its code. -/
theorem utf8EncodeChar_of_lt {c : Char} (h : c.toNat < 0x80) :
    String.utf8EncodeChar c = [UInt8.ofNat c.toNat] := by
  have hc : c.val.toNat = c.toNat := rfl
  unfold String.utf8EncodeChar
  simp only [hc]
  rw [if_pos (by omega)]

/-- Characters above U+007F are written in bytes above 0x7f. -/
theorem le_of_mem_utf8EncodeChar {c : Char} (h : ¬c.toNat < 0x80) :
    ∀ b ∈ String.utf8EncodeChar c, 0x80 ≤ b.toNat := by
  have hc : c.val.toNat = c.toNat := rfl
  have hlt : c.toNat < 0x110000 := by
    rw [← hc]
    rcases c.valid with h | h <;> simp only [UInt32.toNat] at h ⊢ <;> omega
  intro b hb
  unfold String.utf8EncodeChar at hb
  simp only [hc] at hb
  rw [if_neg (by omega)] at hb
  split at hb
  · simp only [List.mem_cons, List.not_mem_nil, or_false] at hb
    rcases hb with rfl | rfl <;> simp only [UInt8.toNat_ofNat', Nat.reducePow] <;> omega
  · split at hb
    · simp only [List.mem_cons, List.not_mem_nil, or_false] at hb
      rcases hb with rfl | rfl | rfl <;> simp only [UInt8.toNat_ofNat', Nat.reducePow] <;> omega
    · simp only [List.mem_cons, List.not_mem_nil, or_false] at hb
      rcases hb with rfl | rfl | rfl | rfl <;>
        simp only [UInt8.toNat_ofNat', Nat.reducePow] <;> omega

/-- The byte of an ASCII character. -/
def asciiByte (c : Char) : UInt8 := UInt8.ofNat c.toNat

/-- The character of an ASCII byte. -/
def asciiChar (b : UInt8) : Char := Char.ofNat b.toNat

/-- The byte of a character below U+0080 has the character's code as its value. -/
theorem toNat_asciiByte {c : Char} (h : c.toNat < 0x80) : (asciiByte c).toNat = c.toNat := by
  rw [asciiByte, UInt8.toNat_ofNat', Nat.mod_eq_of_lt (by omega)]

/-- The character of a byte below 0x80 has the byte's value as its code. -/
theorem toNat_asciiChar {b : UInt8} (h : b.toNat < 0x80) : (asciiChar b).toNat = b.toNat := by
  have hv : b.toNat.isValidChar := Or.inl (by omega)
  rw [asciiChar, Char.ofNat, dif_pos hv]
  rfl

/-- ASCII characters are recovered from their bytes. -/
theorem map_asciiChar_map_asciiByte {cs : List Char} (h : ∀ c ∈ cs, c.toNat < 0x80) :
    (cs.map asciiByte).map asciiChar = cs := by
  rw [List.map_map]
  refine (List.map_congr_left fun c hc => ?_).trans (List.map_id cs)
  rw [Function.comp_apply, asciiChar, toNat_asciiByte (h c hc), Char.ofNat_toNat, id]

/-- ASCII characters are written as one byte each. -/
theorem flatMap_utf8EncodeChar {cs : List Char} (h : ∀ c ∈ cs, c.toNat < 0x80) :
    cs.flatMap String.utf8EncodeChar = cs.map asciiByte := by
  induction cs with
  | nil => rfl
  | cons c cs ih =>
    have hc := h c List.mem_cons_self
    rw [List.flatMap_cons, ih fun d hd => h d (List.mem_cons_of_mem c hd), utf8EncodeChar_of_lt hc,
      List.map_cons, List.singleton_append, asciiByte]

/-- Whether every character of a text is below U+0080. -/
def IsAscii (s : String) : Prop := ∀ c ∈ s.toList, c.toNat < 0x80

/-- The bytes of an ASCII text are those of its characters. -/
theorem IsAscii.utf8_eq {s : String} (h : IsAscii s) : utf8 s = s.toList.map asciiByte :=
  flatMap_utf8EncodeChar h

/-- A text is ASCII when all its bytes are below 0x80. -/
theorem isAscii_of_utf8_lt {s : String} (h : ∀ b ∈ utf8 s, b.toNat < 0x80) : IsAscii s := by
  intro c hc
  refine Decidable.byContradiction fun hlarge => ?_
  obtain ⟨b, hb⟩ := List.exists_mem_of_ne_nil _ (String.utf8EncodeChar_ne_nil (c := c))
  have hlow := h b (List.mem_flatMap.mpr ⟨c, hc, hb⟩)
  have hhigh := le_of_mem_utf8EncodeChar hlarge b hb
  omega

/-- Bytes below 0x80 spell a text. -/
theorem exists_utf8_eq {bytes : List UInt8} (h : ∀ b ∈ bytes, b.toNat < 0x80) :
    ∃ s, utf8 s = bytes := by
  have hchars : ∀ c ∈ bytes.map asciiChar, c.toNat < 0x80 := by
    intro c hc
    obtain ⟨b, hb, rfl⟩ := List.mem_map.mp hc
    rw [toNat_asciiChar (h b hb)]
    exact h b hb
  refine ⟨String.ofList (bytes.map asciiChar), ?_⟩
  rw [utf8, String.toList_ofList, flatMap_utf8EncodeChar hchars, List.map_map]
  refine (List.map_congr_left fun b hb => ?_).trans (List.map_id bytes)
  rw [Function.comp_apply, asciiByte, toNat_asciiChar (h b hb), UInt8.ofNat_toNat, id]

/-- The parts of ASCII characters are the parts of their bytes. -/
theorem map_asciiByte_infix_iff {part cs : List Char} (hpart : ∀ c ∈ part, c.toNat < 0x80)
    (hcs : ∀ c ∈ cs, c.toNat < 0x80) :
    part.map asciiByte <:+: cs.map asciiByte ↔ part <:+: cs := by
  constructor
  · intro h
    have hchars := h.map asciiChar
    rwa [map_asciiChar_map_asciiByte hpart, map_asciiChar_map_asciiByte hcs] at hchars
  · intro h
    exact h.map asciiByte

end DispatchScan.Text
