import DispatchScan.Json.Skip
import DispatchScan.Proofs.Hex.Reading
import DispatchScan.Proofs.Json.Grammar
import DispatchScan.Proofs.Json.Written

/-!
# Strings in any spelling

A string is read as the text that it spells, whichever escapes are used. Passing over a string asks
for less than reading it: every content will do, and what can be read is passed over up to the same
place.
-/

namespace DispatchScan.Json.Reader

/-! ## The content of a string as bytes -/

/-- The digits of a unit are four bytes with its value. -/
theorem exists_unit?_eq {n : Nat} {ds : List Char} (h : IsUnit n ds) :
    ∃ a b c d, spell ds = [a, b, c, d] ∧ unit? a b c d = some n := by
  obtain ⟨hn, hlower⟩ := h
  have hdigit : ∀ c : Char, ∀ value < 16, c.toLower = Nat.digitChar value →
      c.toNat < 0x80 ∧ Hex.digitValue? (code c).toNat = some value := by
    intro c value hvalue hc
    have hmem : c.toLower ∈ Hex.lowerDigits := hc ▸ Hex.digitChar_mem_lowerDigits value hvalue
    have hlt : c.toNat < 0x80 := Hex.toNat_lt_of_mem_anyDigits
      ((Hex.isDigit_iff_mem_anyDigits c).mp ((Hex.isDigit_iff_toLower_mem c).mpr hmem))
    have hcode : (code c).toNat = c.toNat := Text.toNat_asciiByte hlt
    exact ⟨hlt, hcode ▸ (Hex.digitValue?_toNat_eq_some_iff hlt hvalue).mpr hc⟩
  have hlength : ds.length = 4 := by
    have hmap := congrArg List.length hlower
    rwa [List.length_map] at hmap
  match ds, hlength, hlower with
  | [a, b, c, d], _, hlower =>
    simp only [List.map_cons, List.map_nil, List.cons.injEq, and_true] at hlower
    obtain ⟨ha, hb, hc, hd⟩ := hlower
    obtain ⟨halt, hav⟩ := hdigit a _ (by omega) ha
    obtain ⟨hblt, hbv⟩ := hdigit b _ (by omega) hb
    obtain ⟨hclt, hcv⟩ := hdigit c _ (by omega) hc
    obtain ⟨hdlt, hdv⟩ := hdigit d _ (by omega) hd
    have hsum : ((n / 0x1000 * 16 + n / 0x100 % 0x10) * 16 + n / 0x10 % 0x10) * 16 + n % 0x10
        = n := by
      omega
    refine ⟨code a, code b, code c, code d, ?_, ?_⟩
    · rw [spell_cons_of_lt halt, spell_cons_of_lt hblt, spell_cons_of_lt hclt,
        spell_cons_of_lt hdlt]
      rfl
    · simp only [unit?, hav, hbv, hcv, hdv, Option.bind_eq_bind, Option.bind_some,
        Option.pure_def, hsum]

/-- The bytes of an escape of one letter. -/
theorem exists_shortEscape?_eq {escape : Char × Char} (h : escape ∈ shortEscapes) (cs : List Char) :
    spell ('\\' :: escape.1 :: cs) = 0x5c :: code escape.1 :: spell cs ∧
      shortEscape? (code escape.1) = some (code escape.2) ∧
        String.utf8EncodeChar escape.2 = [code escape.2] := by
  have hall : ∀ escape ∈ shortEscapes, escape.1.toNat < 0x80 ∧ escape.2.toNat < 0x80 ∧
      shortEscape? (code escape.1) = some (code escape.2) := by
    decide
  obtain ⟨hletter, hchar, hescape⟩ := hall escape h
  refine ⟨?_, hescape, Text.utf8EncodeChar_of_lt hchar⟩
  rw [spell_cons_of_lt (by decide), spell_cons_of_lt hletter]
  rfl

/-- The bytes of an escape of four digits. -/
theorem spell_unit {ds cs : List Char} :
    spell ('\\' :: 'u' :: (ds ++ cs)) = 0x5c :: 0x75 :: (spell ds ++ spell cs) := by
  rw [spell_cons_of_lt (by decide), spell_cons_of_lt (by decide), spell_append]
  rfl

/-- The bytes of a plain character are raw. -/
theorem isRaw_of_isPlainChar {c : Char} (h : IsPlainChar c) :
    ∀ b ∈ String.utf8EncodeChar c, IsRaw b :=
  isRaw_of_mem_utf8EncodeChar h.ne_quote h.ne_backslash h.not_control

/-! ## Reading -/

/-- Eight digits of a pair give its character. -/
theorem stringBytes_pair {a b c d e f g h : UInt8} {n m : Nat} (hn : unit? a b c d = some n)
    (hm : unit? e f g h = some m) (hfirst : isFirstHalf n = true) (hsecond : isSecondHalf m = true)
    (rest : List UInt8) :
    stringBytes (0x5c :: 0x75 :: a :: b :: c :: d :: 0x5c :: 0x75 :: e :: f :: g :: h :: rest)
      = prepend (String.utf8EncodeChar (pairChar n m)) (stringBytes rest) := by
  have hletter : shortEscape? 0x75 = none := by decide
  have hnot : isSecondHalf n = false := by
    simp only [isFirstHalf, isSecondHalf, Bool.and_eq_true, decide_eq_true_eq] at hfirst ⊢
    rw [Bool.and_eq_false_iff]
    exact Or.inl (decide_eq_false (by omega))
  rw [stringBytes.eq_def]
  simp only [hletter, hn, hm, hfirst, hsecond, hnot]
  rfl

/-- What spells a text is read, up to the closing quote, as the bytes of the text. -/
theorem stringBytes_of_spells {content text : List Char} (h : Spells content text)
    (rest : List UInt8) : stringBytes (spell content ++ 0x22 :: rest) = .ok (spell text, rest) := by
  induction h with
  | nil =>
    rw [spell, List.flatMap_nil, List.nil_append, stringBytes.eq_def]
    rfl
  | plain hc _ ih =>
    rw [spell, List.flatMap_cons, List.append_assoc,
      stringBytes_append_of_isRaw (isRaw_of_isPlainChar hc)]
    change prepend _ (stringBytes (spell _ ++ 0x22 :: rest)) = _
    rw [ih]
    rfl
  | short hescape _ ih =>
    obtain ⟨hspell, hshort, hchar⟩ := exists_shortEscape?_eq hescape _
    rw [hspell, List.cons_append, List.cons_append, stringBytes_shortEscape hshort, ih, spell,
      spell, List.flatMap_cons, hchar]
    rfl
  | unit hds hfirst hsecond _ ih =>
    obtain ⟨a, b, c, d, hspell, hunit⟩ := exists_unit?_eq hds
    rw [spell_unit, hspell]
    change stringBytes (0x5c :: 0x75 :: a :: b :: c :: d :: (spell _ ++ 0x22 :: rest)) = _
    rw [stringBytes_unit hunit hfirst hsecond, ih]
    rfl
  | pair hds hes hfirst hsecond _ ih =>
    obtain ⟨a, b, c, d, hspell, hunit⟩ := exists_unit?_eq hds
    obtain ⟨e, f, g, i, hspell', hunit'⟩ := exists_unit?_eq hes
    rw [spell_unit, spell_unit, hspell, hspell']
    change stringBytes (0x5c :: 0x75 :: a :: b :: c :: d :: 0x5c :: 0x75 :: e :: f :: g :: i ::
      (spell _ ++ 0x22 :: rest)) = _
    rw [stringBytes_pair hunit hunit' hfirst hsecond, ih]
    rfl

/-- The bytes of a string token. -/
theorem spell_quoted (content : List Char) (rest : List UInt8) :
    spell (quoted content) ++ rest = code '"' :: (spell content ++ 0x22 :: rest) := by
  rw [quoted, spell_cons_of_lt (by decide), spell_append, List.cons_append, List.append_assoc]
  rfl

/-- A string in any spelling is read as the text that it spells. -/
theorem reads_string_of_spells {content : List Char} {text : String}
    (h : Spells content text.toList) (rest : List UInt8) :
    Reads string (spell (quoted content) ++ rest) text rest := by
  have hback : Text.ofUtf8? (spell text.toList) = some text := Text.ofUtf8?_utf8 text
  rw [spell_quoted]
  refine (reads_skip _ _).bind ?_
  refine Reads.bind (stringBytes_of_spells h rest) ?_
  rw [hback]
  exact reads_pure text rest

/-! ## Written texts -/

/-- A control character is spelled by its code. -/
theorem isUnit_control {n : Nat} (h : n < 0x20) :
    IsUnit n ['0', '0', Nat.digitChar (n / 16), Nat.digitChar (n % 16)] := by
  have hlower : ∀ k < 16, (Nat.digitChar k).toLower = Nat.digitChar k := by decide
  have hhigh : n / 0x1000 = 0 ∧ n / 0x100 % 0x10 = 0 ∧ n / 0x10 % 0x10 = n / 16 := by omega
  refine ⟨by omega, ?_⟩
  rw [hhigh.1, hhigh.2.1, hhigh.2.2]
  simp only [List.map_cons, List.map_nil, hlower _ (show n / 16 < 16 by omega),
    hlower _ (show n % 16 < 16 by omega)]
  rfl

/-- What is written for a text spells it. -/
theorem spells_flatMap_escapeChar (cs : List Char) : Spells (cs.flatMap escapeChar) cs := by
  induction cs with
  | nil => exact .nil
  | cons c cs ih =>
    have hshort : ∀ escape ∈ shortEscapes,
        Spells ('\\' :: escape.1 :: cs.flatMap escapeChar) (escape.2 :: cs) :=
      fun escape hescape => .short hescape ih
    rw [List.flatMap_cons, escapeChar]
    split_ifs with hquote hslash hback hfeed hline hreturn htab hcontrol
    · subst hquote
      exact hshort ('"', '"') (by decide)
    · subst hslash
      exact hshort ('\\', '\\') (by decide)
    · subst hback
      exact hshort ('b', '\x08') (by decide)
    · subst hfeed
      exact hshort ('f', '\x0c') (by decide)
    · subst hline
      exact hshort ('n', '\n') (by decide)
    · subst hreturn
      exact hshort ('r', '\r') (by decide)
    · subst htab
      exact hshort ('t', '\t') (by decide)
    · have hfirst : isFirstHalf c.toNat = false := by
        rw [isFirstHalf, Bool.and_eq_false_iff]
        exact Or.inl (decide_eq_false (by omega))
      have hsecond : isSecondHalf c.toNat = false := by
        rw [isSecondHalf, Bool.and_eq_false_iff]
        exact Or.inl (decide_eq_false (by omega))
      have hunit := Spells.unit (isUnit_control hcontrol) hfirst hsecond ih
      rw [Char.ofNat_toNat] at hunit
      exact hunit
    · exact .plain ⟨hquote, hslash, hcontrol⟩ ih

/-- The token of a text spells it. -/
theorem isStringOf_stringToken (s : String) : IsStringOf s (stringToken s) :=
  ⟨_, spells_flatMap_escapeChar s.toList, rfl⟩

/-- The compact member with a key and a value. -/
def writtenMember (m : String × Value) : Member :=
  ⟨[], m.1.toList.flatMap escapeChar, [], [], m.2.tokens, []⟩

/-- The characters of a compact member. -/
theorem text_writtenMember (m : String × Value) :
    (writtenMember m).text = stringToken m.1 ++ ':' :: m.2.tokens := by
  change [] ++ (stringToken m.1 ++ ([] ++ ':' :: ([] ++ (m.2.tokens ++ [])))) = _
  rw [List.nil_append, List.nil_append, List.nil_append, List.append_nil]

/-- The tokens of an object are those of its members. -/
theorem isObjectOf_tokens (ms : List (String × Value)) :
    IsObjectOf (ms.map fun m => (m.1, m.2.tokens)) (Value.object ms).tokens := by
  have hspaced : ∀ i ∈ ms.map writtenMember, i.IsSpaced := by
    intro i hi
    obtain ⟨m, -, rfl⟩ := List.mem_map.mp hi
    exact ⟨nofun, nofun, nofun, nofun⟩
  have hgives : List.Forall₂ Member.Gives (ms.map writtenMember)
      (ms.map fun m => (m.1, m.2.tokens)) := by
    rw [List.forall₂_map_left_iff, List.forall₂_map_right_iff, List.forall₂_same]
    exact fun m _ => ⟨spells_flatMap_escapeChar m.1.toList, rfl⟩
  have htexts : (ms.map fun m => stringToken m.1 ++ ':' :: m.2.tokens)
      = (ms.map writtenMember).map Member.text := by
    rw [List.map_map]
    exact List.map_congr_left fun m _ => (text_writtenMember m).symm
  refine ⟨ms.map writtenMember, ?_, hgives⟩
  rw [Value.tokens, memberTokens_eq_map, htexts]
  cases ms with
  | nil => exact .nil isGap_nil
  | cons m ms => exact .cons hspaced

/-! ## Passing over -/

/-- A raw byte is passed over. -/
theorem skipString_cons_of_isRaw {b : UInt8} (h : IsRaw b) (rest : List UInt8) :
    skipString (b :: rest) = skipString rest := by
  obtain ⟨hquote, hcontrol, hslash⟩ := h
  rw [skipString.eq_def]
  simp only [hquote, hcontrol, hslash, if_false, ne_eq, not_false_iff, if_true]

/-- Raw bytes are passed over. -/
theorem skipString_append_of_isRaw {bytes : List UInt8} (h : ∀ b ∈ bytes, IsRaw b)
    (rest : List UInt8) : skipString (bytes ++ rest) = skipString rest := by
  induction bytes with
  | nil => rfl
  | cons b bytes ih =>
    rw [List.forall_mem_cons] at h
    rw [List.cons_append, skipString_cons_of_isRaw h.1, ih h.2]

/-- An escape of one letter is passed over. -/
theorem skipString_shortEscape {e byte : UInt8} (h : shortEscape? e = some byte)
    (rest : List UInt8) : skipString (0x5c :: e :: rest) = skipString rest := by
  rw [skipString.eq_def]
  simp only [h]
  rfl

/-- An escape of four digits is passed over, whatever their value. -/
theorem skipString_unit {a b c d : UInt8} {n : Nat} (h : unit? a b c d = some n)
    (rest : List UInt8) :
    skipString (0x5c :: 0x75 :: a :: b :: c :: d :: rest) = skipString rest := by
  have hletter : shortEscape? 0x75 = none := by decide
  rw [skipString.eq_def]
  simp only [hletter, h]
  rfl

/-- Every content is passed over, up to and with the closing quote. -/
theorem skipString_of_isContent {content : List Char} (h : IsContent content) (rest : List UInt8) :
    skipString (spell content ++ 0x22 :: rest) = .ok ((), rest) := by
  induction h with
  | nil =>
    rw [spell, List.flatMap_nil, List.nil_append, skipString.eq_def]
    rfl
  | plain hc _ ih =>
    rw [spell, List.flatMap_cons, List.append_assoc,
      skipString_append_of_isRaw (isRaw_of_isPlainChar hc)]
    exact ih
  | short hescape _ ih =>
    obtain ⟨hspell, hshort, -⟩ := exists_shortEscape?_eq hescape _
    rw [hspell, List.cons_append, List.cons_append, skipString_shortEscape hshort, ih]
  | unit hds _ ih =>
    obtain ⟨a, b, c, d, hspell, hunit⟩ := exists_unit?_eq hds
    rw [spell_unit, hspell]
    exact (skipString_unit hunit _).trans ih

/-- A string with bytes put in front is one without them. -/
theorem exists_of_prepend_eq_ok {front bytes rest : List UInt8}
    {result : Except Fault (List UInt8 × List UInt8)}
    (h : prepend front result = .ok (bytes, rest)) : ∃ more, result = .ok (more, rest) := by
  cases result with
  | error fault => cases h
  | ok found =>
    obtain ⟨more, tail⟩ := found
    obtain ⟨-, rfl⟩ := Prod.mk.inj (Except.ok.inj h)
    exact ⟨more, rfl⟩

/-- What can be read as the bytes of a string is passed over up to the same place. -/
theorem skipString_of_stringBytes {text bytes rest : List UInt8}
    (h : stringBytes text = .ok (bytes, rest)) : skipString text = .ok ((), rest) := by
  -- Where the bytes of a string are read, one of the steps of passing over applies.
  fun_induction stringBytes text generalizing bytes with
  | case2 tail =>
    obtain ⟨-, rfl⟩ := Prod.mk.inj (Except.ok.inj h)
    rw [skipString.eq_def]
    rfl
  | case4 b tail hquote hcontrol hslash ih =>
    obtain ⟨more, hmore⟩ := exists_of_prepend_eq_ok h
    rw [skipString_cons_of_isRaw ⟨hquote, hcontrol, hslash⟩, ih hmore]
  | case6 b hquote hcontrol hslash e tail byte hbyte ih =>
    obtain ⟨more, hmore⟩ := exists_of_prepend_eq_ok h
    obtain rfl := Decidable.not_not.mp hslash
    rw [skipString_shortEscape hbyte, ih hmore]
  | case10 b hquote hcontrol hslash e hnone hletter a₁ a₂ a₃ a₄ tail n hunit _ _ ih =>
    obtain ⟨more, hmore⟩ := exists_of_prepend_eq_ok h
    obtain rfl := Decidable.not_not.mp hslash
    obtain rfl := Decidable.not_not.mp hletter
    rw [skipString_unit hunit, ih hmore]
  | case16 b hquote hcontrol hslash e hnone hletter a₁ a₂ a₃ a₄ n hunit _ _ b' hslash' e' hletter'
      c₁ c₂ c₃ c₄ tail m hunit' _ ih =>
    obtain ⟨more, hmore⟩ := exists_of_prepend_eq_ok h
    obtain rfl := Decidable.not_not.mp hslash
    obtain rfl := Decidable.not_not.mp hletter
    obtain rfl := Decidable.not_not.mp hslash'
    obtain rfl := Decidable.not_not.mp hletter'
    rw [skipString_unit hunit, skipString_unit hunit', ih hmore]
  | _ => cases h

/-- What can be read as a string is passed over up to the same place. -/
theorem skipString_of_reads_string {b : UInt8} {tail rest : List UInt8} {text : String}
    (h : Reads string (b :: tail) text rest) : Reads skipString tail () rest := by
  obtain ⟨_, middle, hskip, hrest⟩ := h.exists_of_bind
  obtain ⟨-, rfl⟩ := hskip.unique (reads_skip b tail)
  obtain ⟨bytes, rest', hbytes, hback⟩ := hrest.exists_of_bind
  cases hfound : Text.ofUtf8? bytes with
  | none =>
    simp only [hfound] at hback
    cases hback
  | some found =>
    simp only [hfound] at hback
    obtain ⟨-, rfl⟩ := hback.unique (reads_pure found rest')
    exact skipString_of_stringBytes hbytes

end DispatchScan.Json.Reader
