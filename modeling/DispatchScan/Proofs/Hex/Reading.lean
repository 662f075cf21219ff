import DispatchScan.Proofs.Hex.Spelling
import Mathlib.Data.List.Forall2

/-!
# What the strict reader accepts

The strict reader works on the UTF-8 bytes of a text. Main statement: it gives some bytes exactly
when there are as many as wanted and the characters of the text are their digits in either case; no
other text gets through, however many bytes its characters have.
-/

namespace DispatchScan.Hex

/-- A code is that of a digit with the given value. -/
def HasValue (code : UInt8) (value : Nat) : Prop := digitValue? code.toNat = some value

/-- A digit has one of sixteen values. -/
theorem lt_of_digitValue?_eq_some {n value : Nat} (h : digitValue? n = some value) :
    value < 16 := by
  unfold digitValue? at h
  split at h
  · obtain rfl := Option.some.inj h
    omega
  · split at h
    · obtain rfl := Option.some.inj h
      omega
    · split at h
      · obtain rfl := Option.some.inj h
        omega
      · exact absurd h nofun

/-- Beyond ASCII there are no digits. -/
theorem toNat_lt_of_hasValue {code : UInt8} {value : Nat} (h : HasValue code value) :
    code.toNat < 0x80 := by
  refine Decidable.byContradiction fun hlarge => ?_
  rw [HasValue, digitValue?, if_neg (by omega), if_neg (by omega), if_neg (by omega)] at h
  cases h

/-- The value of a digit is that of its lowercase form. -/
theorem digitValue?_toNat_eq_some_iff {c : Char} (hc : c.toNat < 0x80) {value : Nat}
    (hvalue : value < 16) : digitValue? c.toNat = some value ↔ c.toLower = Nat.digitChar value := by
  have hascii : ∀ n < 0x80, ∀ value < 16, digitValue? (Char.ofNat n).toNat = some value ↔
      (Char.ofNat n).toLower = Nat.digitChar value := by
    decide +kernel
  exact Text.of_forall_code_lt (p := fun c => ∀ value < 16, digitValue? c.toNat = some value ↔
    c.toLower = Nat.digitChar value) hascii hc value hvalue

/-- A pair of digits is read as the byte with their values. -/
theorem readPairs_cons_cons_eq_ok_iff {position : Nat} {high low : UInt8}
    {rest bytes : List UInt8} :
    readPairs position (high :: low :: rest) = .ok bytes ↔
      ∃ b tail, bytes = b :: tail ∧ HasValue high (b.toNat / 16) ∧ HasValue low (b.toNat % 16) ∧
        readPairs (position + 2) rest = .ok tail := by
  rw [readPairs]
  constructor
  · intro h
    cases hhigh : digitValue? high.toNat with
    | none =>
      simp only [hhigh] at h
      cases h
    | some x =>
      cases hlow : digitValue? low.toNat with
      | none =>
        simp only [hhigh, hlow] at h
        cases h
      | some y =>
        cases hrest : readPairs (position + 2) rest with
        | error error =>
          simp only [hhigh, hlow, hrest] at h
          cases h
        | ok tail =>
          simp only [hhigh, hlow, hrest, Except.ok.injEq] at h
          have hx := lt_of_digitValue?_eq_some hhigh
          have hy := lt_of_digitValue?_eq_some hlow
          have hb : (UInt8.ofNat (x * 16 + y)).toNat = x * 16 + y := by
            rw [UInt8.toNat_ofNat']
            omega
          have hdiv : (x * 16 + y) / 16 = x := by omega
          have hmod : (x * 16 + y) % 16 = y := by omega
          refine ⟨UInt8.ofNat (x * 16 + y), tail, h.symm, ?_, ?_, rfl⟩
          · rw [HasValue, hb, hdiv, hhigh]
          · rw [HasValue, hb, hmod, hlow]
  · rintro ⟨b, tail, rfl, hhigh, hlow, hrest⟩
    have hb : UInt8.ofNat (b.toNat / 16 * 16 + b.toNat % 16) = b := by
      rw [Nat.div_add_mod', UInt8.ofNat_toNat]
    rw [HasValue] at hhigh hlow
    simp only [hhigh, hlow, hrest, hb]

/-- An even number of codes is read as the bytes whose digits they are. -/
theorem readPairs_eq_ok_iff {position count : Nat} {codes bytes : List UInt8}
    (hcount : codes.length = 2 * count) :
    readPairs position codes = .ok bytes ↔ List.Forall₂ HasValue codes (nibbles bytes) := by
  -- The reader takes two codes at a time, so the induction is on the number of pairs.
  induction count generalizing position codes bytes with
  | zero =>
    obtain rfl := List.length_eq_zero_iff.mp hcount
    have hnil : readPairs position [] = .ok [] := rfl
    rw [hnil, Except.ok.injEq, List.forall₂_nil_left_iff]
    cases bytes with
    | nil => exact iff_of_true rfl rfl
    | cons b bytes => exact iff_of_false nofun nofun
  | succ count ih =>
    match codes, hcount with
    | high :: low :: rest, hcount =>
      have hrest : rest.length = 2 * count := by
        rw [List.length_cons, List.length_cons] at hcount
        omega
      rw [readPairs_cons_cons_eq_ok_iff]
      constructor
      · rintro ⟨b, tail, rfl, hhigh, hlow, htail⟩
        exact .cons hhigh (.cons hlow ((ih hrest).mp htail))
      · intro h
        cases bytes with
        | nil => exact absurd h nofun
        | cons b tail =>
          cases h with
          | cons hhigh h =>
            cases h with
            | cons hlow h => exact ⟨b, tail, rfl, hhigh, hlow, (ih hrest).mpr h⟩

/-- Each byte has two values. -/
theorem length_nibbles (bytes : List UInt8) : (nibbles bytes).length = 2 * bytes.length := by
  induction bytes with
  | nil => rfl
  | cons b bytes ih =>
    have hcons : nibbles (b :: bytes) = b.toNat / 16 :: b.toNat % 16 :: nibbles bytes := rfl
    rw [hcons, List.length_cons, List.length_cons, ih, List.length_cons]
    omega

/-- The values of bytes are below sixteen. -/
theorem lt_of_mem_nibbles {bytes : List UInt8} {value : Nat} (h : value ∈ nibbles bytes) :
    value < 16 := by
  obtain ⟨b, -, hb⟩ := List.mem_flatMap.mp h
  have hlt := b.toNat_lt
  simp only [List.mem_cons, List.not_mem_nil, or_false] at hb
  rcases hb with rfl | rfl <;> omega

/-- The digits of bytes are those of their values. -/
theorem digits_eq_map_nibbles (bytes : List UInt8) :
    digits bytes = (nibbles bytes).map Nat.digitChar := by
  rw [nibbles, List.map_flatMap]
  rfl

/-- ASCII characters have given values exactly when they are the digits with these values, in either
case. -/
theorem forall₂_hasValue_map_iff {cs : List Char} (hcs : ∀ c ∈ cs, c.toNat < 0x80)
    {values : List Nat} (hvalues : ∀ value ∈ values, value < 16) :
    List.Forall₂ HasValue (cs.map Text.asciiByte) values ↔
      cs.map Char.toLower = values.map Nat.digitChar := by
  induction cs generalizing values with
  | nil =>
    cases values with
    | nil => exact iff_of_true .nil rfl
    | cons value values => exact iff_of_false nofun nofun
  | cons c cs ih =>
    cases values with
    | nil => exact iff_of_false nofun nofun
    | cons value values =>
      have hc := hcs c List.mem_cons_self
      have hvalue := hvalues value List.mem_cons_self
      rw [List.map_cons, List.map_cons, List.map_cons, List.forall₂_cons, List.cons.injEq, HasValue,
        Text.toNat_asciiByte hc, digitValue?_toNat_eq_some_iff hc hvalue,
        ih (fun d hd => hcs d (List.mem_cons_of_mem c hd))
          (fun v hv => hvalues v (List.mem_cons_of_mem value hv))]

/-- The codes of a text have the values of bytes exactly when the text is made of the digits of the
bytes, in either case. -/
theorem forall₂_hasValue_utf8_iff {cs : List Char} {bytes : List UInt8} :
    List.Forall₂ HasValue (Text.utf8 (String.ofList cs)) (nibbles bytes) ↔
      Text.SameLetters cs (digits bytes) := by
  -- Both sides hold of ASCII texts only, and there a code is a character.
  have hchars : Text.IsAscii (String.ofList cs) →
      (List.Forall₂ HasValue (Text.utf8 (String.ofList cs)) (nibbles bytes) ↔
        Text.SameLetters cs (digits bytes)) := by
    intro hascii
    have hcs : ∀ c ∈ cs, c.toNat < 0x80 := by
      rwa [Text.IsAscii, String.toList_ofList] at hascii
    rw [hascii.utf8_eq, String.toList_ofList, sameLetters_digits_iff, digits_eq_map_nibbles,
      forall₂_hasValue_map_iff hcs fun value => lt_of_mem_nibbles]
  constructor
  · intro h
    have hcodes := (List.forall₂_and_left _ _).mp (h.imp fun code value hvalue =>
      (⟨toNat_lt_of_hasValue hvalue, hvalue⟩ : code.toNat < 0x80 ∧ HasValue code value))
    exact (hchars (Text.isAscii_of_utf8_lt hcodes.1)).mp h
  · intro h
    have hdigits := isDigit_of_sameLetters h
    refine (hchars ?_).mpr h
    rw [Text.IsAscii, String.toList_ofList]
    exact fun c hc => toNat_lt_of_mem_anyDigits ((isDigit_iff_mem_anyDigits c).mp (hdigits c hc))

/-- The strict reader gives bytes exactly when there are as many as wanted and the text is made of
their digits, in either case. -/
theorem readExactly_eq_ok_iff {size : Nat} {cs : List Char} {bytes : List UInt8} :
    readExactly size (Text.utf8 (String.ofList cs)) = .ok bytes ↔
      bytes.length = size ∧ Text.SameLetters cs (digits bytes) := by
  rw [← forall₂_hasValue_utf8_iff, readExactly]
  constructor
  · intro h
    split at h
    · exact absurd h nofun
    · split at h
      · exact absurd h nofun
      · rename_i hsize
        have hlength := Decidable.not_not.mp hsize
        have hvalues := (readPairs_eq_ok_iff hlength).mp h
        have hbytes := hvalues.length_eq
        rw [hlength, length_nibbles] at hbytes
        exact ⟨by omega, hvalues⟩
  · rintro ⟨rfl, hvalues⟩
    have hlength := hvalues.length_eq
    rw [length_nibbles] at hlength
    rw [if_neg (by omega), if_neg (by omega), readPairs_eq_ok_iff hlength]
    exact hvalues

/-- Bytes are known by their digits. -/
theorem digits_injective {bytes other : List UInt8} (h : digits bytes = digits other) :
    bytes = other := by
  have hread := readPairs_utf8_encode 0 bytes
  rw [encode, h] at hread
  exact (Except.ok.inj ((readPairs_utf8_encode 0 other).symm.trans hread)).symm

end DispatchScan.Hex
