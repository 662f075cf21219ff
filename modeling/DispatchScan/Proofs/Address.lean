import DispatchScan.Address
import DispatchScan.Proofs.Hex.Reading
import DispatchScan.Proofs.Keccak

/-!
# The spellings of an address

An address is spelled in three ways: by its digits in lowercase, in uppercase, and in the checksum
case that its digest decides. For an address without letters they are one. Main statement: behind at
most one mark these spellings are accepted and nothing else, and what is refused is named.
-/

namespace DispatchScan

namespace Text

/-- What is no lowercase letter is the uppercase form of its lowercase form. -/
theorem toUpper_toLower_of_not_isLower {c : Char} (h : c.isLower = false) :
    c.toLower.toUpper = c := by
  cases hupper : c.isUpper with
  | true =>
    have hascii : ∀ n < 0x80, (Char.ofNat n).isUpper = true →
        (Char.ofNat n).toLower.toUpper = Char.ofNat n := by
      decide
    exact of_forall_code_lt (p := fun c => c.isUpper = true → c.toLower.toUpper = c) hascii
      (toNat_lt_of_isUpper hupper) hupper
  | false =>
    have hraise : c.toUpper = c := dif_neg fun hc => Bool.false_ne_true
      (h.symm.trans (Bool.and_eq_true_iff.mpr ⟨decide_eq_true hc.1, decide_eq_true hc.2⟩))
    rw [toLower_of_not_isUpper hupper, hraise]

/-- An uppercase letter is no lowercase letter. -/
theorem isLower_of_isUpper {c : Char} (h : c.isUpper = true) : c.isLower = false := by
  have hascii : ∀ n < 0x80, (Char.ofNat n).isUpper = true → (Char.ofNat n).isLower = false := by
    decide
  exact of_forall_code_lt (p := fun c => c.isUpper = true → c.isLower = false) hascii
    (toNat_lt_of_isUpper h) h

/-- Text without uppercase letters is its lowercase form. -/
theorem map_toLower_eq_self {cs : List Char} (h : ∀ c ∈ cs, c.isUpper = false) :
    cs.map Char.toLower = cs :=
  (List.map_congr_left fun c hc => toLower_of_not_isUpper (h c hc)).trans (List.map_id cs)

/-- Text without lowercase letters is the uppercase form of its lowercase form. -/
theorem map_toUpper_map_toLower {cs : List Char} (h : ∀ c ∈ cs, c.isLower = false) :
    (cs.map Char.toLower).map Char.toUpper = cs := by
  rw [List.map_map]
  exact (List.map_congr_left fun c hc => toUpper_toLower_of_not_isLower (h c hc)).trans
    (List.map_id cs)

end Text

namespace Address

/-- The forty uppercase digits. -/
def upperDigits (a : Address) : List Char :=
  a.lowerDigits.map Char.toUpper

/-- The digits of an address in the three cases in which they name it. -/
def spellings (a : Address) : List (List Char) :=
  [a.lowerDigits, a.upperDigits, a.checksumDigits]

/-- The values of the digits of the digest that decides the checksum case. -/
def digestNibbles (a : Address) : List Nat :=
  Hex.nibbles (Keccak.hash (Text.utf8 (String.ofList a.lowerDigits)))

/-- A digit is in the case that a digit of the digest decides: a letter is uppercase exactly when
the value is at least eight. -/
def InCaseOf (c : Char) (nibble : Nat) : Prop :=
  c.isAlpha = true → (c.isUpper = true ↔ 8 ≤ nibble)

/-- Text has the digits of an address, each in the case that the digit at its place in the digest
decides. -/
structure InChecksumCase (a : Address) (cs : List Char) : Prop where
  /-- The digits are those of the address. -/
  sameLetters : Text.SameLetters cs a.lowerDigits
  /-- The digest decides their case. -/
  inCase : List.Forall₂ InCaseOf cs (a.digestNibbles.take 40)

/-- An address has forty digits. -/
theorem length_lowerDigits (a : Address) : a.lowerDigits.length = 40 := by
  rw [lowerDigits, Hex.length_digits, a.length_bytes]

/-- An address is known by its digits. -/
theorem lowerDigits_injective {a b : Address} (h : a.lowerDigits = b.lowerDigits) : a = b := by
  obtain ⟨bytes, hbytes⟩ := a
  obtain ⟨other, hother⟩ := b
  obtain rfl : bytes = other := Hex.digits_injective h
  rfl

/-- The digest has 64 digits. -/
theorem length_digestNibbles (a : Address) : a.digestNibbles.length = 64 := by
  rw [digestNibbles, Hex.length_nibbles, Keccak.length_hash]

/-- The digits of an address are lowercase digits. -/
theorem mem_lowerDigits {a : Address} {c : Char} (h : c ∈ a.lowerDigits) : c ∈ Hex.lowerDigits :=
  Hex.mem_lowerDigits_of_mem_digits h

/-- A lowercase digit is not in uppercase, and what it is raised to is: it is no lowercase letter,
uppercase if it is a letter at all, and leads back to the digit. -/
theorem raised_of_mem_lowerDigits {d : Char} (h : d ∈ Hex.lowerDigits) :
    d.isUpper = false ∧ d.toUpper.isLower = false ∧
      (d.toUpper.isAlpha = true → d.toUpper.isUpper = true) ∧ d.toUpper.toLower = d := by
  have hall : ∀ n < 16, (Nat.digitChar n).isUpper = false ∧
      (Nat.digitChar n).toUpper.isLower = false ∧
      ((Nat.digitChar n).toUpper.isAlpha = true → (Nat.digitChar n).toUpper.isUpper = true) ∧
      (Nat.digitChar n).toUpper.toLower = Nat.digitChar n := by
    decide
  obtain ⟨n, hn, rfl⟩ := Hex.exists_digitChar_of_mem_lowerDigits h
  exact hall n hn

/-- A lowercase digit, raised where the value is at least eight, is the one character with its value
that is in the decided case. -/
theorem eq_raised_iff {c d : Char} (hd : d ∈ Hex.lowerDigits) {nibble : Nat} :
    c = (if 8 ≤ nibble then d.toUpper else d) ↔ c.toLower = d ∧ InCaseOf c nibble := by
  obtain ⟨hnot, -, hupper, hback⟩ := raised_of_mem_lowerDigits hd
  constructor
  · rintro rfl
    by_cases hn : 8 ≤ nibble
    · rw [if_pos hn]
      exact ⟨hback, fun halpha => iff_of_true (hupper halpha) hn⟩
    · have hnotUpper : ¬d.isUpper = true := by
        rw [hnot]
        exact Bool.false_ne_true
      rw [if_neg hn]
      exact ⟨Text.toLower_of_not_isUpper hnot, fun _ => iff_of_false hnotUpper hn⟩
  · rintro ⟨rfl, hcase⟩
    by_cases hn : 8 ≤ nibble
    · have hnotLower : c.isLower = false := by
        refine eq_false_of_ne_true fun hlow => ?_
        have halpha : c.isAlpha = true := Bool.or_eq_true_iff.mpr (.inr hlow)
        have hup := (hcase halpha).mpr hn
        exact Bool.false_ne_true ((Text.isLower_of_isUpper hup).symm.trans hlow)
      rw [if_pos hn, Text.toUpper_toLower_of_not_isLower hnotLower]
    · have hnotUpper : c.isUpper = false := by
        refine eq_false_of_ne_true fun hup => ?_
        exact hn ((hcase (Bool.or_eq_true_iff.mpr (.inl hup))).mp hup)
      rw [if_neg hn, Text.toLower_of_not_isUpper hnotUpper]

/-- Lowercase digits, raised where the digest says so, are the one text with these digits in the
decided case. -/
theorem eq_zipWith_raised_iff {ds cs : List Char} (hds : ∀ d ∈ ds, d ∈ Hex.lowerDigits)
    {nibbles : List Nat} (hlength : ds.length ≤ nibbles.length) :
    cs = List.zipWith (fun d nibble => if 8 ≤ nibble then d.toUpper else d) ds nibbles ↔
      cs.map Char.toLower = ds ∧ List.Forall₂ InCaseOf cs (nibbles.take ds.length) := by
  induction ds generalizing cs nibbles with
  | nil =>
    rw [List.zipWith_nil_left, List.map_eq_nil_iff, List.length_nil, List.take_zero]
    exact ⟨fun h => ⟨h, h ▸ .nil⟩, And.left⟩
  | cons d ds ih =>
    cases nibbles with
    | nil => exact absurd hlength (Nat.not_succ_le_zero ds.length)
    | cons nibble nibbles =>
      have hd := hds d List.mem_cons_self
      have hrest : ∀ e ∈ ds, e ∈ Hex.lowerDigits := fun e he => hds e (List.mem_cons_of_mem d he)
      rw [List.zipWith_cons_cons, List.length_cons, List.take_succ_cons]
      cases cs with
      | nil => exact iff_of_false nofun nofun
      | cons c cs =>
        rw [List.cons.injEq, List.map_cons, List.cons.injEq, List.forall₂_cons, eq_raised_iff hd,
          ih hrest (Nat.le_of_succ_le_succ hlength)]
        exact and_and_and_comm

/-- The checksum digits are the one text in the checksum case. -/
theorem inChecksumCase_iff {a : Address} {cs : List Char} :
    InChecksumCase a cs ↔ cs = a.checksumDigits := by
  -- The digest is longer than the address, so no digit is cut off with it.
  have hlength : a.lowerDigits.length ≤ a.digestNibbles.length := by
    rw [length_lowerDigits, length_digestNibbles]
    decide
  have hraised : cs = a.checksumDigits ↔ cs.map Char.toLower = a.lowerDigits ∧
      List.Forall₂ InCaseOf cs (a.digestNibbles.take a.lowerDigits.length) :=
    eq_zipWith_raised_iff (fun d => mem_lowerDigits) hlength
  rw [hraised, length_lowerDigits]
  constructor
  · rintro ⟨hsame, hcase⟩
    exact ⟨Hex.sameLetters_digits_iff.mp hsame, hcase⟩
  · rintro ⟨hsame, hcase⟩
    exact ⟨Hex.sameLetters_digits_iff.mpr hsame, hcase⟩

/-- The uppercase digits are those of the address. -/
theorem sameLetters_upperDigits (a : Address) : Text.SameLetters a.upperDigits a.lowerDigits := by
  have hback : ∀ d ∈ a.lowerDigits, d.toUpper.toLower = d := fun d hd =>
    (raised_of_mem_lowerDigits (mem_lowerDigits hd)).2.2.2
  refine Hex.sameLetters_digits_iff.mpr ?_
  rw [upperDigits, List.map_map]
  exact (List.map_congr_left hback).trans (List.map_id _)

/-- Text with the digits of an address spells it unless its letters are in both cases, and then
exactly when it is in the checksum case. -/
theorem mem_spellings_iff {a : Address} {cs : List Char} :
    cs ∈ a.spellings ↔ Text.SameLetters cs a.lowerDigits ∧
      (cs.any Char.isLower = true → cs.any Char.isUpper = true → cs = a.checksumDigits) := by
  rw [spellings, List.mem_cons, List.mem_cons, List.mem_singleton]
  constructor
  · rintro (rfl | rfl | rfl)
    · refine ⟨rfl, fun _ hupper => ?_⟩
      obtain ⟨c, hc, hup⟩ := List.any_eq_true.mp hupper
      exact absurd (hup.symm.trans (raised_of_mem_lowerDigits (mem_lowerDigits hc)).1) nofun
    · refine ⟨sameLetters_upperDigits a, fun hlower _ => ?_⟩
      obtain ⟨c, hc, hlow⟩ := List.any_eq_true.mp hlower
      obtain ⟨d, hd, rfl⟩ := List.mem_map.mp hc
      exact absurd (hlow.symm.trans (raised_of_mem_lowerDigits (mem_lowerDigits hd)).2.1) nofun
    · exact ⟨(inChecksumCase_iff.mpr rfl).sameLetters, fun _ _ => rfl⟩
  · rintro ⟨hsame, hmixed⟩
    have hdigits : cs.map Char.toLower = a.lowerDigits := Hex.sameLetters_digits_iff.mp hsame
    cases hupper : cs.any Char.isUpper with
    | false =>
      have hlow := Text.map_toLower_eq_self fun c hc =>
        eq_false_of_ne_true (List.any_eq_false.mp hupper c hc)
      exact .inl (hlow.symm.trans hdigits)
    | true =>
      cases hlower : cs.any Char.isLower with
      | false =>
        have hup := Text.map_toUpper_map_toLower fun c hc =>
          eq_false_of_ne_true (List.any_eq_false.mp hlower c hc)
        rw [hdigits] at hup
        exact .inr (.inl hup.symm)
      | true => exact .inr (.inr (hmixed hlower hupper))

/-- A text is read as an address exactly when a mark leaves a spelling of this address. -/
theorem parse?_eq_some_iff {text : String} {a : Address} :
    parse? text = some a ↔ Hex.dropMark text.toList ∈ a.spellings := by
  rw [mem_spellings_iff, parse?]
  generalize Hex.dropMark text.toList = cs
  constructor
  · intro h
    cases hread : Hex.readExactly 20 (Text.utf8 (String.ofList cs)) with
    | error error =>
      simp only [hread] at h
      exact absurd h nofun
    | ok bytes =>
      obtain ⟨hlength, hsame⟩ := Hex.readExactly_eq_ok_iff.mp hread
      simp only [hread] at h
      rw [dif_pos hlength] at h
      split at h
      · exact absurd h nofun
      · rename_i hmixed
        obtain rfl := Option.some.inj h
        refine ⟨hsame, fun hlower hupper => Decidable.byContradiction fun hne => hmixed ?_⟩
        rw [hlower, hupper]
        exact bne_iff_ne.mpr hne
  · rintro ⟨hsame, hmixed⟩
    have hread : Hex.readExactly 20 (Text.utf8 (String.ofList cs)) = .ok a.bytes :=
      Hex.readExactly_eq_ok_iff.mpr ⟨a.length_bytes, hsame⟩
    simp only [hread]
    rw [dif_pos a.length_bytes, if_neg]
    rintro hrefused
    rw [Bool.and_eq_true, Bool.and_eq_true] at hrefused
    obtain ⟨⟨hlower, hupper⟩, hne⟩ := hrefused
    exact bne_iff_ne.mp hne (hmixed hlower hupper)

/-- A text is accepted for exactly the addresses that it spells. -/
theorem parse_eq_ok_iff {text : String} {a : Address} :
    parse text = .ok a ↔ ∃ spelling ∈ a.spellings, Hex.Leaves text.toList spelling := by
  have hspelled : (∃ spelling ∈ a.spellings, Hex.Leaves text.toList spelling) ↔
      parse? text = some a := by
    rw [parse?_eq_some_iff]
    constructor
    · rintro ⟨spelling, hspelling, hleaves⟩
      rwa [Hex.leaves_iff.mp hleaves]
    · exact fun h => ⟨_, h, Hex.leaves_dropMark text.toList⟩
  rw [hspelled, parse]
  cases parse? text with
  | none => exact iff_of_false nofun nofun
  | some found => rw [Except.ok.injEq, Option.some.injEq]

/-- Each spelling has forty characters. -/
theorem length_of_mem_spellings {a : Address} {spelling : List Char} (h : spelling ∈ a.spellings) :
    spelling.length = 40 := by
  have hsame := congrArg List.length (mem_spellings_iff.mp h).1
  rw [List.length_map, List.length_map, length_lowerDigits] at hsame
  exact hsame

/-- A text is accepted for an address exactly when, behind at most one mark, it has its forty digits
in lowercase, in uppercase or in the checksum case, which is the one in which a letter is uppercase
exactly when the digit at its place in the digest is at least eight. The checksummed text of every
address is accepted for it. The same digits in any other case are refused, and every refusal names
the text. -/
theorem parse_accepts_spellings :
    (∀ text (a : Address), parse text = .ok a ↔
      ∃ spelling ∈ a.spellings, Hex.Leaves text.toList spelling) ∧
    (∀ a : Address, ∀ spelling ∈ a.spellings, spelling.length = 40) ∧
    (∀ a spelling, InChecksumCase a spelling ↔ spelling = a.checksumDigits) ∧
    (∀ a : Address, parse a.checksummed = .ok a) ∧
    (∀ text (a : Address) spelling, Hex.Leaves text.toList spelling →
      Text.SameLetters spelling a.lowerDigits → spelling ∉ a.spellings →
      parse text = .error (.address text)) ∧
    ∀ text error, parse text = .error error → error = .address text := by
  refine ⟨fun text a => parse_eq_ok_iff, fun a spelling => length_of_mem_spellings,
    fun a spelling => inChecksumCase_iff, fun a => ?_, ?_, fun text error => eq_of_parse_eq_error⟩
  · have hmem : a.checksumDigits ∈ a.spellings :=
      List.mem_cons_of_mem _ (List.mem_cons_of_mem _ List.mem_cons_self)
    refine parse_eq_ok_iff.mpr ⟨a.checksumDigits, hmem, ['0', 'x'], by decide, ?_, nofun⟩
    rw [checksummed, String.toList_ofList]
    rfl
  · intro text a spelling hleaves hsame hnot
    cases hparse : parse text with
    | error error => rw [eq_of_parse_eq_error hparse]
    | ok b =>
      obtain ⟨spelled, hspelled, hleft⟩ := parse_eq_ok_iff.mp hparse
      obtain rfl := (Hex.leaves_iff.mp hleft).symm.trans (Hex.leaves_iff.mp hleaves)
      -- The digits belong to one address only, so it is this one that would be spelled.
      obtain rfl : a = b := lowerDigits_injective
        ((Hex.sameLetters_digits_iff.mp hsame).symm.trans
          (Hex.sameLetters_digits_iff.mp (mem_spellings_iff.mp hspelled).1))
      exact absurd hspelled hnot

end Address

end DispatchScan
