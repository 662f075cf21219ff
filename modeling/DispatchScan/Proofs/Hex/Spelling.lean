import DispatchScan.Bytecode
import DispatchScan.Proofs.Hex.Plain
import DispatchScan.Proofs.Outcome
import DispatchScan.Proofs.Text.Blank

/-!
# Spellings and their plain form

What it means that a text spells a byte string, and what is wrong with a text that spells none, both
said without the order in which a text is looked at. Main statement: normalization accepts exactly
the spellings, gives the digits of the spelled bytes, and otherwise names the fault; a file is
loaded as its content.
-/

namespace DispatchScan.Hex

/-- What may stand in front of the digits. -/
def marks : List (List Char) := [[], ['0', 'x'], ['0', 'X']]

/-- No mark holds white space. -/
theorem noBlank_of_mem_marks : ∀ mark ∈ marks, Text.NoBlank mark := by decide

/-- Whether no mark with characters stands in front. -/
def Unmarked (cs : List Char) : Prop := ¬['0', 'x'] <+: cs ∧ ¬['0', 'X'] <+: cs

instance : DecidablePred Unmarked := fun cs =>
  inferInstanceAs (Decidable (¬['0', 'x'] <+: cs ∧ ¬['0', 'X'] <+: cs))

/-- The characters that are left when one mark is removed, if there is one. -/
def Leaves (cs rest : List Char) : Prop :=
  ∃ mark ∈ marks, cs = mark ++ rest ∧ (mark = [] → Unmarked rest)

/-- Removing a mark leaves what stands behind it. -/
theorem dropMark_append {mark rest : List Char} (hmark : mark ∈ marks)
    (hrest : mark = [] → Unmarked rest) : dropMark (mark ++ rest) = rest := by
  simp only [marks, List.mem_cons, List.not_mem_nil, or_false] at hmark
  rcases hmark with rfl | rfl | rfl
  · obtain ⟨hlower, hupper⟩ := hrest rfl
    rw [List.nil_append]
    unfold dropMark
    split
    · exact absurd (List.prefix_append ['0', 'x'] _) hlower
    · exact absurd (List.prefix_append ['0', 'X'] _) hupper
    · rfl
  · rfl
  · rfl

/-- Removing a mark leaves all but one mark. -/
theorem leaves_dropMark (cs : List Char) : Leaves cs (dropMark cs) := by
  unfold dropMark
  split
  · exact ⟨['0', 'x'], by decide, rfl, nofun⟩
  · exact ⟨['0', 'X'], by decide, rfl, nofun⟩
  · rename_i hlower hupper
    refine ⟨[], by decide, rfl, fun _ => ⟨?_, ?_⟩⟩
    · rintro ⟨rest, rfl⟩
      exact hlower rest rfl
    · rintro ⟨rest, rfl⟩
      exact hupper rest rfl

/-- Exactly one text is left when a mark is removed. -/
theorem leaves_iff {cs rest : List Char} : Leaves cs rest ↔ dropMark cs = rest := by
  constructor
  · rintro ⟨mark, hmark, rfl, hrest⟩
    exact dropMark_append hmark hrest
  · rintro rfl
    exact leaves_dropMark cs

/-- The digits in either case. -/
def anyDigits : List Char :=
  ['0', '1', '2', '3', '4', '5', '6', '7', '8', '9', 'a', 'b', 'c', 'd', 'e', 'f',
    'A', 'B', 'C', 'D', 'E', 'F']

/-- No digit is beyond ASCII. -/
theorem toNat_lt_of_mem_anyDigits {c : Char} (h : c ∈ anyDigits) : c.toNat < 0x80 := by
  have hall : anyDigits.all (fun d => d.toNat < 0x80) = true := by decide
  exact of_decide_eq_true (List.all_eq_true.mp hall c h)

/-- Digits are recognised by their codes. -/
theorem isDigit_iff_mem_anyDigits (c : Char) : isDigit c = true ↔ c ∈ anyDigits := by
  by_cases hc : c.toNat < 0x80
  · have hascii : ∀ n < 0x80, isDigit (Char.ofNat n) = decide (Char.ofNat n ∈ anyDigits) := by
      decide +kernel
    rw [Text.of_forall_code_lt (p := fun c => isDigit c = decide (c ∈ anyDigits)) hascii hc,
      decide_eq_true_eq]
  · have hvalue : digitValue? c.toNat = none := by
      rw [digitValue?, if_neg (by omega), if_neg (by omega), if_neg (by omega)]
    rw [isDigit, hvalue]
    exact ⟨nofun, fun hmem => absurd (toNat_lt_of_mem_anyDigits hmem) hc⟩

/-- The digits in either case are those that are plain in lowercase. -/
theorem isDigit_iff_toLower_mem (c : Char) : isDigit c = true ↔ c.toLower ∈ lowerDigits := by
  by_cases hc : c.toNat < 0x80
  · rw [lowerDigits_eq_map]
    have hascii : ∀ n < 0x80, isDigit (Char.ofNat n)
        = decide ((Char.ofNat n).toLower ∈ (List.range 16).map Nat.digitChar) := by
      decide +kernel
    rw [Text.of_forall_code_lt
      (p := fun c => isDigit c = decide (c.toLower ∈ (List.range 16).map Nat.digitChar)) hascii hc,
      decide_eq_true_eq]
  · have hupper : c.isUpper = false := by
      cases h : c.isUpper with
      | false => rfl
      | true => exact absurd (Text.toNat_lt_of_isUpper h) hc
    rw [Text.toLower_of_not_isUpper hupper, isDigit_iff_mem_anyDigits]
    exact ⟨fun hmem => absurd (toNat_lt_of_mem_anyDigits hmem) hc,
      fun hmem => absurd (toNat_lt_of_mem_lowerDigits hmem) hc⟩

/-- Nothing is found exactly when there are only digits. -/
theorem firstBadDigit?_eq_none_iff {cs : List Char} :
    firstBadDigit? cs = none ↔ ∀ c ∈ cs, isDigit c = true := by
  induction cs with
  | nil => exact ⟨fun _ => nofun, fun _ => rfl⟩
  | cons c cs ih =>
    rw [firstBadDigit?, List.forall_mem_cons]
    cases hc : isDigit c with
    | false => simp only [Bool.false_eq_true, if_false, reduceCtorEq, false_and]
    | true => rw [if_pos rfl, Option.map_eq_none_iff, ih, eq_self, true_and]

/-- What is found is the first character that is no digit, behind as many digits as stated. -/
theorem firstBadDigit?_eq_some_iff {cs : List Char} {bad : Char} {offset : Nat} :
    firstBadDigit? cs = some (bad, offset) ↔
      ∃ before c after, cs = before ++ c :: after ∧ (∀ d ∈ before, isDigit d = true) ∧
        isDigit c = false ∧ bad = c ∧ offset = before.length := by
  induction cs generalizing offset with
  | nil =>
    constructor
    · exact nofun
    · rintro ⟨before, c, after, hsplit, -⟩
      exact absurd hsplit (by simp)
  | cons c cs ih =>
    rw [firstBadDigit?]
    cases hc : isDigit c with
    | false =>
      have hfirst := exists_first_cons_iff_of_not_good (fun d => isDigit d = true)
        (fun i d => isDigit d = false ∧ bad = d ∧ offset = i) (by rw [hc]; exact Bool.false_ne_true)
        cs
      rw [hfirst, hc, if_neg Bool.false_ne_true, Option.some.injEq, Prod.mk.injEq]
      exact ⟨fun ⟨hbad, hoffset⟩ => ⟨rfl, hbad.symm, hoffset.symm⟩,
        fun ⟨_, hbad, hoffset⟩ => ⟨hbad.symm, hoffset.symm⟩⟩
    | true =>
      have hnext := exists_first_cons_iff_of_good (fun d => isDigit d = true)
        (fun i d => isDigit d = false ∧ bad = d ∧ offset = i) hc
        (fun h => Bool.false_ne_true (h.1.symm.trans hc)) cs
      rw [hnext, if_pos rfl, Option.map_eq_some_iff]
      constructor
      · rintro ⟨⟨bad', offset'⟩, hfound, hpair⟩
        obtain ⟨rfl, rfl⟩ := Prod.mk.inj hpair
        obtain ⟨before, d, after, hsplit, hbefore, hd, hbad, rfl⟩ := ih.mp hfound
        exact ⟨before, d, after, hsplit, hbefore, hd, hbad, rfl⟩
      · rintro ⟨before, d, after, hsplit, hbefore, hd, hbad, rfl⟩
        exact ⟨(bad, before.length), ih.mpr ⟨before, d, after, hsplit, hbefore, hd, hbad, rfl⟩, rfl⟩

/-- An even number of lowercase digits is the text of a byte string. -/
theorem exists_digits_eq {cs : List Char} (hlower : ∀ c ∈ cs, c ∈ lowerDigits)
    (heven : cs.length % 2 = 0) : ∃ bytes, cs = digits bytes := by
  have hplain : IsPlain (String.ofList cs) := by
    rw [IsPlain, String.toList_ofList]
    exact hlower
  have hlength : (Text.utf8 (String.ofList cs)).length = 2 * (cs.length / 2) := by
    rw [hplain.isAscii.utf8_eq, List.length_map, String.toList_ofList]
    omega
  obtain ⟨bytes, -, hbytes⟩ := exists_utf8_encode_eq hlength hplain.mem_utf8
  have htext := Text.utf8_injective hbytes
  rw [encode, String.ofList_inj] at htext
  exact ⟨bytes, htext.symm⟩

/-- A text spells bytes when, but for white space anywhere, it is their digits in either case behind
at most one mark. -/
def Spells (text : String) (bytes : List UInt8) : Prop :=
  ∃ mark ∈ marks, ∃ spelled, Text.withoutBlanks text.toList = mark ++ spelled ∧
    Text.SameLetters spelled (digits bytes)

/-- Lowercase digits are no white space and stay as they are in lowercase. -/
theorem isBlank_and_toLower_of_mem_lowerDigits {c : Char} (h : c ∈ lowerDigits) :
    Text.isBlank c = false ∧ c.toLower = c := by
  have hall : ∀ n < 16, Text.isBlank (Nat.digitChar n) = false ∧
      (Nat.digitChar n).toLower = Nat.digitChar n := by
    decide
  obtain ⟨n, hn, rfl⟩ := exists_digitChar_of_mem_lowerDigits h
  exact hall n hn

/-- There is no white space between encoded bytes. -/
theorem noBlank_digits (bytes : List UInt8) : Text.NoBlank (digits bytes) :=
  fun _ hc => (isBlank_and_toLower_of_mem_lowerDigits (mem_lowerDigits_of_mem_digits hc)).1

/-- Encoded bytes are in lowercase. -/
theorem map_toLower_digits (bytes : List UInt8) : (digits bytes).map Char.toLower = digits bytes :=
  (List.map_congr_left fun _ hc =>
    (isBlank_and_toLower_of_mem_lowerDigits (mem_lowerDigits_of_mem_digits hc)).2).trans
      (List.map_id _)

/-- What has the letters of encoded bytes becomes their digits in lowercase. -/
theorem sameLetters_digits_iff {cs : List Char} {bytes : List UInt8} :
    Text.SameLetters cs (digits bytes) ↔ cs.map Char.toLower = digits bytes := by
  rw [Text.SameLetters, map_toLower_digits]

/-- Digits alone carry no mark, since `x` is none. -/
theorem unmarked_of_isDigit {cs : List Char} (h : ∀ c ∈ cs, isDigit c = true) : Unmarked cs := by
  have hlower : isDigit 'x' = false := by decide
  have hupper : isDigit 'X' = false := by decide
  constructor
  · intro hstart
    have hx := h 'x' (hstart.subset (by decide))
    exact Bool.false_ne_true (hlower.symm.trans hx)
  · intro hstart
    have hx := h 'X' (hstart.subset (by decide))
    exact Bool.false_ne_true (hupper.symm.trans hx)

/-- What has the letters of encoded bytes is made of digits. -/
theorem isDigit_of_sameLetters {cs : List Char} {bytes : List UInt8}
    (h : Text.SameLetters cs (digits bytes)) : ∀ c ∈ cs, isDigit c = true := by
  intro c hc
  rw [sameLetters_digits_iff] at h
  have hmem : c.toLower ∈ digits bytes := by
    rw [← h]
    exact List.mem_map_of_mem hc
  exact (isDigit_iff_toLower_mem c).mpr (mem_lowerDigits_of_mem_digits hmem)

/-- A text spells bytes exactly when its significant characters are their digits in lowercase. -/
theorem spells_iff {text : String} {bytes : List UInt8} :
    Spells text bytes ↔ (significant text).map Char.toLower = digits bytes := by
  rw [significant]
  constructor
  · rintro ⟨mark, hmark, spelled, hsplit, hsame⟩
    have hunmarked := unmarked_of_isDigit (isDigit_of_sameLetters hsame)
    rw [hsplit, dropMark_append hmark fun _ => hunmarked]
    exact sameLetters_digits_iff.mp hsame
  · intro h
    obtain ⟨mark, hmark, hsplit, -⟩ := leaves_dropMark (Text.withoutBlanks text.toList)
    exact ⟨mark, hmark, _, hsplit, sameLetters_digits_iff.mpr h⟩

/-- What is wrong with a text that spells no bytes, seen in what white space and one mark leave of
it. -/
inductive HasFault (text : String) : SpellingError → Prop where
  /-- The first character that is no digit, at its offset in bytes. -/
  | badDigit {before after : List Char} {c : Char} :
    Leaves (Text.withoutBlanks text.toList) (before ++ c :: after) →
    (∀ d ∈ before, d ∈ anyDigits) → c ∉ anyDigits →
    HasFault text (.badDigit c (Text.utf8 (String.ofList before)).length)
  /-- An odd number of digits and nothing else. -/
  | oddLength {spelled : List Char} :
    Leaves (Text.withoutBlanks text.toList) spelled → (∀ d ∈ spelled, d ∈ anyDigits) →
    spelled.length % 2 = 1 → HasFault text (.oddLength spelled.length)

/-- Digits are one byte each. -/
theorem length_utf8_ofList {cs : List Char} (h : ∀ c ∈ cs, c ∈ anyDigits) :
    (Text.utf8 (String.ofList cs)).length = cs.length := by
  have hascii : Text.IsAscii (String.ofList cs) := by
    rw [Text.IsAscii, String.toList_ofList]
    exact fun c hc => toNat_lt_of_mem_anyDigits (h c hc)
  rw [hascii.utf8_eq, List.length_map, String.toList_ofList]

/-- A spelling is reduced to the text of its bytes. -/
theorem normalize_of_spells {text : String} {bytes : List UInt8} (h : Spells text bytes) :
    normalize text = .ok (encode bytes) := by
  have hdigits := spells_iff.mp h
  have hnone : firstBadDigit? (significant text) = none :=
    firstBadDigit?_eq_none_iff.mpr (isDigit_of_sameLetters (sameLetters_digits_iff.mpr hdigits))
  have hlength : (significant text).length = 2 * bytes.length := by
    rw [← List.length_map Char.toLower, hdigits, length_digits]
  rw [normalize]
  simp only [hnone]
  rw [if_neg (by omega), hdigits, encode]

/-- A text with a fault is refused for this fault. -/
theorem normalize_of_hasFault {text : String} {error : SpellingError} (h : HasFault text error) :
    normalize text = .error error := by
  cases h with
  | badDigit hleaves hbefore hc =>
    have hsome := firstBadDigit?_eq_some_iff.mpr
      ⟨_, _, _, leaves_iff.mp hleaves, fun d hd => (isDigit_iff_mem_anyDigits d).mpr (hbefore d hd),
        eq_false_of_ne_true fun hdigit => hc ((isDigit_iff_mem_anyDigits _).mp hdigit), rfl, rfl⟩
    rw [normalize, significant]
    simp only [hsome, length_utf8_ofList hbefore]
  | oddLength hleaves hdigits hodd =>
    have hrest := leaves_iff.mp hleaves
    have hnone : firstBadDigit? (significant text) = none := by
      rw [significant, hrest, firstBadDigit?_eq_none_iff]
      exact fun d hd => (isDigit_iff_mem_anyDigits d).mpr (hdigits d hd)
    rw [normalize]
    simp only [hnone]
    rw [significant, hrest, if_pos hodd]

/-- Every text spells some bytes or has some fault. -/
theorem exists_spells_or_hasFault (text : String) :
    (∃ bytes, Spells text bytes) ∨ ∃ error, HasFault text error := by
  have hleaves := leaves_dropMark (Text.withoutBlanks text.toList)
  cases hfirst : firstBadDigit? (significant text) with
  | some found =>
    obtain ⟨before, c, after, hsplit, hbefore, hc, -⟩ := firstBadDigit?_eq_some_iff.mp hfirst
    rw [significant] at hsplit
    rw [hsplit] at hleaves
    refine .inr ⟨_, .badDigit hleaves
      (fun d hd => (isDigit_iff_mem_anyDigits d).mp (hbefore d hd)) fun hmem => ?_⟩
    exact Bool.false_ne_true (hc.symm.trans ((isDigit_iff_mem_anyDigits c).mpr hmem))
  | none =>
    have hdigits := firstBadDigit?_eq_none_iff.mp hfirst
    rcases Nat.mod_two_eq_zero_or_one (significant text).length with heven | hodd
    · have hlower : ∀ c ∈ (significant text).map Char.toLower, c ∈ lowerDigits := by
        intro c hc
        obtain ⟨d, hd, rfl⟩ := List.mem_map.mp hc
        exact (isDigit_iff_toLower_mem d).mp (hdigits d hd)
      obtain ⟨bytes, hbytes⟩ := exists_digits_eq hlower (by rwa [List.length_map])
      exact .inl ⟨bytes, spells_iff.mpr hbytes⟩
    · exact .inr ⟨_, .oddLength hleaves
        (fun d hd => (isDigit_iff_mem_anyDigits d).mp (hdigits d hd)) hodd⟩

/-- Whatever is accepted is the text of bytes that are spelled. -/
theorem exists_spells_of_normalize {text plain : String} (h : normalize text = .ok plain) :
    ∃ bytes, plain = encode bytes ∧ Spells text bytes := by
  rcases exists_spells_or_hasFault text with ⟨bytes, hspells⟩ | ⟨error, hfault⟩
  · rw [normalize_of_spells hspells, Except.ok.injEq] at h
    exact ⟨bytes, h.symm, hspells⟩
  · rw [normalize_of_hasFault hfault] at h
    exact absurd h nofun

/-- The text of bytes is accepted for exactly their spellings. -/
theorem normalize_eq_ok_encode_iff {text : String} {bytes : List UInt8} :
    normalize text = .ok (encode bytes) ↔ Spells text bytes := by
  refine ⟨fun h => ?_, normalize_of_spells⟩
  obtain ⟨spelled, hbytes, hspells⟩ := exists_spells_of_normalize h
  rw [encode, encode, String.ofList_inj] at hbytes
  rw [spells_iff] at hspells ⊢
  rw [hspells, hbytes]

/-- A text is refused for exactly its faults. -/
theorem normalize_eq_error_iff {text : String} {error : SpellingError} :
    normalize text = .error error ↔ HasFault text error := by
  refine ⟨fun h => ?_, normalize_of_hasFault⟩
  rcases exists_spells_or_hasFault text with ⟨bytes, hspells⟩ | ⟨found, hfault⟩
  · rw [normalize_of_spells hspells] at h
    exact absurd h nofun
  · rw [normalize_of_hasFault hfault, Except.error.injEq] at h
    rwa [← h]

/-- The text of bytes spells them. -/
theorem spells_encode (bytes : List UInt8) : Spells (encode bytes) bytes := by
  refine ⟨[], by decide, digits bytes, ?_, rfl⟩
  rw [encode, String.toList_ofList, Text.withoutBlanks_eq_self (noBlank_digits bytes),
    List.nil_append]

/-- Plain text with an even number of digits is its own plain form. -/
theorem normalize_encode (bytes : List UInt8) : normalize (encode bytes) = .ok (encode bytes) :=
  normalize_of_spells (spells_encode bytes)

/-- Normalization accepts exactly the spellings of byte strings and gives the text of the bytes,
which is plain, of even length and its own normal form; all spellings of the same bytes are reduced
to one text. Every other text is refused for its fault: the first character that is no digit, or
else an odd number of digits. A file that can be read as a text is loaded as this text. -/
theorem normalize_accepts_spellings (text : String) :
    (∀ bytes, normalize text = .ok (encode bytes) ↔ Spells text bytes) ∧
    (∀ plain, normalize text = .ok plain →
      (∃ bytes, plain = encode bytes ∧ Spells text bytes) ∧ IsPlain plain ∧
        plain.length % 2 = 0 ∧ normalize plain = .ok plain) ∧
    (∀ other bytes, Spells text bytes → Spells other bytes → normalize other = normalize text) ∧
    (∀ error, normalize text = .error error ↔ HasFault text error) ∧
    ∀ read path, read path = .ok (Text.utf8 text) →
      Bytecode.ofFile read path = (normalize text).mapError Bytecode.LoadError.spelling := by
  refine ⟨fun bytes => normalize_eq_ok_encode_iff, ?_, ?_, fun error => normalize_eq_error_iff, ?_⟩
  · intro plain hplain
    obtain ⟨bytes, rfl, hspells⟩ := exists_spells_of_normalize hplain
    have hlength : (encode bytes).length = 2 * bytes.length := by
      rw [encode, String.length_ofList, length_digits]
    exact ⟨⟨bytes, rfl, hspells⟩, isPlain_encode bytes, by omega, normalize_encode bytes⟩
  · intro other bytes htext hother
    rw [normalize_of_spells htext, normalize_of_spells hother]
  · intro read path hread
    rw [Bytecode.ofFile, readText_of_utf8 hread]
    rfl

/-- White space may stand even inside of the mark. -/
example : normalize "\t0 X6\n08 0" = .ok "6080" := rfl

end DispatchScan.Hex
