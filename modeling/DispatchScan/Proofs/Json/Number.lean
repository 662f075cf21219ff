import DispatchScan.Json.Record
import DispatchScan.Proofs.Json.Spelling

/-!
# Numbers

Every number is passed over, of whatever size it is, and the digits of a number of 64 bits are read
as this number. Where a number without sign can be read, passing over stops at the same place.
-/

namespace DispatchScan.Json.Reader

/-- Whether a number could go on with a byte. -/
def continuesNumber (b : UInt8) : Bool :=
  isDigit b || b == code '.' || b == code 'e' || b == code 'E'

/-- No number goes on with what follows. -/
def EndsNumber (rest : List UInt8) : Prop := ∀ b ∈ rest.head?, continuesNumber b = false

/-- What the readers of numbers look at behind a number. -/
theorem EndsNumber.head {rest : List UInt8} (h : EndsNumber rest) :
    rest.head?.any isDigit = false ∧ (rest.head? == some (code '.')) = false ∧
      atExponent rest = false := by
  cases rest with
  | nil => decide
  | cons b rest =>
    have hb := h b rfl
    simp only [continuesNumber, Bool.or_eq_false_iff] at hb
    obtain ⟨⟨⟨hdigit, hpoint⟩, hlower⟩, hupper⟩ := hb
    refine ⟨hdigit, hpoint, ?_⟩
    rw [atExponent, Bool.or_eq_false_iff]
    exact ⟨hlower, hupper⟩

/-- The byte of a decimal digit. -/
theorem isDigit_code {c : Char} (h : c.isDigit = true) :
    c.toNat < 0x80 ∧ isDigit (code c) = true ∧ (code c).toNat = c.toNat := by
  have hlt : c.toNat < 0x80 := by
    rw [Char.isDigit, Bool.and_eq_true, decide_eq_true_eq, decide_eq_true_eq] at h
    have hle : c.toNat ≤ 57 := UInt32.le_iff_toNat_le.mp h.2
    omega
  have hascii : ∀ n < 0x80, (Char.ofNat n).isDigit = true →
      isDigit (code (Char.ofNat n)) = true := by
    decide
  exact ⟨hlt, Text.of_forall_code_lt (p := fun c => c.isDigit = true → isDigit (code c) = true)
    hascii hlt h, Text.toNat_asciiByte hlt⟩

/-- The bytes of digits are those of the digits, one each. -/
theorem spell_of_isDigit {ds : List Char} (h : ∀ c ∈ ds, c.isDigit = true) :
    spell ds = ds.map code :=
  Text.flatMap_utf8EncodeChar fun c hc => (isDigit_code (h c hc)).1

/-- Digits are told from what follows them. -/
theorem span_digits {ds : List Char} (h : ∀ c ∈ ds, c.isDigit = true) {rest : List UInt8}
    (hrest : rest.head?.any isDigit = false) :
    (spell ds ++ rest).takeWhile isDigit = spell ds ∧
      (spell ds ++ rest).dropWhile isDigit = rest := by
  have hall : ∀ b ∈ spell ds, isDigit b = true := by
    rw [spell_of_isDigit h]
    intro b hb
    obtain ⟨c, hc, rfl⟩ := List.mem_map.mp hb
    exact (isDigit_code (h c hc)).2.1
  have htake : rest.takeWhile isDigit = [] ∧ rest.dropWhile isDigit = rest := by
    cases rest with
    | nil => exact ⟨rfl, rfl⟩
    | cons b rest =>
      have hb : isDigit b = false := hrest
      rw [List.takeWhile_cons, List.dropWhile_cons, hb]
      exact ⟨rfl, rfl⟩
  rw [List.takeWhile_append_of_pos hall, List.dropWhile_append_of_pos hall, htake.1, htake.2,
    List.append_nil]
  exact ⟨rfl, rfl⟩

/-- Digits start with a digit. -/
theorem exists_cons_of_isDigits {ds : List Char} (h : IsDigits ds) :
    ∃ c cs, ds = c :: cs ∧ isDigit (code c) = true ∧ spell ds = code c :: spell cs ∧
      ∀ d ∈ cs, d.isDigit = true := by
  obtain ⟨c, cs, rfl⟩ := List.exists_cons_of_ne_nil h.1
  obtain ⟨hc, hcs⟩ := List.forall_mem_cons.mp h.2
  exact ⟨c, cs, rfl, (isDigit_code hc).2.1, spell_cons_of_lt (isDigit_code hc).1 cs, hcs⟩

/-! ## Passing over -/

/-- The digits of an exponent are passed over. -/
theorem reads_exponentDigits {ds : List Char} (h : IsDigits ds) {rest : List UInt8}
    (hrest : rest.head?.any isDigit = false) :
    Reads (do
      match ← get with
      | [] => failHere .badNumber
      | d :: rest =>
        set (rest.dropWhile isDigit)
        if ¬ isDigit d then
          set rest
          failHere .badNumber) (spell ds ++ rest) () rest := by
  obtain ⟨c, cs, -, hc, hspell, hcs⟩ := exists_cons_of_isDigits h
  rw [hspell, List.cons_append]
  refine (reads_get _).bind ?_
  simp only [hc, (span_digits hcs hrest).2, not_true, if_false]
  exact (reads_set rest _).bind (reads_pure () rest)

/-- A digit is no other character. -/
theorem beq_eq_false_of_isDigit {b x : UInt8} (hb : isDigit b = true) (hx : isDigit x = false) :
    (b == x) = false :=
  beq_eq_false_iff_ne.mpr fun h => Bool.false_ne_true (hx.symm.trans (h ▸ hb))

/-- A digit starts no literal. -/
theorem ne_of_isDigit {b : UInt8} (h : isDigit b = true) :
    b ≠ code 'n' ∧ b ≠ code 't' ∧ b ≠ code 'f' ∧ b ≠ code '-' ∧ b ≠ code ']' ∧
      isSpace b = false := by
  have hne : ∀ x, isDigit x = false → (b == x) = false := fun x => beq_eq_false_of_isDigit h
  have hspace : isSpace b = false := by
    simp only [isSpace, Bool.or_eq_false_iff]
    exact ⟨⟨⟨hne _ (by decide), hne _ (by decide)⟩, hne _ (by decide)⟩, hne _ (by decide)⟩
  exact ⟨beq_eq_false_iff_ne.mp (hne _ (by decide)), beq_eq_false_iff_ne.mp (hne _ (by decide)),
    beq_eq_false_iff_ne.mp (hne _ (by decide)), beq_eq_false_iff_ne.mp (hne _ (by decide)),
    beq_eq_false_iff_ne.mp (hne _ (by decide)), hspace⟩

/-- An exponent is passed over from its letter on. -/
theorem reads_skipExponent {letter : UInt8} {sign ds : List Char}
    (hsign : sign ∈ [[], ['+'], ['-']]) (hds : IsDigits ds) {rest : List UInt8}
    (hrest : rest.head?.any isDigit = false) :
    Reads skipExponent (letter :: (spell sign ++ (spell ds ++ rest))) () rest := by
  have hdigits := reads_exponentDigits hds hrest
  obtain ⟨c, cs, -, hc, hspell, -⟩ := exists_cons_of_isDigits hds
  refine (reads_skip _ _).bind ((reads_get _).bind ?_)
  simp only [List.mem_cons, List.not_mem_nil, or_false] at hsign
  rcases hsign with rfl | rfl | rfl
  · have hnone : ((spell [] ++ (spell ds ++ rest)).head? == some (code '+')
        || (spell [] ++ (spell ds ++ rest)).head? == some (code '-')) = false := by
      rw [hspell]
      exact Bool.or_eq_false_iff.mpr ⟨beq_eq_false_of_isDigit hc (by decide),
        beq_eq_false_of_isDigit hc (by decide)⟩
    simp only [hnone]
    exact hdigits
  · exact (reads_skip (code '+') _).bind hdigits
  · exact (reads_skip (code '-') _).bind hdigits

/-- The bytes of the letters that start an exponent. -/
theorem code_of_mem_exponentLetters {letter : Char} (h : letter ∈ ['e', 'E']) :
    letter.toNat < 0x80 ∧ (code letter = code 'e' ∨ code letter = code 'E') := by
  simp only [List.mem_cons, List.not_mem_nil, or_false] at h
  rcases h with rfl | rfl
  · exact ⟨by decide, Or.inl rfl⟩
  · exact ⟨by decide, Or.inr rfl⟩

/-- What may follow a fraction is passed over. -/
theorem reads_exponent {exponent : List Char} (h : IsExponent exponent) {rest : List UInt8}
    (hrest : EndsNumber rest) :
    Reads (if atExponent (spell exponent ++ rest) then skipExponent else pure ())
      (spell exponent ++ rest) () rest := by
  rcases h with rfl | ⟨letter, hletter, sign, hsign, ds, hds, rfl⟩
  · have hnone : atExponent (spell [] ++ rest) = false := hrest.head.2.2
    rw [hnone]
    exact reads_pure () rest
  · obtain ⟨hlt, hcode⟩ := code_of_mem_exponentLetters hletter
    have hat : ∀ tail, atExponent (code letter :: tail) = true := by
      intro tail
      rw [atExponent]
      rcases hcode with hlower | hupper
      · rw [hlower]
        rfl
      · rw [hupper]
        rfl
    rw [spell_cons_of_lt hlt, spell_append, List.cons_append, List.append_assoc, hat,
      if_pos rfl]
    exact reads_skipExponent hsign hds hrest.head.1

/-- No digit stands where an exponent may, and no point. -/
theorem head_exponent {exponent : List Char} (h : IsExponent exponent) {rest : List UInt8}
    (hrest : EndsNumber rest) :
    (spell exponent ++ rest).head?.any isDigit = false ∧
      ((spell exponent ++ rest).head? == some (code '.')) = false := by
  rcases h with rfl | ⟨letter, hletter, sign, -, ds, -, rfl⟩
  · exact ⟨hrest.head.1, hrest.head.2.1⟩
  · obtain ⟨hlt, hcode⟩ := code_of_mem_exponentLetters hletter
    rw [spell_cons_of_lt hlt]
    rcases hcode with hlower | hupper
    · rw [hlower]
      exact ⟨rfl, rfl⟩
    · rw [hupper]
      exact ⟨rfl, rfl⟩

/-- A fraction and what may follow it are passed over from the point on. -/
theorem reads_skipFraction {ds exponent : List Char} (hds : IsDigits ds)
    (hexponent : IsExponent exponent) {rest : List UInt8} (hrest : EndsNumber rest) :
    Reads skipFraction (code '.' :: (spell ds ++ (spell exponent ++ rest))) () rest := by
  have htake := (span_digits hds.2 (head_exponent hexponent hrest).1).1
  obtain ⟨c, cs, -, -, hspell, -⟩ := exists_cons_of_isDigits hds
  have hempty : (spell ds).isEmpty = false := by
    rw [hspell]
    rfl
  refine (reads_skip _ _).bind ((reads_get _).bind ?_)
  simp only [htake, hempty, Bool.false_eq_true, if_false, List.drop_left]
  exact (reads_set _ _).bind (reads_exponent hexponent hrest)

/-- What may follow the digits before a point is passed over. -/
theorem reads_afterInteger {fraction exponent : List Char} (hfraction : IsFraction fraction)
    (hexponent : IsExponent exponent) {rest : List UInt8} (hrest : EndsNumber rest) :
    ∀ left, left = spell fraction ++ (spell exponent ++ rest) → left.head?.any isDigit = false ∧
      Reads (if (left.head? == some (code '.')) = true then skipFraction
        else if atExponent left = true then skipExponent else pure ()) left () rest := by
  rintro left rfl
  rcases hfraction with rfl | ⟨ds, hds, rfl⟩
  · have hhead := head_exponent hexponent hrest
    have hnil : spell [] ++ (spell exponent ++ rest) = spell exponent ++ rest := rfl
    rw [hnil, hhead.2, if_neg Bool.false_ne_true]
    exact ⟨hhead.1, reads_exponent hexponent hrest⟩
  · have hpoint : ((code '.' :: (spell ds ++ (spell exponent ++ rest))).head?
        == some (code '.')) = true := by
      rw [List.head?_cons, beq_self_eq_true]
    rw [spell_cons_of_lt (by decide), List.cons_append, hpoint, if_pos rfl]
    have hdigit : isDigit (code '.') = false := by decide
    exact ⟨hdigit, reads_skipFraction hds hexponent hrest⟩

/-- A number without sign is passed over. -/
theorem reads_skipNumber {integer fraction exponent : List Char} (hinteger : IsInteger integer)
    (hfraction : IsFraction fraction) (hexponent : IsExponent exponent) {rest : List UInt8}
    (hrest : EndsNumber rest) :
    Reads skipNumber (spell (integer ++ (fraction ++ exponent)) ++ rest) () rest := by
  obtain ⟨hhead, hafter⟩ := reads_afterInteger hfraction hexponent hrest _ rfl
  rw [spell_append, spell_append, List.append_assoc, List.append_assoc]
  rcases hinteger with rfl | ⟨hdigits, hzero⟩
  · have hzero : isDigit (code '0') = true := by decide
    have hcons : ∀ left, spell ['0'] ++ left = code '0' :: left := fun left => rfl
    rw [hcons]
    refine (reads_get _).bind ?_
    simp only [hzero, not_true, if_false, if_true]
    refine (reads_set _ _).bind ((reads_get _).bind ?_)
    simp only [hhead, decide_true, Bool.and_false, Bool.false_eq_true, if_false]
    exact hafter
  · obtain ⟨c, cs, rfl, hc, hspell, hcs⟩ := exists_cons_of_isDigits hdigits
    have hvalue : (code c).toNat = c.toNat := (isDigit_code (hdigits.2 c List.mem_cons_self)).2.2
    have hne : code c ≠ code '0' := fun hcode => hzero <| by
      have hnat : c.toNat = '0'.toNat := hvalue.symm.trans (congrArg UInt8.toNat hcode)
      rw [List.head?_cons, Char.toNat_inj.mp hnat]
    rw [hspell, List.cons_append]
    refine (reads_get _).bind ?_
    simp only [hc, hne, (span_digits hcs hhead).2, not_true, if_false]
    refine (reads_set _ _).bind ((reads_get _).bind ?_)
    simp only [decide_false, Bool.false_and, Bool.false_eq_true, if_false]
    exact hafter

/-! ## Reading -/

/-- Appending digits to a number gives the number with these digits, if it has 64 bits. -/
theorem appendDigits_of_le {ds : List Char} (hds : ∀ c ∈ ds, c.isDigit = true) {n : Nat}
    (hsize : Nat.ofDigitChars 10 ds n ≤ maxNatural) :
    appendDigits n (spell ds) = (Nat.ofDigitChars 10 ds n, []) := by
  induction ds generalizing n with
  | nil => rfl
  | cons c cs ih =>
    obtain ⟨hc, hcs⟩ := List.forall_mem_cons.mp hds
    obtain ⟨hlt, -, hcode⟩ := isDigit_code hc
    have hnext : n * 10 + ((code c).toNat - 0x30) = 10 * n + (c.toNat - '0'.toNat) := by
      rw [hcode, Nat.mul_comm]
      rfl
    rw [Nat.ofDigitChars_cons] at hsize ⊢
    -- Digits that follow make a number no smaller, so no digit on the way exceeds the bound.
    have hle : 10 * n + (c.toNat - '0'.toNat) ≤ maxNatural := by
      refine Nat.le_trans ?_ hsize
      rw [Nat.ofDigitChars_eq_ofDigitChars_zero]
      have hpow : 1 * (10 * n + (c.toNat - '0'.toNat))
          ≤ 10 ^ cs.length * (10 * n + (c.toNat - '0'.toNat)) :=
        Nat.mul_le_mul_right _ (Nat.one_le_pow _ _ (by decide))
      omega
    rw [spell_cons_of_lt hlt, appendDigits]
    simp only [hnext]
    rw [if_neg (Nat.not_lt.mpr hle), ih hcs hsize]

/-- The digits of a number. -/
theorem isDigits_toDigits (n : Nat) : IsDigits (Nat.toDigits 10 n) :=
  ⟨Nat.toDigits_ne_nil, fun _ => Nat.isDigit_of_mem_toDigits (by decide) (by decide)⟩

/-- Only the digits of zero start with a zero. -/
theorem eq_zero_of_head?_toDigits {n : Nat} (h : (Nat.toDigits 10 n).head? = some '0') : n = 0 := by
  induction n using Nat.strongRecOn with
  | ind n ih =>
    rw [Nat.toDigits_eq_if (by decide)] at h
    by_cases hn : n < 10
    · have hall : ∀ n < 10, [Nat.digitChar n].head? = some '0' → n = 0 := by decide
      rw [if_pos hn] at h
      exact hall n hn h
    · rw [if_neg hn, List.head?_append_of_ne_nil _ Nat.toDigits_ne_nil] at h
      have hzero := ih (n / 10) (by omega) h
      omega

/-- Behind the digits of a number without sign nothing is looked for. -/
theorem reads_afterInteger_natural (n : Nat) {rest : List UInt8} (hrest : EndsNumber rest) :
    Reads (afterInteger false n 0) rest (.natural n) rest := by
  obtain ⟨-, hpoint, hexponent⟩ := hrest.head
  refine (reads_get rest).bind ?_
  cases rest with
  | nil => rfl
  | cons b rest =>
    have hb : (b == code '.') = false := hpoint
    have he : (b == code 'e' || b == code 'E') = false := hexponent
    simp only [hb, he, Bool.false_eq_true, if_false]
    rfl

/-- The digits of a number of 64 bits are read as a number. -/
theorem reads_number {n : Nat} (hn : n ≤ maxNatural) {rest : List UInt8}
    (hrest : EndsNumber rest) :
    Reads (number false) (spell (Nat.toDigits 10 n) ++ rest) (.natural n) rest := by
  have hdigits := isDigits_toDigits n
  have hback : Nat.ofDigitChars 10 (Nat.toDigits 10 n) 0 = n :=
    Nat.ofDigitChars_toDigits (by decide) (by decide)
  have happend := appendDigits_of_le hdigits.2 (n := 0) (by rw [hback]; exact hn)
  obtain ⟨htake, -⟩ := span_digits hdigits.2 hrest.head.1
  obtain ⟨c, cs, hcons, hc, hspell, -⟩ := exists_cons_of_isDigits hdigits
  by_cases hzero : code c = code '0'
  · have hvalue := (isDigit_code (hdigits.2 c (hcons ▸ List.mem_cons_self))).2.2
    have hnat : c.toNat = '0'.toNat := hvalue.symm.trans (congrArg UInt8.toNat hzero)
    obtain rfl : n = 0 := eq_zero_of_head?_toDigits (by
      rw [hcons, List.head?_cons, Char.toNat_inj.mp hnat])
    have hd : isDigit (code '0') = true := by decide
    have hcode : spell (Nat.toDigits 10 0) ++ rest = code '0' :: rest := rfl
    rw [hcode]
    refine (reads_get _).bind ?_
    simp only [hd, not_true, if_false, if_true]
    refine (reads_set _ _).bind ?_
    rw [hrest.head.1, if_neg Bool.false_ne_true]
    exact reads_afterInteger_natural 0 hrest
  · rw [hspell, List.cons_append] at htake ⊢
    refine (reads_get _).bind ?_
    simp only [hc, hzero, htake, not_true, if_false]
    rw [← hspell, happend, hback]
    refine (reads_set _ _).bind ?_
    rw [hspell, List.length_cons, List.drop_succ_cons, List.drop_left]
    exact reads_afterInteger_natural n hrest

/-- The digits of a number of 64 bits are read as this number. -/
theorem reads_natural {n : Nat} (hn : n ≤ maxNatural) {rest : List UInt8}
    (hrest : EndsNumber rest) :
    Reads natural (spell (Nat.toDigits 10 n) ++ rest) n rest := by
  have hnumber := reads_number hn hrest
  obtain ⟨c, cs, -, hc, hspell, -⟩ := exists_cons_of_isDigits (isDigits_toDigits n)
  obtain ⟨-, -, -, hminus, -, hspace⟩ := ne_of_isDigit hc
  rw [hspell, List.cons_append] at hnumber ⊢
  refine (reads_next? hspace _).bind ?_
  simp only [hminus, hc, or_true, if_true, if_false, decide_false]
  exact hnumber.bind (reads_pure n rest)

/-! ## Reading against passing over -/

/-- A reader of numbers that gives none without fraction and exponent. -/
def GivesReal (reader : Reader Number) : Prop :=
  ∀ text n rest, ¬Reads reader text (.natural n) rest

/-- What is read last decides. -/
theorem givesReal_bind {α : Type} {reader : Reader α} {next : α → Reader Number}
    (h : ∀ x, GivesReal (next x)) : GivesReal (reader >>= next) := by
  intro text n rest hreads
  obtain ⟨x, middle, -, hnext⟩ := hreads.exists_of_bind
  exact h x middle n rest hnext

/-- A number that is scaled is real. -/
theorem givesReal_real (minus : Bool) (significand : Nat) (exponent : Int) :
    GivesReal (real minus significand exponent) := by
  intro text n rest h
  rw [real] at h
  cases hsize : Binary64.ofDecimal? significand exponent with
  | none =>
    rw [hsize] at h
    cases h
  | some size =>
    rw [hsize] at h
    cases h

/-- A number with an exponent is real. -/
theorem givesReal_exponentDigits (minus : Bool) (significand : Nat) (place : Int) (down : Bool)
    (e : Nat) : GivesReal fun rest => exponentDigits minus significand place down e rest := by
  intro text n rest h
  rw [Reads] at h
  induction text generalizing e with
  | nil => exact givesReal_real _ _ _ _ _ _ h
  | cons d text ih =>
    rw [exponentDigits] at h
    by_cases hdigit : isDigit d = true
    · rw [if_pos hdigit] at h
      by_cases hmax : maxExponent < e * 10 + (d.toNat - 0x30)
      · simp only [if_pos hmax] at h
        split at h <;> cases h
      · simp only [if_neg hmax] at h
        exact ih _ h
    · rw [if_neg hdigit] at h
      exact givesReal_real _ _ _ _ _ _ h

/-- A reader that stops gives no number. -/
theorem givesReal_failHere (cause : Cause) : GivesReal (failHere cause) := nofun

/-- A reader that stops gives no number. -/
theorem givesReal_failNext (cause : Cause) : GivesReal (failNext cause) := nofun

/-- A number with an exponent is real. -/
theorem givesReal_exponent (minus : Bool) (significand : Nat) (place : Int) :
    GivesReal (exponent minus significand place) := by
  have hdigits : ∀ down, GivesReal (do
      match ← get with
      | [] => failHere .endInValue
      | d :: rest =>
        set rest
        if isDigit d then
          fun rest => exponentDigits minus significand place down (d.toNat - 0x30) rest
        else failHere .badNumber) := by
    intro down
    refine givesReal_bind fun start => ?_
    cases start with
    | nil => exact givesReal_failHere _
    | cons d rest =>
      refine givesReal_bind fun _ => ?_
      split
      · exact givesReal_exponentDigits _ _ _ _ _
      · exact givesReal_failHere _
  refine givesReal_bind fun _ => givesReal_bind fun start => ?_
  dsimp only
  split
  · exact givesReal_bind fun _ => hdigits _
  · exact hdigits _

/-- A number that may have an exponent behind a fraction is real. -/
theorem givesReal_scaledReal (minus : Bool) (significand : Nat) (place : Int) :
    GivesReal (scaledReal minus significand place) := by
  refine givesReal_bind fun text => ?_
  cases text with
  | nil => exact givesReal_real _ _ _
  | cons b text =>
    dsimp only
    split
    · exact givesReal_exponent _ _ _
    · exact givesReal_real _ _ _

/-- A number with a fraction is real. -/
theorem givesReal_fraction (minus : Bool) (significand : Nat) (place : Int) :
    GivesReal (fraction minus significand place) := by
  refine givesReal_bind fun _ => givesReal_bind fun rest => ?_
  dsimp only
  split
  · exact givesReal_failNext _
  · exact givesReal_failNext _
  · exact givesReal_bind fun _ => givesReal_scaledReal _ _ _

/-- Only without sign, fraction and exponent is a number read that has 64 bits. -/
theorem natural_of_afterInteger {minus : Bool} {significand place n : Nat}
    {text rest : List UInt8}
    (h : Reads (afterInteger minus significand place) text (.natural n) rest) :
    minus = false ∧ rest = text ∧ (text.head? == some (code '.')) = false ∧
      atExponent text = false := by
  have hwhole : ∀ text, Reads (afterInteger.whole minus significand place) text (.natural n) rest →
      minus = false ∧ rest = text := by
    intro text h
    rw [afterInteger.whole] at h
    by_cases hplace : place ≠ 0
    · rw [if_pos hplace] at h
      exact absurd h (givesReal_real _ _ _ _ _ _)
    · rw [if_neg hplace] at h
      cases minus with
      | false => exact ⟨rfl, ((reads_pure (Number.natural significand) text).unique h).2.symm⟩
      | true =>
        rw [if_neg (not_not_intro rfl)] at h
        split at h
        · exact absurd h (givesReal_real _ _ _ _ _ _)
        · cases h
  obtain ⟨_, middle, hget, hread⟩ := h.exists_of_bind
  obtain ⟨rfl, rfl⟩ := hget.unique (reads_get text)
  cases middle with
  | nil =>
    obtain ⟨hminus, hrest⟩ := hwhole [] hread
    exact ⟨hminus, hrest, rfl, rfl⟩
  | cons b tail =>
    by_cases hpoint : (b == code '.') = true
    · simp only [if_pos hpoint] at hread
      exact absurd hread (givesReal_fraction _ _ _ _ _ _)
    · simp only [if_neg hpoint] at hread
      by_cases hexponent : (b == code 'e' || b == code 'E') = true
      · rw [if_pos hexponent] at hread
        exact absurd hread (givesReal_exponent _ _ _ _ _ _)
      · rw [if_neg hexponent] at hread
        obtain ⟨hminus, hrest⟩ := hwhole _ hread
        exact ⟨hminus, hrest, eq_false_of_ne_true hpoint, eq_false_of_ne_true hexponent⟩

/-- Digits taken are digits dropped. -/
theorem drop_length_takeWhile (p : UInt8 → Bool) (bytes : List UInt8) :
    bytes.drop (bytes.takeWhile p).length = bytes.dropWhile p := by
  have hsplit := List.takeWhile_append_dropWhile (p := p) (l := bytes)
  calc bytes.drop (bytes.takeWhile p).length
      = (bytes.takeWhile p ++ bytes.dropWhile p).drop (bytes.takeWhile p).length := by rw [hsplit]
    _ = bytes.dropWhile p := List.drop_left

/-- Digits without fraction and exponent behind them are passed over. -/
theorem reads_skipNumber_of_head {d : UInt8} {tail rest : List UInt8} (hdigit : isDigit d = true)
    (hrest : rest = if d = code '0' then tail else tail.dropWhile isDigit)
    (hzero : (decide (d = code '0') && rest.head?.any isDigit) = false)
    (hpoint : (rest.head? == some (code '.')) = false) (hexponent : atExponent rest = false) :
    Reads skipNumber (d :: tail) () rest := by
  refine (reads_get _).bind ?_
  simp only [hdigit, not_true, if_false]
  rw [← hrest]
  refine (reads_set _ _).bind ((reads_get _).bind ?_)
  simp only [hzero, hpoint, hexponent, Bool.false_eq_true, if_false]
  exact reads_pure () rest

/-- Where a number without sign is read, passing over stops at the same place. -/
theorem reads_skipNumber_of_reads_number {minus : Bool} {n : Nat} {text rest : List UInt8}
    (h : Reads (number minus) text (.natural n) rest) :
    minus = false ∧ Reads skipNumber text () rest := by
  obtain ⟨_, middle, hget, hread⟩ := h.exists_of_bind
  obtain ⟨rfl, rfl⟩ := hget.unique (reads_get text)
  cases middle with
  | nil => cases hread
  | cons d tail =>
    by_cases hdigit : isDigit d = true
    · simp only [hdigit, not_true, if_false] at hread
      by_cases hzero : d = code '0'
      · rw [if_pos hzero] at hread
        obtain ⟨_, middle, hset, hread⟩ := hread.exists_of_bind
        obtain ⟨-, rfl⟩ := hset.unique (reads_set tail _)
        by_cases hany : middle.head?.any isDigit = true
        · rw [if_pos hany] at hread
          cases hread
        · rw [if_neg hany] at hread
          obtain ⟨hminus, rfl, hpoint, hexponent⟩ := natural_of_afterInteger hread
          have hnone := eq_false_of_ne_true hany
          exact ⟨hminus, reads_skipNumber_of_head hdigit (if_pos hzero).symm
            (by rw [hnone, Bool.and_false]) hpoint hexponent⟩
      · rw [if_neg hzero] at hread
        obtain ⟨_, middle, hset, hread⟩ := hread.exists_of_bind
        obtain ⟨-, hmiddle⟩ := hset.unique (reads_set _ _)
        rw [drop_length_takeWhile, List.dropWhile_cons, if_pos hdigit] at hmiddle
        obtain ⟨hminus, rfl, hpoint, hexponent⟩ := natural_of_afterInteger hread
        exact ⟨hminus, reads_skipNumber_of_head hdigit (hmiddle.trans (if_neg hzero).symm)
          (by rw [decide_eq_false hzero, Bool.false_and]) hpoint hexponent⟩
    · simp only [if_pos hdigit] at hread
      cases hread

end DispatchScan.Json.Reader
