import DispatchScan.Proofs.Hex.Reading

/-!
# What the strict reader refuses

The strict reader looks at the number of bytes of a text before it looks at any of them. Main
statement: it refuses a text for an odd number of bytes, else for another number than wanted, else
for the first byte that is the code of no digit, and for nothing else.
-/

namespace DispatchScan.Hex

/-- Whether a byte is the code of a digit in either case. -/
def IsCode (code : UInt8) : Prop := Char.ofNat code.toNat ∈ anyDigits

/-- Codes of digits are those that have a value. -/
theorem isCode_iff {code : UInt8} : IsCode code ↔ ∃ value, HasValue code value := by
  have hvalid : code.toNat.isValidChar := by
    have hlt := code.toNat_lt
    exact Or.inl (by omega)
  have hnat : (Char.ofNat code.toNat).toNat = code.toNat := by
    rw [Char.ofNat, dif_pos hvalid]
    rfl
  rw [IsCode, ← isDigit_iff_mem_anyDigits, isDigit, hnat, Option.isSome_iff_exists]
  rfl

/-- Why the bytes of a text are not the digits of the wanted number of bytes. -/
inductive HasReadFault (size : Nat) (codes : List UInt8) : ReadError → Prop where
  /-- Their number is odd. -/
  | oddDigits : codes.length % 2 = 1 → HasReadFault size codes .oddDigits
  /-- Their number is even, but not the wanted one. -/
  | wrongLength : codes.length % 2 = 0 → codes.length ≠ 2 * size →
    HasReadFault size codes .wrongLength
  /-- There are as many as wanted, and behind digits stands a byte that is none. -/
  | badDigit {before after : List UInt8} {code : UInt8} : codes.length = 2 * size →
    codes = before ++ code :: after → (∀ digit ∈ before, IsCode digit) → ¬IsCode code →
    HasReadFault size codes (.badDigit (Char.ofNat code.toNat) before.length)

/-- A byte stands at its place behind digits and is none. -/
def IsFirstBad (position : Nat) (error : ReadError) (offset : Nat) (code : UInt8) : Prop :=
  ¬IsCode code ∧ error = .badDigit (Char.ofNat code.toNat) (position + offset)

/-- A place may be counted from one byte further on. -/
theorem isFirstBad_succ {position offset : Nat} {error : ReadError} {code : UInt8} :
    IsFirstBad position error (offset + 1) code ↔ IsFirstBad (position + 1) error offset code := by
  have hshift : position + (offset + 1) = position + 1 + offset := by omega
  rw [IsFirstBad, hshift, IsFirstBad]

/-- Some byte that is no digit stands behind digits. -/
def HasBadCode (position : Nat) (codes : List UInt8) (error : ReadError) : Prop :=
  ∃ before code after, codes = before ++ code :: after ∧ (∀ digit ∈ before, IsCode digit) ∧
    IsFirstBad position error before.length code

/-- Behind a digit the search goes on at the next place. -/
theorem hasBadCode_cons_of_isCode {position : Nat} {code : UInt8} (hcode : IsCode code)
    (codes : List UInt8) (error : ReadError) :
    HasBadCode position (code :: codes) error ↔ HasBadCode (position + 1) codes error := by
  have hnext := exists_first_cons_iff_of_good IsCode (IsFirstBad position error) hcode
    (fun hbad => hbad.1 hcode) codes
  rw [HasBadCode, hnext, HasBadCode]
  simp only [isFirstBad_succ]

/-- The search ends at a byte that is no digit. -/
theorem hasBadCode_cons_of_not_isCode {position : Nat} {code : UInt8} (hcode : ¬IsCode code)
    (codes : List UInt8) (error : ReadError) :
    HasBadCode position (code :: codes) error ↔
      error = .badDigit (Char.ofNat code.toNat) position := by
  have hfirst := exists_first_cons_iff_of_not_good IsCode (IsFirstBad position error) hcode codes
  rw [HasBadCode, hfirst, IsFirstBad, Nat.add_zero]
  exact ⟨And.right, fun h => ⟨hcode, h⟩⟩

/-- A byte without value is the code of no digit. -/
theorem not_isCode_of_none {code : UInt8} (h : digitValue? code.toNat = none) : ¬IsCode code := by
  intro hcode
  obtain ⟨value, hvalue⟩ := isCode_iff.mp hcode
  exact absurd (h.symm.trans hvalue) nofun

/-- A pair of codes is refused for its first byte that is no digit, and else for what follows. -/
theorem readPairs_cons_cons_eq_error_iff {position : Nat} {high low : UInt8} {rest : List UInt8}
    {error : ReadError}
    (hrest : readPairs (position + 2) rest = .error error ↔ HasBadCode (position + 2) rest error) :
    readPairs position (high :: low :: rest) = .error error ↔
      HasBadCode position (high :: low :: rest) error := by
  rw [readPairs]
  cases hhigh : digitValue? high.toNat with
  | none =>
    rw [hasBadCode_cons_of_not_isCode (not_isCode_of_none hhigh)]
    simp only [Except.error.injEq]
    exact eq_comm
  | some x =>
    rw [hasBadCode_cons_of_isCode (isCode_iff.mpr ⟨x, hhigh⟩)]
    cases hlow : digitValue? low.toNat with
    | none =>
      rw [hasBadCode_cons_of_not_isCode (not_isCode_of_none hlow)]
      simp only [Except.error.injEq]
      exact eq_comm
    | some y =>
      rw [hasBadCode_cons_of_isCode (isCode_iff.mpr ⟨y, hlow⟩), ← hrest]
      simp only
      cases readPairs (position + 2) rest with
      | error found => rfl
      | ok bytes => exact iff_of_false (fun h => by cases h) (fun h => by cases h)

/-- An even number of codes is refused for the first that is no digit. -/
theorem readPairs_eq_error_iff {position count : Nat} {codes : List UInt8} {error : ReadError}
    (hcount : codes.length = 2 * count) :
    readPairs position codes = .error error ↔ HasBadCode position codes error := by
  induction count generalizing position codes with
  | zero =>
    obtain rfl := List.length_eq_zero_iff.mp hcount
    refine iff_of_false nofun ?_
    rintro ⟨before, code, after, hsplit, -⟩
    exact List.append_ne_nil_of_right_ne_nil before (List.cons_ne_nil code after) hsplit.symm
  | succ count ih =>
    cases codes with
    | nil => cases hcount
    | cons high codes =>
      cases codes with
      | nil =>
        rw [List.length_singleton] at hcount
        omega
      | cons low rest =>
        rw [List.length_cons, List.length_cons] at hcount
        have hrest : rest.length = 2 * count := by omega
        exact readPairs_cons_cons_eq_error_iff (ih hrest)

/-- The strict reader refuses the bytes of a text for exactly their faults. -/
theorem readExactly_eq_error_iff {size : Nat} {codes : List UInt8} {error : ReadError} :
    readExactly size codes = .error error ↔ HasReadFault size codes error := by
  rw [readExactly]
  constructor
  · intro h
    split at h
    · rename_i hodd
      obtain rfl := Except.error.inj h
      exact .oddDigits hodd
    · rename_i heven
      split at h
      · rename_i hsize
        obtain rfl := Except.error.inj h
        exact .wrongLength (by omega) hsize
      · rename_i hsize
        have hlength := Decidable.not_not.mp hsize
        obtain ⟨before, code, after, hsplit, hbefore, hcode, rfl⟩ :=
          (readPairs_eq_error_iff hlength).mp h
        rw [Nat.zero_add]
        exact .badDigit hlength hsplit hbefore hcode
  · intro h
    cases h with
    | oddDigits hodd => rw [if_pos hodd]
    | wrongLength heven hsize => rw [if_neg (by omega), if_pos hsize]
    | badDigit hlength hsplit hbefore hcode =>
      rw [if_neg (by omega), if_neg (by omega), readPairs_eq_error_iff hlength]
      exact ⟨_, _, _, hsplit, hbefore, hcode, by rw [Nat.zero_add]⟩

end DispatchScan.Hex
