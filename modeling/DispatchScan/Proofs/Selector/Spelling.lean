import DispatchScan.Proofs.Hex.Refusal
import DispatchScan.Proofs.Selector

/-!
# The spellings of a selector

A selector is spelled by its eight digits in either case, behind at most one mark. Main statement:
these spellings are read as the selector and nothing else is; every other text is refused for the
fault of the bytes that are left of it without a mark.
-/

namespace DispatchScan.Selector

/-- Four bytes are those of the selector made of them. -/
theorem bytes_ofBytes {bytes : List UInt8} (h : bytes.length = 4) :
    (ofBytes bytes).bytes = bytes := by
  match bytes, h with
  | [_, _, _, _], _ => rfl

/-- The selector of a selector's bytes. -/
theorem ofBytes_bytes (x : Selector) : ofBytes x.bytes = x := rfl

/-- A text is a spelling of a selector when it is its digits in either case. -/
theorem sameLetters_text_iff {x : Selector} {cs : List Char} :
    Text.SameLetters cs (Hex.digits x.bytes) ↔ cs.map Char.toLower = x.text.toList := by
  rw [Hex.sameLetters_digits_iff, text, Hex.encode, String.toList_ofList]

/-- What is read as a selector leaves, without a mark, its digits in either case. -/
theorem parse_eq_ok_iff {text : String} {x : Selector} :
    parse text = .ok x ↔ (Hex.dropMark text.toList).map Char.toLower = x.text.toList := by
  rw [parse, Hex.withoutMark, map_eq_ok_iff, ← sameLetters_text_iff]
  constructor
  · rintro ⟨bytes, hread, rfl⟩
    obtain ⟨hlength, hsame⟩ := Hex.readExactly_eq_ok_iff.mp hread
    rw [bytes_ofBytes hlength]
    exact hsame
  · intro hsame
    exact ⟨x.bytes, Hex.readExactly_eq_ok_iff.mpr ⟨rfl, hsame⟩, ofBytes_bytes x⟩

/-- A text is refused for the fault of what it leaves without a mark. -/
theorem parse_eq_error_iff {text : String} {error : Hex.ReadError} :
    parse text = .error error ↔
      Hex.HasReadFault 4 (Text.utf8 (String.ofList (Hex.dropMark text.toList))) error := by
  rw [parse, Hex.withoutMark, map_eq_error_iff, Hex.readExactly_eq_error_iff]

/-- Text with the digits of a selector has eight characters, all of them digits. -/
theorem length_and_mem_anyDigits {x : Selector} {cs : List Char}
    (h : cs.map Char.toLower = x.text.toList) :
    cs.length = 8 ∧ ∀ c ∈ cs, c ∈ Hex.anyDigits := by
  have hlength := congrArg List.length h
  rw [List.length_map, String.length_toList, length_text] at hlength
  have hdigits := Hex.isDigit_of_sameLetters (sameLetters_text_iff.mpr h)
  exact ⟨hlength, fun c hc => (Hex.isDigit_iff_mem_anyDigits c).mp (hdigits c hc)⟩

/-- The digits of a selector in either case carry no mark of their own, so any mark may be put in
front of them. -/
theorem parse_mark_append {x : Selector} {mark spelling : List Char} (hmark : mark ∈ Hex.marks)
    (h : spelling.map Char.toLower = x.text.toList) :
    parse (String.ofList (mark ++ spelling)) = .ok x := by
  have hdigits := Hex.isDigit_of_sameLetters (sameLetters_text_iff.mpr h)
  have hdrop : Hex.dropMark (mark ++ spelling) = spelling :=
    Hex.dropMark_append hmark fun _ => Hex.unmarked_of_isDigit hdigits
  rw [parse_eq_ok_iff, String.toList_ofList, hdrop, h]

/-- A text is read as a selector exactly when at most one mark leaves eight digits of it that are,
in lowercase, the selector's text; so this text is read back behind any mark and in any case. Every
other text is refused, judged by the bytes of what a mark leaves: for an odd number of them, else
for another number than eight, else for the first that is no digit. -/
theorem parse_accepts_digits :
    (∀ text (x : Selector), parse text = .ok x ↔ ∃ spelling, Hex.Leaves text.toList spelling ∧
      spelling.length = 8 ∧ (∀ c ∈ spelling, c ∈ Hex.anyDigits) ∧
        spelling.map Char.toLower = x.text.toList) ∧
    (∀ x : Selector, ∀ mark ∈ Hex.marks, ∀ spelling, spelling.map Char.toLower = x.text.toList →
      parse (String.ofList (mark ++ spelling)) = .ok x) ∧
    ∀ text error, parse text = .error error ↔ ∃ rest, Hex.Leaves text.toList rest ∧
      Hex.HasReadFault 4 (Text.utf8 (String.ofList rest)) error := by
  refine ⟨fun text x => ?_, fun x mark hmark spelling => parse_mark_append hmark,
    fun text error => ?_⟩
  · rw [parse_eq_ok_iff]
    constructor
    · intro h
      obtain ⟨hlength, hdigits⟩ := length_and_mem_anyDigits h
      exact ⟨_, Hex.leaves_dropMark text.toList, hlength, hdigits, h⟩
    · rintro ⟨spelling, hleaves, -, -, h⟩
      rwa [Hex.leaves_iff.mp hleaves]
  · rw [parse_eq_error_iff]
    constructor
    · exact fun h => ⟨_, Hex.leaves_dropMark text.toList, h⟩
    · rintro ⟨rest, hleaves, h⟩
      rwa [Hex.leaves_iff.mp hleaves]

/-- A mark takes two of eight characters, and six digits are too few. -/
example : parse "0Xa9059c" = .error .wrongLength := by decide

/-- A character of two bytes is found by its first one, at the place of this byte. -/
example : parse "a905\u00e9bb" = .error (.badDigit '\u00c3' 4) := by decide

end DispatchScan.Selector
