import DispatchScan.Proofs.Hex.Spelling
import DispatchScan.Selector

/-!
# The text of a selector

A selector is written as eight lowercase digits, and reading these gives the selector back.
-/

namespace DispatchScan

namespace Hex

/-- Encoded bytes carry no mark. -/
theorem withoutMark_encode (bytes : List UInt8) : withoutMark (encode bytes) = encode bytes := by
  have hdigits : ∀ c ∈ digits bytes, isDigit c = true := isDigit_of_sameLetters rfl
  have hdrop : dropMark ([] ++ digits bytes) = digits bytes :=
    dropMark_append (by decide) fun _ => unmarked_of_isDigit hdigits
  rw [withoutMark, encode, String.toList_ofList, ← List.nil_append (digits bytes), hdrop,
    List.nil_append]

end Hex

namespace Selector

/-- The text of a selector is in lowercase digits. -/
theorem isPlain_text (s : Selector) : Hex.IsPlain s.text :=
  Hex.isPlain_encode s.bytes

/-- The text of a selector has eight digits. -/
theorem length_text (s : Selector) : s.text.length = 8 := by
  rw [text, Hex.encode, String.length_ofList, Hex.length_digits]
  rfl

/-- The text of a selector is read as this selector. -/
theorem parse_text (s : Selector) : parse s.text = .ok s := by
  have hread : Hex.readExactly 4 (Text.utf8 (Hex.encode s.bytes)) = .ok s.bytes :=
    Hex.readExactly_utf8_encode s.bytes
  rw [parse, text, Hex.withoutMark_encode, hread]
  rfl

end Selector

end DispatchScan
