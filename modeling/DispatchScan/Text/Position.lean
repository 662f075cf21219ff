import DispatchScan.Text.Utf8

/-!
# Byte positions in a text

A position counts the bytes in front of it. A text can be cut at the boundaries of its characters, of
which its end is one, and nowhere else. Main statements: what a cut gives, and where the first
occurrence of a part stands.
-/

namespace DispatchScan.Text

/-- The bytes of a text from a position on; none when the position is no boundary of the text. -/
def bytesFrom? (s : String) (position : Nat) : Option (List UInt8) :=
  if String.Pos.Raw.isValid s ⟨position⟩ then some ((utf8 s).drop position) else none

/-- The number of bytes in front of the first occurrence of a part. -/
def find? (part bytes : List UInt8) : Option Nat :=
  (List.range (bytes.length + 1)).find? fun count => part.isPrefixOf (bytes.drop count)

/-- A text has as many bytes as its size says. -/
theorem length_utf8 (s : String) : (utf8 s).length = s.utf8ByteSize := by
  have hbytes : s.toByteArray = (utf8 s).toByteArray := String.utf8Encode_toList.symm
  rw [← String.size_toByteArray, hbytes, List.size_toByteArray]

/-- A text is cut exactly at its boundaries. -/
theorem bytesFrom?_eq_some_iff {s : String} {position : Nat} {rest : List UInt8} :
    bytesFrom? s position = some rest ↔
      String.Pos.Raw.IsValid s ⟨position⟩ ∧ (utf8 s).drop position = rest := by
  rw [bytesFrom?, Option.ite_none_right_eq_some, String.Pos.Raw.isValid_eq_true_iff,
    Option.some.injEq]

/-- No boundary is behind the end. -/
theorem le_length_of_bytesFrom? {s : String} {position : Nat} {rest : List UInt8}
    (h : bytesFrom? s position = some rest) : position ≤ (utf8 s).length := by
  have hle := (bytesFrom?_eq_some_iff.mp h).1.le_rawEndPos
  rw [length_utf8]
  exact hle

/-- The first occurrence is an occurrence, and none starts before it. -/
theorem find?_eq_some_iff {part bytes : List UInt8} {count : Nat} :
    find? part bytes = some count ↔
      count ≤ bytes.length ∧ part <+: bytes.drop count ∧
        ∀ earlier < count, ¬part <+: bytes.drop earlier := by
  simp only [find?, List.find?_range_eq_some, List.mem_range, Nat.lt_succ_iff,
    ← List.isPrefixOf_iff_prefix, Bool.not_eq_true', Bool.not_eq_true]
  exact and_left_comm

/-- Nothing is found exactly when the part occurs nowhere. -/
theorem find?_eq_none_iff {part bytes : List UInt8} :
    find? part bytes = none ↔ ∀ count, ¬part <+: bytes.drop count := by
  simp only [find?, List.find?_range_eq_none, Nat.lt_succ_iff, Bool.not_eq_true',
    ← Bool.not_eq_true, List.isPrefixOf_iff_prefix]
  constructor
  · intro h count hcount
    by_cases hle : count ≤ bytes.length
    · exact h count hle hcount
    · -- Behind the end there is as little as at the end.
      have hdrop : bytes.drop count = bytes.drop bytes.length := by
        rw [List.drop_length, List.drop_of_length_le (by omega)]
      rw [hdrop] at hcount
      exact h bytes.length (Nat.le_refl _) hcount
  · intro h count _
    exact h count

end DispatchScan.Text
