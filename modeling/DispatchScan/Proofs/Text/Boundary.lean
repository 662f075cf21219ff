import DispatchScan.Proofs.Text.Ascii
import DispatchScan.Text.Position

/-!
# Boundaries beside ASCII bytes

A longer character is written in bytes above 0x7f only, so a byte below 0x80 is a character of its
own wherever it stands. Main statement: a text can be cut in front of such a byte and behind it.
-/

namespace DispatchScan.Text

/-- A text can be cut between two parts that it is joined from. -/
theorem isValid_append (front back : String) :
    String.Pos.Raw.IsValid (front ++ back) ⟨(utf8 front).length⟩ := by
  have hend : (⟨(utf8 front).length⟩ : String.Pos.Raw) = front.rawEndPos := by
    rw [length_utf8]
    rfl
  exact String.Pos.Raw.isValid_iff_exists_append.mpr ⟨front, back, rfl, hend⟩

/-- A byte below 0x80 is all that is written for some character. -/
theorem exists_split_of_ascii_byte {cs : List Char} {position : Nat} {b : UInt8}
    (hbyte : (cs.flatMap String.utf8EncodeChar)[position]? = some b) (hb : b.toNat < 0x80) :
    ∃ front c back, cs = front ++ c :: back ∧
      (front.flatMap String.utf8EncodeChar).length = position ∧ String.utf8EncodeChar c = [b] := by
  induction cs generalizing position with
  | nil => exact absurd hbyte nofun
  | cons c cs ih =>
    rw [List.flatMap_cons] at hbyte
    by_cases hinside : position < (String.utf8EncodeChar c).length
    · -- The byte is one of the first character, which is ASCII then and has no other byte.
      rw [List.getElem?_append_left hinside] at hbyte
      have hmem : b ∈ String.utf8EncodeChar c := List.mem_of_getElem? hbyte
      have hc : c.toNat < 0x80 := Decidable.byContradiction fun hlarge => by
        have hle := le_of_mem_utf8EncodeChar hlarge b hmem
        omega
      have hone := utf8EncodeChar_of_lt hc
      rw [hone, List.mem_singleton] at hmem
      rw [hone, List.length_singleton] at hinside
      refine ⟨[], c, cs, rfl, ?_, by rw [hone, hmem]⟩
      rw [List.flatMap_nil, List.length_nil]
      omega
    · rw [List.getElem?_append_right (by omega)] at hbyte
      obtain ⟨front, d, back, rfl, hlength, hd⟩ := ih hbyte
      refine ⟨c :: front, d, back, rfl, ?_, hd⟩
      rw [List.flatMap_cons, List.length_append, hlength]
      omega

/-- A text can be cut in front of a byte below 0x80 and behind it. -/
theorem isValid_of_ascii_byte {s : String} {position : Nat} {b : UInt8}
    (hbyte : (utf8 s)[position]? = some b) (hb : b.toNat < 0x80) :
    String.Pos.Raw.IsValid s ⟨position⟩ ∧ String.Pos.Raw.IsValid s ⟨position + 1⟩ := by
  obtain ⟨front, c, back, hchars, hlength, hc⟩ := exists_split_of_ascii_byte hbyte hb
  have hs : s = String.ofList front ++ (String.ofList [c] ++ String.ofList back) := by
    rw [← String.ofList_append, ← String.ofList_append, List.singleton_append, ← hchars,
      String.ofList_toList]
  have hfront : (utf8 (String.ofList front)).length = position := by
    rw [utf8, String.toList_ofList, hlength]
  have hone : (utf8 (String.ofList [c])).length = 1 := by
    rw [utf8, String.toList_ofList, List.flatMap_singleton, hc, List.length_singleton]
  constructor
  · have hvalid := isValid_append (String.ofList front) (String.ofList [c] ++ String.ofList back)
    rwa [← hs, hfront] at hvalid
  · have hvalid := isValid_append (String.ofList front ++ String.ofList [c]) (String.ofList back)
    rwa [String.append_assoc, ← hs, utf8_append, List.length_append, hfront, hone] at hvalid

end DispatchScan.Text
