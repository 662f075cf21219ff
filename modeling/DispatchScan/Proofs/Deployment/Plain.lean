import DispatchScan.Deployment
import DispatchScan.Proofs.Hex.Spelling

/-!
# The plain form of fetched code

What a source gives is trimmed and loses one mark, where bytecode from users loses its white space
everywhere. The plain form of a reply depends on its body only, up to case, and it is the normal
form of the reply exactly when no white space stands inside.
-/

namespace DispatchScan.Deployment

/-- Whether a reply is the given body in white space and behind at most one mark. The body has no
white space at its ends and starts with no mark. -/
def Frames (reply : String) (body : List Char) : Prop :=
  ∃ before mark after, reply.toList = before ++ (mark ++ body) ++ after ∧ Text.AllBlank before ∧
    mark ∈ Hex.marks ∧ Text.AllBlank after ∧ Text.Bounded body ∧ Hex.Unmarked body

/-- The plain form of a reply is its body in lowercase. -/
theorem plain_of_frames {reply : String} {body : List Char} (h : Frames reply body) :
    plain reply = String.ofList (body.map Char.toLower) := by
  obtain ⟨before, mark, after, hreply, hbefore, hmark, hafter, hbody, hunmarked⟩ := h
  have hbounded := (Hex.noBlank_of_mem_marks mark hmark).bounded.append hbody
  rw [plain, hreply, Text.trimBlanks_append hbefore hbounded hafter,
    Hex.dropMark_append hmark fun _ => hunmarked]

/-- Replies whose bodies differ in case only have one plain form. -/
theorem plain_eq_of_sameLetters {reply other : String} {body otherBody : List Char}
    (hreply : Frames reply body) (hother : Frames other otherBody)
    (hsame : Text.SameLetters body otherBody) : plain other = plain reply := by
  rw [plain_of_frames hreply, plain_of_frames hother, hsame]

/-- A body that spells bytes becomes their text. -/
theorem plain_of_sameLetters_digits {reply : String} {body : List Char} {bytes : List UInt8}
    (hreply : Frames reply body) (hsame : Text.SameLetters body (Hex.digits bytes)) :
    plain reply = Hex.encode bytes := by
  rw [plain_of_frames hreply, Hex.sameLetters_digits_iff.mp hsame, Hex.encode]

/-- The digits of bytes may stand as a body. -/
theorem frames_digits {mark : List Char} (hmark : mark ∈ Hex.marks) (bytes : List UInt8) :
    Frames (String.ofList (mark ++ Hex.digits bytes)) (Hex.digits bytes) := by
  have hunmarked := Hex.unmarked_of_isDigit (Hex.isDigit_of_sameLetters (rfl :
    Text.SameLetters (Hex.digits bytes) (Hex.digits bytes)))
  refine ⟨[], mark, [], ?_, nofun, hmark, nofun, (Hex.noBlank_digits bytes).bounded, hunmarked⟩
  rw [String.toList_ofList, List.nil_append, List.append_nil]

/-- The plain form of accepted code is its normal form exactly when white space stands around it
only. -/
theorem plain_eq_normal_iff {code normal : String} (h : Hex.normalize code = .ok normal) :
    plain code = normal ↔ Text.BlankOnlyAround code.toList := by
  obtain ⟨bytes, rfl, hspells⟩ := Hex.exists_spells_of_normalize h
  have hdigits := Hex.spells_iff.mp hspells
  rw [Hex.significant] at hdigits
  constructor
  · intro hplain
    rw [plain, Hex.encode, String.ofList_inj] at hplain
    rw [← Text.noBlank_trimBlanks_iff]
    obtain ⟨mark, hmark, hsplit, -⟩ := Hex.leaves_dropMark (Text.trimBlanks code.toList)
    intro c hc
    rw [hsplit] at hc
    rcases List.mem_append.mp hc with hc | hc
    · exact Hex.noBlank_of_mem_marks mark hmark c hc
    · have hlower : c.toLower ∈ Hex.digits bytes := by
        rw [← hplain]
        exact List.mem_map_of_mem hc
      rw [← Text.isBlank_toLower]
      exact Hex.noBlank_digits bytes _ hlower
  · intro haround
    rw [plain, haround.trimBlanks_eq, hdigits, Hex.encode]

end DispatchScan.Deployment
