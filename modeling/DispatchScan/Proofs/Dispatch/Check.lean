import DispatchScan.Proofs.Assessment
import DispatchScan.Proofs.Dispatch.Branch
import DispatchScan.Proofs.Dispatch.Occurrence
import Mathlib.Data.List.Infix

/-!
# Scanning for encoded checks

Checks are written by one definition and looked for by another. On plain text the two agree: the
offsets with a check are those behind which the text goes on with an encoded check, since the
skipped digits of the destination spell some destination. Main statement: bytecode satisfies an ABI
exactly when it holds an encoded check for each function, and by default one that no earlier probe
precedes.
-/

namespace DispatchScan.Dispatch

/-- A text is a front, an encoded check for the selector with some destination, and a back. -/
def HoldsCheck (text : String) (selector : Selector) (front : String) : Prop :=
  ∃ destination check back, 1 ≤ destination.length ∧ destination.length ≤ 32 ∧
    check? selector destination = some check ∧ text = front ++ check ++ back

/-- The bytes of an encoded check: the probe and a branch with the destination's digits. -/
theorem utf8_check? (selector : Selector) {destination : List UInt8}
    (hlow : 1 ≤ destination.length) (hhigh : destination.length ≤ 32) :
    ∃ check, check? selector destination = some check ∧
      Text.utf8 check = Text.utf8 (probe selector) ++ (pushText destination.length
        ++ (Text.utf8 (Hex.encode destination) ++ jumpiText)) := by
  have hsize : ¬(destination.isEmpty = true ∨ 32 < destination.length) := by
    rw [List.isEmpty_iff_length_eq_zero]
    omega
  refine ⟨_, by rw [check?, if_neg hsize], ?_⟩
  rw [Hex.utf8_encode_append, Hex.utf8_encode_append, Hex.utf8_encode_append, List.append_assoc,
    List.append_assoc, probe, pushText, jumpiText]

/-- Behind the front stand the probe and a tail with a branch. -/
theorem HoldsCheck.exists_tail {text front : String} {selector : Selector}
    (h : HoldsCheck text selector front) :
    ∃ tail, Text.utf8 text = Text.utf8 front ++ Text.utf8 (probe selector) ++ tail ∧
      branches tail = true := by
  obtain ⟨destination, check, back, hlow, hhigh, hcheck, rfl⟩ := h
  obtain ⟨check', hcheck', hbytes⟩ := utf8_check? selector hlow hhigh
  obtain rfl := Option.some.inj (hcheck.symm.trans hcheck')
  refine ⟨pushText destination.length
    ++ (Text.utf8 (Hex.encode destination) ++ (jumpiText ++ Text.utf8 back)), ?_, ?_⟩
  · rw [Text.utf8_append, Text.utf8_append, hbytes]
    simp only [List.append_assoc]
  · exact branches_eq_true_iff.mpr
      ⟨_, _, _, hlow, hhigh, Hex.length_utf8_encode destination, rfl⟩

/-- An encoded check is found at the offset where it starts. -/
theorem HoldsCheck.checkAt {text front : String} {selector : Selector}
    (h : HoldsCheck text selector front) :
    CheckAt (Text.utf8 (probe selector)) (Text.utf8 text) (Text.utf8 front).length := by
  obtain ⟨tail, htext, hbranches⟩ := h.exists_tail
  rw [List.append_assoc] at htext
  constructor
  · rw [ProbeAt, htext, List.drop_left]
    exact List.prefix_append _ _
  · rwa [htext, List.drop_length_add_append, List.drop_left]

/-- In plain text each offset with a check has an encoded check: what stands between `PUSHn` and
`JUMPI` are the digits of some destination. -/
theorem CheckAt.exists_holdsCheck {text : String} (hplain : Hex.IsPlain text) {selector : Selector}
    {offset : Nat} (h : CheckAt (Text.utf8 (probe selector)) (Text.utf8 text) offset) :
    ∃ front, (Text.utf8 front).length = offset ∧ HoldsCheck text selector front := by
  obtain ⟨⟨tail, htail⟩, hbranches⟩ := h
  rw [← List.drop_drop, ← htail, List.drop_left] at hbranches
  obtain ⟨width, middle, back, hlow, hhigh, hmiddle, hsplit⟩ := branches_eq_true_iff.mp hbranches
  have htext : Text.utf8 text = (Text.utf8 text).take offset ++ (Text.utf8 (probe selector)
      ++ (pushText width ++ (middle ++ (jumpiText ++ back)))) := by
    rw [← hsplit, htail, List.take_append_drop]
  have hoffset : ((Text.utf8 text).take offset).length = offset := by
    have hlength := congrArg List.length htail
    rw [List.length_append, length_utf8_probe, List.length_drop] at hlength
    rw [List.length_take]
    omega
  obtain ⟨front, hfront⟩ := hplain.exists_utf8_eq fun b hb => List.mem_of_mem_take hb
  have hback : ∀ b ∈ back, b ∈ Text.utf8 text := by
    intro b hb
    rw [htext]
    simp only [List.mem_append, hb, or_true]
  obtain ⟨rest, hrest⟩ := hplain.exists_utf8_eq hback
  obtain ⟨destination, hdestination, hdigits⟩ := Hex.exists_utf8_encode_eq hmiddle fun b hb =>
    hplain.mem_utf8 b (by
      rw [htext]
      simp only [List.mem_append, hb, true_or, or_true])
  subst hdestination
  obtain ⟨check, hcheck, hbytes⟩ := utf8_check? selector hlow hhigh
  refine ⟨front, by rw [hfront, hoffset], destination, check, rest, hlow, hhigh, hcheck, ?_⟩
  apply Text.utf8_injective
  rw [htext, Text.utf8_append, Text.utf8_append, hfront, hbytes, hdigits, hrest]
  simp only [List.append_assoc]

/-- A part starts before the end of a front exactly when it lies within the front and all but the
last element of the copy behind it. -/
theorem exists_prefix_drop_iff {α : Type} {part : List α} (hpart : part ≠ [])
    (front back : List α) :
    (∃ i < front.length, part <+: (front ++ part ++ back).drop i) ↔
      part <:+: front ++ part.take (part.length - 1) := by
  have hpositive := List.length_pos_iff.mpr hpart
  have hwhole : front ++ part.take (part.length - 1) <+: front ++ part ++ back := by
    rw [List.append_assoc, List.prefix_append_right_inj]
    exact (List.take_prefix _ _).trans (List.prefix_append _ _)
  constructor
  · rintro ⟨i, hi, hprefix⟩
    have hlength : part.length ≤ ((front ++ part.take (part.length - 1)).drop i).length := by
      rw [List.length_drop, List.length_append, List.length_take]
      omega
    have hshort := List.prefix_of_prefix_length_le hprefix (hwhole.drop i) hlength
    exact hshort.isInfix.trans (List.drop_suffix i _).isInfix
  · rintro ⟨before, after, hsplit⟩
    have hlength := congrArg List.length hsplit
    rw [List.length_append, List.length_append, List.length_append, List.length_take] at hlength
    refine ⟨before.length, by omega, ?_⟩
    have hprefix : part <+: (front ++ part.take (part.length - 1)).drop before.length := by
      rw [← hsplit, List.append_assoc, List.drop_left]
      exact List.prefix_append _ _
    exact hprefix.trans (hwhole.drop before.length)

/-- A front after which a probe is the first one in the text: it does not even hold the probe
together with all but the last of the probe's digits behind it. -/
def FirstAfter (selector : Selector) (front : String) : Prop :=
  ¬(probe selector).toList <:+: front.toList ++ (probe selector).toList.take 11

/-- Behind such a front no earlier offset of plain text has the probe, and conversely. -/
theorem HoldsCheck.firstAfter_iff {text front : String} {selector : Selector}
    (hplain : Hex.IsPlain text) (h : HoldsCheck text selector front) :
    FirstAfter selector front ↔ ∀ earlier < (Text.utf8 front).length,
      ¬ProbeAt (Text.utf8 (probe selector)) (Text.utf8 text) earlier := by
  obtain ⟨tail, htext, -⟩ := h.exists_tail
  obtain ⟨destination, check, back, -, -, -, rfl⟩ := h
  have hprobe : Text.IsAscii (probe selector) := (Hex.isPlain_encode _).isAscii
  have hfront : Text.IsAscii front := fun c hc => hplain.isAscii c (by
    rw [String.toList_append, String.toList_append, List.append_assoc]
    exact List.mem_append_left _ hc)
  have hchars : ∀ c ∈ front.toList ++ (probe selector).toList.take 11, c.toNat < 0x80 := by
    intro c hc
    rcases List.mem_append.mp hc with hc | hc
    · exact hfront c hc
    · exact hprobe c (List.mem_of_mem_take hc)
  have hbytes := Text.map_asciiByte_infix_iff hprobe hchars
  rw [List.map_append, List.map_take, ← hprobe.utf8_eq, ← hfront.utf8_eq] at hbytes
  have hearlier := exists_prefix_drop_iff (utf8_probe_ne_nil selector) (Text.utf8 front) tail
  rw [length_utf8_probe] at hearlier
  rw [FirstAfter, ← hbytes, ← hearlier, htext]
  simp only [ProbeAt, not_exists, not_and]

/-- A selector occurs in plain text exactly when the text holds an encoded check for it, by default
one that no earlier probe precedes. -/
theorem occurs_iff_exists_holdsCheck {text : String} (hplain : Hex.IsPlain text)
    (selector : Selector) (strategy : Strategy) :
    occurs text selector strategy = true ↔
      ∃ front, HoldsCheck text selector front ∧
        (strategy = .firstOccurrence → FirstAfter selector front) := by
  rw [occurs_eq_true_iff]
  constructor
  · rintro ⟨offset, hcheck, hfirst⟩
    obtain ⟨front, rfl, hholds⟩ := hcheck.exists_holdsCheck hplain
    exact ⟨front, hholds, fun hs => (hholds.firstAfter_iff hplain).mpr (hfirst hs)⟩
  · rintro ⟨front, hholds, hfirst⟩
    exact ⟨_, hholds.checkAt, fun hs => (hholds.firstAfter_iff hplain).mp (hfirst hs)⟩

end DispatchScan.Dispatch

/-- The function `transfer(address,uint256)` of a token. -/
def DispatchScan.Declaration.transfer : DispatchScan.Declaration :=
  ⟨"transfer", [⟨"address", none⟩, ⟨"uint256", none⟩], by decide⟩

/-- The selector that dispatchers compare for a transfer. -/
theorem DispatchScan.Declaration.selector_transfer :
    DispatchScan.Declaration.transfer.selector = ⟨0xa9, 0x05, 0x9c, 0xbb⟩ := by
  decide +kernel

namespace DispatchScan.Assessment

open Dispatch

/-- Plain bytecode satisfies an ABI exactly when it holds an encoded check for each function, by
default one that no earlier probe precedes. In every other case the verdict is negative. -/
theorem satisfies_iff_holdsCheck {bytecode : String} (hne : bytecode ≠ "")
    (hplain : Hex.IsPlain bytecode) (abi : Abi) :
    (satisfies bytecode abi .allOccurrences = .ok true ↔
      ∀ d ∈ abi.functions, ∃ front, HoldsCheck bytecode d.selector front) ∧
    (satisfies bytecode abi .firstOccurrence = .ok true ↔
      ∀ d ∈ abi.functions, ∃ front, HoldsCheck bytecode d.selector front ∧
        FirstAfter d.selector front) ∧
    ∀ strategy, satisfies bytecode abi strategy ≠ .ok true →
      satisfies bytecode abi strategy = .ok false := by
  refine ⟨?_, ?_, fun strategy hverdict => satisfies_eq_ok_false_of_ne hne hverdict⟩
  · rw [satisfies_eq_ok_true_iff hne]
    refine forall₂_congr fun d _ => ?_
    rw [occurs_iff_exists_holdsCheck hplain]
    simp only [reduceCtorEq, false_implies, and_true]
  · rw [satisfies_eq_ok_true_iff hne]
    refine forall₂_congr fun d _ => ?_
    rw [occurs_iff_exists_holdsCheck hplain]
    simp only [forall_const]

/-- A check is found behind a comparison of the same selector that leads to no branch. -/
theorem satisfies_iff_holdsCheck_behind_comparison :
    "63a9059cbb141563a9059cbb14604557" ≠ "" ∧
      Hex.IsPlain "63a9059cbb141563a9059cbb14604557" ∧
      satisfies "63a9059cbb141563a9059cbb14604557" (.singleton .transfer) .allOccurrences
        = .ok true := by
  have hne : "63a9059cbb141563a9059cbb14604557" ≠ "" := by decide
  have hplain : Hex.IsPlain "63a9059cbb141563a9059cbb14604557" := by decide
  refine ⟨hne, hplain, (satisfies_iff_holdsCheck hne hplain _).1.mpr fun d hd => ?_⟩
  obtain rfl := List.mem_singleton.mp hd
  have hcheck : check? Declaration.transfer.selector [0x45] = some "63a9059cbb14604557" := by
    rw [Declaration.selector_transfer]
    decide +kernel
  exact ⟨"63a9059cbb1415", [0x45], _, "", by decide, by decide, hcheck, by decide⟩

end DispatchScan.Assessment
