import DispatchScan.Proofs.Assessment
import DispatchScan.Proofs.Dispatch.Branch
import DispatchScan.Proofs.Dispatch.Occurrence
import Mathlib.Data.List.Infix

/-!
# Checks in longer texts

A check reaches only as far as its `JUMPI`, so it stays a check when text is put in front of it and
behind it. A seam may make new probes, but behind a text these start later than every probe inside.
Main statement: what a scan finds it still finds when text is appended, and when text is put in front
too, where by default no probe may start inside the front.
-/

namespace DispatchScan.Dispatch

section Bytes

variable {probe text : List UInt8} {offset : Nat}

/-- A branch needs no more than a front of what is behind the probe. -/
theorem branches_of_prefix {tail longer : List UInt8} (h : tail <+: longer)
    (hbranches : branches tail = true) : branches longer = true := by
  obtain ⟨more, rfl⟩ := h
  obtain ⟨width, middle, back, hlow, hhigh, hmiddle, rfl⟩ := branches_eq_true_iff.mp hbranches
  refine branches_eq_true_iff.mpr ⟨width, middle, back ++ more, hlow, hhigh, hmiddle, ?_⟩
  simp only [List.append_assoc]

/-- Behind a front the probes are those of the text, later by the length of the front. -/
theorem probeAt_append_left_iff {front : List UInt8} :
    ProbeAt probe (front ++ text) (front.length + offset) ↔ ProbeAt probe text offset := by
  rw [← probeAt_drop_iff, List.drop_left]

/-- Behind a front the checks are those of the text, later by the length of the front. -/
theorem checkAt_append_left_iff {front : List UInt8} :
    CheckAt probe (front ++ text) (front.length + offset) ↔ CheckAt probe text offset := by
  rw [← checkAt_drop_iff, List.drop_left]

/-- A check stays a check when text is appended. -/
theorem CheckAt.append_right (h : CheckAt probe text offset) (back : List UInt8) :
    CheckAt probe (text ++ back) offset := by
  have hdrop : ∀ count, text.drop count <+: (text ++ back).drop count := fun count =>
    (List.prefix_append text back).drop count
  exact ⟨h.1.trans (hdrop offset), branches_of_prefix (hdrop _) h.2⟩

/-- Appended text makes no new probe in front of one that the text has. -/
theorem ProbeAt.of_append_right (h : ProbeAt probe text offset) {earlier : Nat}
    (hle : earlier ≤ offset) {back : List UInt8} (hearlier : ProbeAt probe (text ++ back) earlier) :
    ProbeAt probe text earlier := by
  have hroom : probe.length ≤ (text.drop earlier).length := by
    have hlength := h.length_le
    rw [List.length_drop] at hlength ⊢
    omega
  exact List.prefix_of_prefix_length_le hearlier ((List.prefix_append text back).drop earlier) hroom

/-- A decisive offset stays decisive between a front and a back, by default unless a probe starts
inside the front. -/
theorem Decisive.append {strategy : Strategy} (h : Decisive probe text strategy offset)
    {front back : List UInt8} (hfront : strategy = .firstOccurrence →
      ∀ earlier < front.length, ¬ProbeAt probe (front ++ (text ++ back)) earlier) :
    Decisive probe (front ++ (text ++ back)) strategy (front.length + offset) := by
  obtain ⟨hcheck, hfirst⟩ := h
  refine ⟨checkAt_append_left_iff.mpr (hcheck.append_right back), fun hs earlier he hprobe => ?_⟩
  by_cases hinside : earlier < front.length
  · exact hfront hs earlier hinside hprobe
  · -- A probe behind the front that starts before the check ends within the text.
    obtain ⟨inner, rfl⟩ := Nat.exists_eq_add_of_le (Nat.le_of_not_lt hinside)
    have hinner : inner < offset := by omega
    have htext := hcheck.1.of_append_right (Nat.le_of_lt hinner) (probeAt_append_left_iff.mp hprobe)
    exact hfirst hs inner hinner htext

end Bytes

/-- What a scan finds in a text it finds in a longer one, by default unless a probe starts inside
what is put in front. -/
theorem occurs_append {text : String} {selector : Selector} {strategy : Strategy}
    (h : occurs text selector strategy = true) {front back : String}
    (hfront : strategy = .firstOccurrence → ∀ offset < (Text.utf8 front).length,
      ¬ProbeAt (Text.utf8 (probe selector)) (Text.utf8 (front ++ text ++ back)) offset) :
    occurs (front ++ text ++ back) selector strategy = true := by
  obtain ⟨offset, hdecisive⟩ := (occurs_eq_true_iff text selector strategy).mp h
  rw [Text.utf8_append, Text.utf8_append, List.append_assoc] at hfront
  rw [occurs_eq_true_iff, Text.utf8_append, Text.utf8_append, List.append_assoc]
  exact ⟨_, hdecisive.append hfront⟩

/-- What a scan finds in a text it finds when text is appended. -/
theorem occurs_append_right {text : String} {selector : Selector} {strategy : Strategy}
    (h : occurs text selector strategy = true) (back : String) :
    occurs (text ++ back) selector strategy = true := by
  have hfront : strategy = .firstOccurrence → ∀ offset < (Text.utf8 "").length,
      ¬ProbeAt (Text.utf8 (probe selector)) (Text.utf8 ("" ++ text ++ back)) offset :=
    fun _ offset hoffset => absurd hoffset (Nat.not_lt_zero offset)
  have hwhole := occurs_append h hfront
  rwa [String.empty_append] at hwhole

/-- A front with a probe of its own can hide a check from the default strategy. -/
example : occurs "63a9059cbb14604557" ⟨0xa9, 0x05, 0x9c, 0xbb⟩ .firstOccurrence = true ∧
    occurs ("63a9059cbb1415" ++ "63a9059cbb14604557") ⟨0xa9, 0x05, 0x9c, 0xbb⟩
      .firstOccurrence = false := by
  decide +kernel

end DispatchScan.Dispatch

namespace DispatchScan.Assessment

open Dispatch

/-- A positive verdict passes to every text in which the scan finds what it finds in the bytecode. -/
theorem satisfies_of_forall_occurs {bytecode other : String} {abi : Abi} {strategy : Strategy}
    (h : satisfies bytecode abi strategy = .ok true) (hne : other ≠ "")
    (hoccurs : ∀ selector, occurs bytecode selector strategy = true →
      occurs other selector strategy = true) : satisfies other abi strategy = .ok true := by
  obtain ⟨-, hall⟩ := satisfies_iff_forall_occurs.mp h
  exact satisfies_iff_forall_occurs.mpr ⟨hne, fun d hd => hoccurs d.selector (hall d hd)⟩

/-- When every occurrence is examined, a selector that occurs in a text occurs in each longer text.
By default it occurs when text is appended, and also behind a front inside of which no probe starts.
So appending leaves every positive verdict as it is, and putting text in front does so when every
occurrence is examined. -/
theorem satisfies_in_context (bytecode front back : String) :
    (∀ selector, occurs bytecode selector .allOccurrences = true →
      occurs (front ++ bytecode ++ back) selector .allOccurrences = true) ∧
    (∀ selector, occurs bytecode selector .firstOccurrence = true →
      occurs (bytecode ++ back) selector .firstOccurrence = true ∧
      ((∀ offset < (Text.utf8 front).length, ¬ProbeAt (Text.utf8 (probe selector))
          (Text.utf8 (front ++ bytecode ++ back)) offset) →
        occurs (front ++ bytecode ++ back) selector .firstOccurrence = true)) ∧
    ∀ abi,
      (∀ strategy, satisfies bytecode abi strategy = .ok true →
        satisfies (bytecode ++ back) abi strategy = .ok true) ∧
      (satisfies bytecode abi .allOccurrences = .ok true →
        satisfies (front ++ bytecode) abi .allOccurrences = .ok true) := by
  have hanywhere : ∀ (back : String) selector, occurs bytecode selector .allOccurrences = true →
      occurs (front ++ bytecode ++ back) selector .allOccurrences = true :=
    fun back selector h => occurs_append h nofun
  refine ⟨hanywhere back, fun selector h => ⟨occurs_append_right h back, fun hfront => ?_⟩,
    fun abi => ⟨fun strategy h => ?_, fun h => ?_⟩⟩
  · exact occurs_append h fun _ => hfront
  · have hne := (satisfies_iff_forall_occurs.mp h).1
    refine satisfies_of_forall_occurs h ?_ fun selector hoccurs => occurs_append_right hoccurs back
    exact fun hempty => hne (String.append_eq_empty_iff.mp hempty).1
  · have hne := (satisfies_iff_forall_occurs.mp h).1
    refine satisfies_of_forall_occurs h ?_ fun selector hoccurs => ?_
    · exact fun hempty => hne (String.append_eq_empty_iff.mp hempty).2
    · have hwhole := hanywhere "" selector hoccurs
      rwa [String.append_empty] at hwhole

end DispatchScan.Assessment
