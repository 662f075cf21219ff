import DispatchScan.Proofs.Assessment.Report
import DispatchScan.Proofs.Dispatch.Position
import Mathlib.Data.Nat.Find
import Mathlib.Data.Set.Subsingleton
import Mathlib.Order.Bounds.Basic

/-!
# The two strategies compared

By default the first probe decides, otherwise each probe may. Where a text has one probe for a
selector at most, nothing is left to choose. Main statement: examining every occurrence keeps what
is found by default and adds exactly the functions whose first probe leads to no branch while a
later one does.
-/

namespace DispatchScan.Dispatch

/-- The first probe for a selector leads to no branch, but a later one does. -/
def BranchesLater (text : String) (selector : Selector) : Prop :=
  ∃ least, IsLeast (starts text selector) least ∧ ¬SpelledAt (Text.utf8 text) selector least ∧
    ∃ later, least < later ∧ SpelledAt (Text.utf8 text) selector later

/-- What is found by default is found when every occurrence is examined. -/
theorem occurs_allOccurrences_of_first {text : String} {selector : Selector}
    (h : occurs text selector .firstOccurrence = true) :
    occurs text selector .allOccurrences = true := by
  obtain ⟨offset, -, hspelled⟩ := occurs_firstOccurrence_iff.mp h
  exact occurs_allOccurrences_iff.mpr ⟨offset, hspelled⟩

/-- Where a check is spelled, the probe has a least offset. -/
theorem SpelledAt.exists_isLeast {text : String} {selector : Selector} {offset : Nat}
    (h : SpelledAt (Text.utf8 text) selector offset) :
    ∃ least ≤ offset, IsLeast (starts text selector) least := by
  classical
  have hstart : ∃ start, start ∈ starts text selector := ⟨offset, h.mem_starts⟩
  exact ⟨Nat.find hstart, Nat.find_min' hstart h.mem_starts, Nat.find_spec hstart,
    fun _ => Nat.find_min' hstart⟩

/-- Exactly the selectors whose first probe leads to no branch while a later one does are found only
when every occurrence is examined. -/
theorem occurs_only_allOccurrences_iff {text : String} {selector : Selector} :
    (occurs text selector .allOccurrences = true ∧ occurs text selector .firstOccurrence = false) ↔
      BranchesLater text selector := by
  rw [← Bool.not_eq_true, occurs_allOccurrences_iff, occurs_firstOccurrence_iff]
  constructor
  · rintro ⟨⟨later, hlater⟩, hnone⟩
    obtain ⟨least, hle, hleast⟩ := hlater.exists_isLeast
    have hnot : ¬SpelledAt (Text.utf8 text) selector least := fun hspelled =>
      hnone ⟨least, hleast, hspelled⟩
    have hne : least ≠ later := by
      rintro rfl
      exact hnot hlater
    exact ⟨least, hleast, hnot, later, Nat.lt_of_le_of_ne hle hne, hlater⟩
  · rintro ⟨least, hleast, hnot, later, -, hlater⟩
    refine ⟨⟨later, hlater⟩, ?_⟩
    -- By default only the least offset could be found, and no check is spelled there.
    rintro ⟨offset, hoffset, hspelled⟩
    obtain rfl := hoffset.unique hleast
    exact hnot hspelled

/-- With one probe at most the strategies agree. -/
theorem occurs_eq_of_subsingleton {text : String} {selector : Selector}
    (h : (starts text selector).Subsingleton) :
    occurs text selector .firstOccurrence = occurs text selector .allOccurrences := by
  refine Bool.eq_iff_iff.mpr ⟨occurs_allOccurrences_of_first, fun hall => ?_⟩
  obtain ⟨offset, hspelled⟩ := occurs_allOccurrences_iff.mp hall
  obtain ⟨least, -, hleast⟩ := hspelled.exists_isLeast
  obtain rfl := h hleast.1 hspelled.mem_starts
  exact occurs_firstOccurrence_iff.mpr ⟨least, hleast, hspelled⟩

end DispatchScan.Dispatch

namespace DispatchScan.Assessment

open Dispatch

/-- What the reports under the two strategies say of one function. -/
structure Compares (bytecode : String) (d : Declaration) (byDefault byAll : Finding) : Prop where
  /-- Both show the signature. -/
  signature : byDefault.signature = d.signature ∧ byAll.signature = d.signature
  /-- Both show the selector. -/
  selector : byDefault.selector = d.selector.text ∧ byAll.selector = d.selector.text
  /-- What is found by default is found when every occurrence is examined. -/
  kept : byDefault.found = true → byAll.found = true
  /-- Only a branch behind a later probe is found in addition. -/
  added : byAll.found = true ∧ byDefault.found = false ↔ BranchesLater bytecode d.selector

/-- The findings for a function under the two strategies compare. -/
theorem compares_finding (bytecode : String) (d : Declaration) :
    Compares bytecode d (finding bytecode .firstOccurrence d)
      (finding bytecode .allOccurrences d) where
  signature := ⟨rfl, rfl⟩
  selector := ⟨rfl, rfl⟩
  kept := occurs_allOccurrences_of_first
  added := occurs_only_allOccurrences_iff

/-- Reports under the two strategies compare function by function, in order. -/
theorem forall₂_compares {bytecode : String} {abi : Abi} {byDefault byAll : List Finding}
    (hdefault : report bytecode abi .firstOccurrence = .ok byDefault)
    (hall : report bytecode abi .allOccurrences = .ok byAll) :
    byDefault.length = abi.functions.length ∧ byAll.length = abi.functions.length ∧
      List.Forall₂ (fun d entries => Compares bytecode d entries.1 entries.2) abi.functions
        (byDefault.zip byAll) := by
  have hne : bytecode ≠ "" := by
    rintro rfl
    rw [report_empty] at hall
    exact absurd hall nofun
  rw [report_of_ne hne, Except.ok.injEq] at hdefault hall
  subst hdefault hall
  refine ⟨List.length_map _, List.length_map _, ?_⟩
  rw [List.zip_map', List.forall₂_map_right_iff, List.forall₂_same]
  exact fun d _ => compares_finding bytecode d

/-- With one probe at most for each function the reports agree. -/
theorem report_eq_of_subsingleton {bytecode : String} {abi : Abi}
    (h : ∀ d ∈ abi.functions, (starts bytecode d.selector).Subsingleton) :
    report bytecode abi .firstOccurrence = report bytecode abi .allOccurrences := by
  by_cases hne : bytecode = ""
  · subst hne
    rw [report_empty, report_empty]
  · have hfindings : ∀ d ∈ abi.functions,
        finding bytecode .firstOccurrence d = finding bytecode .allOccurrences d := by
      intro d hd
      rw [finding, occurs_eq_of_subsingleton (h d hd), finding]
    rw [report_of_ne hne, report_of_ne hne, List.map_congr_left hfindings]

/-- Both strategies refuse the same inputs for the same reason. Function by function, examining
every occurrence keeps what is found by default, and adds exactly the functions whose first probe
leads to no branch while a later one does; so a positive verdict stays positive. Where each function
has one probe at most, the strategies give one report and one verdict. -/
theorem strategies_compare (bytecode : String) (abi : Abi) :
    (∀ error, report bytecode abi .firstOccurrence = .error error ↔
      report bytecode abi .allOccurrences = .error error) ∧
    (∀ error, satisfies bytecode abi .firstOccurrence = .error error ↔
      satisfies bytecode abi .allOccurrences = .error error) ∧
    (∀ byDefault byAll, report bytecode abi .firstOccurrence = .ok byDefault →
      report bytecode abi .allOccurrences = .ok byAll →
      byDefault.length = abi.functions.length ∧ byAll.length = abi.functions.length ∧
        List.Forall₂ (fun d entries => Compares bytecode d entries.1 entries.2) abi.functions
          (byDefault.zip byAll)) ∧
    (satisfies bytecode abi .firstOccurrence = .ok true →
      satisfies bytecode abi .allOccurrences = .ok true) ∧
    ((∀ d ∈ abi.functions, (starts bytecode d.selector).Subsingleton) →
      report bytecode abi .firstOccurrence = report bytecode abi .allOccurrences ∧
        satisfies bytecode abi .firstOccurrence = satisfies bytecode abi .allOccurrences) := by
  refine ⟨fun error => ?_, fun error => ?_, fun byDefault byAll => forall₂_compares, fun h => ?_,
    fun h => ?_⟩
  · rw [report_eq_error_iff, report_eq_error_iff]
  · rw [satisfies_eq_map_report, satisfies_eq_map_report, map_eq_error_iff, map_eq_error_iff,
      report_eq_error_iff, report_eq_error_iff]
  · obtain ⟨hne, hoccurs⟩ := satisfies_iff_forall_occurs.mp h
    exact satisfies_iff_forall_occurs.mpr ⟨hne, fun d hd =>
      occurs_allOccurrences_of_first (hoccurs d hd)⟩
  · have hreport := report_eq_of_subsingleton h
    rw [satisfies_eq_map_report, hreport, satisfies_eq_map_report]
    exact ⟨rfl, rfl⟩

end DispatchScan.Assessment
