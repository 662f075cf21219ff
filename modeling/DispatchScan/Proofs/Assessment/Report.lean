import DispatchScan.Proofs.Assessment
import DispatchScan.Proofs.Outcome
import Mathlib.Data.List.Forall2

/-!
# The verdict against the report

The verdict stops at the first miss and answers early for an ABI without functions; the report looks
at every function. Main statement: the verdict is the conjunction of what the report finds, with the
same refusals, and the report judges each function as if it were the only one.
-/

namespace DispatchScan.Assessment

/-- The verdict refuses empty bytecode. -/
theorem satisfies_empty (abi : Abi) (strategy : Strategy) :
    satisfies "" abi strategy = .error (.missing .bytecode) := rfl

/-- The report refuses empty bytecode. -/
theorem report_empty (abi : Abi) (strategy : Strategy) :
    report "" abi strategy = .error (.missing .bytecode) := rfl

/-- The verdict is the conjunction of the findings in the report. -/
theorem satisfies_eq_map_report (bytecode : String) (abi : Abi) (strategy : Strategy) :
    satisfies bytecode abi strategy =
      (report bytecode abi strategy).map fun findings => findings.all Finding.found := by
  by_cases hne : bytecode = ""
  · subst hne
    rw [satisfies_empty, report_empty]
    rfl
  · rw [satisfies_of_ne hne, report_of_ne hne, ← all_found_map_finding]
    rfl

/-- The report on one function holds its finding alone. -/
theorem report_singleton_of_ne {bytecode : String} (h : bytecode ≠ "") (d : Declaration)
    (strategy : Strategy) :
    report bytecode (.singleton d) strategy = .ok [finding bytecode strategy d] := by
  rw [report_of_ne h, Abi.singleton, List.map_singleton]

/-- The entry of a report for a function: it names the function, and alone it is the report on the
ABI of this function. -/
structure Judges (bytecode : String) (strategy : Strategy) (d : Declaration) (entry : Finding) :
    Prop where
  /-- The entry shows the signature. -/
  signature : entry.signature = d.signature
  /-- The entry shows the selector. -/
  selector : entry.selector = d.selector.text
  /-- Nothing but the function, the bytecode and the strategy decides the entry. -/
  alone : report bytecode (.singleton d) strategy = .ok [entry]

/-- A report has an entry for each function, in order. -/
theorem forall₂_judges_of_report {bytecode : String} {abi : Abi} {strategy : Strategy}
    {entries : List Finding} (h : report bytecode abi strategy = .ok entries) :
    List.Forall₂ (Judges bytecode strategy) abi.functions entries := by
  have hne : bytecode ≠ "" := by
    rintro rfl
    rw [report_empty] at h
    exact absurd h nofun
  rw [report_of_ne hne, Except.ok.injEq] at h
  rw [← h, List.forall₂_map_right_iff, List.forall₂_same]
  intro d _
  exact ⟨rfl, rfl, report_singleton_of_ne hne d strategy⟩

/-- Nothing but empty bytecode is refused. -/
theorem report_eq_error_iff {bytecode : String} {abi : Abi} {strategy : Strategy}
    {error : CheckError} :
    report bytecode abi strategy = .error error ↔
      bytecode = "" ∧ error = .missing .bytecode := by
  constructor
  · intro h
    by_cases hne : bytecode = ""
    · subst hne
      rw [report_empty, Except.error.injEq] at h
      exact ⟨rfl, h.symm⟩
    · rw [report_of_ne hne] at h
      exact absurd h nofun
  · rintro ⟨rfl, rfl⟩
    exact report_empty abi strategy

/-- The verdict and the report refuse empty bytecode, for the same reason, and nothing else. On any
other bytecode the verdict is the conjunction of the findings in the report, which has one entry for
each function of the ABI, in order, and each entry is the report on its function alone. -/
theorem satisfies_agrees_with_report (bytecode : String) (abi : Abi) (strategy : Strategy) :
    (∀ error, satisfies bytecode abi strategy = .error error ↔
      report bytecode abi strategy = .error error) ∧
    (∀ error, report bytecode abi strategy = .error error ↔
      bytecode = "" ∧ error = .missing .bytecode) ∧
    ∀ entries, report bytecode abi strategy = .ok entries →
      satisfies bytecode abi strategy = .ok (entries.all Finding.found) ∧
      List.Forall₂ (Judges bytecode strategy) abi.functions entries := by
  refine ⟨fun error => ?_, fun error => report_eq_error_iff,
    fun entries hreport => ⟨?_, forall₂_judges_of_report hreport⟩⟩
  · rw [satisfies_eq_map_report, map_eq_error_iff]
  · rw [satisfies_eq_map_report, hreport]
    rfl

end DispatchScan.Assessment
