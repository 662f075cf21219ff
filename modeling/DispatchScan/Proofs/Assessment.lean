import DispatchScan.Assessment

/-!
# The verdict and the report as equations

Empty bytecode is refused by the verdict and by the report alike. For any other text the verdict is
the conjunction, over the declared functions, of whether the selector occurs, and the report lists
the same answers one by one.
-/

namespace DispatchScan.Assessment

/-- Bytecode with a character is not refused. -/
theorem requireBytecode_of_ne {bytecode : String} (h : bytecode ≠ "") :
    requireBytecode bytecode = .ok () := by
  rw [requireBytecode, if_neg fun hempty => h (String.isEmpty_iff.mp hempty)]

/-- The verdict on bytecode that is not empty. -/
theorem satisfies_of_ne {bytecode : String} (h : bytecode ≠ "") (abi : Abi) (strategy : Strategy) :
    satisfies bytecode abi strategy =
      .ok (abi.functions.all fun d => Dispatch.occurs bytecode d.selector strategy) := by
  rw [satisfies, requireBytecode_of_ne h]
  -- The early answer for an ABI without functions is the empty conjunction.
  obtain ⟨functions⟩ := abi
  cases functions with
  | nil => rfl
  | cons d ds => rfl

/-- The report on bytecode that is not empty. -/
theorem report_of_ne {bytecode : String} (h : bytecode ≠ "") (abi : Abi) (strategy : Strategy) :
    report bytecode abi strategy = .ok (abi.functions.map (finding bytecode strategy)) := by
  rw [report, requireBytecode_of_ne h]
  rfl

/-- The verdict for one function. -/
theorem satisfies_singleton_of_ne {bytecode : String} (h : bytecode ≠ "") (d : Declaration)
    (strategy : Strategy) :
    satisfies bytecode (.singleton d) strategy =
      .ok (Dispatch.occurs bytecode d.selector strategy) := by
  rw [satisfies_of_ne h, Abi.singleton, List.all_cons, List.all_nil, Bool.and_true]

/-- The report finds everything exactly when every declared selector occurs. -/
theorem all_found_map_finding (bytecode : String) (strategy : Strategy) (ds : List Declaration) :
    (ds.map (finding bytecode strategy)).all Finding.found =
      ds.all fun d => Dispatch.occurs bytecode d.selector strategy := by
  rw [List.all_map]
  rfl

/-- The verdict is positive exactly when every declared selector occurs. -/
theorem satisfies_eq_ok_true_iff {bytecode : String} (h : bytecode ≠ "") (abi : Abi)
    (strategy : Strategy) :
    satisfies bytecode abi strategy = .ok true ↔
      ∀ d ∈ abi.functions, Dispatch.occurs bytecode d.selector strategy = true := by
  rw [satisfies_of_ne h, Except.ok.injEq, List.all_eq_true]

/-- A positive verdict says that there is bytecode and that every declared selector occurs in it. -/
theorem satisfies_iff_forall_occurs {bytecode : String} {abi : Abi} {strategy : Strategy} :
    satisfies bytecode abi strategy = .ok true ↔ bytecode ≠ "" ∧
      ∀ d ∈ abi.functions, Dispatch.occurs bytecode d.selector strategy = true := by
  by_cases hne : bytecode = ""
  · subst hne
    exact iff_of_false nofun fun h => h.1 rfl
  · rw [satisfies_eq_ok_true_iff hne]
    exact ⟨fun h => ⟨hne, h⟩, And.right⟩

/-- Bytecode that is not empty has a verdict, and one that is not positive is negative. -/
theorem satisfies_eq_ok_false_of_ne {bytecode : String} (h : bytecode ≠ "") {abi : Abi}
    {strategy : Strategy} (hverdict : satisfies bytecode abi strategy ≠ .ok true) :
    satisfies bytecode abi strategy = .ok false := by
  rw [satisfies_of_ne h] at hverdict ⊢
  cases hall : abi.functions.all fun d => Dispatch.occurs bytecode d.selector strategy with
  | true => exact absurd (congrArg Except.ok hall) hverdict
  | false => rfl

end DispatchScan.Assessment
