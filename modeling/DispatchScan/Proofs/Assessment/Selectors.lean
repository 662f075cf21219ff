import DispatchScan.Proofs.Abi.Construction
import DispatchScan.Proofs.Assessment.Report

/-!
# The verdict and the set of selectors

The verdict looks for each declared selector, so nothing else about an ABI matters: neither its order
nor its repetitions, nor how it was built. Main statement: what satisfies an ABI satisfies every ABI
with no other selectors, equal sets have equal verdicts, and an extended ABI has the conjoined
verdicts of its parts and their reports one after the other.
-/

namespace DispatchScan.Assessment

open Abi

variable {bytecode : String} {strategy : Strategy} {a b : Abi}

/-- The verdict is positive when there is bytecode and each selector of the ABI occurs in it. -/
theorem satisfies_iff_forall_selectors :
    satisfies bytecode a strategy = .ok true ↔ bytecode ≠ "" ∧
      ∀ s ∈ a.selectors, Dispatch.occurs bytecode s strategy = true := by
  rw [satisfies_iff_forall_occurs]
  refine and_congr_right fun _ => ⟨?_, fun h d hd => h d.selector ⟨d, hd, rfl⟩⟩
  rintro h s ⟨d, hd, rfl⟩
  exact h d hd

/-- What satisfies an ABI satisfies every ABI with no other selectors. -/
theorem satisfies_of_selectors_subset (h : a.selectors ⊆ b.selectors)
    (hb : satisfies bytecode b strategy = .ok true) : satisfies bytecode a strategy = .ok true := by
  obtain ⟨hne, hoccurs⟩ := satisfies_iff_forall_selectors.mp hb
  exact satisfies_iff_forall_selectors.mpr ⟨hne, fun s hs => hoccurs s (h hs)⟩

/-- ABIs with the same selectors have one verdict, refusals included. -/
theorem satisfies_congr_selectors (h : a.selectors = b.selectors) :
    satisfies bytecode a strategy = satisfies bytecode b strategy := by
  by_cases hne : bytecode = ""
  · subst hne
    rw [satisfies_empty, satisfies_empty]
  · by_cases hb : satisfies bytecode b strategy = .ok true
    · rw [hb, satisfies_of_selectors_subset h.subset hb]
    · have ha : satisfies bytecode a strategy ≠ .ok true := fun ha =>
        hb (satisfies_of_selectors_subset h.symm.subset ha)
      rw [satisfies_eq_ok_false_of_ne hne ha, satisfies_eq_ok_false_of_ne hne hb]

/-- The verdict on an extended ABI is the conjunction of those on its parts. -/
theorem satisfies_append :
    satisfies bytecode (a ++ b) strategy = do
      let first ← satisfies bytecode a strategy
      let second ← satisfies bytecode b strategy
      return first && second := by
  by_cases hne : bytecode = ""
  · subst hne
    rfl
  · have hfunctions : (a ++ b).functions = a.functions ++ b.functions := rfl
    rw [satisfies_of_ne hne, satisfies_of_ne hne, satisfies_of_ne hne, hfunctions, List.all_append]
    rfl

/-- The report on an extended ABI is that on one part followed by that on the other. -/
theorem report_append :
    report bytecode (a ++ b) strategy = do
      let first ← report bytecode a strategy
      let second ← report bytecode b strategy
      return first ++ second := by
  by_cases hne : bytecode = ""
  · subst hne
    rfl
  · have hfunctions : (a ++ b).functions = a.functions ++ b.functions := rfl
    rw [report_of_ne hne, report_of_ne hne, report_of_ne hne, hfunctions, List.map_append]
    rfl

/-- Bytecode that satisfies an ABI satisfies every ABI with no other selectors, so ABIs with the same
selectors have one verdict. This holds however they were built, since what is built has the selectors
of its parts, and parameter names leave a selector as it is. The verdict on an extended ABI is the
conjunction of those on both parts, with the ABI without functions as the neutral one, and its report
is that on the first part followed by that on the second. -/
theorem satisfies_by_selectors (bytecode : String) (strategy : Strategy) :
    (∀ a b : Abi, a.selectors ⊆ b.selectors → satisfies bytecode b strategy = .ok true →
      satisfies bytecode a strategy = .ok true) ∧
    (∀ a b : Abi, a.selectors = b.selectors →
      satisfies bytecode a strategy = satisfies bytecode b strategy) ∧
    (∀ (c d : Construction) a b, c.build = .ok a → d.build = .ok b →
      (∀ s, c.Declares s ↔ d.Declares s) →
      satisfies bytecode a strategy = satisfies bytecode b strategy) ∧
    (∀ d e : Declaration, d.name = e.name →
      d.inputs.map Param.type = e.inputs.map Param.type → d.selector = e.selector) ∧
    (∀ a b : Abi,
      satisfies bytecode (a ++ b) strategy = (do
        let first ← satisfies bytecode a strategy
        let second ← satisfies bytecode b strategy
        return first && second) ∧
      report bytecode (a ++ b) strategy = do
        let first ← report bytecode a strategy
        let second ← report bytecode b strategy
        return first ++ second) ∧
    (∀ a : Abi, empty ++ a = a ∧ a ++ empty = a) ∧
    (bytecode ≠ "" → satisfies bytecode empty strategy = .ok true) := by
  refine ⟨fun a b => satisfies_of_selectors_subset, fun a b => satisfies_congr_selectors,
    fun c d a b ha hb hdeclares => ?_, fun d e => Declaration.selector_congr,
    fun a b => ⟨satisfies_append, report_append⟩, fun a => ⟨empty_append a, append_empty a⟩,
    fun hne => ?_⟩
  · refine satisfies_congr_selectors (Set.ext fun s => ?_)
    rw [Construction.mem_selectors_iff_declares ha, Construction.mem_selectors_iff_declares hb,
      hdeclares]
  · exact satisfies_iff_forall_occurs.mpr ⟨hne, nofun⟩

end DispatchScan.Assessment
