import DispatchScan.Assessment
import DispatchScan.Proofs.Abi.Grammar
import DispatchScan.Proofs.Selector

/-!
# Rows for the functions of an ABI

The value of an ABI declares functions one after the other. A row describes one of them by its
signature, its selector and whether the selector occurs. Main statement: for every accepted value the
findings of its functions are one row for each declaring entry, in order.
-/

namespace DispatchScan

open Json

namespace Abi

/-- The entries of a value that declare functions: those of an array that are not skipped, or else
the value itself. -/
def declaring : Value → List Value
  | .array entries => kept entries
  | v => [v]

/-- The functions of an accepted value are those that its declaring entries describe. -/
theorem forall₂_declaring {v : Value} {abi : Abi} (h : ofJson v = .ok abi) :
    List.Forall₂ Declaration.IsDeclaration (declaring v) abi.functions := by
  have hreading := reading_ofJson v
  rw [h] at hreading
  cases hreading with
  | single hd => exact .cons hd .nil
  | list hds => exact hds

end Abi

namespace Assessment

/-- A row describes the function that an entry declares, and says whether it occurs in bytecode. -/
structure Describes (bytecode : String) (strategy : Strategy) (entry : Value) (row : Finding) :
    Prop where
  /-- The signature and the selector are those of the declared function. -/
  declared : ∃ d, Declaration.IsDeclaration entry d ∧ row.signature = d.signature ∧
    row.selector = d.selector.text
  /-- The selector is shown as eight lowercase digits. -/
  digits : row.selector.length = 8 ∧ Hex.IsPlain row.selector
  /-- The digits are read as a selector, and the scan for it decides the row. -/
  scanned : ∃ selector, Selector.parse row.selector = .ok selector ∧
    Dispatch.occurs bytecode selector strategy = row.found

/-- The finding of a declared function describes it. -/
theorem describes_finding {entry : Value} {d : Declaration} (h : Declaration.IsDeclaration entry d)
    (bytecode : String) (strategy : Strategy) :
    Describes bytecode strategy entry (finding bytecode strategy d) where
  declared := ⟨d, h, rfl, rfl⟩
  digits := ⟨d.selector.length_text, d.selector.isPlain_text⟩
  scanned := ⟨d.selector, d.selector.parse_text, rfl⟩

/-- Nothing but the finding of a declared function describes it. -/
theorem Describes.eq_finding {bytecode : String} {strategy : Strategy} {entry : Value}
    {row : Finding} (h : Describes bytecode strategy entry row) {d : Declaration}
    (hd : Declaration.IsDeclaration entry d) : row = finding bytecode strategy d := by
  obtain ⟨⟨d', hd', hsignature, hselector⟩, -, selector, hparse, hoccurs⟩ := h
  obtain rfl : d' = d := Except.ok.inj <|
    (Declaration.ofJson_eq_ok_iff.mpr hd').symm.trans (Declaration.ofJson_eq_ok_iff.mpr hd)
  rw [hselector, Selector.parse_text] at hparse
  obtain rfl := Except.ok.inj hparse
  obtain ⟨signature, digits, found⟩ := row
  rw [finding, Finding.mk.injEq]
  exact ⟨hsignature, hselector, hoccurs.symm⟩

/-- The findings of an accepted value are a row for each declaring entry, in order. -/
theorem forall₂_describes {v : Value} {abi : Abi} (h : Abi.ofJson v = .ok abi) (bytecode : String)
    (strategy : Strategy) :
    List.Forall₂ (Describes bytecode strategy) (Abi.declaring v)
      (abi.functions.map (finding bytecode strategy)) := by
  rw [List.forall₂_map_right_iff]
  exact (Abi.forall₂_declaring h).imp fun entry d hd => describes_finding hd bytecode strategy

end Assessment

end DispatchScan
