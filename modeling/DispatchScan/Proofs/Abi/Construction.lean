import DispatchScan.Abi
import Mathlib.Data.Set.Basic

/-!
# How ABIs are built

An ABI is built from declarations, from JSON, or by extending one ABI with another. Whatever the
steps, it declares the selectors of its parts; the names of parameters play no part in these. Main
statement: the selectors of what is built can be told from the parts alone.
-/

namespace DispatchScan

/-- The selector depends on the name and the types of the parameters, not on their names. -/
theorem Declaration.selector_congr {d e : Declaration} (hname : d.name = e.name)
    (htypes : d.inputs.map Param.type = e.inputs.map Param.type) : d.selector = e.selector := by
  rw [selector, selector, signature, signature, hname, htypes]

namespace Abi

/-- The selectors of the declared functions. -/
def selectors (abi : Abi) : Set Selector := {s | ∃ d ∈ abi.functions, d.selector = s}

/-- The selectors of joined ABIs are those of both. -/
theorem mem_selectors_append {a b : Abi} {s : Selector} :
    s ∈ (a ++ b).selectors ↔ s ∈ a.selectors ∨ s ∈ b.selectors := by
  constructor
  · rintro ⟨d, hd, rfl⟩
    rcases List.mem_append.mp hd with hd | hd
    · exact .inl ⟨d, hd, rfl⟩
    · exact .inr ⟨d, hd, rfl⟩
  · rintro (⟨d, hd, rfl⟩ | ⟨d, hd, rfl⟩)
    · exact ⟨d, List.mem_append_left _ hd, rfl⟩
    · exact ⟨d, List.mem_append_right _ hd, rfl⟩

/-- The ABI without functions is neutral. -/
theorem empty_append (abi : Abi) : empty ++ abi = abi := rfl

/-- The ABI without functions is neutral on the other side too. -/
theorem append_empty (abi : Abi) : abi ++ empty = abi := by
  obtain ⟨ds⟩ := abi
  exact congrArg Abi.mk (List.append_nil ds)

/-- What was read is an ABI that declares a selector. -/
def DeclaredBy (outcome : Except CheckError Abi) (s : Selector) : Prop :=
  ∃ abi, outcome = .ok abi ∧ s ∈ abi.selectors

/-- An ABI that was read declares its selectors. -/
theorem declaredBy_iff {outcome : Except CheckError Abi} {abi : Abi} (h : outcome = .ok abi)
    {s : Selector} : DeclaredBy outcome s ↔ s ∈ abi.selectors := by
  constructor
  · rintro ⟨read, hread, hs⟩
    obtain rfl := Except.ok.inj (hread.symm.trans h)
    exact hs
  · exact fun hs => ⟨abi, h, hs⟩

/-- A way to build an ABI. -/
inductive Construction where
  /-- From declarations, in order. -/
  | list (ds : List Declaration)
  /-- From one declaration. -/
  | single (d : Declaration)
  /-- From a JSON value. -/
  | value (v : Json.Value)
  /-- From a JSON text. -/
  | text (source : String)
  /-- From an ABI that is extended with another. -/
  | extend (front back : Construction)

namespace Construction

/-- Build the ABI. The first part that is refused ends the construction. -/
def build : Construction → Except CheckError Abi
  | .list ds => .ok ⟨ds⟩
  | .single d => .ok (singleton d)
  | .value v => ofJson v
  | .text source => parse source
  | .extend front back => do
    let a ← front.build
    let b ← back.build
    return a ++ b

/-- Some part of a construction declares a selector. -/
def Declares (s : Selector) : Construction → Prop
  | .list ds => ∃ d ∈ ds, d.selector = s
  | .single d => d.selector = s
  | .value v => DeclaredBy (ofJson v) s
  | .text source => DeclaredBy (parse source) s
  | .extend front back => Declares s front ∨ Declares s back

/-- An extended ABI is one ABI followed by the other. -/
theorem build_extend_eq_ok_iff {front back : Construction} {abi : Abi} :
    (extend front back).build = .ok abi ↔
      ∃ a b, front.build = .ok a ∧ back.build = .ok b ∧ a ++ b = abi := by
  rw [build]
  cases hfront : front.build with
  | error error => exact iff_of_false nofun nofun
  | ok a =>
    cases hback : back.build with
    | error error => exact iff_of_false nofun nofun
    | ok b =>
      constructor
      · intro h
        exact ⟨a, b, rfl, rfl, Except.ok.inj h⟩
      · rintro ⟨a', b', ha, hb, rfl⟩
        obtain rfl := Except.ok.inj ha
        obtain rfl := Except.ok.inj hb
        rfl

/-- What is built declares the selectors that the parts declare. -/
theorem mem_selectors_iff_declares {c : Construction} {abi : Abi} (h : c.build = .ok abi)
    (s : Selector) : s ∈ abi.selectors ↔ c.Declares s := by
  induction c generalizing abi with
  | list ds =>
    rw [build] at h
    obtain rfl := Except.ok.inj h
    rfl
  | single d =>
    rw [build] at h
    obtain rfl := Except.ok.inj h
    constructor
    · rintro ⟨e, he, rfl⟩
      obtain rfl := List.mem_singleton.mp he
      rfl
    · exact fun hs => ⟨d, List.mem_singleton.mpr rfl, hs⟩
  | value v => exact (declaredBy_iff h).symm
  | text source => exact (declaredBy_iff h).symm
  | extend front back hfront hback =>
    obtain ⟨a, b, ha, hb, rfl⟩ := build_extend_eq_ok_iff.mp h
    rw [mem_selectors_append, hfront ha, hback hb]
    rfl

end Construction

end Abi

end DispatchScan
