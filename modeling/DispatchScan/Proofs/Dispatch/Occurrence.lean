import DispatchScan.Dispatch
import DispatchScan.Proofs.Hex.Plain

/-!
# What a scan finds

A scan is a walk along a text, but its verdict has a meaning without the walk: some offset at which
the probe starts has a branch behind it, and under the default strategy no earlier offset has the
probe. Occurrences may overlap, and the text may hold any bytes.
-/

namespace DispatchScan.Dispatch

/-- A probe starts at an offset of a text. -/
def ProbeAt (probe text : List UInt8) (offset : Nat) : Prop :=
  probe <+: text.drop offset

/-- A probe starts at an offset of a text and is followed by a branch. -/
def CheckAt (probe text : List UInt8) (offset : Nat) : Prop :=
  ProbeAt probe text offset ∧ branches (text.drop (offset + probe.length)) = true

/-- At later offsets a longer text holds what the rest of it holds. -/
@[simp]
theorem probeAt_cons_succ {probe text : List UInt8} {b : UInt8} {offset : Nat} :
    ProbeAt probe (b :: text) (offset + 1) ↔ ProbeAt probe text offset := Iff.rfl

/-- At later offsets a longer text holds the checks of the rest of it. -/
@[simp]
theorem checkAt_cons_succ {probe text : List UInt8} {b : UInt8} {offset : Nat} :
    CheckAt probe (b :: text) (offset + 1) ↔ CheckAt probe text offset := by
  rw [CheckAt, CheckAt, probeAt_cons_succ, Nat.add_right_comm, List.drop_succ_cons]

/-- The probes behind the front of a text are probes of the whole. -/
theorem probeAt_drop_iff {probe text : List UInt8} {count offset : Nat} :
    ProbeAt probe (text.drop count) offset ↔ ProbeAt probe text (count + offset) := by
  rw [ProbeAt, ProbeAt, List.drop_drop]

/-- What the scan accepts behind the front of a text it accepts in the whole. -/
theorem checkAt_drop_iff {probe text : List UInt8} {count offset : Nat} :
    CheckAt probe (text.drop count) offset ↔ CheckAt probe text (count + offset) := by
  rw [CheckAt, CheckAt, probeAt_drop_iff, List.drop_drop, Nat.add_assoc]

/-- No probe starts in an empty text. -/
theorem not_probeAt_nil {probe : List UInt8} (hprobe : probe ≠ []) (offset : Nat) :
    ¬ProbeAt probe [] offset := by
  rw [ProbeAt, List.drop_nil, List.prefix_nil]
  exact hprobe

/-- An offset with a check that the strategy lets count: by default no probe starts before it. -/
def Decisive (probe text : List UInt8) (strategy : Strategy) (offset : Nat) : Prop :=
  CheckAt probe text offset ∧
    (strategy = .firstOccurrence → ∀ earlier < offset, ¬ProbeAt probe text earlier)

/-- Where no probe starts at the front, decisive offsets are those of the rest. -/
theorem exists_decisive_cons_of_not_probeAt {probe text : List UInt8} {b : UInt8}
    {strategy : Strategy} (hfront : ¬ProbeAt probe (b :: text) 0) :
    (∃ offset, Decisive probe (b :: text) strategy offset) ↔
      ∃ offset, Decisive probe text strategy offset := by
  constructor
  · rintro ⟨offset, hcheck, hfirst⟩
    cases offset with
    | zero => exact absurd hcheck.1 hfront
    | succ offset =>
      exact ⟨offset, checkAt_cons_succ.mp hcheck, fun hs earlier he =>
        hfirst hs (earlier + 1) (Nat.succ_lt_succ he)⟩
  · rintro ⟨offset, hcheck, hfirst⟩
    refine ⟨offset + 1, checkAt_cons_succ.mpr hcheck, fun hs earlier he => ?_⟩
    cases earlier with
    | zero => exact hfront
    | succ earlier => exact hfirst hs earlier (Nat.lt_of_succ_lt_succ he)

/-- When every probe is examined, one without a branch at the front does not matter. -/
theorem exists_decisive_cons_of_not_branches {probe text : List UInt8} {b : UInt8}
    (hfront : branches ((b :: text).drop probe.length) = false) :
    (∃ offset, Decisive probe (b :: text) .allOccurrences offset) ↔
      ∃ offset, Decisive probe text .allOccurrences offset := by
  constructor
  · rintro ⟨offset, hcheck, -⟩
    cases offset with
    | zero =>
      have hbranch := hcheck.2
      rw [Nat.zero_add, hfront] at hbranch
      exact absurd hbranch Bool.false_ne_true
    | succ offset => exact ⟨offset, checkAt_cons_succ.mp hcheck, nofun⟩
  · rintro ⟨offset, hcheck, -⟩
    exact ⟨offset + 1, checkAt_cons_succ.mpr hcheck, nofun⟩

/-- A probe at the front decides alone under the default strategy. -/
theorem exists_decisive_cons_of_probeAt {probe text : List UInt8} {b : UInt8}
    (hfront : ProbeAt probe (b :: text) 0) :
    (∃ offset, Decisive probe (b :: text) .firstOccurrence offset) ↔
      branches ((b :: text).drop probe.length) = true := by
  constructor
  · rintro ⟨offset, hcheck, hfirst⟩
    cases offset with
    | zero =>
      have hbranch := hcheck.2
      rwa [Nat.zero_add] at hbranch
    | succ offset => exact absurd hfront (hfirst rfl 0 (Nat.succ_pos offset))
  · intro hbranch
    refine ⟨0, ⟨hfront, by rwa [Nat.zero_add]⟩, fun _ earlier he => ?_⟩
    exact absurd he (Nat.not_lt_zero earlier)

/-- A scan sees a branch exactly when the text has a decisive offset. -/
theorem any_branches_visits_iff {probe : List UInt8} (hprobe : probe ≠ []) (strategy : Strategy)
    (offset : Nat) (text : List UInt8) :
    (visits probe strategy offset text).any Visit.branches = true ↔
      ∃ i, Decisive probe text strategy i := by
  induction text generalizing offset with
  | nil =>
    constructor
    · intro h
      exact absurd h Bool.false_ne_true
    · rintro ⟨i, hcheck, -⟩
      exact absurd hcheck.1 (not_probeAt_nil hprobe i)
  | cons b text ih =>
    by_cases hfront : ProbeAt probe (b :: text) 0
    · have hprefix : probe.isPrefixOf (b :: text) = true := List.isPrefixOf_iff_prefix.mpr hfront
      rw [visits, if_pos hprefix]
      cases hbranch : branches ((b :: text).drop probe.length) with
      | true =>
        rw [if_pos (Or.inl rfl)]
        refine iff_of_true rfl ⟨0, ⟨hfront, by rwa [Nat.zero_add]⟩, fun _ earlier he => ?_⟩
        exact absurd he (Nat.not_lt_zero earlier)
      | false =>
        cases strategy with
        | firstOccurrence =>
          rw [if_pos (Or.inr rfl), exists_decisive_cons_of_probeAt hfront, hbranch]
          rfl
        | allOccurrences =>
          rw [if_neg (by simp), exists_decisive_cons_of_not_branches hbranch, ← ih (offset + 1)]
          rfl
    · have hprefix : ¬probe.isPrefixOf (b :: text) = true := fun h =>
        hfront (List.isPrefixOf_iff_prefix.mp h)
      rw [visits, if_neg hprefix, exists_decisive_cons_of_not_probeAt hfront]
      exact ih (offset + 1)

/-- The text of a probe has twelve digits. -/
theorem length_utf8_probe (selector : Selector) : (Text.utf8 (probe selector)).length = 12 := by
  rw [probe, Hex.length_utf8_encode]
  rfl

/-- A probe is not empty. -/
theorem utf8_probe_ne_nil (selector : Selector) : Text.utf8 (probe selector) ≠ [] := by
  rw [← List.length_pos_iff, length_utf8_probe]
  decide

/-- A selector occurs in a text exactly when the text has a decisive offset for its probe. -/
theorem occurs_eq_true_iff (text : String) (selector : Selector) (strategy : Strategy) :
    occurs text selector strategy = true ↔
      ∃ offset, Decisive (Text.utf8 (probe selector)) (Text.utf8 text) strategy offset :=
  any_branches_visits_iff (utf8_probe_ne_nil selector) strategy 0 (Text.utf8 text)

end DispatchScan.Dispatch
