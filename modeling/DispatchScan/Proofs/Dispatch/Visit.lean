import DispatchScan.Proofs.Dispatch.Occurrence

/-!
# The probes that a scan looks at

A scan passes over the bytes at which no probe starts, so its visits are told by the offsets of the
probes alone. Main statement: when every occurrence is examined these are the first offsets, up to
the first that a branch follows.
-/

namespace DispatchScan.Dispatch

/-- The offsets at which a probe starts in a text, in increasing order. -/
def offsets (probe text : List UInt8) : List Nat :=
  (List.range text.length).filter fun offset => probe.isPrefixOf (text.drop offset)

/-- Whether a branch follows a probe that starts at an offset. -/
def branchesBehind (probe text : List UInt8) (offset : Nat) : Bool :=
  branches (text.drop (offset + probe.length))

/-- The offsets of a probe up to the first that a branch follows, this one included; all of them
where no branch follows any. -/
def offsetsToCheck (probe text : List UInt8) : List Nat :=
  (offsets probe text).take ((offsets probe text).findIdx (branchesBehind probe text) + 1)

section Offsets

variable {probe text : List UInt8} {b : UInt8}

/-- Behind the first byte the offsets are those of the rest, and a probe at the front is one more. -/
theorem offsets_cons : offsets probe (b :: text) =
    if probe.isPrefixOf (b :: text) then 0 :: (offsets probe text).map (· + 1)
    else (offsets probe text).map (· + 1) := by
  have hrange : List.range (b :: text).length = 0 :: (List.range text.length).map Nat.succ :=
    List.range_succ_eq_map
  rw [offsets, hrange, List.filter_cons, List.filter_map]
  rfl

/-- Later branches are those of the rest. -/
theorem branchesBehind_cons_comp_succ :
    branchesBehind probe (b :: text) ∘ (· + 1) = branchesBehind probe text := by
  funext offset
  rw [Function.comp_apply, branchesBehind, Nat.add_right_comm, List.drop_succ_cons, branchesBehind]

/-- Without a probe at the front the offsets are those of the rest. -/
theorem offsetsToCheck_cons_of_not_prefix (hfront : ¬probe.isPrefixOf (b :: text) = true) :
    offsetsToCheck probe (b :: text) = (offsetsToCheck probe text).map (· + 1) := by
  rw [offsetsToCheck, offsets_cons, if_neg hfront, List.findIdx_map, branchesBehind_cons_comp_succ,
    ← List.map_take, offsetsToCheck]

/-- A probe at the front that a branch follows is the only one. -/
theorem offsetsToCheck_cons_of_branches (hfront : probe.isPrefixOf (b :: text) = true)
    (hbranches : branchesBehind probe (b :: text) 0 = true) :
    offsetsToCheck probe (b :: text) = [0] := by
  rw [offsetsToCheck, offsets_cons, if_pos hfront, List.findIdx_cons, hbranches]
  rfl

/-- A probe at the front that no branch follows comes before those of the rest. -/
theorem offsetsToCheck_cons_of_not_branches (hfront : probe.isPrefixOf (b :: text) = true)
    (hbranches : branchesBehind probe (b :: text) 0 = false) :
    offsetsToCheck probe (b :: text) = 0 :: (offsetsToCheck probe text).map (· + 1) := by
  rw [offsetsToCheck, offsets_cons, if_pos hfront, List.findIdx_cons, hbranches, cond_false,
    List.findIdx_map, branchesBehind_cons_comp_succ, List.take_succ_cons, ← List.map_take,
    offsetsToCheck]

end Offsets

section Visits

variable {probe text : List UInt8} {strategy : Strategy}

/-- Offsets in the rest of a text, counted from the front of the whole. -/
theorem map_add_map_succ (offset : Nat) (starts : List Nat) :
    (starts.map (· + 1)).map (offset + ·) = starts.map (offset + 1 + ·) := by
  rw [List.map_map]
  refine List.map_congr_left fun start _ => ?_
  rw [Function.comp_apply]
  omega

/-- When every occurrence is examined, a scan looks at the probes up to the first check. -/
theorem map_start_visits (probe : List UInt8) (offset : Nat) (text : List UInt8) :
    (visits probe .allOccurrences offset text).map Visit.start =
      (offsetsToCheck probe text).map (offset + ·) := by
  induction text generalizing offset with
  | nil => rfl
  | cons b text ih =>
    have hzero : branchesBehind probe (b :: text) 0 = branches ((b :: text).drop probe.length) := by
      rw [branchesBehind, Nat.zero_add]
    by_cases hprefix : probe.isPrefixOf (b :: text) = true
    · rw [visits, if_pos hprefix, ← hzero]
      cases hbranches : branchesBehind probe (b :: text) 0 with
      | true =>
        rw [if_pos (Or.inl rfl), offsetsToCheck_cons_of_branches hprefix hbranches]
        rfl
      | false =>
        rw [if_neg (by simp), List.map_cons, ih,
          offsetsToCheck_cons_of_not_branches hprefix hbranches, List.map_cons, map_add_map_succ]
        rfl
    · rw [visits, if_neg hprefix, ih, offsetsToCheck_cons_of_not_prefix hprefix, map_add_map_succ]

/-- A scan looks at no more probes than there are. -/
theorem length_visits_le (probe : List UInt8) (strategy : Strategy) (offset : Nat)
    (text : List UInt8) :
    (visits probe strategy offset text).length ≤ (offsets probe text).length := by
  induction text generalizing offset with
  | nil => exact Nat.le_refl _
  | cons b text ih =>
    have hrest := ih (offset + 1)
    rw [visits, offsets_cons]
    split
    · dsimp only
      split
      · simp only [List.length_cons, List.length_nil, List.length_map]
        omega
      · simp only [List.length_cons, List.length_map]
        omega
    · rw [List.length_map]
      exact hrest

/-- A scan passes over the bytes in front of the first probe. -/
theorem visits_eq_of_not_probeAt (count : Nat) (offset : Nat)
    (h : ∀ earlier < count, ¬ProbeAt probe text earlier) :
    visits probe strategy offset text =
      visits probe strategy (offset + count) (text.drop count) := by
  induction count generalizing offset text with
  | zero => rfl
  | succ count ih =>
    cases text with
    | nil => rfl
    | cons b text =>
      have hprefix : ¬probe.isPrefixOf (b :: text) = true := fun hfront =>
        h 0 (Nat.succ_pos count) (List.isPrefixOf_iff_prefix.mp hfront)
      have hrest : ∀ earlier < count, ¬ProbeAt probe text earlier := fun earlier hlt =>
        h (earlier + 1) (Nat.succ_lt_succ hlt)
      rw [visits, if_neg hprefix, ih (offset + 1) hrest, List.drop_succ_cons, Nat.add_right_comm]
      rfl

/-- Without a probe there is nothing to look at. -/
theorem visits_eq_nil (h : ∀ start, ¬ProbeAt probe text start) (offset : Nat) :
    visits probe strategy offset text = [] := by
  rw [visits_eq_of_not_probeAt text.length offset fun start _ => h start, List.drop_length]
  rfl

/-- A probe at the front is looked at, and when it does not decide the scan goes on behind its first
byte. -/
theorem visits_eq_of_probeAt (hprobe : probe ≠ []) (h : ProbeAt probe text 0) (offset : Nat) :
    visits probe strategy offset text =
      if branches (text.drop probe.length) = true ∨ strategy = .firstOccurrence then
        [⟨offset, branches (text.drop probe.length)⟩]
      else ⟨offset, branches (text.drop probe.length)⟩ ::
        visits probe strategy (offset + 1) (text.drop 1) := by
  cases text with
  | nil => exact absurd h (not_probeAt_nil hprobe 0)
  | cons b text =>
    have hprefix : probe.isPrefixOf (b :: text) = true := List.isPrefixOf_iff_prefix.mpr h
    rw [visits, if_pos hprefix]
    rfl

end Visits

end DispatchScan.Dispatch
