/-!
# Results and refusals

A computation that may be refused gives a result or a reason. What a changed result says about the
computation behind it, and how the first bad element of a list is found from its front.
-/

namespace DispatchScan

variable {ε α β : Type}

/-- A changed result comes from a result. -/
theorem map_eq_ok_iff {f : α → β} {x : Except ε α} {b : β} :
    x.map f = .ok b ↔ ∃ a, x = .ok a ∧ f a = b := by
  cases x <;> simp [Except.map]

/-- Changing the result keeps the reason. -/
theorem map_eq_error_iff {f : α → β} {x : Except ε α} {e : ε} :
    x.map f = .error e ↔ x = .error e := by
  cases x <;> simp [Except.map]

/-- Behind a good element the search for the first bad one goes on. -/
theorem exists_first_cons_iff_of_good (good : α → Prop) (bad : Nat → α → Prop) {x : α}
    (hgood : good x) (hbad : ¬bad 0 x) (xs : List α) :
    (∃ before y after, x :: xs = before ++ y :: after ∧ (∀ earlier ∈ before, good earlier) ∧
        bad before.length y) ↔
      ∃ before y after, xs = before ++ y :: after ∧ (∀ earlier ∈ before, good earlier) ∧
        bad (before.length + 1) y := by
  constructor
  · rintro ⟨before, y, after, hsplit, hbefore, hy⟩
    cases before with
    | nil =>
      obtain ⟨rfl, -⟩ := List.cons.inj hsplit
      exact absurd hy hbad
    | cons first before =>
      obtain ⟨rfl, rfl⟩ := List.cons.inj hsplit
      exact ⟨before, y, after, rfl, (List.forall_mem_cons.mp hbefore).2, hy⟩
  · rintro ⟨before, y, after, rfl, hbefore, hy⟩
    exact ⟨x :: before, y, after, rfl, List.forall_mem_cons.mpr ⟨hgood, hbefore⟩, hy⟩

/-- An element that is not good is the first bad one or there is none. -/
theorem exists_first_cons_iff_of_not_good (good : α → Prop) (bad : Nat → α → Prop) {x : α}
    (hgood : ¬good x) (xs : List α) :
    (∃ before y after, x :: xs = before ++ y :: after ∧ (∀ earlier ∈ before, good earlier) ∧
        bad before.length y) ↔ bad 0 x := by
  constructor
  · rintro ⟨before, y, after, hsplit, hbefore, hy⟩
    cases before with
    | nil =>
      obtain ⟨rfl, -⟩ := List.cons.inj hsplit
      exact hy
    | cons first before =>
      obtain ⟨rfl, -⟩ := List.cons.inj hsplit
      exact absurd (hbefore x List.mem_cons_self) hgood
  · intro hx
    exact ⟨[], x, xs, rfl, nofun, hx⟩

end DispatchScan
