import DispatchScan.Proofs.Json.Record

/-!
# Members by key

A record asks what stands at its keys, and neither in which order nor what stands at other keys. So
members may be put into another order, and members at other keys may come and go. Main statement: if
what stands at a key changes only the part of the state that belongs to it, the members of an object
are updates to the state that they give as a whole.
-/

namespace DispatchScan.Json

/-- The texts of the values at a key, in order. -/
def valuesAt (key : String) (members : List (String × List Char)) : List (List Char) :=
  (members.filter fun m => m.1 == key).map Prod.snd

/-- What is given at a key that occurs at most once: nothing if it does not occur, and otherwise
what its value gives. -/
def HoldsAt {α : Type} (key : String) (gives : α → List Char → Prop)
    (members : List (String × List Char)) : Option α → Prop
  | none => valuesAt key members = []
  | some x => ∃ value, valuesAt key members = [value] ∧ gives x value

/-- Members that say the same at some keys: they stand in another order, and there are more or fewer
members at other keys. -/
inductive Rearranged (keys : List String) :
    List (String × List Char) → List (String × List Char) → Prop where
  /-- Any order will do. -/
  | perm {members others : List (String × List Char)} (h : members.Perm others) :
    Rearranged keys members others
  /-- Any value may be added at another key. -/
  | add {key : String} {value : List Char} {members : List (String × List Char)} (hkey : key ∉ keys)
    (hvalue : IsValue value) : Rearranged keys members ((key, value) :: members)
  /-- A member at another key may be removed. -/
  | remove {key : String} {value : List Char} {members : List (String × List Char)}
    (hkey : key ∉ keys) : Rearranged keys ((key, value) :: members) members
  /-- One change follows the other. -/
  | trans {members others more : List (String × List Char)}
    (hfirst : Rearranged keys members others) (hnext : Rearranged keys others more) :
    Rearranged keys members more

variable {α : Type} {key other : String} {value : List Char} {gives : α → List Char → Prop}
  {members others : List (String × List Char)} {x? : Option α}

/-! ## Values at a key -/

/-- The first value at a key stands first. -/
theorem valuesAt_cons_self (key : String) (value : List Char)
    (members : List (String × List Char)) :
    valuesAt key ((key, value) :: members) = value :: valuesAt key members := by
  simp only [valuesAt, List.filter_cons, beq_self_eq_true, if_true, List.map_cons]

/-- A member at another key does not matter. -/
theorem valuesAt_cons_of_ne (h : other ≠ key) :
    valuesAt key ((other, value) :: members) = valuesAt key members := by
  simp only [valuesAt, List.filter_cons, beq_eq_false_iff_ne.mpr h, Bool.false_eq_true, if_false]

/-- A key that does not occur does not occur behind the first member. -/
theorem valuesAt_eq_nil_of_cons {m : String × List Char} (h : valuesAt key (m :: members) = []) :
    valuesAt key members = [] := by
  obtain ⟨other, value⟩ := m
  by_cases hkey : other = key
  · rw [hkey, valuesAt_cons_self] at h
    cases h
  · rwa [valuesAt_cons_of_ne hkey] at h

/-- There are as many values at a key as the key occurs. -/
theorem length_valuesAt (key : String) (members : List (String × List Char)) :
    (valuesAt key members).length = (members.map Prod.fst).count key := by
  rw [valuesAt, List.length_map, List.count, List.countP_map, List.countP_eq_length_filter]
  rfl

/-- The value of a member is among those at its key. -/
theorem mem_valuesAt (h : (key, value) ∈ members) : value ∈ valuesAt key members :=
  List.mem_map.mpr ⟨(key, value), List.mem_filter.mpr ⟨h, beq_self_eq_true key⟩, rfl⟩

/-- The order of the members does not matter to the values at a key that occurs at most once. -/
theorem HoldsAt.perm (h : HoldsAt key gives members x?) (hperm : members.Perm others) :
    HoldsAt key gives others x? := by
  have hvalues : (valuesAt key members).Perm (valuesAt key others) := (hperm.filter _).map _
  cases x? with
  | none => exact (h ▸ hvalues).nil_eq.symm
  | some x =>
    obtain ⟨value, heq, hgives⟩ := h
    rw [heq, List.singleton_perm] at hvalues
    exact ⟨value, hvalues.symm, hgives⟩

/-- A member at the key gives what is given at the key, and no other member does. -/
theorem HoldsAt.cons_self (h : HoldsAt key gives ((key, value) :: members) x?) :
    ∃ x, x? = some x ∧ gives x value ∧ valuesAt key members = [] := by
  cases x? with
  | none =>
    rw [HoldsAt, valuesAt_cons_self] at h
    cases h
  | some x =>
    obtain ⟨found, heq, hgives⟩ := h
    rw [valuesAt_cons_self] at heq
    obtain ⟨rfl, hnil⟩ := List.cons.inj heq
    exact ⟨x, rfl, hgives, hnil⟩

/-- A member at another key gives nothing. -/
theorem holdsAt_cons_of_ne (h : other ≠ key) :
    HoldsAt key gives ((other, value) :: members) x? ↔ HoldsAt key gives members x? := by
  cases x? with
  | none => rw [HoldsAt, HoldsAt, valuesAt_cons_of_ne h]
  | some x => rw [HoldsAt, HoldsAt, valuesAt_cons_of_ne h]

/-- Without members nothing is given. -/
theorem HoldsAt.eq_none (h : HoldsAt key gives [] x?) : x? = none := by
  cases x? with
  | none => rfl
  | some x =>
    obtain ⟨value, heq, -⟩ := h
    cases heq

/-- What a member gives is what is given at its key. -/
theorem HoldsAt.exists_of_mem (h : HoldsAt key gives members x?) (hmem : (key, value) ∈ members) :
    ∃ x, x? = some x ∧ gives x value := by
  have hvalue := mem_valuesAt hmem
  cases x? with
  | none =>
    rw [h] at hvalue
    cases hvalue
  | some x =>
    obtain ⟨found, heq, hgives⟩ := h
    rw [heq, List.mem_singleton] at hvalue
    exact ⟨x, rfl, hvalue ▸ hgives⟩

/-! ## Other orders and other keys -/

/-- What is given at the keys stays as it is. -/
theorem Rearranged.holdsAt {keys : List String} (h : Rearranged keys members others)
    (hkey : key ∈ keys) (hholds : HoldsAt key gives members x?) : HoldsAt key gives others x? := by
  induction h with
  | perm hperm => exact hholds.perm hperm
  | add hother _ => exact (holdsAt_cons_of_ne (ne_of_mem_of_not_mem hkey hother).symm).mpr hholds
  | remove hother => exact (holdsAt_cons_of_ne (ne_of_mem_of_not_mem hkey hother).symm).mp hholds
  | trans _ _ ihfirst ihnext => exact ihnext (ihfirst hholds)

/-- At other keys there are values as before. -/
theorem Rearranged.forall_isValue {keys : List String} (h : Rearranged keys members others)
    (hvalues : ∀ m ∈ members, m.1 ∉ keys → IsValue m.2) :
    ∀ m ∈ others, m.1 ∉ keys → IsValue m.2 := by
  induction h with
  | perm hperm => exact fun m hm => hvalues m (hperm.mem_iff.mpr hm)
  | add _ hvalue => exact List.forall_mem_cons.mpr ⟨fun _ => hvalue, hvalues⟩
  | remove _ => exact (List.forall_mem_cons.mp hvalues).2
  | trans _ _ ihfirst ihnext => exact ihnext (ihfirst hvalues)

/-! ## Updates from members -/

namespace Reader

/-- Members are updates to the state that they give as a whole, if each member at the key of a field
occurs once and the value read for it can be given up behind it. -/
theorem updates_of_given {σ γ : Type} {fields : List (Field σ)}
    (isIn : γ → List (String × List Char) → Prop) {applyTo : γ → σ → σ}
    (hnil : ∀ g s, isIn g [] → applyTo g s = s)
    (hunknown : ∀ g key value members, isIn g ((key, value) :: members) →
      field? fields key = none → isIn g members)
    (hknown : ∀ g key value members field s, isIn g ((key, value) :: members) →
      field? fields key = some field → valuesAt key members = [] ∧ ∃ left s₁,
        ReadsAs (field.read s) value s₁ ∧ isIn left members ∧ applyTo left s₁ = applyTo g s)
    {g : γ} {members : List (String × List Char)} (h : isIn g members) (s : σ) {seen : List String}
    (hseen : ∀ key ∈ seen, valuesAt key members = []) :
    Updates ReadsAs fields seen s members (applyTo g s) := by
  induction members generalizing g s seen with
  | nil =>
    rw [hnil g s h]
    exact .nil seen s
  | cons m members ih =>
    obtain ⟨key, value⟩ := m
    have hseen' : ∀ key ∈ seen, valuesAt key members = [] :=
      fun other hother => valuesAt_eq_nil_of_cons (hseen other hother)
    cases hfield : field? fields key with
    | none => exact .cons (.unknown hfield) (ih (hunknown g key value members h hfield) s hseen')
    | some field =>
      obtain ⟨hnone, left, s₁, hread, hleft, happly⟩ := hknown g key value members field s h hfield
      have hnew : key ∉ seen := by
        intro hmem
        have hempty := hseen key hmem
        rw [valuesAt_cons_self] at hempty
        cases hempty
      rw [← happly]
      exact .cons (.known hfield hnew hread)
        (ih hleft s₁ (List.forall_mem_cons.mpr ⟨hnone, hseen'⟩))

/-- A field that updates were made for does not occur twice. -/
theorem Updates.length_valuesAt_le_one {σ : Type} {accepts : Reader σ → List Char → σ → Prop}
    {fields : List (Field σ)} {s s' : σ} {members : List (String × List Char)}
    (h : Updates accepts fields [] s members s') {key : String}
    (hkey : key ∈ fields.map Field.key) : (valuesAt key members).length ≤ 1 := by
  have hsome : (field? fields key).isSome = true := by
    cases hfield : field? fields key with
    | none => exact absurd hkey (field?_eq_none_iff.mp hfield)
    | some field => rfl
  have hcount := List.nodup_iff_count_le_one.mp (h.nodup List.nodup_nil) key
  rw [List.nil_append, List.count_filter (a := key) hsome] at hcount
  rw [length_valuesAt]
  exact hcount

end Reader

end DispatchScan.Json
