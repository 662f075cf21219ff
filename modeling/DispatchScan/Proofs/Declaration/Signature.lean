import DispatchScan.Declaration
import Mathlib.Data.List.Infix

/-!
# What a signature tells

A signature joins a name and types without marking where a type ends. It still tells them apart when
each type closes the parentheses it opens and has its commas inside of them, for then the first
comma outside of them ends the type. Main statement: such functions have one signature exactly when
they have the same name and the same types, and the names of parameters never matter.
-/

namespace DispatchScan

namespace Text

/-- No front of a text closes more parentheses than it opens, and the whole text closes them all. -/
structure IsBalanced (cs : List Char) : Prop where
  /-- Nothing is closed that was not opened. -/
  opened : ∀ front, front <+: cs → front.count ')' ≤ front.count '('
  /-- Everything is closed. -/
  closed : cs.count ')' = cs.count '('

/-- Each comma stands where a parenthesis is open. -/
def CommasEnclosed (cs : List Char) : Prop :=
  ∀ front, front ++ [','] <+: cs → front.count ')' < front.count '('

instance : DecidablePred IsBalanced := fun cs =>
  decidable_of_iff ((∀ front ∈ cs.inits, front.count ')' ≤ front.count '(') ∧
    cs.count ')' = cs.count '(') <| by
      simp only [List.mem_inits]
      exact ⟨fun h => ⟨h.1, h.2⟩, fun h => ⟨h.opened, h.closed⟩⟩

instance : DecidablePred CommasEnclosed := fun cs =>
  decidable_of_iff (∀ front ∈ cs.inits, front ++ [','] <+: cs →
    front.count ')' < front.count '(') <| by
      simp only [List.mem_inits]
      exact ⟨fun h front hcomma => h front ((List.prefix_append front [',']).trans hcomma) hcomma,
        fun h front _ => h front⟩

/-- The items after the first one, each behind a comma. -/
def commaTail (items : List (List Char)) : List Char :=
  items.flatMap fun item => ',' :: item

/-- Joined items are the first one and a tail. -/
theorem intercalate_cons_eq_append_commaTail (item : List Char) (items : List (List Char)) :
    [','].intercalate (item :: items) = item ++ commaTail items := by
  induction items generalizing item with
  | nil => rw [List.intercalate_singleton, commaTail, List.flatMap_nil, List.append_nil]
  | cons next items ih =>
    rw [List.intercalate_cons_cons, ih, commaTail, commaTail, List.flatMap_cons, List.append_assoc,
      List.cons_append, List.cons_append, List.nil_append]

/-- A tail that is not empty starts with a comma. -/
theorem eq_comma_of_commaTail_eq {items : List (List Char)} {c : Char} {cs : List Char}
    (h : commaTail items = c :: cs) : c = ',' := by
  cases items with
  | nil => cases h
  | cons item items =>
    rw [commaTail, List.flatMap_cons, List.cons_append, List.cons.injEq] at h
    exact h.1.symm

/-- A text with enclosed commas does not go on with a tail behind a balanced front. -/
theorem eq_nil_of_commaTail_eq {cs more rest : List Char} {items : List (List Char)}
    (hclosed : cs.count ')' = cs.count '(') (hcommas : CommasEnclosed (cs ++ more))
    (htail : commaTail items = more ++ rest) : more = [] := by
  cases more with
  | nil => rfl
  | cons c more =>
    have hc : c = ',' := eq_comma_of_commaTail_eq htail
    have hprefix : cs ++ [','] <+: cs ++ c :: more := by
      rw [hc]
      exact (List.prefix_append_right_inj cs).mpr (List.prefix_append [','] more)
    have hopen := hcommas cs hprefix
    omega

/-- A text that an item can be in a joined text without hiding where it ends. -/
structure IsItem (cs : List Char) : Prop where
  /-- It holds something, so that one empty item is not mistaken for none. -/
  ne_nil : cs ≠ []
  /-- It closes the parentheses that it opens. -/
  balanced : IsBalanced cs
  /-- Its commas are inside of them. -/
  commas : CommasEnclosed cs

instance : DecidablePred IsItem := fun cs =>
  decidable_of_iff (cs ≠ [] ∧ IsBalanced cs ∧ CommasEnclosed cs)
    ⟨fun h => ⟨h.1, h.2.1, h.2.2⟩, fun h => ⟨h.ne_nil, h.balanced, h.commas⟩⟩

/-- Two items with tails behind them that make one text are the same item. -/
theorem IsItem.eq_of_append_eq {cs ds : List Char} (hcs : IsItem cs) (hds : IsItem ds)
    {items others : List (List Char)} (h : cs ++ commaTail items = ds ++ commaTail others) :
    cs = ds ∧ commaTail items = commaTail others := by
  -- The longer item continues the shorter one by the front of a tail.
  rcases List.append_eq_append_iff.mp h with ⟨more, hmore, htail⟩ | ⟨more, hmore, htail⟩
  · obtain rfl := eq_nil_of_commaTail_eq hcs.balanced.closed (hmore ▸ hds.commas) htail
    exact ⟨by rw [hmore, List.append_nil], htail⟩
  · obtain rfl := eq_nil_of_commaTail_eq hds.balanced.closed (hmore ▸ hcs.commas) htail
    exact ⟨by rw [hmore, List.append_nil], htail.symm⟩

/-- Tails of items tell the items. -/
theorem commaTail_injective {items others : List (List Char)} (hitems : ∀ cs ∈ items, IsItem cs)
    (hothers : ∀ cs ∈ others, IsItem cs) (h : commaTail items = commaTail others) :
    items = others := by
  induction items generalizing others with
  | nil =>
    cases others with
    | nil => rfl
    | cons other others => exact absurd h (by simp [commaTail])
  | cons item items ih =>
    cases others with
    | nil => exact absurd h (by simp [commaTail])
    | cons other others =>
      rw [List.forall_mem_cons] at hitems hothers
      have hrest : item ++ commaTail items = other ++ commaTail others := by
        simpa [commaTail] using h
      obtain ⟨hfirst, htail⟩ := hitems.1.eq_of_append_eq hothers.1 hrest
      rw [hfirst, ih hitems.2 hothers.2 htail]

/-- Joined items tell the items, none at all included. -/
theorem intercalate_injective {items others : List (List Char)} (hitems : ∀ cs ∈ items, IsItem cs)
    (hothers : ∀ cs ∈ others, IsItem cs)
    (h : [','].intercalate items = [','].intercalate others) : items = others := by
  cases items with
  | nil =>
    cases others with
    | nil => rfl
    | cons other others =>
      rw [intercalate_cons_eq_append_commaTail] at h
      have hother := (hothers other List.mem_cons_self).ne_nil
      exact absurd (List.append_eq_nil_iff.mp h.symm).1 hother
  | cons item items =>
    rw [intercalate_cons_eq_append_commaTail] at h
    cases others with
    | nil =>
      have hitem := (hitems item List.mem_cons_self).ne_nil
      exact absurd (List.append_eq_nil_iff.mp h).1 hitem
    | cons other others =>
      rw [intercalate_cons_eq_append_commaTail] at h
      rw [List.forall_mem_cons] at hitems hothers
      obtain ⟨hfirst, htail⟩ := hitems.1.eq_of_append_eq hothers.1 h
      rw [hfirst, commaTail_injective hitems.2 hothers.2 htail]

/-- A text is known by what stands in front of a mark that it does not hold. -/
theorem append_cons_inj_of_notMem {mark : Char} {cs ds rest other : List Char} (hcs : mark ∉ cs)
    (hds : mark ∉ ds) (h : cs ++ mark :: rest = ds ++ mark :: other) : cs = ds ∧ rest = other := by
  induction cs generalizing ds with
  | nil =>
    cases ds with
    | nil => exact ⟨rfl, (List.cons.inj h).2⟩
    | cons d ds => exact absurd ((List.cons.inj h).1 ▸ List.mem_cons_self) hds
  | cons c cs ih =>
    cases ds with
    | nil => exact absurd ((List.cons.inj h).1 ▸ List.mem_cons_self) hcs
    | cons d ds =>
      rw [List.mem_cons, not_or] at hcs hds
      obtain ⟨hfirst, htail⟩ := List.cons.inj h
      obtain ⟨hfront, hrest⟩ := ih hcs.2 hds.2 htail
      exact ⟨by rw [hfirst, hfront], hrest⟩

end Text

namespace Declaration

/-- The types of the parameters, in order. -/
def types (d : Declaration) : List String :=
  d.inputs.map Param.type

/-- The characters of a signature. -/
theorem toList_signature (d : Declaration) :
    d.signature.toList
      = d.name.toList ++ '(' :: ([','].intercalate (d.types.map String.toList) ++ [')']) := by
  have htext : d.signature = d.name ++ "(" ++ ",".intercalate d.types ++ ")" := rfl
  rw [htext, String.toList_append, String.toList_append, String.toList_append,
    String.toList_intercalate, List.append_assoc, List.append_assoc]
  rfl

/-- A name without an opening parenthesis, and types that are items of a joined text. -/
structure IsLegible (d : Declaration) : Prop where
  /-- The parameters start at the first parenthesis. -/
  name : '(' ∉ d.name.toList
  /-- Each type ends at the first comma outside of its parentheses. -/
  types : ∀ type ∈ d.types, Text.IsItem type.toList

/-- The same name and the same types make the same signature, whatever the parameters' names. -/
theorem signature_congr {d e : Declaration} (hname : d.name = e.name) (htypes : d.types = e.types) :
    d.signature = e.signature := by
  rw [← String.toList_inj, toList_signature, toList_signature, hname, htypes]

/-- A signature tells the name and the types. -/
theorem IsLegible.eq_of_signature_eq {d e : Declaration} (hd : d.IsLegible) (he : e.IsLegible)
    (h : d.signature = e.signature) : d.name = e.name ∧ d.types = e.types := by
  rw [← String.toList_inj, toList_signature, toList_signature] at h
  obtain ⟨hname, hrest⟩ := Text.append_cons_inj_of_notMem hd.name he.name h
  have hjoined := List.append_cancel_right hrest
  have hitems : d.types.map String.toList = e.types.map String.toList :=
    Text.intercalate_injective (List.forall_mem_map.mpr hd.types)
      (List.forall_mem_map.mpr he.types) hjoined
  have htoList : Function.Injective String.toList := fun s t => String.toList_inj.mp
  exact ⟨String.toList_inj.mp hname, List.map_injective_iff.mpr htoList hitems⟩

/-- Functions whose names open no parenthesis and whose types are not empty, are balanced and have
their commas inside of parentheses share a signature exactly when they share the name and the list
of types. Other names of the parameters change neither the signature nor the selector. -/
theorem signature_eq_iff :
    (∀ d e : Declaration, d.IsLegible → e.IsLegible →
      (d.signature = e.signature ↔ d.name = e.name ∧ d.types = e.types)) ∧
    ∀ (d : Declaration) (inputs : List Param), inputs.map Param.type = d.types →
      ({ d with inputs } : Declaration).signature = d.signature ∧
        ({ d with inputs } : Declaration).selector = d.selector := by
  refine ⟨fun d e hd he => ⟨hd.eq_of_signature_eq he, fun h => signature_congr h.1 h.2⟩, ?_⟩
  intro d inputs htypes
  have hsignature : ({ d with inputs } : Declaration).signature = d.signature :=
    signature_congr rfl htypes
  exact ⟨hsignature, by rw [selector, hsignature, selector]⟩

/-- Arrays of a tuple against a tuple and an array: commas inside of a type keep two functions
apart, and names of parameters do not. -/
theorem signature_eq_iff_tuples :
    let d : Declaration := ⟨"pay", [⟨"(uint256,address)[]", some "to"⟩, ⟨"bytes", none⟩], by decide⟩
    let e : Declaration := ⟨"pay", [⟨"(uint256,address)", none⟩, ⟨"bytes[]", none⟩], by decide⟩
    let inputs : List Param := [⟨"(uint256,address)[]", none⟩, ⟨"bytes", some "data"⟩]
    d.IsLegible ∧ e.IsLegible ∧ d.signature ≠ e.signature ∧
      ({ d with inputs } : Declaration).signature = d.signature := by
  intro d e inputs
  have hd : d.IsLegible := ⟨by decide, by decide⟩
  have he : e.IsLegible := ⟨by decide, by decide⟩
  refine ⟨hd, he, fun h => ?_, (signature_eq_iff.2 d inputs rfl).1⟩
  exact absurd ((signature_eq_iff.1 d e hd he).mp h).2 (by decide)

/-- A comma outside of parentheses makes one type look like two. -/
example : (⟨"f", [⟨"a,b", none⟩], by decide⟩ : Declaration).signature
    = (⟨"f", [⟨"a", none⟩, ⟨"b", none⟩], by decide⟩ : Declaration).signature := by
  decide

end Declaration

end DispatchScan
