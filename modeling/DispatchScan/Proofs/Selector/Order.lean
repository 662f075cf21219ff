import DispatchScan.Proofs.Hex.Reading
import DispatchScan.Proofs.Selector
import Mathlib.Data.Nat.Digits.Lemmas
import Mathlib.Data.String.Basic

/-!
# The views of a selector

The bytes, the number and the text of a selector name the same thing and are ordered alike: bytes
and digits are compared from the most significant one on, which is how numbers are compared. Main
statement: the views determine each other and give one order, so a list of selectors is sorted in
one way only, whichever view it is sorted by.
-/

namespace DispatchScan

/-- Comparing the more significant parts first is comparing the numbers made of both parts. -/
theorem compare_then_compare {x y m n base : Nat} (hm : m < base) (hn : n < base) :
    (compare x y).then (compare m n) = compare (x * base + m) (y * base + n) := by
  rcases Nat.lt_trichotomy x y with hlt | heq | hgt
  · have hstep : (x + 1) * base ≤ y * base := Nat.mul_le_mul_right base hlt
    have hsum : x * base + m < y * base + n := by
      rw [Nat.add_mul, Nat.one_mul] at hstep
      omega
    rw [Nat.compare_eq_lt.mpr hlt, Nat.compare_eq_lt.mpr hsum, Ordering.lt_then]
  · have hsum : compare (x * base + m) (x * base + n) = compare m n := by
      simp only [Nat.compare_eq_ite_lt, Nat.add_lt_add_iff_left]
    rw [← heq, Nat.compare_eq_eq.mpr rfl, Ordering.eq_then, hsum]
  · have hstep : (y + 1) * base ≤ x * base := Nat.mul_le_mul_right base hgt
    have hsum : y * base + n < x * base + m := by
      rw [Nat.add_mul, Nat.one_mul] at hstep
      omega
    rw [Nat.compare_eq_gt.mpr hgt, Nat.compare_eq_gt.mpr hsum, Ordering.gt_then]

/-- Bytes are compared by their values. -/
theorem compare_byte (a b : UInt8) : compare a b = compare a.toNat b.toNat := by
  simp only [compare, compareOfLessAndEq, UInt8.lt_iff_toNat_lt, ← UInt8.toNat_inj]

namespace Hex

/-- The number that digits spell, the most significant one first. -/
def value (ds : List Nat) : Nat := Nat.ofDigits 16 ds.reverse

/-- The first digit counts most. -/
theorem value_cons (d : Nat) (ds : List Nat) : value (d :: ds) = d * 16 ^ ds.length + value ds := by
  rw [value, List.reverse_cons, Nat.ofDigits_append, List.length_reverse, Nat.ofDigits_singleton,
    value]
  ring

/-- Digits spell no more than their number allows. -/
theorem value_lt {ds : List Nat} (h : ∀ d ∈ ds, d < 16) : value ds < 16 ^ ds.length := by
  have hlt := Nat.ofDigits_lt_base_pow_length (b := 16) (l := ds.reverse) (by decide)
    fun d hd => h d (List.mem_reverse.mp hd)
  rwa [List.length_reverse] at hlt

/-- Digits as characters are ordered as their values are. -/
theorem digitChar_lt_and_inj : ∀ d < 16, ∀ e < 16,
    (Nat.digitChar d < Nat.digitChar e ↔ d < e) ∧ (Nat.digitChar d = Nat.digitChar e ↔ d = e) := by
  decide

/-- Equally many digits are ordered by their characters as the numbers that they spell are. -/
theorem map_digitChar_lt_iff {ds es : List Nat} (hlength : ds.length = es.length)
    (hds : ∀ d ∈ ds, d < 16) (hes : ∀ e ∈ es, e < 16) :
    ds.map Nat.digitChar < es.map Nat.digitChar ↔ value ds < value es := by
  induction ds generalizing es with
  | nil =>
    obtain rfl := List.length_eq_zero_iff.mp hlength.symm
    exact iff_of_false (List.lt_irrefl _) (Nat.lt_irrefl _)
  | cons d ds ih =>
    cases es with
    | nil => cases hlength
    | cons e es =>
      rw [List.forall_mem_cons] at hds hes
      have htail : ds.length = es.length := Nat.succ_inj.mp hlength
      obtain ⟨hlt, heq⟩ := digitChar_lt_and_inj d hds.1 e hes.1
      have hds' := value_lt hds.2
      have hes' := value_lt hes.2
      have hcompare := compare_then_compare (x := d) (y := e) hds' (htail ▸ hes')
      have hnumber : value (d :: ds) < value (e :: es) ↔ d < e ∨ d = e ∧ value ds < value es := by
        rw [value_cons, value_cons, ← htail, ← Nat.compare_eq_lt, ← hcompare, Ordering.then_eq_lt,
          Nat.compare_eq_lt, Nat.compare_eq_eq, Nat.compare_eq_lt]
      rw [List.map_cons, List.map_cons, List.cons_lt_cons_iff, hlt, heq, ih htail hds.2 hes.2,
        hnumber]

end Hex

/-- A number with so many digits at most, padded with zeros, is the number without its last digit,
padded, and this digit. -/
theorem leftpad_toDigits_succ {size n : Nat} (hsize : 0 < size) :
    List.leftpad (size + 1) '0' (Nat.toDigits 16 n)
      = List.leftpad size '0' (Nat.toDigits 16 (n / 16)) ++ [Nat.digitChar (n % 16)] := by
  by_cases hn : n < 16
  · have hzero : Nat.toDigits 16 0 = List.replicate 1 '0' := rfl
    have hpad : size - 1 + 1 = size := by omega
    rw [Nat.div_eq_of_lt hn, Nat.mod_eq_of_lt hn, Nat.toDigits_of_lt_base hn, hzero, List.leftpad,
      List.leftpad, List.length_replicate, List.replicate_append_replicate, hpad]
    rfl
  · have hdigits : Nat.toDigits 16 n = Nat.toDigits 16 (n / 16) ++ [Nat.digitChar (n % 16)] := by
      rw [Nat.toDigits_eq_if (by decide), if_neg hn]
    rw [hdigits, List.leftpad, List.leftpad, List.length_append, List.length_singleton,
      Nat.add_sub_add_right, List.append_assoc]

namespace Hex

/-- The padded digits of a byte are those that are written for it. -/
theorem leftpad_toDigits_byte (b : UInt8) :
    List.leftpad 2 '0' (Nat.toDigits 16 b.toNat) = ofByte b := by
  have hb := b.toNat_lt
  have hhigh : b.toNat / 16 < 16 := by omega
  rw [leftpad_toDigits_succ (by decide), Nat.toDigits_of_lt_base hhigh]
  rfl

/-- Two more digits are those of one more byte. -/
theorem leftpad_toDigits_add_byte {size n : Nat} (hsize : 0 < size) (b : UInt8) :
    List.leftpad (size + 2) '0' (Nat.toDigits 16 (n * 256 + b.toNat))
      = List.leftpad size '0' (Nat.toDigits 16 n) ++ ofByte b := by
  have hb := b.toNat_lt
  have hrest : (n * 256 + b.toNat) / 16 / 16 = n := by omega
  have hhigh : (n * 256 + b.toNat) / 16 % 16 = b.toNat / 16 := by omega
  have hlow : (n * 256 + b.toNat) % 16 = b.toNat % 16 := by omega
  rw [leftpad_toDigits_succ (by omega), leftpad_toDigits_succ hsize, hrest, hhigh, hlow,
    List.append_assoc]
  rfl

end Hex

namespace Selector

/-- The number of a selector has 32 bits. -/
theorem toNat_lt (x : Selector) : x.toNat < 4294967296 := by
  have hfirst := x.first.toNat_lt
  have hsecond := x.second.toNat_lt
  have hthird := x.third.toNat_lt
  have hfourth := x.fourth.toNat_lt
  rw [toNat]
  omega

/-- No bit of the number is lost in 32 bits. -/
theorem toNat_toUInt32 (x : Selector) : x.toUInt32.toNat = x.toNat := by
  rw [toUInt32, UInt32.toNat_ofNat', Nat.mod_eq_of_lt x.toNat_lt]

/-- Comparing byte by byte is comparing the numbers. -/
theorem order_eq_compare (a b : Selector) : order a b = compare a.toNat b.toNat := by
  rw [order, compare_byte, compare_byte, compare_byte, compare_byte, ← Ordering.then_assoc,
    ← Ordering.then_assoc, compare_then_compare a.second.toNat_lt b.second.toNat_lt,
    compare_then_compare a.third.toNat_lt b.third.toNat_lt,
    compare_then_compare a.fourth.toNat_lt b.fourth.toNat_lt]
  rfl

/-- The digits of a selector spell its number. -/
theorem value_nibbles (x : Selector) : Hex.value (Hex.nibbles x.bytes) = x.toNat := by
  have hnibbles : Hex.nibbles x.bytes = [x.first.toNat / 16, x.first.toNat % 16,
      x.second.toNat / 16, x.second.toNat % 16, x.third.toNat / 16, x.third.toNat % 16,
      x.fourth.toNat / 16, x.fourth.toNat % 16] := rfl
  have hnone : Hex.value [] = 0 := rfl
  rw [hnibbles, toNat]
  simp only [Hex.value_cons, List.length_cons, List.length_nil, hnone, Nat.reduceAdd, Nat.reducePow]
  omega

/-- Bytewise order is the order of the numbers. -/
theorem order_isLE_iff {a b : Selector} : (order a b).isLE = true ↔ a.toUInt32 ≤ b.toUInt32 := by
  rw [order_eq_compare, Nat.isLE_compare, UInt32.le_iff_toNat_le, toNat_toUInt32, toNat_toUInt32]

/-- Texts are ordered as the numbers are. -/
theorem text_lt_iff {a b : Selector} : a.text < b.text ↔ a.toUInt32 < b.toUInt32 := by
  have hlength : (Hex.nibbles a.bytes).length = (Hex.nibbles b.bytes).length := rfl
  rw [String.lt_iff_toList_lt, text, text, Hex.encode, Hex.encode, String.toList_ofList,
    String.toList_ofList, Hex.digits_eq_map_nibbles, Hex.digits_eq_map_nibbles,
    Hex.map_digitChar_lt_iff hlength (fun d => Hex.lt_of_mem_nibbles)
      (fun e => Hex.lt_of_mem_nibbles), value_nibbles, value_nibbles, UInt32.lt_iff_toNat_lt,
    toNat_toUInt32, toNat_toUInt32]

/-- The text is the number in eight digits. -/
theorem text_eq_leftpad (x : Selector) :
    x.text = String.ofList (List.leftpad 8 '0' (Nat.toDigits 16 x.toUInt32.toNat)) := by
  rw [toNat_toUInt32, toNat, Hex.leftpad_toDigits_add_byte (by decide),
    Hex.leftpad_toDigits_add_byte (by decide), Hex.leftpad_toDigits_add_byte (by decide),
    Hex.leftpad_toDigits_byte]
  rfl

/-- A selector is known by its number. -/
theorem toUInt32_inj {a b : Selector} : a.toUInt32 = b.toUInt32 ↔ a = b :=
  ⟨fun h => by rw [← ofUInt32_toUInt32 a, h, ofUInt32_toUInt32], fun h => congrArg toUInt32 h⟩

/-- A selector is known by its text. -/
theorem text_inj {a b : Selector} : a.text = b.text ↔ a = b := by
  constructor
  · intro h
    have hread := parse_text a
    rw [h, parse_text] at hread
    exact (Except.ok.inj hread).symm
  · exact congrArg text

/-- Texts are at most each other as the numbers are. -/
theorem text_le_iff {a b : Selector} : a.text ≤ b.text ↔ a.toUInt32 ≤ b.toUInt32 := by
  rw [← String.not_lt, text_lt_iff, UInt32.not_lt]

/-! ## Sorted lists -/

/-- Selectors in increasing order of their numbers. -/
def IsSorted (xs : List Selector) : Prop := xs.Pairwise fun a b => a.toUInt32 ≤ b.toUInt32

/-- There is one way to put selectors in order. -/
theorem IsSorted.eq_of_perm {xs ys : List Selector} (hxs : IsSorted xs) (hys : IsSorted ys)
    (h : xs.Perm ys) : xs = ys :=
  h.eq_of_pairwise
    (fun _ _ _ _ hab hba => toUInt32_inj.mp (UInt32.le_antisymm hab hba)) hxs hys

/-- Sorting by a view that orders selectors as their numbers do puts them in order. -/
theorem isSorted_mergeSort {le : Selector → Selector → Bool}
    (hle : ∀ a b, le a b = true ↔ a.toUInt32 ≤ b.toUInt32) (xs : List Selector) :
    IsSorted (xs.mergeSort le) := by
  have htrans : ∀ a b c, le a b = true → le b c = true → le a c = true := fun a b c hab hbc =>
    (hle a c).mpr (UInt32.le_trans ((hle a b).mp hab) ((hle b c).mp hbc))
  have htotal : ∀ a b, (le a b || le b a) = true := fun a b => by
    rw [Bool.or_eq_true, hle, hle]
    exact UInt32.le_total a.toUInt32 b.toUInt32
  exact (List.pairwise_mergeSort htrans htotal xs).imp fun h => (hle _ _).mp h

/-- Two such views sort alike. -/
theorem mergeSort_eq_sort {le : Selector → Selector → Bool}
    (hle : ∀ a b, le a b = true ↔ a.toUInt32 ≤ b.toUInt32) (xs : List Selector) :
    xs.mergeSort le = sort xs := by
  have hsort : (sort xs).Perm xs := List.mergeSort_perm xs _
  have hperm : (xs.mergeSort le).Perm (sort xs) := (List.mergeSort_perm xs le).trans hsort.symm
  exact (isSorted_mergeSort hle xs).eq_of_perm
    (isSorted_mergeSort (fun a b => order_isLE_iff) xs) hperm

/-- Selectors are ordered alike by their bytes, their numbers and their texts, and each view tells
them apart. Numbers and selectors correspond one to one, and the text is the number in eight digits,
the most significant one first. Hence sorting by any view gives the same list, which holds the same
selectors equally often, and no other arrangement of them is in order by any view. -/
theorem views_order_alike :
    (∀ a b : Selector, ((order a b).isLE = true ↔ a.toUInt32 ≤ b.toUInt32) ∧
      (a.toUInt32 ≤ b.toUInt32 ↔ a.text ≤ b.text)) ∧
    (∀ a b : Selector, (order a b = .eq ↔ a = b) ∧ (a = b ↔ a.toUInt32 = b.toUInt32) ∧
      (a = b ↔ a.text = b.text)) ∧
    (∀ x, ofUInt32 x.toUInt32 = x) ∧ (∀ n, (ofUInt32 n).toUInt32 = n) ∧
    (∀ x : Selector,
      x.text = String.ofList (List.leftpad 8 '0' (Nat.toDigits 16 x.toUInt32.toNat))) ∧
    ∀ xs : List Selector, (sort xs).Perm xs ∧
      (xs.mergeSort fun a b => decide (a.toUInt32 ≤ b.toUInt32)) = sort xs ∧
      (xs.mergeSort fun a b => decide (a.text ≤ b.text)) = sort xs ∧
      ∀ ys : List Selector, ys.Perm xs → (ys.Pairwise (fun a b => (order a b).isLE = true) ∨
        ys.Pairwise (fun a b => a.toUInt32 ≤ b.toUInt32) ∨
        ys.Pairwise (fun a b => a.text ≤ b.text)) → ys = sort xs := by
  have hsorted : ∀ xs, IsSorted (sort xs) := isSorted_mergeSort fun a b => order_isLE_iff
  refine ⟨fun a b => ⟨order_isLE_iff, text_le_iff.symm⟩, fun a b => ⟨?_, toUInt32_inj.symm,
    text_inj.symm⟩, ofUInt32_toUInt32, toUInt32_ofUInt32, text_eq_leftpad, fun xs => ?_⟩
  · rw [order_eq_compare, Nat.compare_eq_eq, ← toNat_toUInt32, ← toNat_toUInt32,
      UInt32.toNat_inj, toUInt32_inj]
  · have hperm : (sort xs).Perm xs := List.mergeSort_perm xs _
    refine ⟨hperm, mergeSort_eq_sort (fun a b => decide_eq_true_iff) xs,
      mergeSort_eq_sort (fun a b => decide_eq_true_iff.trans text_le_iff) xs, ?_⟩
    intro ys hys hview
    have hys' : IsSorted ys := by
      rcases hview with hbytes | hnumbers | htexts
      · exact hbytes.imp order_isLE_iff.mp
      · exact hnumbers
      · exact htexts.imp text_le_iff.mp
    exact hys'.eq_of_perm (hsorted xs) (hys.trans hperm.symm)

end Selector

end DispatchScan
