import DispatchScan.Proofs.Text.Ascii
import DispatchScan.Text.Blank

/-!
# White space around and inside of texts

Trimming takes off the white space at both ends and nothing else; deleting takes it off everywhere.
The two agree exactly where all white space stands around the text. Case plays no part in it: a
letter is no white space, and neither is the same letter in lowercase.
-/

namespace DispatchScan.Text

/-- Whether there is nothing but white space. -/
def AllBlank (cs : List Char) : Prop := ∀ c ∈ cs, isBlank c = true

/-- Whether there is no white space. -/
def NoBlank (cs : List Char) : Prop := ∀ c ∈ cs, isBlank c = false

instance : DecidablePred AllBlank := fun cs => List.decidableBAll (isBlank · = true) cs

instance : DecidablePred NoBlank := fun cs => List.decidableBAll (isBlank · = false) cs

/-- Whether there is white space neither at the start nor at the end. -/
structure Bounded (cs : List Char) : Prop where
  /-- The first character, if there is one, is no white space. -/
  first : ∀ c ∈ cs.head?, isBlank c = false
  /-- The last character, if there is one, is no white space. -/
  last : ∀ c ∈ cs.getLast?, isBlank c = false

/-- Whether white space stands in front and behind only. -/
def BlankOnlyAround (cs : List Char) : Prop :=
  ∃ before body after, cs = before ++ body ++ after ∧ AllBlank before ∧ NoBlank body ∧
    AllBlank after

/-- Without white space there is none at the ends. -/
theorem NoBlank.bounded {cs : List Char} (h : NoBlank cs) : Bounded cs :=
  ⟨fun c hc => h c (List.mem_of_mem_head? hc), fun c hc => h c (List.mem_of_mem_getLast? hc)⟩

/-- Joined texts without white space at their ends have none at the ends. -/
theorem Bounded.append {front back : List Char} (hfront : Bounded front) (hback : Bounded back) :
    Bounded (front ++ back) := by
  constructor
  · intro c hc
    rw [List.head?_append, Option.mem_def, Option.or_eq_some_iff] at hc
    rcases hc with hc | ⟨-, hc⟩
    · exact hfront.first c hc
    · exact hback.first c hc
  · intro c hc
    rw [List.getLast?_append, Option.mem_def, Option.or_eq_some_iff] at hc
    rcases hc with hc | ⟨-, hc⟩
    · exact hback.last c hc
    · exact hfront.last c hc

/-- Dropping white space from the front stops at the first other character. -/
theorem dropWhile_append_of_allBlank {before rest : List Char} (hbefore : AllBlank before)
    (hfirst : ∀ c ∈ rest.head?, isBlank c = false) :
    (before ++ rest).dropWhile isBlank = rest := by
  rw [List.dropWhile_append_of_pos hbefore]
  cases rest with
  | nil => rfl
  | cons c cs => rw [List.dropWhile_cons, hfirst c rfl, if_neg Bool.false_ne_true]

/-- White space around a bounded text is trimmed. -/
theorem trimBlanks_append {before body after : List Char} (hbefore : AllBlank before)
    (hbody : Bounded body) (hafter : AllBlank after) :
    trimBlanks (before ++ body ++ after) = body := by
  have hback : (body ++ after).reverse.dropWhile isBlank = body.reverse := by
    rw [List.reverse_append]
    refine dropWhile_append_of_allBlank (fun c hc => hafter c (List.mem_reverse.mp hc)) ?_
    rw [List.head?_reverse]
    exact hbody.last
  cases body with
  | nil =>
    have hall : AllBlank (before ++ after) := fun c hc =>
      (List.mem_append.mp hc).elim (hbefore c) (hafter c)
    have hnone : (before ++ after ++ []).dropWhile isBlank = [] :=
      dropWhile_append_of_allBlank hall nofun
    rw [List.append_nil] at hnone
    rw [List.append_nil, trimBlanks, hnone]
    rfl
  | cons c cs =>
    have hfront : (before ++ (c :: cs ++ after)).dropWhile isBlank = c :: cs ++ after :=
      dropWhile_append_of_allBlank hbefore hbody.first
    rw [List.append_assoc, trimBlanks, hfront, hback, List.reverse_reverse]

/-- Only white space is trimmed. -/
theorem exists_append_trimBlanks (cs : List Char) :
    ∃ before after, cs = before ++ trimBlanks cs ++ after ∧ AllBlank before ∧ AllBlank after := by
  have htake : ∀ ds : List Char, AllBlank (ds.takeWhile isBlank) := by
    intro ds c hc
    exact List.all_eq_true.mp (List.all_takeWhile) c hc
  refine ⟨cs.takeWhile isBlank, ((cs.dropWhile isBlank).reverse.takeWhile isBlank).reverse, ?_,
    htake cs, fun c hc => htake _ c (List.mem_reverse.mp hc)⟩
  rw [trimBlanks, List.append_assoc, ← List.reverse_append, List.takeWhile_append_dropWhile,
    List.reverse_reverse, List.takeWhile_append_dropWhile]

/-- Nothing is deleted where there is no white space. -/
theorem withoutBlanks_eq_self {cs : List Char} (h : NoBlank cs) : withoutBlanks cs = cs := by
  rw [withoutBlanks, List.filter_eq_self]
  intro c hc
  rw [h c hc, Bool.not_false]

/-- Nothing is left of white space. -/
theorem withoutBlanks_of_allBlank {cs : List Char} (h : AllBlank cs) : withoutBlanks cs = [] := by
  rw [withoutBlanks, List.filter_eq_nil_iff]
  intro c hc
  rw [h c hc, Bool.not_true]
  exact Bool.false_ne_true

/-- Of a text with white space around it only, deleting leaves what stands between. -/
theorem withoutBlanks_append {before body after : List Char} (hbefore : AllBlank before)
    (hbody : NoBlank body) (hafter : AllBlank after) :
    withoutBlanks (before ++ body ++ after) = body := by
  have hparts : withoutBlanks (before ++ body ++ after)
      = withoutBlanks before ++ withoutBlanks body ++ withoutBlanks after := by
    simp only [withoutBlanks, List.filter_append]
  rw [hparts, withoutBlanks_of_allBlank hbefore, withoutBlanks_eq_self hbody,
    withoutBlanks_of_allBlank hafter, List.nil_append, List.append_nil]

/-- Trimming and deleting agree exactly where white space stands around the text only. -/
theorem noBlank_trimBlanks_iff (cs : List Char) : NoBlank (trimBlanks cs) ↔ BlankOnlyAround cs := by
  constructor
  · intro h
    obtain ⟨before, after, hsplit, hbefore, hafter⟩ := exists_append_trimBlanks cs
    exact ⟨before, trimBlanks cs, after, hsplit, hbefore, h, hafter⟩
  · rintro ⟨before, body, after, rfl, hbefore, hbody, hafter⟩
    rwa [trimBlanks_append hbefore hbody.bounded hafter]

/-- A text with white space around it only loses the same by trimming and by deleting. -/
theorem BlankOnlyAround.trimBlanks_eq {cs : List Char} (h : BlankOnlyAround cs) :
    trimBlanks cs = withoutBlanks cs := by
  obtain ⟨before, body, after, rfl, hbefore, hbody, hafter⟩ := h
  rw [trimBlanks_append hbefore hbody.bounded hafter, withoutBlanks_append hbefore hbody hafter]

/-- Characters that are no uppercase letters stay as they are in lowercase. -/
theorem toLower_of_not_isUpper {c : Char} (h : c.isUpper = false) : c.toLower = c :=
  dif_neg (of_decide_eq_false h)

/-- Uppercase letters are ASCII. -/
theorem toNat_lt_of_isUpper {c : Char} (h : c.isUpper = true) : c.toNat < 0x80 := by
  have hrange := of_decide_eq_true h
  have hlast : c.toNat ≤ 'Z'.toNat := hrange.2
  exact Nat.lt_of_le_of_lt hlast (by decide)

/-- White space is white space in lowercase, and nothing else is. -/
theorem isBlank_toLower (c : Char) : isBlank c.toLower = isBlank c := by
  cases hupper : c.isUpper with
  | false => rw [toLower_of_not_isUpper hupper]
  | true =>
    have hascii : ∀ n < 0x80, isBlank (Char.ofNat n).toLower = isBlank (Char.ofNat n) := by decide
    exact of_forall_code_lt (p := fun c => isBlank c.toLower = isBlank c) hascii
      (toNat_lt_of_isUpper hupper)

/-- Whether characters differ at most in the case of their ASCII letters. -/
def SameLetters (cs ds : List Char) : Prop :=
  cs.map Char.toLower = ds.map Char.toLower

instance (cs ds : List Char) : Decidable (SameLetters cs ds) :=
  inferInstanceAs (Decidable (cs.map Char.toLower = ds.map Char.toLower))

end DispatchScan.Text
