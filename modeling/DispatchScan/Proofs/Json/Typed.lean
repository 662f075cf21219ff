import DispatchScan.Proofs.Json.Skip

/-!
# Readers of texts, numbers and names

What a reader of one type accepts is said in the grammar: a text in any spelling, the digits of a
number of 64 bits, a name as a string or as the only key of an object. Of any other value such a
reader takes all or nothing. It never stops inside a value, where what follows could be taken for
something else.
-/

namespace DispatchScan.Json.Reader

variable {α : Type}

/-! ## What can be read is a value -/

/-- What spells a text may stand in a string. -/
theorem isContent_of_spells {content text : List Char} (h : Spells content text) :
    IsContent content := by
  induction h with
  | nil => exact .nil
  | plain hc _ ih => exact .plain hc ih
  | short hescape _ ih => exact .short hescape ih
  | unit hds _ _ _ ih => exact .unit hds ih
  | pair hds hes _ _ _ ih => exact .unit hds (.unit hes ih)

/-- A spelled text is a value. -/
theorem isValue_of_isStringOf {text : String} {token : List Char} (h : IsStringOf text token) :
    IsValue token := by
  obtain ⟨content, hspells, rfl⟩ := h
  exact .string (isContent_of_spells hspells)

/-- The digits of a natural number are a value. -/
theorem isValue_toDigits (n : Nat) : IsValue (Nat.toDigits 10 n) := by
  have hinteger : IsInteger (Nat.toDigits 10 n) := by
    by_cases hzero : (Nat.toDigits 10 n).head? = some '0'
    · obtain rfl := eq_zero_of_head?_toDigits hzero
      exact Or.inl rfl
    · exact Or.inr ⟨isDigits_toDigits n, hzero⟩
  refine .number ⟨[], List.mem_cons_self, _, [], [], hinteger, Or.inl rfl, Or.inl rfl, ?_⟩
  rw [List.nil_append, List.append_nil, List.append_nil]

/-- Members with values as their texts have content as keys. -/
theorem forall_of_gives {ms : List Member} {members : List (String × List Char)}
    (h : List.Forall₂ Member.Gives ms members) (hvalues : ∀ member ∈ members, IsValue member.2) :
    (∀ m ∈ ms, IsContent m.key) ∧ ∀ m ∈ ms, IsValue m.value := by
  induction h with
  | nil => exact ⟨nofun, nofun⟩
  | cons hfirst _ ih =>
    obtain ⟨hkey, heq⟩ := hfirst
    obtain ⟨hvalue, hvalues⟩ := List.forall_mem_cons.mp hvalues
    obtain ⟨hkeys, htexts⟩ := ih hvalues
    exact ⟨List.forall_mem_cons.mpr ⟨isContent_of_spells hkey, hkeys⟩,
      List.forall_mem_cons.mpr ⟨heq ▸ hvalue, htexts⟩⟩

/-- An object of values is a value. -/
theorem isValue_of_isObjectOf {members : List (String × List Char)} {token : List Char}
    (h : IsObjectOf members token) (hvalues : ∀ member ∈ members, IsValue member.2) :
    IsValue token := by
  obtain ⟨ms, hobject, hgives⟩ := h
  obtain ⟨hkeys, htexts⟩ := forall_of_gives hgives hvalues
  exact .object hobject hkeys htexts

/-- An array of values is a value. -/
theorem isValue_of_isArrayOf {values : List (List Char)} {token : List Char}
    (h : IsArrayOf values token) (hvalues : ∀ value ∈ values, IsValue value) : IsValue token := by
  obtain ⟨es, harray, rfl⟩ := h
  exact .array harray (List.forall_mem_map.mp hvalues)

/-! ## What a first byte tells -/

variable {cs : List Char}

/-- A value that starts with a quote is a string. -/
theorem exists_quoted_of_toldBy (h : ToldBy cs (code '"')) :
    ∃ content, IsContent content ∧ cs = quoted content := by
  rcases h with ⟨hb, -⟩ | ⟨hb⟩ | ⟨hb, -⟩ | ⟨-, hcontent, hcs⟩ | ⟨hb, -, -⟩ | ⟨hb, -, -, -⟩
  case string => exact ⟨_, hcontent, hcs⟩
  all_goals exact absurd hb (by decide)

/-- A value that starts with a sign or a digit is a number. -/
theorem isNumber_of_toldBy {b : UInt8} (h : ToldBy cs b)
    (hstart : b = code '-' ∨ isDigit b = true) : IsNumber cs := by
  rcases h with ⟨rfl, -⟩ | ⟨rfl | rfl⟩ | ⟨-, hcs⟩ | ⟨rfl, -, -⟩ | ⟨rfl, -, -⟩ | ⟨rfl, -, -, -⟩
  case number => exact hcs
  all_goals exact absurd hstart (by decide)

/-- A value that starts with a bracket is an array. -/
theorem exists_isArray_of_toldBy (h : ToldBy cs (code '[')) :
    ∃ es, IsArray es cs ∧ ∀ e ∈ es, IsValue e.value := by
  rcases h with ⟨hb, -⟩ | ⟨hb⟩ | ⟨hb, -⟩ | ⟨hb, -, -⟩ | ⟨-, harray, hvalues⟩ | ⟨hb, -, -, -⟩
  case array => exact ⟨_, harray, hvalues⟩
  all_goals exact absurd hb (by decide)

/-- A value that starts with a brace is an object. -/
theorem exists_isObject_of_toldBy (h : ToldBy cs (code '\x7b')) :
    ∃ ms, IsObject ms cs ∧ (∀ m ∈ ms, IsContent m.key) ∧ ∀ m ∈ ms, IsValue m.value := by
  rcases h with ⟨hb, -⟩ | ⟨hb⟩ | ⟨hb, -⟩ | ⟨hb, -, -⟩ | ⟨hb, -, -⟩ | ⟨-, hobject, hkeys, hvalues⟩
  case object => exact ⟨_, hobject, hkeys, hvalues⟩
  all_goals exact absurd hb (by decide)

/-- A value that starts like `null` is this literal. -/
theorem eq_null_of_toldBy (h : ToldBy cs (code 'n')) : cs = ['n', 'u', 'l', 'l'] := by
  rcases h with ⟨-, hcs⟩ | ⟨hb⟩ | ⟨hb, -⟩ | ⟨hb, -, -⟩ | ⟨hb, -, -⟩ | ⟨hb, -, -, -⟩
  case null => exact hcs
  all_goals exact absurd hb (by decide)

/-- A reader that looks at the next byte first sees the first byte of the value. -/
theorem reads_value_iff {gap : List Char} (hgap : IsGap gap) {b : UInt8} {tail : List UInt8}
    (hspell : spell cs = b :: tail) (hspace : isSpace b = false) {next : Option UInt8 → Reader α}
    {x : α} {rest left : List UInt8} :
    Reads (next? >>= next) (spell gap ++ (spell cs ++ rest)) x left ↔
      Reads (next (some b)) (spell cs ++ rest) x left := by
  rw [reads_gap hgap, hspell, List.cons_append]
  exact (reads_next? hspace _).bind_iff

/-! ## All or nothing -/

/-- Of a value, all or nothing is taken. -/
def TakesWhole (reader : Reader α) : Prop :=
  ∀ ⦃cs gap : List Char⦄ ⦃x : α⦄ ⦃rest left : List UInt8⦄, IsValue cs → IsGap gap →
    EndsNumber rest → Reads reader (spell gap ++ (spell cs ++ rest)) x left → left = rest

/-- What passes over values takes all of them. -/
theorem takesWhole_skipValue : TakesWhole skipValue := by
  intro cs gap _ rest left hcs hgap hrest hread
  exact (hread.unique (readsAs_skipValue hcs gap rest hgap hrest)).2

/-- What is done with a value afterwards does not matter if it takes nothing. -/
theorem TakesWhole.map {β : Type} {reader : Reader α} (h : TakesWhole reader) (f : α → β) :
    TakesWhole (do return f (← reader)) := by
  intro cs gap _ rest left hcs hgap hrest hread
  obtain ⟨x, middle, hfirst, hlast⟩ := hread.exists_of_bind
  obtain ⟨-, rfl⟩ := hlast.unique (reads_pure (f x) middle)
  exact h hcs hgap hrest hfirst

/-- A reader that stops because of the type gives nothing. -/
theorem not_reads_failType (wanted : String) (text : List UInt8) (x : α) (left : List UInt8) :
    ¬Reads (failType wanted) text x left := by
  intro hread
  obtain ⟨b?, middle, -, hread⟩ := hread.exists_of_bind
  cases b? with
  | none => cases hread
  | some b =>
    by_cases hbracket : b = code '['
    · simp only [if_pos hbracket] at hread
      cases hread
    · by_cases hbrace : b = code '\x7b'
      · simp only [if_neg hbracket, if_pos hbrace] at hread
        cases hread
      · simp only [if_neg hbracket, if_neg hbrace] at hread
        cases hscalar : scalar? b with
        | none =>
          rw [hscalar] at hread
          cases hread
        | some read =>
          rw [hscalar] at hread
          obtain ⟨v, _, -, hread⟩ := hread.exists_of_bind
          cases v <;> cases hread

/-- A string with any content is read up to its end or not at all. -/
theorem left_eq_of_reads_string {content : List Char} (h : IsContent content) {text : String}
    {rest left : List UInt8} (hread : Reads string (spell (quoted content) ++ rest) text left) :
    left = rest := by
  rw [spell_quoted] at hread
  exact ((skipString_of_reads_string hread).unique (skipString_of_isContent h rest)).2

/-- Texts are taken as a whole. -/
theorem takesWhole_text : TakesWhole text := by
  intro cs gap x rest left hcs hgap _ hread
  obtain ⟨b, tail, hspell, htold⟩ := exists_toldBy hcs
  have hread := (reads_value_iff hgap hspell htold.starts.1).mp hread
  by_cases hquote : b = code '"'
  · subst hquote
    obtain ⟨content, hcontent, rfl⟩ := exists_quoted_of_toldBy htold
    exact left_eq_of_reads_string hcontent hread
  · simp only [if_neg hquote] at hread
    exact absurd hread (not_reads_failType _ _ _ _)

/-- Numbers of 64 bits are taken as a whole. -/
theorem takesWhole_natural : TakesWhole natural := by
  intro cs gap x rest left hcs hgap hrest hread
  obtain ⟨b, tail, hspell, htold⟩ := exists_toldBy hcs
  have hread := (reads_value_iff hgap hspell htold.starts.1).mp hread
  by_cases hstart : b = code '-' ∨ isDigit b = true
  · obtain ⟨sign, hsign, integer, fraction, exponent, hinteger, hfraction, hexponent, rfl⟩ :=
      isNumber_of_toldBy htold hstart
    simp only [if_pos hstart] at hread
    by_cases hminus : b = code '-'
    · -- What follows a sign is never read as a natural number, not even zero.
      simp only [if_pos hminus] at hread
      obtain ⟨_, _, -, hread⟩ := hread.exists_of_bind
      obtain ⟨found, _, hnumber, hread⟩ := hread.exists_of_bind
      cases found with
      | natural n =>
        obtain ⟨hfalse, -⟩ := reads_skipNumber_of_reads_number hnumber
        exact absurd hminus (of_decide_eq_false hfalse)
      | negative n => cases hread
      | real minus size => cases hread
    · simp only [if_neg hminus] at hread
      obtain ⟨found, middle, hnumber, hread⟩ := hread.exists_of_bind
      cases found with
      | natural n =>
        obtain ⟨-, rfl⟩ := hread.unique (reads_pure n middle)
        obtain ⟨-, hskip⟩ := reads_skipNumber_of_reads_number hnumber
        simp only [List.mem_cons, List.not_mem_nil, or_false] at hsign
        rcases hsign with rfl | rfl
        · exact (hskip.unique (reads_skipNumber hinteger hfraction hexponent hrest)).2
        · rw [List.singleton_append, spell_cons_of_lt (by decide)] at hspell
          exact absurd (List.cons.inj hspell).1.symm hminus
      | negative n => cases hread
      | real minus size => cases hread
  · simp only [if_neg hstart] at hread
    exact absurd hread (not_reads_failType _ _ _ _)

/-- A name is found without taking anything. -/
theorem reads_named_iff {names : List (String × α)} {name : String} {text left : List UInt8}
    {x : α} : Reads (named names name) text x left ↔ names.lookup name = some x ∧ left = text := by
  rw [named]
  cases hlookup : names.lookup name with
  | none => exact ⟨nofun, nofun⟩
  | some y =>
    constructor
    · intro hread
      obtain ⟨rfl, rfl⟩ := hread.unique (reads_pure y text)
      exact ⟨rfl, rfl⟩
    · rintro ⟨⟨⟩, rfl⟩
      exact reads_pure x left

/-- The literal `null` is read as the value of a name. -/
theorem readsAs_unit : ReadsAs choice.unit ['n', 'u', 'l', 'l'] () := by
  intro gap rest hgap _
  refine (reads_value_iff hgap (b := code 'n') rfl (by decide)).mpr ?_
  exact Reads.bind (reads_skip _ _) (reads_literal _ rest)

/-- No other value of a name is taken. -/
theorem takesWhole_unit : TakesWhole choice.unit := by
  intro cs gap _ rest left hcs hgap hrest hread
  obtain ⟨b, tail, hspell, htold⟩ := exists_toldBy hcs
  have hhead := (reads_value_iff hgap hspell htold.starts.1).mp hread
  by_cases hnull : b = code 'n'
  · subst hnull
    obtain rfl := eq_null_of_toldBy htold
    exact (hread.unique (readsAs_unit gap rest hgap hrest)).2
  · simp only [if_neg hnull] at hhead
    exact absurd hhead (not_reads_failType _ _ _ _)

/-- An object that was read as a name was taken as a whole. -/
theorem left_eq_of_reads_choice {names : List (String × α)} {ms : List Member}
    (hobject : IsObject ms cs) (hkeys : ∀ m ∈ ms, IsContent m.key)
    (hvalues : ∀ m ∈ ms, IsValue m.value) {gap : List Char} (hgap : IsGap gap) {x : α}
    {rest left : List UInt8}
    (hread : Reads (choice names) (spell gap ++ (spell cs ++ rest)) x left) : left = rest := by
  have hne : ¬code '\x7b' = code '"' := by decide
  rw [choice, reads_gap hgap] at hread
  cases hobject with
  | nil hinner =>
    rw [spell_emptyObject, (reads_next? (by decide) _).bind_iff] at hread
    simp only [if_neg hne, if_true] at hread
    rw [(reads_skip _ _).bind_iff, reads_gap hinner, (reads_next? (by decide) _).bind_iff] at hread
    cases hread
  | @cons m ms hspaced =>
    have hm := hspaced m List.mem_cons_self
    rw [spell_object, (reads_next? (by decide) _).bind_iff] at hread
    simp only [if_neg hne, if_true] at hread
    rw [(reads_skip _ _).bind_iff, reads_key_iff hm, spell_body] at hread
    simp only [if_true] at hread
    obtain ⟨name, _, hname, hread⟩ := hread.exists_of_bind
    obtain rfl := left_eq_of_reads_string (hkeys m List.mem_cons_self) hname
    obtain ⟨found, _, hfound, hread⟩ := hread.exists_of_bind
    obtain ⟨-, rfl⟩ := reads_named_iff.mp hfound
    rw [(reads_colon_gap hm.afterKey _).bind_iff] at hread
    obtain ⟨_, _, hunit, hread⟩ := hread.exists_of_bind
    obtain rfl := takesWhole_unit (hvalues m List.mem_cons_self) hm.beforeValue
      (endsNumber_membersTail hm.after ms rest) hunit
    rw [reads_gap hm.after] at hread
    cases ms with
    | nil =>
      have hclose : Reads (do skip; pure found) (code '\x7d' :: rest) x left :=
        (reads_next? (by decide) rest).bind_iff.mp hread
      exact (hclose.unique ((reads_skip _ rest).bind (reads_pure found rest))).2
    | cons next ms =>
      rw [membersTail_cons, (reads_next? (by decide) _).bind_iff] at hread
      cases hread

/-- Names are taken as a whole. -/
theorem takesWhole_choice (names : List (String × α)) : TakesWhole (choice names) := by
  intro cs gap x rest left hcs hgap _ hread
  obtain ⟨b, tail, hspell, htold⟩ := exists_toldBy hcs
  have hhead := (reads_value_iff hgap hspell htold.starts.1).mp hread
  by_cases hquote : b = code '"'
  · subst hquote
    obtain ⟨content, hcontent, rfl⟩ := exists_quoted_of_toldBy htold
    simp only [if_true] at hhead
    obtain ⟨name, middle, hname, hlast⟩ := hhead.exists_of_bind
    obtain ⟨-, rfl⟩ := reads_named_iff.mp hlast
    exact left_eq_of_reads_string hcontent hname
  · by_cases hbrace : b = code '\x7b'
    · subst hbrace
      obtain ⟨ms, hobject, hkeys, hvalues⟩ := exists_isObject_of_toldBy htold
      exact left_eq_of_reads_choice hobject hkeys hvalues hgap hread
    · simp only [if_neg hquote, if_neg hbrace] at hhead
      cases hhead

/-! ## What is accepted -/

/-- What is done with a value afterwards is done with what it is read as. -/
theorem ReadsAs.map {β : Type} {reader : Reader α} {value : List Char} {x : α}
    (h : ReadsAs reader value x) (f : α → β) : ReadsAs (do return f (← reader)) value (f x) :=
  fun gap rest hgap hrest => (h gap rest hgap hrest).bind (reads_pure (f x) rest)

/-- A text is read in any spelling. -/
theorem readsAs_text {s : String} {token : List Char} (h : IsStringOf s token) :
    ReadsAs text token s := by
  obtain ⟨content, hspells, rfl⟩ := h
  intro gap rest hgap _
  have hstring := reads_string_of_spells hspells rest
  refine (reads_value_iff hgap (b := code '"') (spell_cons_of_lt (by decide) _) (by decide)).mpr ?_
  simp only [if_true]
  exact hstring

/-- A number of 64 bits is read from its digits. -/
theorem readsAs_natural {n : Nat} (hn : n ≤ maxNatural) : ReadsAs natural (Nat.toDigits 10 n) n :=
  fun _ _ hgap hrest => (reads_gap hgap).mpr (reads_natural hn hrest)

/-- The texts that give one of several names: the name, or an object that holds nothing else. -/
def IsNameOf (name : String) (token : List Char) : Prop :=
  IsStringOf name token ∨ IsObjectOf [(name, ['n', 'u', 'l', 'l'])] token

/-- Both ways to give a name are values. -/
theorem isValue_of_isNameOf {name : String} {token : List Char} (h : IsNameOf name token) :
    IsValue token := by
  rcases h with hstring | hobject
  · exact isValue_of_isStringOf hstring
  · exact isValue_of_isObjectOf hobject (List.forall_mem_singleton.mpr .null)

/-- A name is read in both ways. -/
theorem readsAs_choice {names : List (String × α)} {name : String} {x : α}
    (hlookup : names.lookup name = some x) {token : List Char} (h : IsNameOf name token) :
    ReadsAs (choice names) token x := by
  intro gap rest hgap _
  have hnamed : ∀ text, Reads (named names name) text x text :=
    fun text => reads_named_iff.mpr ⟨hlookup, rfl⟩
  rcases h with ⟨content, hspells, rfl⟩ | ⟨ms, hobject, hmembers⟩
  · refine (reads_value_iff hgap (b := code '"') (spell_cons_of_lt (by decide) _)
      (by decide)).mpr ?_
    simp only [if_true]
    exact (reads_string_of_spells hspells rest).bind (hnamed rest)
  · obtain ⟨m, ms, ⟨hkey, hvalue⟩, hrest, rfl⟩ := List.forall₂_cons_right_iff.mp hmembers
    obtain rfl := List.forall₂_nil_right_iff.mp hrest
    cases hobject with
    | cons hspaced =>
      have hm := hspaced m List.mem_cons_self
      have hne : ¬code '\x7b' = code '"' := by decide
      rw [choice, reads_gap hgap, spell_object]
      refine (reads_next? (by decide) _).bind ?_
      simp only [if_neg hne, if_true]
      refine (reads_skip _ _).bind ((reads_key_iff hm).mpr ?_)
      rw [spell_body, hvalue]
      simp only [if_true]
      refine (reads_string_of_spells hkey _).bind ((hnamed _).bind ?_)
      refine (reads_colon_gap hm.afterKey _).bind ?_
      refine (readsAs_unit _ _ hm.beforeValue (endsNumber_membersTail hm.after [] rest)).bind ?_
      refine (reads_gap hm.after).mpr ((reads_next? (by decide) _).bind ?_)
      exact (reads_skip _ _).bind (reads_pure x rest)

end DispatchScan.Json.Reader
