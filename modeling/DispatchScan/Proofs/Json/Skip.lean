import DispatchScan.Proofs.Json.Number

/-!
# Passing over values

Main statement: every value of the grammar is passed over, whatever its depth, and nothing behind it
is touched. The loops over elements and members are taken first, for any way to pass over what they
hold; the statement on values is an induction on the grammar.
-/

namespace DispatchScan.Json.Reader

variable {α : Type}

/-! ## Space -/

/-- Space is written in bytes of space. -/
theorem isSpace_of_mem_spell {gap : List Char} (h : IsGap gap) :
    ∀ b ∈ spell gap, isSpace b = true := by
  have hall : spaces.all (fun c => decide (c.toNat < 0x80) && isSpace (code c)) = true := by decide
  intro b hb
  obtain ⟨c, hc, hbc⟩ := List.mem_flatMap.mp hb
  obtain ⟨hlt, hspace⟩ := Bool.and_eq_true_iff.mp (List.all_eq_true.mp hall c (h c hc))
  have hlt := of_decide_eq_true hlt
  rw [Text.utf8EncodeChar_of_lt hlt, List.mem_singleton] at hbc
  exact hbc ▸ hspace

/-- Space in front of what is looked at does not matter. -/
theorem next?_gap {gap : List Char} (h : IsGap gap) (text : List UInt8) :
    next? (spell gap ++ text) = next? text := by
  have hdrop : (spell gap ++ text).dropWhile isSpace = text.dropWhile isSpace :=
    List.dropWhile_append_of_pos (isSpace_of_mem_spell h)
  rw [next?, hdrop, next?]

/-- A reader that looks at the next byte first takes the same behind space. -/
theorem reads_gap {gap : List Char} (h : IsGap gap) {next : Option UInt8 → Reader α}
    {text rest : List UInt8} {x : α} :
    Reads (next? >>= next) (spell gap ++ text) x rest ↔ Reads (next? >>= next) text x rest := by
  have hbind : ∀ text, (next? >>= next) text = next? text >>= fun (x, middle) => next x middle :=
    fun _ => rfl
  rw [Reads, Reads, hbind, hbind, next?_gap h]

/-- No number goes on with space, whatever ends numbers behind it. -/
theorem endsNumber_gap {gap : List Char} (h : IsGap gap) {rest : List UInt8}
    (hrest : EndsNumber rest) : EndsNumber (spell gap ++ rest) := by
  cases hgap : spell gap with
  | nil => exact hrest
  | cons s tail =>
    have hspace : isSpace s = true := isSpace_of_mem_spell h s (hgap ▸ List.mem_cons_self)
    intro c hc
    rw [List.cons_append, List.head?_cons, Option.mem_some] at hc
    subst hc
    simp only [isSpace, Bool.or_eq_true, beq_iff_eq] at hspace
    rcases hspace with ((rfl | rfl) | rfl) | rfl <;> decide

/-- No number goes on with a mark. -/
theorem endsNumber_cons {b : UInt8} (hb : continuesNumber b = false) (rest : List UInt8) :
    EndsNumber (b :: rest) := by
  intro c hc
  rw [List.head?_cons, Option.mem_some] at hc
  exact hc ▸ hb

/-- A colon is taken behind space. -/
theorem reads_colon_gap {gap : List Char} (h : IsGap gap) (rest : List UInt8) :
    Reads colon (spell gap ++ code ':' :: rest) () rest :=
  (reads_gap h).mpr (reads_colon rest)

/-- Space may stand behind the last value. -/
theorem reads_finish_gap {gap : List Char} (h : IsGap gap) : Reads finish (spell gap) () [] := by
  rw [← List.append_nil (spell gap)]
  exact (reads_gap h).mpr reads_finish

/-! ## Elements and members -/

/-- A value is read as `x`, with space in front of it and anything behind it that no number goes on
with. -/
def ReadsAs (reader : Reader α) (value : List Char) (x : α) : Prop :=
  ∀ gap rest, IsGap gap → EndsNumber rest → Reads reader (spell gap ++ (spell value ++ rest)) x rest

/-- The bytes of the elements after the first one, up to and with the closing bracket. -/
def elementsTail (es : List Element) (rest : List UInt8) : List UInt8 :=
  (es.flatMap fun e => code ',' :: spell e.text) ++ code ']' :: rest

/-- The bytes of the members after the first one, up to and with the closing brace. -/
def membersTail (ms : List Member) (rest : List UInt8) : List UInt8 :=
  (ms.flatMap fun m => code ',' :: spell m.text) ++ code '\x7d' :: rest

/-- The bytes of one more element. -/
theorem elementsTail_cons (e : Element) (es : List Element) (rest : List UInt8) :
    elementsTail (e :: es) rest = code ',' :: (spell e.before ++ (spell e.value ++
      (spell e.after ++ elementsTail es rest))) := by
  rw [elementsTail, List.flatMap_cons, Element.text, spell_append, spell_append, elementsTail]
  simp only [List.cons_append, List.append_assoc]

/-- The bytes of a member behind the space in front of it. -/
theorem spell_body (m : Member) (rest : List UInt8) :
    spell m.body ++ rest = spell (quoted m.key) ++ (spell m.afterKey ++ code ':' ::
      (spell m.beforeValue ++ (spell m.value ++ (spell m.after ++ rest)))) := by
  rw [Member.body, spell_append, spell_append, spell_cons_of_lt (by decide), spell_append,
    spell_append]
  simp only [List.cons_append, List.append_assoc]

/-- A reader that looks at the next byte first sees the quote of a key. -/
theorem reads_key_iff {m : Member} (hm : m.IsSpaced) {next : Option UInt8 → Reader α} {x : α}
    {more left : List UInt8} :
    Reads (next? >>= next) (spell m.before ++ (spell m.body ++ more)) x left ↔
      Reads (next (some (code '"'))) (spell m.body ++ more) x left := by
  rw [reads_gap hm.before, spell_body, spell_quoted]
  exact (reads_next? (by decide) _).bind_iff

/-- The bytes of one more member. -/
theorem membersTail_cons (m : Member) (ms : List Member) (rest : List UInt8) :
    membersTail (m :: ms) rest
      = code ',' :: (spell m.before ++ (spell m.body ++ membersTail ms rest)) := by
  rw [membersTail, List.flatMap_cons, Member.text, spell_append, membersTail]
  simp only [List.cons_append, List.append_assoc]

/-- No number goes on with a comma or a closing bracket. -/
theorem endsNumber_elementsTail {gap : List Char} (h : IsGap gap) (es : List Element)
    (rest : List UInt8) : EndsNumber (spell gap ++ elementsTail es rest) := by
  cases es with
  | nil => exact endsNumber_gap h (endsNumber_cons (by decide) rest)
  | cons e es =>
    rw [elementsTail_cons]
    exact endsNumber_gap h (endsNumber_cons (by decide) _)

/-- No number goes on with a comma or a closing brace. -/
theorem endsNumber_membersTail {gap : List Char} (h : IsGap gap) (ms : List Member)
    (rest : List UInt8) : EndsNumber (spell gap ++ membersTail ms rest) := by
  cases ms with
  | nil => exact endsNumber_gap h (endsNumber_cons (by decide) rest)
  | cons m ms =>
    rw [membersTail_cons]
    exact endsNumber_gap h (endsNumber_cons (by decide) _)

/-- There are no more elements than bytes. -/
theorem length_lt_length_elementsTail (es : List Element) (rest : List UInt8) :
    es.length < (elementsTail es rest).length := by
  have hle := length_le_length_flatMap_cons (code ',') (fun e : Element => spell e.text) es
  rw [elementsTail, List.length_append, List.length_cons]
  omega

/-- There are no more members than bytes. -/
theorem length_lt_length_membersTail (ms : List Member) (rest : List UInt8) :
    ms.length < (membersTail ms rest).length := by
  have hle := length_le_length_flatMap_cons (code ',') (fun m : Member => spell m.text) ms
  rw [membersTail, List.length_append, List.length_cons]
  omega

/-- The elements after the first one are passed over, up to and with the closing bracket. -/
theorem reads_skipElements {item : Reader Unit} {es : List Element} (hspaced : ∀ e ∈ es, e.IsSpaced)
    (hitem : ∀ e ∈ es, ReadsAs item e.value ()) {gap : List Char} (hgap : IsGap gap) {count : Nat}
    (hcount : es.length < count) (rest : List UInt8) :
    Reads (skipElements item count) (spell gap ++ elementsTail es rest) () rest := by
  induction es generalizing count gap with
  | nil =>
    obtain ⟨n, rfl⟩ : ∃ n, count = n + 1 := ⟨count - 1, by omega⟩
    rw [skipElements, reads_gap hgap]
    exact (reads_next? (by decide) rest).bind (reads_skip _ rest)
  | cons e es ih =>
    obtain ⟨n, rfl⟩ : ∃ n, count = n + 1 := ⟨count - 1, by omega⟩
    obtain ⟨⟨hbefore, hafter⟩, hspaced⟩ := List.forall_mem_cons.mp hspaced
    obtain ⟨hfirst, hitem⟩ := List.forall_mem_cons.mp hitem
    have hlength : es.length < n := by
      rw [List.length_cons] at hcount
      omega
    rw [skipElements, reads_gap hgap, elementsTail_cons]
    refine (reads_next? (by decide) _).bind ((reads_skip _ _).bind ?_)
    exact (hfirst _ _ hbefore (endsNumber_elementsTail hafter es rest)).bind
      (ih hspaced hitem hafter hlength)

/-- A key and its colon are passed over. -/
theorem reads_skipKey {gap afterKey key : List Char} (hgap : IsGap gap) (hafterKey : IsGap afterKey)
    (hkey : IsContent key) (more : List UInt8) :
    Reads skipKey (spell gap ++ (spell (quoted key) ++ (spell afterKey ++ code ':' :: more))) ()
      more := by
  rw [skipKey, reads_gap hgap, spell_quoted]
  refine (reads_next? (by decide) _).bind ((reads_skip _ _).bind ?_)
  exact Reads.bind (skipString_of_isContent hkey _) (reads_colon_gap hafterKey more)

/-- The members after the first one are passed over, up to and with the closing brace. -/
theorem reads_skipMembers {item : Reader Unit} {ms : List Member} (hspaced : ∀ m ∈ ms, m.IsSpaced)
    (hkeys : ∀ m ∈ ms, IsContent m.key) (hitem : ∀ m ∈ ms, ReadsAs item m.value ())
    {gap : List Char} (hgap : IsGap gap) {count : Nat} (hcount : ms.length < count)
    (rest : List UInt8) :
    Reads (skipMembers item count) (spell gap ++ membersTail ms rest) () rest := by
  induction ms generalizing count gap with
  | nil =>
    obtain ⟨n, rfl⟩ : ∃ n, count = n + 1 := ⟨count - 1, by omega⟩
    rw [skipMembers, reads_gap hgap]
    exact (reads_next? (by decide) rest).bind (reads_skip _ rest)
  | cons m ms ih =>
    obtain ⟨n, rfl⟩ : ∃ n, count = n + 1 := ⟨count - 1, by omega⟩
    obtain ⟨hm, hspaced⟩ := List.forall_mem_cons.mp hspaced
    obtain ⟨hkey, hkeys⟩ := List.forall_mem_cons.mp hkeys
    obtain ⟨hfirst, hitem⟩ := List.forall_mem_cons.mp hitem
    have hlength : ms.length < n := by
      rw [List.length_cons] at hcount
      omega
    rw [skipMembers, reads_gap hgap, membersTail_cons, spell_body]
    refine (reads_next? (by decide) _).bind ((reads_skip _ _).bind ?_)
    refine (reads_skipKey hm.before hm.afterKey hkey _).bind ?_
    exact (hfirst _ _ hm.beforeValue (endsNumber_membersTail hm.after ms rest)).bind
      (ih hspaced hkeys hitem hm.after hlength)

/-! ## Values -/

/-- The bytes of an array without elements. -/
theorem spell_emptyArray (gap : List Char) (rest : List UInt8) :
    spell ('[' :: (gap ++ [']'])) ++ rest = code '[' :: (spell gap ++ code ']' :: rest) := by
  rw [spell_cons_of_lt (by decide), spell_append, List.cons_append, List.append_assoc]
  rfl

/-- The bytes of an object without members. -/
theorem spell_emptyObject (gap : List Char) (rest : List UInt8) :
    spell ('\x7b' :: (gap ++ ['\x7d'])) ++ rest
      = code '\x7b' :: (spell gap ++ code '\x7d' :: rest) := by
  rw [spell_cons_of_lt (by decide), spell_append, List.cons_append, List.append_assoc]
  rfl

/-- The bytes of an array with elements. -/
theorem spell_array (e : Element) (es : List Element) (rest : List UInt8) :
    spell ('[' :: (commaSeparated ((e :: es).map Element.text) ++ [']'])) ++ rest
      = code '[' :: (spell e.before ++ (spell e.value ++
        (spell e.after ++ elementsTail es rest))) := by
  rw [spell_cons_of_lt (by decide), spell_append, spell_commaSeparated, joined_map, joined,
    Element.text, spell_append, spell_append, elementsTail, List.cons_append]
  simp only [List.append_assoc]
  rfl

/-- The bytes of an object with members. -/
theorem spell_object (m : Member) (ms : List Member) (rest : List UInt8) :
    spell ('\x7b' :: (commaSeparated ((m :: ms).map Member.text) ++ ['\x7d'])) ++ rest
      = code '\x7b' :: (spell m.before ++ (spell m.body ++ membersTail ms rest)) := by
  rw [spell_cons_of_lt (by decide), spell_append, spell_commaSeparated, joined_map, joined,
    Member.text, spell_append, membersTail, List.cons_append]
  simp only [List.append_assoc]
  rfl

/-- The digits before a point start with a digit. -/
theorem exists_cons_of_isInteger {cs : List Char} (h : IsInteger cs) :
    ∃ b tail, isDigit b = true ∧ spell cs = b :: tail := by
  rcases h with rfl | ⟨hdigits, -⟩
  · exact ⟨code '0', [], by decide, rfl⟩
  · obtain ⟨c, cs, -, hc, hspell, -⟩ := exists_cons_of_isDigits hdigits
    exact ⟨code c, spell cs, hc, hspell⟩

/-- A number starts with its sign or with a digit. -/
theorem exists_cons_of_isNumber {cs : List Char} (h : IsNumber cs) :
    ∃ b tail, (b = code '-' ∨ isDigit b = true) ∧ spell cs = b :: tail := by
  obtain ⟨sign, hsign, integer, fraction, exponent, hinteger, -, -, rfl⟩ := h
  simp only [List.mem_cons, List.not_mem_nil, or_false] at hsign
  rcases hsign with rfl | rfl
  · obtain ⟨b, tail, hb, hspell⟩ := exists_cons_of_isInteger hinteger
    refine ⟨b, tail ++ spell (fraction ++ exponent), Or.inr hb, ?_⟩
    rw [List.nil_append, spell_append, hspell, List.cons_append]
  · exact ⟨code '-', _, Or.inl rfl, spell_cons_of_lt (by decide) _⟩

/-- What a value can be when its first byte is known. -/
inductive ToldBy (cs : List Char) (b : UInt8) : Prop where
  /-- The literal `null`. -/
  | null (hb : b = code 'n') (hcs : cs = ['n', 'u', 'l', 'l'])
  /-- A truth value. -/
  | bool (hb : b = code 't' ∨ b = code 'f')
  /-- A number. -/
  | number (hb : b = code '-' ∨ isDigit b = true) (hcs : IsNumber cs)
  /-- A string. -/
  | string {content : List Char} (hb : b = code '"') (hcontent : IsContent content)
    (hcs : cs = quoted content)
  /-- An array. -/
  | array {es : List Element} (hb : b = code '[') (harray : IsArray es cs)
    (hvalues : ∀ e ∈ es, IsValue e.value)
  /-- An object. -/
  | object {ms : List Member} (hb : b = code '\x7b') (hobject : IsObject ms cs)
    (hkeys : ∀ m ∈ ms, IsContent m.key) (hvalues : ∀ m ∈ ms, IsValue m.value)

/-- A value is told by its first byte. -/
theorem exists_toldBy {cs : List Char} (h : IsValue cs) :
    ∃ b tail, spell cs = b :: tail ∧ ToldBy cs b := by
  cases h with
  | null => exact ⟨code 'n', _, rfl, .null rfl rfl⟩
  | true => exact ⟨code 't', _, rfl, .bool (Or.inl rfl)⟩
  | false => exact ⟨code 'f', _, rfl, .bool (Or.inr rfl)⟩
  | number hcs =>
    obtain ⟨b, tail, hb, hspell⟩ := exists_cons_of_isNumber hcs
    exact ⟨b, tail, hspell, .number hb hcs⟩
  | string hcs => exact ⟨code '"', _, spell_cons_of_lt (by decide) _, .string rfl hcs rfl⟩
  | array harray hvalues =>
    have hspell : ∃ tail, spell cs = code '[' :: tail := by
      cases harray <;> exact ⟨_, spell_cons_of_lt (by decide) _⟩
    obtain ⟨tail, hspell⟩ := hspell
    exact ⟨code '[', tail, hspell, .array rfl harray hvalues⟩
  | object hobject hkeys hvalues =>
    have hspell : ∃ tail, spell cs = code '\x7b' :: tail := by
      cases hobject <;> exact ⟨_, spell_cons_of_lt (by decide) _⟩
    obtain ⟨tail, hspell⟩ := hspell
    exact ⟨code '\x7b', tail, hspell, .object rfl hobject hkeys hvalues⟩

/-- Neither space nor a closing bracket tells a value. -/
theorem ToldBy.starts {cs : List Char} {b : UInt8} (h : ToldBy cs b) :
    isSpace b = false ∧ b ≠ code ']' := by
  rcases h with ⟨rfl, -⟩ | ⟨rfl | rfl⟩ | ⟨rfl | hdigit, -⟩ | ⟨rfl, -, -⟩ | ⟨rfl, -, -⟩ |
    ⟨rfl, -, -, -⟩
  case number.inr =>
    obtain ⟨-, -, -, -, hclose, hspace⟩ := ne_of_isDigit hdigit
    exact ⟨hspace, hclose⟩
  all_goals decide

/-- An item is no longer than the items joined. -/
theorem length_le_length_commaSeparated {items : List (List Char)} {item : List Char}
    (h : item ∈ items) : item.length ≤ (commaSeparated items).length := by
  induction items with
  | nil => cases h
  | cons first items ih =>
    cases items with
    | nil =>
      obtain rfl := List.mem_singleton.mp h
      exact Nat.le_refl _
    | cons next items =>
      have hne : next :: items ≠ [] := List.cons_ne_nil next items
      rw [commaSeparated.eq_3 _ _ hne, List.length_append, List.length_cons]
      rcases List.mem_cons.mp h with rfl | hmem
      · omega
      · have hle := ih hmem
        omega

/-- An element is shorter than its array. -/
theorem length_lt_of_isArray {es : List Element} {cs : List Char} (h : IsArray es cs) :
    0 < cs.length ∧ ∀ e ∈ es, e.value.length < cs.length := by
  cases h with
  | nil => exact ⟨Nat.zero_lt_succ _, nofun⟩
  | cons hspaced =>
    refine ⟨Nat.zero_lt_succ _, fun e he => ?_⟩
    have hle := length_le_length_commaSeparated (List.mem_map_of_mem (f := Element.text) he)
    rw [Element.text, List.length_append, List.length_append] at hle
    rw [List.length_cons, List.length_append]
    omega

/-- A value is shorter than its object. -/
theorem length_lt_of_isObject {ms : List Member} {cs : List Char} (h : IsObject ms cs) :
    0 < cs.length ∧ ∀ m ∈ ms, m.value.length < cs.length := by
  cases h with
  | nil => exact ⟨Nat.zero_lt_succ _, nofun⟩
  | cons hspaced =>
    refine ⟨Nat.zero_lt_succ _, fun m hm => ?_⟩
    have hle := length_le_length_commaSeparated (List.mem_map_of_mem (f := Member.text) hm)
    simp only [Member.text, Member.body, List.length_append, List.length_cons] at hle
    rw [List.length_cons, List.length_append]
    omega

/-- A number is passed over. -/
theorem readsAs_skipLevels_number {cs : List Char} (h : IsNumber cs) (levels : Nat) :
    ReadsAs (skipLevels levels) cs () := by
  intro gap rest hgap hrest
  obtain ⟨sign, hsign, integer, fraction, exponent, hinteger, hfraction, hexponent, rfl⟩ := h
  have hnumber := reads_skipNumber hinteger hfraction hexponent hrest
  rw [skipLevels.eq_def, reads_gap hgap]
  simp only [List.mem_cons, List.not_mem_nil, or_false] at hsign
  rcases hsign with rfl | rfl
  · obtain ⟨b, tail, hb, hspell⟩ := exists_cons_of_isInteger hinteger
    obtain ⟨hn, ht, hf, hminus, -, hspace⟩ := ne_of_isDigit hb
    rw [List.nil_append]
    rw [spell_append, hspell, List.cons_append, List.cons_append] at hnumber ⊢
    refine (reads_next? hspace _).bind ?_
    simp only [hn, ht, hf, hminus, hb, if_false, if_true]
    exact hnumber
  · rw [List.singleton_append, spell_cons_of_lt (by decide), List.cons_append]
    refine (reads_next? (by decide) _).bind ?_
    exact (reads_skip _ _).bind hnumber

/-- An array is passed over if its elements are passed over with one level less. -/
theorem readsAs_skipLevels_array {es : List Element} {cs : List Char} (h : IsArray es cs)
    {levels : Nat} (hvalues : ∀ e ∈ es, IsValue e.value)
    (hitem : ∀ e ∈ es, ReadsAs (skipLevels levels) e.value ()) :
    ReadsAs (skipLevels (levels + 1)) cs () := by
  intro gap rest hgap _
  cases h with
  | nil hinner =>
    rw [skipLevels, reads_gap hgap, spell_emptyArray]
    refine (reads_next? (by decide) _).bind ((reads_skip _ _).bind ((reads_gap hinner).mpr ?_))
    exact (reads_next? (by decide) _).bind (reads_skip _ rest)
  | cons hspaced =>
    rename_i e es
    obtain ⟨⟨hbefore, hafter⟩, hspaced⟩ := List.forall_mem_cons.mp hspaced
    obtain ⟨hfirst, hitem⟩ := List.forall_mem_cons.mp hitem
    obtain ⟨b, tail, hstart, htold⟩ := exists_toldBy (hvalues e List.mem_cons_self)
    obtain ⟨hspace, hclose⟩ := htold.starts
    rw [skipLevels, reads_gap hgap, spell_array]
    refine (reads_next? (by decide) _).bind ((reads_skip _ _).bind ((reads_gap hbefore).mpr ?_))
    have hvalue := hfirst [] _ isGap_nil (endsNumber_elementsTail hafter es rest)
    rw [hstart] at hvalue ⊢
    refine (reads_next? hspace _).bind ?_
    simp only [if_neg hclose]
    refine hvalue.bind ((reads_bound _).bind ?_)
    refine reads_skipElements hspaced hitem hafter ?_ rest
    rw [List.length_append]
    exact Nat.lt_add_left _ (length_lt_length_elementsTail es rest)

/-- An object is passed over if its values are passed over with one level less. -/
theorem readsAs_skipLevels_object {ms : List Member} {cs : List Char} (h : IsObject ms cs)
    {levels : Nat} (hkeys : ∀ m ∈ ms, IsContent m.key)
    (hitem : ∀ m ∈ ms, ReadsAs (skipLevels levels) m.value ()) :
    ReadsAs (skipLevels (levels + 1)) cs () := by
  intro gap rest hgap _
  cases h with
  | nil hinner =>
    rw [skipLevels, reads_gap hgap, spell_emptyObject]
    refine (reads_next? (by decide) _).bind ((reads_skip _ _).bind ((reads_gap hinner).mpr ?_))
    exact (reads_next? (by decide) _).bind (reads_skip _ rest)
  | cons hspaced =>
    rename_i m ms
    obtain ⟨hm, hspaced⟩ := List.forall_mem_cons.mp hspaced
    obtain ⟨hkey, hkeys⟩ := List.forall_mem_cons.mp hkeys
    obtain ⟨hfirst, hitem⟩ := List.forall_mem_cons.mp hitem
    rw [skipLevels, reads_gap hgap, spell_object]
    refine (reads_next? (by decide) _).bind ((reads_skip _ _).bind ((reads_key_iff hm).mpr ?_))
    rw [spell_body]
    refine Reads.bind (reads_skipKey isGap_nil hm.afterKey hkey _) ?_
    refine (hfirst _ _ hm.beforeValue (endsNumber_membersTail hm.after ms rest)).bind ?_
    refine (reads_bound _).bind ?_
    refine reads_skipMembers hspaced hkeys hitem hm.after ?_ rest
    rw [List.length_append]
    exact Nat.lt_add_left _ (length_lt_length_membersTail ms rest)

/-- A value is passed over, if at least as many levels are allowed as it has characters. -/
theorem readsAs_skipLevels {cs : List Char} (h : IsValue cs) {levels : Nat}
    (hlevels : cs.length ≤ levels) : ReadsAs (skipLevels levels) cs () := by
  induction h generalizing levels with
  | null =>
    intro gap rest hgap _
    rw [skipLevels.eq_def, reads_gap hgap]
    refine (reads_next? (by decide) _).bind ?_
    exact Reads.bind (reads_skip _ _) (reads_literal _ rest)
  | true =>
    intro gap rest hgap _
    rw [skipLevels.eq_def, reads_gap hgap]
    refine (reads_next? (by decide) _).bind ?_
    exact Reads.bind (reads_skip _ _) (reads_literal _ rest)
  | false =>
    intro gap rest hgap _
    rw [skipLevels.eq_def, reads_gap hgap]
    refine (reads_next? (by decide) _).bind ?_
    exact Reads.bind (reads_skip _ _) (reads_literal _ rest)
  | number hcs => exact readsAs_skipLevels_number hcs levels
  | string hcs =>
    intro gap rest hgap _
    rw [skipLevels.eq_def, reads_gap hgap, spell_quoted]
    refine (reads_next? (by decide) _).bind ((reads_skip _ _).bind ?_)
    exact skipString_of_isContent hcs rest
  | array harray hvalues ih =>
    obtain ⟨hpos, hlt⟩ := length_lt_of_isArray harray
    obtain ⟨inner, rfl⟩ : ∃ inner, levels = inner + 1 := ⟨levels - 1, by omega⟩
    refine readsAs_skipLevels_array harray hvalues fun e he => ih e he ?_
    have hshort := hlt e he
    omega
  | object hobject hkeys hvalues ih =>
    obtain ⟨hpos, hlt⟩ := length_lt_of_isObject hobject
    obtain ⟨inner, rfl⟩ : ∃ inner, levels = inner + 1 := ⟨levels - 1, by omega⟩
    refine readsAs_skipLevels_object hobject hkeys fun m hm => ih m hm ?_
    have hshort := hlt m hm
    omega

/-- Each character takes a byte or more. -/
theorem length_le_length_spell (cs : List Char) : cs.length ≤ (spell cs).length := by
  induction cs with
  | nil => exact Nat.le_refl _
  | cons c cs ih =>
    have hpos : 0 < (String.utf8EncodeChar c).length :=
      List.length_pos_iff.mpr String.utf8EncodeChar_ne_nil
    rw [spell] at ih
    rw [spell, List.flatMap_cons, List.length_append, List.length_cons]
    omega

/-- Every value is passed over. -/
theorem readsAs_skipValue {cs : List Char} (h : IsValue cs) : ReadsAs skipValue cs () := by
  intro gap rest hgap hrest
  refine (reads_bound _).bind ?_
  refine readsAs_skipLevels h ?_ gap rest hgap hrest
  have hle := length_le_length_spell cs
  rw [List.length_append, List.length_append]
  omega

end DispatchScan.Json.Reader
