import DispatchScan.Proofs.Json.Reads

/-!
# Written values are read back

A value without numbers, without too many levels and without an object that stands for an embedded
text is read from its compact text as it is. The readers of arrays and objects are taken first, for
any reader of what they hold; the statement on values is an induction on how they are built.
-/

namespace DispatchScan.Json

/-- The bytes of some characters. -/
def spell (cs : List Char) : List UInt8 := cs.flatMap String.utf8EncodeChar

/-- The bytes of joined characters are joined bytes. -/
theorem spell_append (cs ds : List Char) : spell (cs ++ ds) = spell cs ++ spell ds :=
  List.flatMap_append

/-- The bytes of an ASCII character and what follows it. -/
theorem spell_cons_of_lt {c : Char} (h : c.toNat < 0x80) (cs : List Char) :
    spell (c :: cs) = Reader.code c :: spell cs := by
  rw [spell, List.flatMap_cons, Text.utf8EncodeChar_of_lt h]
  rfl

/-- The bytes of items that are joined by commas, for any way to write an item. -/
def joined {α : Type} (write : α → List UInt8) : List α → List UInt8
  | [] => []
  | x :: xs => write x ++ xs.flatMap fun y => Reader.code ',' :: write y

/-- The tokens of items are joined by commas. -/
theorem spell_commaSeparated (items : List (List Char)) :
    spell (commaSeparated items) = joined spell items := by
  cases items with
  | nil => rfl
  | cons item items =>
    rw [joined]
    induction items generalizing item with
    | nil => rw [commaSeparated, List.flatMap_nil, List.append_nil]
    | cons next items ih =>
      rw [commaSeparated, spell_append, spell_cons_of_lt (by decide), ih, List.flatMap_cons,
        List.cons_append]
      exact List.cons_ne_nil next items

/-- Items may be written in two steps. -/
theorem joined_map {α β : Type} (write : β → List UInt8) (f : α → β) (xs : List α) :
    joined write (xs.map f) = joined (fun x => write (f x)) xs := by
  cases xs with
  | nil => rfl
  | cons x xs => rw [List.map_cons, joined, joined, List.flatMap_map]

namespace Reader

variable {α : Type}

/-- A reader takes a text off whatever follows it, and the text starts like a value. -/
structure ReadsBack (item : Reader α) (text : List UInt8) (x : α) : Prop where
  /-- Neither a space nor a closing bracket stands first. -/
  starts : ∃ b tail, text = b :: tail ∧ isSpace b = false ∧ b ≠ code ']'
  /-- The text is taken and nothing more. -/
  reads : ∀ rest, Reads item (text ++ rest) x rest

/-- Texts behind one byte each are at least as long as there are texts. -/
theorem length_le_length_flatMap_cons (b : UInt8) (write : α → List UInt8) (xs : List α) :
    xs.length ≤ (xs.flatMap fun x => b :: write x).length := by
  induction xs with
  | nil => exact Nat.le_refl _
  | cons x xs ih =>
    rw [List.flatMap_cons, List.length_append, List.length_cons, List.length_cons]
    omega

/-- The elements after the first one are read up to the closing bracket. -/
theorem reads_moreElements {item : Reader α} {write : α → List UInt8} {xs : List α}
    (h : ∀ x ∈ xs, ReadsBack item (write x) x) {count : Nat} (hcount : xs.length < count)
    (rest : List UInt8) :
    Reads (moreElements item count)
      ((xs.flatMap fun x => code ',' :: write x) ++ code ']' :: rest) xs rest := by
  induction xs generalizing count with
  | nil =>
    obtain ⟨n, rfl⟩ : ∃ n, count = n + 1 := ⟨count - 1, by omega⟩
    exact (reads_next? (by decide) rest).bind ((reads_skip _ rest).bind (reads_pure [] rest))
  | cons x xs ih =>
    obtain ⟨n, rfl⟩ : ∃ n, count = n + 1 := ⟨count - 1, by omega⟩
    obtain ⟨⟨b, tail, htext, hspace, hclose⟩, hreads⟩ := h x List.mem_cons_self
    have hlength : xs.length < n := by
      rw [List.length_cons] at hcount
      omega
    have hmore := ih (fun y hy => h y (List.mem_cons_of_mem x hy)) hlength
    rw [List.flatMap_cons, List.cons_append, List.cons_append, List.append_assoc]
    refine (reads_next? (by decide) _).bind ?_
    refine Reads.bind (reads_skip _ _) ?_
    have hitem := hreads ((xs.flatMap fun x => code ',' :: write x) ++ code ']' :: rest)
    rw [htext, List.cons_append] at hitem ⊢
    refine (reads_next? hspace _).bind ?_
    simp only [if_neg hclose]
    exact hitem.bind (hmore.bind (reads_pure _ rest))

/-- An array is read from its opening bracket on. -/
theorem reads_elements {item : Reader α} {write : α → List UInt8} {xs : List α}
    (h : ∀ x ∈ xs, ReadsBack item (write x) x) (rest : List UInt8) :
    Reads (elements item) (code '[' :: (joined write xs ++ code ']' :: rest)) xs rest := by
  refine (reads_skip _ _).bind ?_
  cases xs with
  | nil => exact (reads_next? (by decide) rest).bind ((reads_skip _ rest).bind (reads_pure [] rest))
  | cons x tail =>
    obtain ⟨⟨b, bytes, htext, hspace, hclose⟩, hreads⟩ := h x List.mem_cons_self
    have hitem := hreads ((tail.flatMap fun y => code ',' :: write y) ++ code ']' :: rest)
    have hlength := length_le_length_flatMap_cons (code ',') write tail
    rw [joined, List.append_assoc]
    rw [htext, List.cons_append] at hitem ⊢
    refine (reads_next? hspace _).bind ?_
    simp only [if_neg hclose]
    refine hitem.bind ((reads_bound _).bind ?_)
    refine Reads.bind (reads_moreElements (fun y hy => h y (List.mem_cons_of_mem x hy)) ?_ rest)
      (reads_pure _ rest)
    rw [List.length_append, List.length_cons]
    omega

/-- The bytes of a member: its key, a colon and the bytes of its value. -/
def memberText (write : α → List UInt8) (m : String × α) : List UInt8 :=
  spell (stringToken m.1) ++ code ':' :: write m.2

/-- A member is read as its key and its value. -/
theorem reads_member {item : Reader α} {write : α → List UInt8} {m : String × α}
    (h : ReadsBack item (write m.2) m.2) (rest : List UInt8) :
    Reads (member item) (memberText write m ++ rest) m rest := by
  rw [memberText, List.append_assoc, List.cons_append]
  refine (reads_string m.1 _).bind ?_
  refine (reads_colon _).bind ?_
  exact (h.reads rest).bind (reads_pure m rest)

/-- A key starts with a quote. -/
theorem spell_stringToken (s : String) :
    ∃ tail, spell (stringToken s) = code '"' :: tail := by
  refine ⟨spell (s.toList.flatMap escapeChar ++ ['"']), ?_⟩
  rw [stringToken, List.cons_append]
  exact spell_cons_of_lt (by decide) _

/-- The members after the first one are read up to the closing brace. -/
theorem reads_moreMembers {item : Reader α} {write : α → List UInt8} {ms : List (String × α)}
    (h : ∀ m ∈ ms, ReadsBack item (write m.2) m.2) {count : Nat} (hcount : ms.length < count)
    (rest : List UInt8) :
    Reads (moreMembers item count)
      ((ms.flatMap fun m => code ',' :: memberText write m) ++ code '\x7d' :: rest) ms rest := by
  induction ms generalizing count with
  | nil =>
    obtain ⟨n, rfl⟩ : ∃ n, count = n + 1 := ⟨count - 1, by omega⟩
    exact (reads_next? (by decide) rest).bind ((reads_skip _ rest).bind (reads_pure [] rest))
  | cons m ms ih =>
    obtain ⟨n, rfl⟩ : ∃ n, count = n + 1 := ⟨count - 1, by omega⟩
    have hlength : ms.length < n := by
      rw [List.length_cons] at hcount
      omega
    have hmore := ih (fun k hk => h k (List.mem_cons_of_mem m hk)) hlength
    rw [List.flatMap_cons, List.cons_append, List.cons_append, List.append_assoc]
    refine (reads_next? (by decide) _).bind ?_
    refine Reads.bind (reads_skip _ _) ?_
    have hmember := reads_member (h m List.mem_cons_self)
      ((ms.flatMap fun m => code ',' :: memberText write m) ++ code '\x7d' :: rest)
    obtain ⟨tail, hquote⟩ := spell_stringToken m.1
    rw [memberText, hquote, List.cons_append, List.cons_append] at hmember ⊢
    refine (reads_next? (by decide) _).bind ?_
    exact hmember.bind (hmore.bind (reads_pure _ rest))

/-- An object whose first key stands for no embedded text is read from its opening brace on. -/
theorem reads_object {spelling : String → Except Cause Value} {item : Reader Value}
    {write : Value → List UInt8} {ms : List (String × Value)}
    (h : ∀ m ∈ ms, ReadsBack item (write m.2) m.2) (hkey : ∀ m ∈ ms.head?, m.1 ≠ embeddedKey)
    (rest : List UInt8) :
    Reads (object spelling item)
      (code '\x7b' :: (joined (memberText write) ms ++ code '\x7d' :: rest)) (.object ms) rest := by
  refine (reads_skip _ _).bind ?_
  cases ms with
  | nil => exact (reads_next? (by decide) rest).bind ((reads_skip _ rest).bind (reads_pure _ rest))
  | cons m tail =>
    have hlength := length_le_length_flatMap_cons (code ',') (memberText write) tail
    obtain ⟨bytes, hquote⟩ := spell_stringToken m.1
    have hstring := reads_string m.1 (code ':' :: (write m.2 ++
      ((tail.flatMap fun m => code ',' :: memberText write m) ++ code '\x7d' :: rest)))
    have hplain : ¬m.1 = embeddedKey := hkey m rfl
    change Reads string (spell (stringToken m.1) ++ _) _ _ at hstring
    rw [joined, List.append_assoc, memberText, List.append_assoc, List.cons_append]
    rw [hquote, List.cons_append] at hstring ⊢
    refine (reads_next? (by decide) _).bind ?_
    refine Reads.bind hstring ?_
    refine (reads_colon _).bind ?_
    simp only [if_neg hplain]
    refine ((h m List.mem_cons_self).reads _).bind ((reads_bound _).bind ?_)
    refine Reads.bind (reads_moreMembers (fun k hk => h k (List.mem_cons_of_mem m hk)) ?_ rest)
      (reads_pure _ rest)
    rw [List.length_append, List.length_cons]
    omega

end Reader

/-! ## Values -/

/-- Values of at most so many levels, without numbers, in which no object stands for an embedded
text. -/
inductive Plain : Nat → Value → Prop where
  /-- The literal `null`. -/
  | null (depth : Nat) : Plain depth .null
  /-- A truth value. -/
  | bool (depth : Nat) (b : Bool) : Plain depth (.bool b)
  /-- A text. -/
  | string (depth : Nat) (s : String) : Plain depth (.string s)
  /-- An array of values with one level less. -/
  | array {depth : Nat} {vs : List Value} (hvs : ∀ v ∈ vs, Plain depth v) :
    Plain (depth + 1) (.array vs)
  /-- An object of values with one level less. -/
  | object {depth : Nat} {ms : List (String × Value)} (hms : ∀ m ∈ ms, Plain depth m.2)
    (hkey : ∀ m ∈ ms.head?, m.1 ≠ embeddedKey) : Plain (depth + 1) (.object ms)

/-- The tokens of the elements of an array. -/
theorem elementTokens_eq_map (vs : List Value) : elementTokens vs = vs.map Value.tokens := by
  induction vs with
  | nil => rfl
  | cons v vs ih => rw [elementTokens, ih, List.map_cons]

/-- The tokens of the members of an object. -/
theorem memberTokens_eq_map (ms : List (String × Value)) :
    memberTokens ms = ms.map fun m => stringToken m.1 ++ ':' :: m.2.tokens := by
  induction ms with
  | nil => rfl
  | cons m ms ih => rw [memberTokens, ih, List.map_cons]

/-- The bytes of a value. -/
def Value.bytes (v : Value) : List UInt8 := spell v.tokens

/-- The bytes of an array. -/
theorem Value.bytes_array (vs : List Value) :
    (Value.array vs).bytes
      = Reader.code '[' :: (joined Value.bytes vs ++ [Reader.code ']']) := by
  rw [Value.bytes, Value.tokens, List.cons_append, spell_cons_of_lt (by decide), spell_append,
    spell_commaSeparated, elementTokens_eq_map, joined_map]
  rfl

/-- The bytes of an object. -/
theorem Value.bytes_object (ms : List (String × Value)) :
    (Value.object ms).bytes
      = Reader.code '\x7b' :: (joined (Reader.memberText Value.bytes) ms
          ++ [Reader.code '\x7d']) := by
  have hmember : (fun m : String × Value => spell (stringToken m.1 ++ ':' :: m.2.tokens))
      = Reader.memberText Value.bytes := by
    funext m
    rw [spell_append, spell_cons_of_lt (by decide)]
    rfl
  rw [Value.bytes, Value.tokens, List.cons_append, spell_cons_of_lt (by decide), spell_append,
    spell_commaSeparated, memberTokens_eq_map, joined_map, hmember]
  rfl

namespace Reader

/-- A value without levels is read by its first byte. -/
theorem reads_nested_scalar {b : UInt8} {read : Reader Value} (hscalar : scalar? b = some read)
    (hspace : isSpace b = false) {tail rest : List UInt8} {v : Value}
    (h : Reads read (b :: tail) v rest) (spelling : String → Except Cause Value) (depth : Nat) :
    Reads (nested spelling depth) (b :: tail) v rest := by
  rw [nested]
  refine (reads_next? hspace tail).bind ?_
  simp only [hscalar]
  exact h

/-- A plain value is read back from its bytes. -/
theorem readsBack_nested {depth : Nat} {v : Value} (h : Plain depth v)
    (spelling : String → Except Cause Value) :
    ReadsBack (nested spelling depth) v.bytes v := by
  induction h with
  | null depth =>
    refine ⟨⟨code 'n', _, rfl, by decide, by decide⟩, fun rest => ?_⟩
    refine reads_nested_scalar rfl (by decide) ?_ spelling depth
    exact (Reads.bind (reads_skip _ _) (reads_literal _ rest)).bind (reads_pure _ rest)
  | bool depth b =>
    cases b with
    | true =>
      refine ⟨⟨code 't', _, rfl, by decide, by decide⟩, fun rest => ?_⟩
      refine reads_nested_scalar rfl (by decide) ?_ spelling depth
      exact (Reads.bind (reads_skip _ _) (reads_literal _ rest)).bind (reads_pure _ rest)
    | false =>
      refine ⟨⟨code 'f', _, rfl, by decide, by decide⟩, fun rest => ?_⟩
      refine reads_nested_scalar rfl (by decide) ?_ spelling depth
      exact (Reads.bind (reads_skip _ _) (reads_literal _ rest)).bind (reads_pure _ rest)
  | string depth s =>
    obtain ⟨tail, hquote⟩ := spell_stringToken s
    refine ⟨⟨code '"', tail, hquote, by decide, by decide⟩, fun rest => ?_⟩
    have hstring : Reads string ((Value.string s).bytes ++ rest) s rest := reads_string s rest
    rw [Value.bytes, Value.tokens, hquote, List.cons_append] at hstring ⊢
    refine reads_nested_scalar rfl (by decide) ?_ spelling depth
    exact hstring.bind (reads_pure _ rest)
  | array hvs ih =>
    rename_i depth vs
    refine ⟨⟨_, _, Value.bytes_array vs, by decide, by decide⟩, fun rest => ?_⟩
    have hbracket : scalar? (code '[') = none := rfl
    rw [Value.bytes_array, List.cons_append, List.append_assoc, nested]
    refine (reads_next? (by decide) _).bind ?_
    simp only [hbracket, if_true]
    exact (reads_elements ih rest).bind (reads_pure _ rest)
  | object hms hkey ih =>
    rename_i depth ms
    refine ⟨⟨_, _, Value.bytes_object ms, by decide, by decide⟩, fun rest => ?_⟩
    have hbrace : scalar? (code '\x7b') = none := rfl
    have hne : ¬code '\x7b' = code '[' := by decide
    rw [Value.bytes_object, List.cons_append, List.append_assoc, nested]
    refine (reads_next? (by decide) _).bind ?_
    simp only [hbrace, if_neg hne]
    exact reads_object ih hkey rest

end Reader

/-- The bytes of the compact text of a value. -/
theorem Value.utf8_render (v : Value) : Text.utf8 v.render = v.bytes := by
  rw [Text.utf8, Value.render, String.toList_ofList]
  rfl

/-- A plain value is read from its bytes, and what follows is left. -/
theorem reads_value {depth : Nat} {v : Value} (h : Plain depth v) (rest : List UInt8) :
    Reader.Reads (Reader.value depth) (v.bytes ++ rest) v rest := by
  have hreads := (Reader.readsBack_nested h (Reader.spellings (v.bytes ++ rest).length)).reads rest
  rw [Reader.Reads] at hreads
  rw [Reader.Reads, Reader.value]
  exact hreads

/-- A plain value is read from its compact text, and nothing is left. -/
theorem reads_value_render {depth : Nat} {v : Value} (h : Plain depth v) :
    Reader.Reads (Reader.value depth) (Text.utf8 v.render) v [] := by
  rw [Value.utf8_render, ← List.append_nil v.bytes]
  exact reads_value h []

/-- A plain value is the only one in its compact text. -/
theorem run_value {depth : Nat} {v : Value} (h : Plain depth v) :
    run (do let v ← Reader.value depth; Reader.finish; pure v) (Text.utf8 v.render) = .ok v := by
  have hreads : Reader.Reads (do let v ← Reader.value depth; Reader.finish; pure v)
      (Text.utf8 v.render) v [] :=
    (reads_value_render h).bind (Reader.reads_finish.bind (Reader.reads_pure v []))
  rw [run, hreads]

/-- A plain value is read back from its compact text. -/
theorem parse_render {v : Value} (h : Plain maxDepth v) : parse v.render = .ok v :=
  run_value h

end DispatchScan.Json
