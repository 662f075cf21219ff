import DispatchScan.Json.Parse
import DispatchScan.Json.Print
import DispatchScan.Proofs.Text.Ascii
import Mathlib.Tactic.SplitIfs

/-!
# What readers take off a text

`Reads reader text x rest` says that a reader takes the front of a text, gives `x` and leaves
`rest`. Readers that are run one after the other take fronts one after the other. Main statement:
the token of a string is read as this string, whatever its characters and whatever follows.
-/

namespace DispatchScan.Json.Reader

variable {α β : Type}

/-- A reader takes the front of a text, gives a value and leaves the rest. -/
def Reads (reader : Reader α) (text : List UInt8) (x : α) (rest : List UInt8) : Prop :=
  reader text = .ok (x, rest)

/-- A reader that takes nothing. -/
theorem reads_pure (x : α) (text : List UInt8) : Reads (pure x) text x text := rfl

/-- What comes after a reader works on what it left. -/
theorem Reads.bind_apply {reader : Reader α} {text middle : List UInt8} {x : α}
    (h : Reads reader text x middle) (next : α → Reader β) :
    (reader >>= next) text = next x middle := by
  have hbind : (reader >>= next) text = reader text >>= fun (x, middle) => next x middle := rfl
  rw [hbind, h]
  rfl

/-- One reader goes on where the other stopped. -/
theorem Reads.bind {reader : Reader α} {next : α → Reader β} {text middle rest : List UInt8}
    {x : α} {y : β} (hfirst : Reads reader text x middle) (hnext : Reads (next x) middle y rest) :
    Reads (reader >>= next) text y rest := by
  rw [Reads, hfirst.bind_apply next]
  exact hnext

/-- Once one reader is known to take a front, what is left to do is up to the next one. -/
theorem Reads.bind_iff {reader : Reader α} {next : α → Reader β} {text middle rest : List UInt8}
    {x : α} {y : β} (h : Reads reader text x middle) :
    Reads (reader >>= next) text y rest ↔ Reads (next x) middle y rest := by
  rw [Reads, h.bind_apply next, Reads]

/-- What two readers take together is taken by the first one and then by the other one. -/
theorem Reads.exists_of_bind {reader : Reader α} {next : α → Reader β} {text rest : List UInt8}
    {y : β} (h : Reads (reader >>= next) text y rest) :
    ∃ x middle, Reads reader text x middle ∧ Reads (next x) middle y rest := by
  have hbind : (reader >>= next) text = reader text >>= fun (x, middle) => next x middle := rfl
  rw [Reads, hbind] at h
  cases hreader : reader text with
  | error fault =>
    rw [hreader] at h
    cases h
  | ok found =>
    obtain ⟨x, middle⟩ := found
    rw [hreader] at h
    exact ⟨x, middle, hreader, h⟩

/-- A reader takes one front of a text and gives one value. -/
theorem Reads.unique {reader : Reader α} {text rest other : List UInt8} {x y : α}
    (hx : Reads reader text x rest) (hy : Reads reader text y other) : x = y ∧ rest = other :=
  Prod.mk.inj (Except.ok.inj (hx.symm.trans hy))

/-- Looking at what is left takes nothing. -/
theorem reads_get (text : List UInt8) : Reads get text text text := rfl

/-- What is left may be replaced. -/
theorem reads_set (rest text : List UInt8) : Reads (set rest) text () rest := rfl

/-- One byte is taken. -/
theorem reads_skip (b : UInt8) (text : List UInt8) : Reads skip (b :: text) () text := rfl

/-- Nothing is taken by asking how much is left. -/
theorem reads_bound (text : List UInt8) : Reads bound text text.length text := rfl

/-- A byte that is no space is looked at and not taken. -/
theorem reads_next? {b : UInt8} (h : isSpace b = false) (text : List UInt8) :
    Reads next? (b :: text) (some b) (b :: text) := by
  have hdrop : (b :: text).dropWhile isSpace = b :: text := by
    rw [List.dropWhile_cons, h, if_neg Bool.false_ne_true]
  rw [Reads, next?, hdrop, List.head?_cons]

/-- At the end there is nothing to look at. -/
theorem reads_finish : Reads finish [] () [] := rfl

/-- The letters of a literal are taken. -/
theorem reads_literal (wanted rest : List UInt8) :
    Reads (literal wanted) (wanted ++ rest) () rest := by
  induction wanted with
  | nil => rfl
  | cons b wanted ih =>
    rw [Reads, List.cons_append, literal, if_pos rfl]
    exact ih

/-- A colon is taken. -/
theorem reads_colon (rest : List UInt8) : Reads colon (code ':' :: rest) () rest :=
  (reads_next? (by decide) rest).bind (reads_skip _ rest)

/-! ## Strings -/

/-- Bytes that a string holds as they are. -/
def IsRaw (b : UInt8) : Prop := b ≠ 0x22 ∧ ¬b < 0x20 ∧ b ≠ 0x5c

/-- Raw bytes are taken as they are. -/
theorem stringBytes_append_of_isRaw {bytes : List UInt8} (h : ∀ b ∈ bytes, IsRaw b)
    (rest : List UInt8) : stringBytes (bytes ++ rest) = prepend bytes (stringBytes rest) := by
  induction bytes with
  | nil => cases hrest : stringBytes rest <;> simp [prepend, hrest]
  | cons b bytes ih =>
    obtain ⟨hquote, hcontrol, hslash⟩ := h b List.mem_cons_self
    have htail := ih fun d hd => h d (List.mem_cons_of_mem b hd)
    rw [List.cons_append, stringBytes.eq_def]
    simp only [hquote, hcontrol, hslash, if_false, ne_eq, not_false_iff, if_true, htail]
    cases stringBytes rest <;> simp [prepend]

/-- A byte of the multi-byte forms is raw. -/
theorem isRaw_of_le {b : UInt8} (h : 0x80 ≤ b.toNat) : IsRaw b := by
  refine ⟨?_, ?_, ?_⟩
  · rintro rfl
    exact absurd h (by decide)
  · intro hlt
    have hnat : b.toNat < 0x20 := UInt8.lt_iff_toNat_lt.mp hlt
    omega
  · rintro rfl
    exact absurd h (by decide)

/-- Every byte of a character that needs no escape is raw. -/
theorem isRaw_of_mem_utf8EncodeChar {c : Char} (hquote : c ≠ '"') (hslash : c ≠ '\\')
    (hcontrol : ¬c.toNat < 0x20) : ∀ b ∈ String.utf8EncodeChar c, IsRaw b := by
  intro b hb
  by_cases hascii : c.toNat < 0x80
  · rw [Text.utf8EncodeChar_of_lt hascii, List.mem_singleton] at hb
    have hnat : b.toNat = c.toNat := by rw [hb]; exact Text.toNat_asciiByte hascii
    refine ⟨?_, ?_, ?_⟩
    · rintro rfl
      exact hquote (Char.toNat_inj.mp hnat.symm)
    · intro hlt
      have hlt' : b.toNat < 0x20 := UInt8.lt_iff_toNat_lt.mp hlt
      omega
    · rintro rfl
      exact hslash (Char.toNat_inj.mp hnat.symm)
  · exact isRaw_of_le (Text.le_of_mem_utf8EncodeChar hascii b hb)

/-- A one-letter escape gives its byte. -/
theorem stringBytes_shortEscape {e byte : UInt8} (h : shortEscape? e = some byte)
    (rest : List UInt8) :
    stringBytes (0x5c :: e :: rest) = prepend [byte] (stringBytes rest) := by
  rw [stringBytes.eq_def]
  simp only [h]
  rfl

/-- Four digits of a unit outside the surrogates give its character. -/
theorem stringBytes_unit {a b c d : UInt8} {n : Nat} (h : unit? a b c d = some n)
    (hfirst : isFirstHalf n = false) (hsecond : isSecondHalf n = false) (rest : List UInt8) :
    stringBytes (0x5c :: 0x75 :: a :: b :: c :: d :: rest)
      = prepend (String.utf8EncodeChar (Char.ofNat n)) (stringBytes rest) := by
  have hletter : shortEscape? 0x75 = none := by decide
  rw [stringBytes.eq_def]
  simp only [hletter, h, hfirst, hsecond]
  rfl

/-- The four digits written for a control character spell its code. -/
theorem unit?_digitChar {n : Nat} (h : n < 0x20) :
    unit? (Text.asciiByte '0') (Text.asciiByte '0') (Text.asciiByte (Nat.digitChar (n / 16)))
      (Text.asciiByte (Nat.digitChar (n % 16))) = some n := by
  have hall : ∀ n : Fin 0x20, unit? (Text.asciiByte '0') (Text.asciiByte '0')
      (Text.asciiByte (Nat.digitChar (n.val / 16))) (Text.asciiByte (Nat.digitChar (n.val % 16)))
        = some n.val := by
    decide
  exact hall ⟨n, h⟩

/-- A control character that no letter stands for is written as a unit and read back. -/
theorem stringBytes_control {c : Char} (h : c.toNat < 0x20) (rest : List UInt8) :
    stringBytes (['\\', 'u', '0', '0', Nat.digitChar (c.toNat / 16),
        Nat.digitChar (c.toNat % 16)].flatMap String.utf8EncodeChar ++ rest)
      = prepend (String.utf8EncodeChar c) (stringBytes rest) := by
  have hdigit : ∀ n < 0x10, (Nat.digitChar n).toNat < 0x80 := by decide
  have hchars : ∀ d ∈ ['\\', 'u', '0', '0', Nat.digitChar (c.toNat / 16),
      Nat.digitChar (c.toNat % 16)], d.toNat < 0x80 := by
    intro d hd
    simp only [List.mem_cons, List.not_mem_nil, or_false] at hd
    rcases hd with rfl | rfl | rfl | rfl | rfl | rfl
    · decide
    · decide
    · decide
    · decide
    · exact hdigit _ (by omega)
    · exact hdigit _ (by omega)
  have hfirst : isFirstHalf c.toNat = false := by
    rw [isFirstHalf, Bool.and_eq_false_iff]
    exact Or.inl (decide_eq_false (by omega))
  have hsecond : isSecondHalf c.toNat = false := by
    rw [isSecondHalf, Bool.and_eq_false_iff]
    exact Or.inl (decide_eq_false (by omega))
  rw [Text.flatMap_utf8EncodeChar hchars]
  have hread := stringBytes_unit (unit?_digitChar h) hfirst hsecond rest
  rw [Char.ofNat_toNat] at hread
  exact hread

/-- What is written for a character is read as its bytes. -/
theorem stringBytes_escapeChar (c : Char) (rest : List UInt8) :
    stringBytes ((escapeChar c).flatMap String.utf8EncodeChar ++ rest)
      = prepend (String.utf8EncodeChar c) (stringBytes rest) := by
  rw [escapeChar]
  split_ifs with hquote hslash hback hfeed hline hreturn htab hcontrol
  · subst hquote
    exact stringBytes_shortEscape (by decide) rest
  · subst hslash
    exact stringBytes_shortEscape (by decide) rest
  · subst hback
    exact stringBytes_shortEscape (by decide) rest
  · subst hfeed
    exact stringBytes_shortEscape (by decide) rest
  · subst hline
    exact stringBytes_shortEscape (by decide) rest
  · subst hreturn
    exact stringBytes_shortEscape (by decide) rest
  · subst htab
    exact stringBytes_shortEscape (by decide) rest
  · exact stringBytes_control hcontrol rest
  · rw [List.flatMap_singleton]
    exact stringBytes_append_of_isRaw (isRaw_of_mem_utf8EncodeChar hquote hslash hcontrol) rest

/-- What is written for characters, up to the closing quote, is read as their bytes. -/
theorem stringBytes_flatMap_escapeChar (cs : List Char) (rest : List UInt8) :
    stringBytes ((cs.flatMap escapeChar).flatMap String.utf8EncodeChar ++ 0x22 :: rest)
      = .ok (cs.flatMap String.utf8EncodeChar, rest) := by
  induction cs with
  | nil =>
    rw [List.flatMap_nil, List.flatMap_nil, List.nil_append, stringBytes.eq_def]
    rfl
  | cons c cs ih =>
    rw [List.flatMap_cons, List.flatMap_append, List.append_assoc, stringBytes_escapeChar, ih,
      List.flatMap_cons]
    rfl

/-- The token of a string is read as the string. -/
theorem reads_string (s : String) (rest : List UInt8) :
    Reads string ((stringToken s).flatMap String.utf8EncodeChar ++ rest) s rest := by
  have htoken : (stringToken s).flatMap String.utf8EncodeChar ++ rest
      = 0x22 :: ((s.toList.flatMap escapeChar).flatMap String.utf8EncodeChar ++ 0x22 :: rest) := by
    rw [stringToken, List.cons_append, List.flatMap_cons, List.flatMap_append, List.append_assoc,
      List.append_assoc]
    rfl
  rw [htoken]
  refine (reads_skip _ _).bind ?_
  refine Reads.bind (stringBytes_flatMap_escapeChar s.toList rest) ?_
  have hback : Text.ofUtf8? (s.toList.flatMap String.utf8EncodeChar) = some s := Text.ofUtf8?_utf8 s
  rw [hback]
  exact reads_pure s rest

end DispatchScan.Json.Reader
