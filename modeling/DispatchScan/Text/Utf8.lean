/-!
# Texts as UTF-8 bytes

`utf8` lists the bytes of a text; `ofUtf8?` reads a list of bytes back and accepts exactly the
well-formed sequences: no overlong form, no surrogate, nothing above U+10FFFF. Both recurse on
their list, so every position in a byte text is a suffix of it and never an index. Main statement:
a text survives the trip through its bytes.
-/

namespace DispatchScan.Text

/-- The UTF-8 bytes of a text, in order. -/
def utf8 (s : String) : List UInt8 :=
  s.toList.flatMap String.utf8EncodeChar

/-- The six payload bits of a continuation byte, or none for any other byte. -/
def continuation? (b : UInt8) : Option Nat :=
  if 0x80 ≤ b.toNat ∧ b.toNat ≤ 0xbf then some (b.toNat - 0x80) else none

/-- The character with code point `n`, provided that no shorter form could have carried it
(`low ≤ n`) and that it is a scalar value. -/
def scalar? (low n : Nat) : Option Char :=
  if h : low ≤ n ∧ n.isValidChar then some (Char.ofNatAux n h.2) else none

/-- Decode bytes into characters. The first byte of a character fixes its length; each further
byte must be a continuation byte, and the code point must need that length. -/
def decode? : List UInt8 → Option (List Char)
  | [] => some []
  | a :: rest =>
    if a.toNat < 0x80 then do
      let c ← scalar? 0 a.toNat
      (decode? rest).map (c :: ·)
    else if a.toNat < 0xc0 then none
    else if a.toNat < 0xe0 then
      match rest with
      | b :: rest => do
        let y ← continuation? b
        let c ← scalar? 0x80 ((a.toNat - 0xc0) * 64 + y)
        (decode? rest).map (c :: ·)
      | [] => none
    else if a.toNat < 0xf0 then
      match rest with
      | b₁ :: b₂ :: rest => do
        let y ← continuation? b₁
        let z ← continuation? b₂
        let c ← scalar? 0x800 ((a.toNat - 0xe0) * 4096 + y * 64 + z)
        (decode? rest).map (c :: ·)
      | _ => none
    else if a.toNat < 0xf8 then
      match rest with
      | b₁ :: b₂ :: b₃ :: rest => do
        let x ← continuation? b₁
        let y ← continuation? b₂
        let z ← continuation? b₃
        let c ← scalar? 0x10000 ((a.toNat - 0xf0) * 262144 + x * 4096 + y * 64 + z)
        (decode? rest).map (c :: ·)
      | _ => none
    else none

/-- The text with the given UTF-8 bytes, or none when they are not well formed. -/
def ofUtf8? (bytes : List UInt8) : Option String :=
  (decode? bytes).map String.ofList

/-- A code point that is already a character is read as that character. -/
theorem scalar?_toNat {low : Nat} {c : Char} (h : low ≤ c.toNat) :
    scalar? low c.toNat = some c := by
  have hv : c.toNat.isValidChar := c.valid
  rw [scalar?, dif_pos ⟨h, hv⟩]
  exact congrArg some (Char.ext rfl)

/-- A byte made by adding six bits to the continuation mark gives the bits back. -/
theorem continuation?_ofNat (n : Nat) :
    continuation? (UInt8.ofNat (n % 64 + 128)) = some (n % 64) := by
  have h : (n % 64 + 128) % 256 = n % 64 + 128 := Nat.mod_eq_of_lt (by omega)
  simp only [continuation?, UInt8.toNat_ofNat', Nat.reducePow, h]
  rw [if_pos (by omega)]
  simp

/-- The bytes of one character, followed by anything, decode to that character first. -/
theorem decode?_utf8EncodeChar_append (c : Char) (rest : List UInt8) :
    decode? (String.utf8EncodeChar c ++ rest) = (decode? rest).map (c :: ·) := by
  have hc : c.val.toNat = c.toNat := rfl
  have hlt : c.toNat < 0x110000 := by
    rw [← hc]
    rcases c.valid with h | h <;> simp only [UInt32.toNat] at h ⊢ <;> omega
  unfold String.utf8EncodeChar
  simp only [hc]
  split
  · rename_i h
    have h256 : c.toNat % 256 = c.toNat := Nat.mod_eq_of_lt (by omega)
    rw [List.cons_append, List.nil_append, decode?.eq_def]
    simp only [UInt8.toNat_ofNat', Nat.reducePow, h256]
    rw [if_pos (by omega)]
    simp only [scalar?_toNat (Nat.zero_le _), Option.bind_eq_bind, Option.bind_some]
  · split
    · rename_i h1 h2
      have ha : (c.toNat / 64 % 32 + 192) % 256 = c.toNat / 64 + 192 := by omega
      have hs : (c.toNat / 64 + 192 - 192) * 64 + c.toNat % 64 = c.toNat := by omega
      simp only [List.cons_append, List.nil_append, decode?, UInt8.toNat_ofNat', Nat.reducePow, ha]
      rw [if_neg (by omega), if_neg (by omega), if_pos (by omega)]
      simp only [continuation?_ofNat, hs, scalar?_toNat (show 0x80 ≤ c.toNat by omega),
          Option.bind_eq_bind, Option.bind_some]
    · split
      · rename_i h1 h2 h3
        have ha : (c.toNat / 4096 % 16 + 224) % 256 = c.toNat / 4096 + 224 := by omega
        have hs : (c.toNat / 4096 + 224 - 224) * 4096 + c.toNat / 64 % 64 * 64 + c.toNat % 64
            = c.toNat := by
          omega
        simp only [List.cons_append, List.nil_append, decode?, UInt8.toNat_ofNat', Nat.reducePow,
          ha]
        rw [if_neg (by omega), if_neg (by omega), if_neg (by omega), if_pos (by omega)]
        simp only [continuation?_ofNat, hs, scalar?_toNat (show 0x800 ≤ c.toNat by omega),
          Option.bind_eq_bind, Option.bind_some]
      · rename_i h1 h2 h3
        have ha : (c.toNat / 262144 % 8 + 240) % 256 = c.toNat / 262144 + 240 := by omega
        have hs : (c.toNat / 262144 + 240 - 240) * 262144 + c.toNat / 4096 % 64 * 4096
            + c.toNat / 64 % 64 * 64 + c.toNat % 64 = c.toNat := by
          omega
        simp only [List.cons_append, List.nil_append, decode?, UInt8.toNat_ofNat', Nat.reducePow,
          ha]
        rw [if_neg (by omega), if_neg (by omega), if_neg (by omega), if_neg (by omega),
          if_pos (by omega)]
        simp only [continuation?_ofNat, Option.bind_eq_bind]
        rw [Option.bind_some, Option.bind_some, Option.bind_some, hs,
          scalar?_toNat (show 0x10000 ≤ c.toNat by omega), Option.bind_some]

/-- A text is recovered from its bytes. -/
theorem ofUtf8?_utf8 (s : String) : ofUtf8? (utf8 s) = some s := by
  have h : ∀ cs : List Char, decode? (cs.flatMap String.utf8EncodeChar) = some cs := by
    intro cs
    induction cs with
    | nil => rfl
    | cons c cs ih => rw [List.flatMap_cons, decode?_utf8EncodeChar_append, ih]; rfl
  simp [ofUtf8?, utf8, h]

end DispatchScan.Text
