import DispatchScan.Hex
import DispatchScan.Json.Fault

/-!
# Readers over bytes

A reader takes bytes off the front of a JSON text and gives a value and the bytes left, or a fault.
A fault is reported either for the place reached or for the byte after it, which was looked at but
not taken. Literals, numbers and strings are read here; white space is skipped before each of them
by whoever looks for it.
-/

namespace DispatchScan.Json

/-- Takes bytes off the front of a text. -/
abbrev Reader (α : Type) := StateT (List UInt8) (Except Fault) α

namespace Reader

/-- The byte of an ASCII character. -/
def code (c : Char) : UInt8 := UInt8.ofNat c.toNat

/-- Stop with a fault at the place reached. -/
def failHere {α : Type} (cause : Cause) : Reader α :=
  fun rest => .error ⟨cause, rest.length⟩

/-- Stop with a fault at the next byte, or at the end of the text when there is none. -/
def failNext {α : Type} (cause : Cause) : Reader α :=
  fun rest => .error ⟨cause, rest.length - 1⟩

/-- Whether a byte may stand between tokens. -/
def isSpace (b : UInt8) : Bool :=
  b == 0x20 || b == 0x0a || b == 0x09 || b == 0x0d

/-- Skip space and look at the next byte without taking it. -/
def next? : Reader (Option UInt8) :=
  fun rest =>
    let rest := rest.dropWhile isSpace
    .ok (rest.head?, rest)

/-- Take one byte. -/
def skip : Reader Unit :=
  fun rest => .ok ((), rest.drop 1)

/-- The number of bytes left, which bounds how often anything can be read from them. -/
def bound : Reader Nat :=
  fun rest => .ok (rest.length, rest)

/-- Take the given bytes of a literal. -/
def literal : List UInt8 → Reader Unit
  | [], rest => .ok ((), rest)
  | _ :: _, [] => .error ⟨.endInValue, 0⟩
  | wanted :: more, b :: rest =>
    if b = wanted then literal more rest else .error ⟨.badLiteral, rest.length⟩

/-- Take a literal of which the first letter was looked at. -/
def word (text : String) : Reader Unit := do
  skip
  literal ((Text.utf8 text).drop 1)

/-! ## Numbers -/

/-- Whether a byte is a decimal digit. -/
def isDigit (b : UInt8) : Bool :=
  0x30 ≤ b && b ≤ 0x39

/-- The largest number of 64 bits. -/
def maxNatural : Nat := Nat.pow 2 64 - 1

/-- Append digits to a number of 64 bits while the result has 64 bits; also the digits left. -/
def appendDigits (n : Nat) : List UInt8 → Nat × List UInt8
  | [] => (n, [])
  | d :: ds =>
    let m := n * 10 + (d.toNat - 0x30)
    if maxNatural < m then (n, d :: ds) else appendDigits m ds

/-- A number with a fraction or an exponent, or one too long for 64 bits. -/
def real (minus : Bool) (significand : Nat) (exponent : Int) : Reader Number :=
  match Binary64.ofDecimal? significand exponent with
  | some size => pure (.real minus size)
  | none => failHere .numberTooLarge

/-- The largest exponent that is followed up. -/
def maxExponent : Nat := Nat.pow 2 31 - 1

/-- Read the digits of an exponent after the first. Beyond `maxExponent` the number is zero or too
large, whatever its significand. -/
def exponentDigits (minus : Bool) (significand : Nat) (place : Int) (down : Bool) :
    Nat → List UInt8 → Except Fault (Number × List UInt8)
  | e, d :: rest =>
    if isDigit d then
      let e' := e * 10 + (d.toNat - 0x30)
      if maxExponent < e' then
        if significand ≠ 0 ∧ ¬ down then .error ⟨.numberTooLarge, rest.length⟩
        else .ok (.real minus Binary64.zero, rest.dropWhile isDigit)
      else exponentDigits minus significand place down e' rest
    else real minus significand (if down then place - e else place + e) (d :: rest)
  | e, [] => real minus significand (if down then place - e else place + e) []

/-- Read an exponent from its letter on. -/
def exponent (minus : Bool) (significand : Nat) (place : Int) : Reader Number := do
  skip
  let start ← get
  let down := start.head? == some (code '-')
  if down || start.head? == some (code '+') then skip
  match ← get with
  | [] => failHere .endInValue
  | d :: rest =>
    set rest
    if isDigit d then fun rest => exponentDigits minus significand place down (d.toNat - 0x30) rest
    else failHere .badNumber

/-- Read an exponent if there is one, and give the number. -/
def scaledReal (minus : Bool) (significand : Nat) (place : Int) : Reader Number := do
  match ← get with
  | b :: _ =>
    if b == code 'e' || b == code 'E' then exponent minus significand place
    else real minus significand place
  | [] => real minus significand place

/-- Read a fraction from its point on, when `place` digits before it were left out. -/
def fraction (minus : Bool) (significand : Nat) (place : Int) : Reader Number := do
  skip
  let rest ← get
  let ds := rest.takeWhile isDigit
  match ds, rest with
  | [], [] => failNext .endInValue
  | [], _ => failNext .badNumber
  | _, _ =>
    set (rest.drop ds.length)
    let (significand, left) := appendDigits significand ds
    scaledReal minus significand (place - (ds.length - left.length : Nat))

/-- Read what may follow the digits before the point, of which `place` were left out. -/
def afterInteger (minus : Bool) (significand place : Nat) : Reader Number := do
  match ← get with
  | b :: _ =>
    if b == code '.' then fraction minus significand place
    else if b == code 'e' || b == code 'E' then exponent minus significand place
    else whole
  | [] => whole
where
  /-- A number without fraction and exponent. -/
  whole : Reader Number :=
    if place ≠ 0 then real minus significand place
    else if ¬ minus then pure (.natural significand)
    else if significand = 0 ∨ Nat.pow 2 63 < significand then real true significand 0
    else pure (.negative significand)

/-- Read a number after its sign. No digit may follow a leading zero. -/
def number (minus : Bool) : Reader Number := do
  match ← get with
  | [] => failHere .endInValue
  | d :: rest =>
    if ¬ isDigit d then
      set rest
      failHere .badNumber
    else if d = code '0' then
      set rest
      if rest.head?.any isDigit then failNext .badNumber else afterInteger minus 0 0
    else
      let ds := (d :: rest).takeWhile isDigit
      set ((d :: rest).drop ds.length)
      let (significand, left) := appendDigits 0 ds
      afterInteger minus significand left.length

/-! ## Strings -/

/-- The character of a one-letter escape. -/
def shortEscape? (b : UInt8) : Option UInt8 :=
  if b = code '"' then some 0x22
  else if b = code '\\' then some 0x5c
  else if b = code '/' then some 0x2f
  else if b = code 'b' then some 0x08
  else if b = code 'f' then some 0x0c
  else if b = code 'n' then some 0x0a
  else if b = code 'r' then some 0x0d
  else if b = code 't' then some 0x09
  else none

/-- The value of four hexadecimal digits. -/
def unit? (a b c d : UInt8) : Option Nat := do
  let a ← Hex.digitValue? a.toNat
  let b ← Hex.digitValue? b.toNat
  let c ← Hex.digitValue? c.toNat
  let d ← Hex.digitValue? d.toNat
  return ((a * 16 + b) * 16 + c) * 16 + d

/-- Whether a unit is the first half of a pair. -/
def isFirstHalf (n : Nat) : Bool := 0xd800 ≤ n && n ≤ 0xdbff

/-- Whether a unit is the second half of a pair. -/
def isSecondHalf (n : Nat) : Bool := 0xdc00 ≤ n && n ≤ 0xdfff

/-- The character of two halves of a pair. -/
def pairChar (first second : Nat) : Char :=
  Char.ofNat (0x10000 + (first - 0xd800) * 0x400 + (second - 0xdc00))

/-- Put bytes in front of what a string holds. -/
def prepend (bytes : List UInt8) :
    Except Fault (List UInt8 × List UInt8) → Except Fault (List UInt8 × List UInt8)
  | .ok (more, rest) => .ok (bytes ++ more, rest)
  | .error fault => .error fault

/-- Read the bytes of a string after its opening quote, up to and with the closing one. -/
def stringBytes : List UInt8 → Except Fault (List UInt8 × List UInt8)
  | [] => .error ⟨.endInString, 0⟩
  | b :: rest =>
    if b = 0x22 then .ok ([], rest)
    else if b < 0x20 then .error ⟨.controlCharacter, rest.length⟩
    else if b ≠ 0x5c then prepend [b] (stringBytes rest)
    else
      match rest with
      | [] => .error ⟨.endInString, 0⟩
      | e :: rest =>
        match shortEscape? e with
        | some byte => prepend [byte] (stringBytes rest)
        | none =>
          if e ≠ 0x75 then .error ⟨.badEscape, rest.length⟩
          else
            match rest with
            | h₁ :: h₂ :: h₃ :: h₄ :: rest =>
              match unit? h₁ h₂ h₃ h₄ with
              | none => .error ⟨.badEscape, rest.length⟩
              | some n =>
                if isSecondHalf n then .error ⟨.loneSurrogate, rest.length⟩
                else if ¬ isFirstHalf n then
                  prepend (String.utf8EncodeChar (Char.ofNat n)) (stringBytes rest)
                else
                  match rest with
                  | [] => .error ⟨.endInString, 0⟩
                  | slash :: rest =>
                    if slash ≠ 0x5c then .error ⟨.noSecondEscape, rest.length⟩
                    else
                      match rest with
                      | [] => .error ⟨.endInString, 0⟩
                      | letter :: rest =>
                        if letter ≠ 0x75 then .error ⟨.noSecondEscape, rest.length⟩
                        else
                          match rest with
                          | l₁ :: l₂ :: l₃ :: l₄ :: rest =>
                            match unit? l₁ l₂ l₃ l₄ with
                            | none => .error ⟨.badEscape, rest.length⟩
                            | some m =>
                              if isSecondHalf m then
                                prepend (String.utf8EncodeChar (pairChar n m)) (stringBytes rest)
                              else .error ⟨.loneSurrogate, rest.length⟩
                          | _ => .error ⟨.endInString, 0⟩
            | _ => .error ⟨.endInString, 0⟩

/-- Read a string from its opening quote on. -/
def string : Reader String := do
  skip
  let bytes ← stringBytes
  match Text.ofUtf8? bytes with
  | some s => pure s
  | none => failHere .notUtf8

end Reader

end DispatchScan.Json
