/-!
# Punycode

A text beyond ASCII is spelled in ASCII by its ASCII characters, a hyphen and a row of numbers, each
of which says what to insert next and where. A number is written least digit first in base 36; how
large its last digit may be depends on the numbers before it. The characters beyond ASCII come in
the order of their code points, so every number is the distance to the one before.
-/

namespace DispatchScan.Domain.Punycode

/-- The number of digits. -/
def base : Nat := 36

/-- The first code point that is inserted. -/
def firstInserted : Nat := 0x80

/-- The bias of the first number. -/
def firstBias : Nat := 72

/-- The largest number that a row may hold. -/
def maxNumber : Nat := Nat.pow 2 32 - 1

/-- The value of a digit: `a` to `z` in either case, then `0` to `9`. -/
def digitValue? (c : Char) : Option Nat :=
  if 'a' ≤ c ∧ c ≤ 'z' then some (c.toNat - 'a'.toNat)
  else if 'A' ≤ c ∧ c ≤ 'Z' then some (c.toNat - 'A'.toNat)
  else if '0' ≤ c ∧ c ≤ '9' then some (c.toNat - '0'.toNat + 26)
  else none

/-- The digit of a value below 36. -/
def digitChar (n : Nat) : Char :=
  if n < 26 then Char.ofNat ('a'.toNat + n) else Char.ofNat ('0'.toNat + (n - 26))

/-- The values from which on the digit at a place, counted in steps of 36, is not the last one. -/
def threshold (place bias : Nat) : Nat :=
  if place ≤ bias then 1 else min 26 (place - bias)

/-- A threshold is at least one. -/
theorem threshold_pos (place bias : Nat) : 1 ≤ threshold place bias := by
  unfold threshold
  split <;> omega

/-- Divide by 35 until at most 455 is left, and count the divisions in steps of 36. -/
def divisions (steps n : Nat) : Nat × Nat :=
  if 455 < n then divisions (steps + base) (n / 35) else (steps, n)
termination_by n

/-- The bias after a number, when the text has `size` characters with the one inserted. -/
def adapt (number size : Nat) (first : Bool) : Nat :=
  let scaled := if first then number / 700 else number / 2
  let (steps, left) := divisions 0 (scaled + scaled / size)
  steps + base * left / (left + 38)

/-! ## Reading -/

/-- Read the number that starts here, added to what is given, and the characters behind it. -/
def readNumber? (bias place weight number : Nat) : List Char → Option (Nat × List Char)
  | [] => none
  | c :: cs => do
    let digit ← digitValue? c
    let number := number + digit * weight
    let weight' := weight * (base - threshold place bias)
    if maxNumber < number then none
    else if digit < threshold place bias then some (number, cs)
    else if maxNumber < weight' then none
    else readNumber? bias (place + base) weight' number cs

/-- A number has a digit. -/
theorem readNumber?_length {bias place weight number : Nat} {cs rest : List Char} {n : Nat}
    (h : readNumber? bias place weight number cs = some (n, rest)) : rest.length < cs.length := by
  induction cs generalizing place weight number with
  | nil => simp [readNumber?] at h
  | cons c cs ih =>
    rw [readNumber?] at h
    cases hd : digitValue? c with
    | none => simp [hd] at h
    | some digit =>
      simp only [hd, bind, Option.bind] at h
      split at h
      · cases h
      · split at h
        · cases h
          exact Nat.lt_succ_self _
        · split at h
          · cases h
          · exact Nat.lt_succ_of_lt (ih h)

/-- Insert the characters of a row of numbers into a text, where `point` is the last code point that
was inserted and `index` the place behind it. -/
def insertRow? (bias point index : Nat) (text : List Char) (row : List Char) :
    Option (List Char) :=
  if row.isEmpty then some text
  else
    match h : readNumber? bias base 1 index row with
    | none => none
    | some (number, rest) =>
      let size := text.length + 1
      let point' := point + number / size
      let index' := number % size
      if point'.isValidChar then
        insertRow? (adapt (number - index) size (index == 0)) point' (index' + 1)
          (text.insertIdx index' (Char.ofNat point')) rest
      else none
termination_by row.length
decreasing_by exact readNumber?_length h

/-- The parts of a text in front of its last hyphen and behind it. Without a hyphen, or with one in
front alone, all of it is behind. -/
def splitRow (cs : List Char) : List Char × List Char :=
  let row := (cs.reverse.takeWhile (· != '-')).reverse
  if cs.length ≤ row.length + 1 then ([], cs)
  else (cs.take (cs.length - row.length - 1), row)

/-- The text that an ASCII text spells. -/
def decode? (cs : List Char) : Option (List Char) :=
  let (text, row) := splitRow cs
  insertRow? firstBias firstInserted 0 text row

/-! ## Writing -/

/-- The digits of a number from a place on. -/
def writeNumber (bias place number : Nat) : List Char :=
  let least := threshold place bias
  if number < least then [digitChar number]
  else
    digitChar (least + (number - least) % (base - least))
      :: writeNumber bias (place + base) ((number - least) / (base - least))
termination_by number
decreasing_by
  have := threshold_pos place bias
  have := Nat.div_le_self (number - threshold place bias) (base - threshold place bias)
  omega

/-- How far a row of numbers has come. -/
structure Progress where
  /-- The numbers so far. -/
  row : List Char
  /-- The distance since the last number. -/
  distance : Nat
  /-- The bias of the next number. -/
  bias : Nat
  /-- The number of characters that the numbers so far give. -/
  size : Nat

/-- Pass a character of the text while the code point `point` is inserted. -/
def Progress.pass (point plain : Nat) (progress : Progress) (c : Char) : Progress :=
  if c.toNat < point then { progress with distance := progress.distance + 1 }
  else if c.toNat = point then
    let size := progress.size + 1
    ⟨progress.row ++ writeNumber progress.bias base progress.distance, 0,
      adapt progress.distance size (progress.size == plain), size⟩
  else progress

/-- Write the numbers for the code points of a list, which is in ascending order; `last` is the one
before them. -/
def writeRow (text : List Char) (plain last : Nat) (progress : Progress) : List Nat → List Char
  | [] => progress.row
  | point :: points =>
    let start := { progress with
      distance := progress.distance + (point - last) * (progress.size + 1) }
    let done := text.foldl (Progress.pass point plain) start
    writeRow text plain (point + 1) { done with distance := done.distance + 1 } points

/-- The ASCII text that spells a text. -/
def encode (cs : List Char) : List Char :=
  let plain := cs.filter fun c => c.toNat < firstInserted
  let points := (cs.map Char.toNat).filter (firstInserted ≤ ·)
  let row := writeRow cs plain.length firstInserted ⟨[], 0, firstBias, plain.length⟩
    (points.mergeSort (· ≤ ·)).eraseDups
  if plain.isEmpty then row else plain ++ '-' :: row

end DispatchScan.Domain.Punycode
