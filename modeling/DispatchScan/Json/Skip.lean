import DispatchScan.Json.Parse

/-!
# Passing over JSON values

Values of unknown fields are passed over by a more lenient grammar than the one they are read
with: nesting is not limited, numbers have no range, strings need neither paired surrogates nor
valid UTF-8, and a closing bracket after a comma counts as a missing value or key.
-/

namespace DispatchScan.Json.Reader

/-- Pass over the rest of a number from the letter of its exponent on. -/
def skipExponent : Reader Unit := do
  skip
  let start ← get
  if start.head? == some (code '+') || start.head? == some (code '-') then skip
  match ← get with
  | [] => failHere .badNumber
  | d :: rest =>
    set (rest.dropWhile isDigit)
    if ¬ isDigit d then
      set rest
      failHere .badNumber

/-- Whether the next byte starts an exponent. -/
def atExponent (rest : List UInt8) : Bool :=
  rest.head? == some (code 'e') || rest.head? == some (code 'E')

/-- Pass over the rest of a number from its point on. -/
def skipFraction : Reader Unit := do
  skip
  let rest ← get
  let ds := rest.takeWhile isDigit
  if ds.isEmpty then failNext .badNumber
  else
    let left := rest.drop ds.length
    set left
    if atExponent left then skipExponent

/-- Pass over a number after its sign. -/
def skipNumber : Reader Unit := do
  match ← get with
  | [] => failHere .badNumber
  | d :: rest =>
    if ¬ isDigit d then
      set rest
      failHere .badNumber
    else
      set (if d = code '0' then rest else rest.dropWhile isDigit)
      let left ← get
      if d = code '0' && left.head?.any isDigit then failNext .badNumber
      else if left.head? == some (code '.') then skipFraction
      else if atExponent left then skipExponent

/-- Pass over a string after its opening quote. -/
def skipString : List UInt8 → Except Fault (Unit × List UInt8)
  | [] => .error ⟨.endInString, 0⟩
  | b :: rest =>
    if b = 0x22 then .ok ((), rest)
    else if b < 0x20 then .error ⟨.controlCharacter, rest.length + 1⟩
    else if b ≠ 0x5c then skipString rest
    else
      match rest with
      | [] => .error ⟨.endInString, 0⟩
      | e :: rest =>
        if (shortEscape? e).isSome then skipString rest
        else if e ≠ 0x75 then .error ⟨.badEscape, rest.length⟩
        else
          match rest with
          | h₁ :: h₂ :: h₃ :: h₄ :: rest =>
            if (unit? h₁ h₂ h₃ h₄).isSome then skipString rest
            else .error ⟨.badEscape, rest.length⟩
          | _ => .error ⟨.endInString, 0⟩

/-- Pass over a key and its colon. -/
def skipKey : Reader Unit := do
  match ← next? with
  | none => failNext .endInObject
  | some b =>
    if b = code '"' then do
      skip
      skipString
      colon
    else failNext .badKey

/-- Pass over the elements after the first one, up to and with the closing bracket. -/
def skipElements (item : Reader Unit) : Nat → Reader Unit
  | 0 => failNext .endInList
  | count + 1 => do
    match ← next? with
    | none => failNext .endInList
    | some b =>
      if b = code ']' then skip
      else if b = code ',' then do
        skip
        item
        skipElements item count
      else failNext .noListComma

/-- Pass over the members after the first one, up to and with the closing brace. -/
def skipMembers (item : Reader Unit) : Nat → Reader Unit
  | 0 => failNext .endInObject
  | count + 1 => do
    match ← next? with
    | none => failNext .endInObject
    | some b =>
      if b = code '\x7d' then skip
      else if b = code ',' then do
        skip
        skipKey
        item
        skipMembers item count
      else failNext .noObjectComma

/-- Pass over a value with at most the given number of levels of arrays and objects. -/
def skipLevels (levels : Nat) : Reader Unit := do
  match ← next? with
  | none => failNext .endInValue
  | some b =>
    if b = code 'n' then word "null"
    else if b = code 't' then word "true"
    else if b = code 'f' then word "false"
    else if b = code '-' then do
      skip
      skipNumber
    else if isDigit b then skipNumber
    else if b = code '"' then do
      skip
      skipString
    else if b = code '[' then
      match levels with
      | 0 => failNext .endInValue
      | inner + 1 => do
        skip
        match ← next? with
        | none => failNext .endInList
        | some c =>
          if c = code ']' then skip
          else do
            skipLevels inner
            skipElements (skipLevels inner) (← bound)
    else if b = code '\x7b' then
      match levels with
      | 0 => failNext .endInValue
      | inner + 1 => do
        skip
        match ← next? with
        | none => failNext .endInObject
        | some c =>
          if c = code '\x7d' then skip
          else do
            skipKey
            skipLevels inner
            skipMembers (skipLevels inner) (← bound)
    else failNext .noValue

/-- Pass over a value of any depth: each level takes a byte, so the bytes left bound the levels. -/
def skipValue : Reader Unit := do
  skipLevels (← bound)

end DispatchScan.Json.Reader
