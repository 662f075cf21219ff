import DispatchScan.Json.Skip

/-!
# Reading records

A record is a list of named fields that update a state, which starts at the defaults. It is written
as an object, whose fields come in any order and at most once and whose unknown keys are passed
over, or as an array of the fields in declaration order. Reading goes through the text once, so the
first fault in text order is the one reported.
-/

namespace DispatchScan.Json

/-- A field of a record with states `σ`. -/
structure Field (σ : Type) where
  /-- The key in an object. -/
  key : String
  /-- Whether an array may end before this field. -/
  optional : Bool
  /-- Read the value of the field into the state. -/
  read : σ → Reader σ

namespace Reader

/-- Read a text. -/
def text : Reader String := do
  match ← next? with
  | none => failNext .endInValue
  | some b => if b = code '"' then string else failType "a string"

/-- Read a number of 64 bits without sign. -/
def natural : Reader Nat := do
  match ← next? with
  | none => failNext .endInValue
  | some b =>
    if b = code '-' ∨ isDigit b then do
      if b = code '-' then skip
      match ← number (b = code '-') with
      | .natural n => pure n
      | .negative n => failHere (.outOfRange (.integer (-(n : Int))) "u64")
      | .real minus size => failHere (.wrongType (.real minus size) "u64")
    else failType "u64"

/-- Read `null` as nothing, and anything else with the given reader. -/
def nullable {α : Type} (item : Reader α) : Reader (Option α) := do
  match ← next? with
  | none => do let x ← item; pure (some x)
  | some b =>
    if b = code 'n' then do
      word "null"
      pure none
    else do
      let x ← item
      pure (some x)

/-- Find a name in a closed list. -/
def named {α : Type} (names : List (String × α)) (name : String) : Reader α :=
  match names.lookup name with
  | some x => pure x
  | none => failHere (.unknownName name (names.map Prod.fst))

/-- Read one of several names, as a text or as the only key of an object with the value `null`. -/
def choice {α : Type} (names : List (String × α)) : Reader α := do
  match ← next? with
  | none => failNext .endInValue
  | some b =>
    if b = code '"' then do
      let name ← string
      named names name
    else if b = code '\x7b' then do
      skip
      match ← next? with
      | none => failNext .endInObject
      | some c =>
        if c = code '"' then do
          let name ← string
          let x ← named names name
          colon
          unit
          match ← next? with
          | none => failHere .endInObject
          | some d =>
            if d = code '\x7d' then do
              skip
              pure x
            else failHere .noValue
        else if c = code '\x7d' then failNext .noValue
        else failNext .badKey
    else failNext .noValue
where
  /-- Read `null`. -/
  unit : Reader Unit := do
    match ← next? with
    | none => failNext .endInValue
    | some b => if b = code 'n' then word "null" else failType "unit"

/-- Skip space and one closing mark, if it is there. -/
def pastClosing (mark : Char) (rest : List UInt8) : List UInt8 :=
  match rest.dropWhile isSpace with
  | [] => []
  | b :: rest => if b = code mark then rest else b :: rest

/-- Read the key that stands here and its value. A repeated field is reported behind the closing
brace, if this follows the key, and else at the key's end. -/
def fieldMember {σ : Type} (fields : List (Field σ)) (seen : List String) (state : σ) :
    Reader (List String × σ) := do
  let key ← string
  match fields.find? (fun field => field.key == key) with
  | none => do
    colon
    skipValue
    pure (seen, state)
  | some field =>
    if key ∈ seen then
      fun rest => .error ⟨.repeatedField key, (pastClosing '\x7d' rest).length⟩
    else do
      colon
      let state ← field.read state
      pure (key :: seen, state)

/-- Read the fields after the first member of an object, up to and with the closing brace. -/
def moreFields {σ : Type} (fields : List (Field σ)) : Nat → List String → σ → Reader σ
  | 0, _, _ => failNext .endInObject
  | count + 1, seen, state => do
    match ← next? with
    | none => failNext .endInObject
    | some b =>
      if b = code '\x7d' then do
        skip
        pure state
      else if b = code ',' then do
        skip
        match ← next? with
        | none => failNext .endInValue
        | some c =>
          if c = code '"' then do
            let (seen, state) ← fieldMember fields seen state
            moreFields fields count seen state
          else if c = code '\x7d' then failNext .trailingComma
          else failNext .badKey
      else failNext .noObjectComma

/-- Read the fields of an object from its opening brace on. -/
def objectFields {σ : Type} (fields : List (Field σ)) (state : σ) : Reader σ := do
  skip
  match ← next? with
  | none => failNext .endInObject
  | some b =>
    if b = code '\x7d' then do
      skip
      pure state
    else if b = code '"' then do
      let (seen, state) ← fieldMember fields [] state
      moreFields fields (← bound) seen state
    else failNext .badKey

/-- Take the end of an array of which all fields were read. -/
def arrayEnd : Reader Unit := do
  match ← next? with
  | none => failNext .endInList
  | some b =>
    if b = code ']' then skip
    else if b = code ',' then do
      skip
      match ← next? with
      | none => failNext .trailingText
      | some c => if c = code ']' then failNext .trailingComma else failNext .trailingText
    else failNext .trailingText

/-- The array ends here after `done` fields; the fields left must be optional. -/
def endEarly {σ : Type} (wanted : String) (done : Nat) (left : List (Field σ)) (state : σ) :
    Reader σ := do
  skip
  match left.findIdx? (fun field => !field.optional) with
  | none => pure state
  | some i =>
    let size := done + left.length
    let noun := if size = 1 then "element" else "elements"
    failHere (.tooShort (done + i) s!"struct {wanted} with {size} {noun}")

/-- Read the fields that are left in an array, after `done` of them. -/
def arrayFields {σ : Type} (wanted : String) : Nat → List (Field σ) → σ → Reader σ
  | _, [], state => do
    arrayEnd
    pure state
  | done, field :: left, state => do
    match ← next? with
    | none => failNext .endInList
    | some b =>
      if b = code ']' then endEarly wanted done (field :: left) state
      else if done = 0 then do
        let state ← field.read state
        arrayFields wanted (done + 1) left state
      else if b = code ',' then do
        skip
        match ← next? with
        | none => failNext .endInValue
        | some c =>
          if c = code ']' then failNext .trailingComma
          else do
            let state ← field.read state
            arrayFields wanted (done + 1) left state
      else failNext .noListComma

/-- Read a record that messages call `wanted`, starting from the given state. -/
def record {σ : Type} (wanted : String) (fields : List (Field σ)) (state : σ) : Reader σ := do
  match ← next? with
  | none => failNext .endInValue
  | some b =>
    if b = code '\x7b' then objectFields fields state
    else if b = code '[' then do
      skip
      arrayFields wanted 0 fields state
    else failType s!"struct {wanted}"

end Reader

end DispatchScan.Json
