import DispatchScan.Json.Reader

/-!
# Reading JSON values

`value` reads one value whose arrays and objects nest at most as deep as its first argument says;
`parse` reads a whole text of at most 127 levels. The recursion on values is on the depth. The
loops over elements and members carry a count that starts at the number of bytes left, which no
array or object can use up.

An object whose first key is `embeddedKey` stands for the value that its only member spells as a
text. That text is shorter than the object, so the number of bytes left also bounds how often texts
lie within texts.
-/

namespace DispatchScan.Json

/-- How deeply arrays and objects may nest in a text. -/
def maxDepth : Nat := 127

/-- The first key of an object that stands for the value spelled by its only member. -/
def embeddedKey : String := "$serde_json::private::RawValue"

namespace Reader

/-- Read the elements after the first one, up to and with the closing bracket. -/
def moreElements {α : Type} (item : Reader α) : Nat → Reader (List α)
  | 0 => failNext .endInList
  | count + 1 => do
    match ← next? with
    | none => failNext .endInList
    | some b =>
      if b = code ']' then do
        skip
        pure []
      else if b = code ',' then do
        skip
        match ← next? with
        | none => failNext .endInValue
        | some c =>
          if c = code ']' then failNext .trailingComma
          else do
            let x ← item
            let xs ← moreElements item count
            pure (x :: xs)
      else failNext .noListComma

/-- Read an array from its opening bracket on. -/
def elements {α : Type} (item : Reader α) : Reader (List α) := do
  skip
  match ← next? with
  | none => failNext .endInList
  | some b =>
    if b = code ']' then do
      skip
      pure []
    else do
      let x ← item
      let xs ← moreElements item (← bound)
      pure (x :: xs)

/-- Take the colon between a key and its value. -/
def colon : Reader Unit := do
  match ← next? with
  | none => failNext .endInObject
  | some b => if b = code ':' then skip else failNext .noColon

/-- Read a key, its colon and its value. -/
def member {α : Type} (item : Reader α) : Reader (String × α) := do
  let key ← string
  colon
  let x ← item
  pure (key, x)

/-- Read the members after the first one, up to and with the closing brace. -/
def moreMembers {α : Type} (item : Reader α) : Nat → Reader (List (String × α))
  | 0 => failNext .endInObject
  | count + 1 => do
    match ← next? with
    | none => failNext .endInObject
    | some b =>
      if b = code '\x7d' then do
        skip
        pure []
      else if b = code ',' then do
        skip
        match ← next? with
        | none => failNext .endInValue
        | some c =>
          if c = code '"' then do
            let m ← member item
            let ms ← moreMembers item count
            pure (m :: ms)
          else if c = code '\x7d' then failNext .trailingComma
          else failNext .badKey
      else failNext .noObjectComma

/-- Read a value that needs no nesting, by its first byte; none for a bracket or a brace. -/
def scalar? (b : UInt8) : Option (Reader Value) :=
  if b = code 'n' then some (do word "null"; pure .null)
  else if b = code 't' then some (do word "true"; pure (.bool true))
  else if b = code 'f' then some (do word "false"; pure (.bool false))
  else if b = code '-' then some (do skip; let n ← number true; pure (.number n))
  else if isDigit b then some (do let n ← number false; pure (.number n))
  else if b = code '"' then some (do let s ← string; pure (.string s))
  else if b = code '[' ∨ b = code '\x7b' then none
  else some (failNext .noValue)

/-- Stop because a value of another type stands here: a scalar is read first, and of an array or an
object only the bracket is looked at. -/
def failType {α : Type} (wanted : String) : Reader α := do
  match ← next? with
  | none => failNext .endInValue
  | some b =>
    if b = code '[' then failHere (.wrongType .sequence wanted)
    else if b = code '\x7b' then failHere (.wrongType .map wanted)
    else
      match scalar? b with
      | none => failNext .noValue
      | some read =>
        match ← read with
        | .null => failHere (.wrongType .null wanted)
        | .bool t => failHere (.wrongType (.boolean t) wanted)
        | .number n => failHere (.wrongType n.found wanted)
        | .string s => failHere (.wrongType (.text s) wanted)
        | .array _ => failHere (.wrongType .sequence wanted)
        | .object _ => failHere (.wrongType .map wanted)

/-- The text must end here, space apart. -/
def finish : Reader Unit := do
  match ← next? with
  | none => pure ()
  | some _ => failNext .trailingText

/-- Take the closing brace of an object with one member. -/
def onlyMemberEnd : Reader Unit := do
  match ← next? with
  | none => failNext .endInObject
  | some b =>
    if b = code '\x7d' then skip
    else if b = code ',' then failNext .trailingComma
    else failNext .trailingText

/-- Read a string and what it spells. -/
def spelled (spelling : String → Except Cause Value) : Reader Value := do
  match ← next? with
  | none => failNext .endInValue
  | some b =>
    if b = code '"' then do
      let text ← string
      match spelling text with
      | .ok v => pure v
      | .error cause => failHere cause
    else failType "raw value"

/-- Read an object from its opening brace on, with one reader for the values of its members and
another one for the value that an embedded text spells. -/
def object (spelling : String → Except Cause Value) (item : Reader Value) : Reader Value := do
  skip
  match ← next? with
  | none => failNext .endInObject
  | some b =>
    if b = code '\x7d' then do
      skip
      pure (.object [])
    else if b = code '"' then do
      let key ← string
      colon
      if key = embeddedKey then do
        let v ← spelled spelling
        onlyMemberEnd
        pure v
      else do
        let x ← item
        let ms ← moreMembers item (← bound)
        pure (.object ((key, x) :: ms))
    else failNext .badKey

/-- Read a value with at most `depth` levels of arrays and objects. -/
def nested (spelling : String → Except Cause Value) (depth : Nat) : Reader Value := do
  match ← next? with
  | none => failNext .endInValue
  | some b =>
    match scalar? b with
    | some read => read
    | none =>
      match depth with
      | 0 => failNext .tooDeep
      | inner + 1 =>
        if b = code '[' then do
          let xs ← elements (nested spelling inner)
          pure (.array xs)
        else object spelling (nested spelling inner)

/-- Read a text that holds one value and nothing else, where texts lie within texts at most so many
times. -/
def spellings : Nat → String → Except Cause Value
  | 0, _ => .error .endInValue
  | layers + 1, text =>
    let bytes := Text.utf8 text
    match (do let v ← nested (spellings layers) maxDepth; finish; pure v : Reader Value) bytes with
    | .ok (v, _) => .ok v
    | .error fault =>
      let located := fault.locate bytes
      .error (.embedded located.cause located.line located.column)

/-- Read a value with at most `depth` levels of arrays and objects, embedded texts apart. -/
def value (depth : Nat) : Reader Value :=
  fun rest => nested (spellings rest.length) depth rest

end Reader

/-- Run a reader on a text, and locate its fault. -/
def run {α : Type} (reader : Reader α) (text : List UInt8) : Except Located α :=
  match reader text with
  | .ok (x, _) => .ok x
  | .error fault => .error (fault.locate text)

/-- Read a text that holds one value and nothing else. -/
def parse (text : String) : Except Located Value :=
  run (do let v ← Reader.value maxDepth; Reader.finish; pure v) (Text.utf8 text)

end DispatchScan.Json
