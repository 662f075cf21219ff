/-!
# Media types

A media type is `type/subtype`, both of token characters, followed by parameters `; name=value`. A
value is a token, perhaps empty at the end of the text, or a quoted text of at least one character.
Only the question whether the type is JSON is answered: by its subtype, or by the part after its
last plus sign. Letters count in either case.
-/

namespace DispatchScan.Service.MediaType

/-- Whether `c` may stand in a token. -/
def isToken (c : Char) : Bool :=
  c.isAlphanum || "!#$%&'*+-.^_`|~".toList.contains c

/-- Whether `c` may stand between quotes. -/
def isQuotable (c : Char) : Bool :=
  0x20 ≤ c.toNat && c.toNat < 0x7f

/-- How far the parameters have been read. -/
inductive Progress where
  /-- A parameter may start. -/
  | start
  /-- Inside a name. -/
  | name
  /-- Behind the equals sign. -/
  | equals
  /-- Inside an unquoted value. -/
  | value
  /-- Behind the opening quote. -/
  | opened
  /-- Inside a quoted value that is not empty. -/
  | quoted
  /-- Behind the closing quote. -/
  | closed
  deriving DecidableEq, Repr

/-- Read one character of the parameters. -/
def Progress.step? (p : Progress) (c : Char) : Option Progress :=
  match p with
  | start => if c = ' ' then some start else if isToken c then some name else none
  | name => if c = '=' then some equals else if isToken c then some name else none
  | equals => if c = '"' then some opened else if isToken c then some value else none
  | value => if c = ';' then some start else if isToken c then some value else none
  | opened => if isQuotable c then some quoted else none
  | quoted => if c = '"' then some closed else if isQuotable c then some quoted else none
  | closed => if c = ';' then some start else if c = ' ' then some closed else none

/-- Whether the parameters may end here. -/
def Progress.mayEnd : Progress → Bool
  | start | equals | value | closed => true
  | name | opened | quoted => false

/-- Whether the text after the first semicolon is well formed. -/
def parametersOk (cs : List Char) : Bool :=
  (cs.foldlM Progress.step? .start).any Progress.mayEnd

/-- Split a subtype at its last plus sign, which must not be its first character. -/
def splitSuffix (subtype : List Char) : List Char × Option (List Char) :=
  let suffix := (subtype.reverse.takeWhile (· != '+')).reverse
  let front := subtype.length - suffix.length
  if front ≤ 1 then (subtype, none) else (subtype.take (front - 1), some suffix)

/-- Whether a type and a subtype, both in lowercase, stand for JSON. -/
def namesJson (type subtype : List Char) : Bool :=
  let (name, suffix) := splitSuffix subtype
  type == "application".toList && (name == "json".toList || suffix == some "json".toList)

/-- Whether a media type is well formed and stands for JSON. -/
def isJson (text : String) : Bool :=
  let cs := text.toList
  let type := cs.takeWhile isToken
  match cs.drop type.length with
  | '/' :: rest =>
    let subtype := rest.takeWhile isToken
    namesJson (type.map Char.toLower) (subtype.map Char.toLower) &&
      match rest.drop subtype.length with
      | [] => true
      | ';' :: parameters => parametersOk parameters
      | _ => false
  | _ => false

end DispatchScan.Service.MediaType
