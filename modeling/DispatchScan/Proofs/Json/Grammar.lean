import DispatchScan.Json.Print
import DispatchScan.Json.Reader
import Mathlib.Data.List.Forall2

/-!
# The grammar of JSON texts

What a JSON text is, said about its characters and without any reader: the space between tokens, the
content of a string and what it spells, numbers, and values of any depth. A string may spell a
character by itself or by an escape, so one text has many spellings.
-/

namespace DispatchScan.Json

/-- The characters that may stand between tokens. -/
def spaces : List Char := [' ', '\n', '\t', '\r']

/-- Space between tokens, or none. -/
def IsGap (cs : List Char) : Prop := ∀ c ∈ cs, c ∈ spaces

/-- There may be no space. -/
theorem isGap_nil : IsGap [] := nofun

/-! ## Strings -/

/-- The letters of escapes, with the characters that they stand for. -/
def shortEscapes : List (Char × Char) :=
  [('"', '"'), ('\\', '\\'), ('/', '/'), ('b', '\x08'), ('f', '\x0c'), ('n', '\n'), ('r', '\r'),
    ('t', '\t')]

/-- A character that a string holds as it is. -/
structure IsPlainChar (c : Char) : Prop where
  /-- It does not end the string. -/
  ne_quote : c ≠ '"'
  /-- It starts no escape. -/
  ne_backslash : c ≠ '\\'
  /-- It is no control character. -/
  not_control : ¬c.toNat < 0x20

/-- Four hexadecimal digits in either case with the given value. -/
def IsUnit (n : Nat) (ds : List Char) : Prop :=
  n < 0x10000 ∧ ds.map Char.toLower = [Nat.digitChar (n / 0x1000), Nat.digitChar (n / 0x100 % 0x10),
    Nat.digitChar (n / 0x10 % 0x10), Nat.digitChar (n % 0x10)]

/-- What may stand between the quotes of a string. -/
inductive IsContent : List Char → Prop where
  /-- Nothing. -/
  | nil : IsContent []
  /-- A character as it is. -/
  | plain {c : Char} {cs : List Char} (hc : IsPlainChar c) (hcs : IsContent cs) :
    IsContent (c :: cs)
  /-- An escape of one letter. -/
  | short {escape : Char × Char} {cs : List Char} (hescape : escape ∈ shortEscapes)
    (hcs : IsContent cs) : IsContent ('\\' :: escape.1 :: cs)
  /-- An escape of four digits, whatever their value. -/
  | unit {n : Nat} {ds cs : List Char} (hds : IsUnit n ds) (hcs : IsContent cs) :
    IsContent ('\\' :: 'u' :: (ds ++ cs))

/-- What the content of a string spells: halves of a pair count only together. -/
inductive Spells : List Char → List Char → Prop where
  /-- Nothing spells nothing. -/
  | nil : Spells [] []
  /-- A character spells itself. -/
  | plain {c : Char} {cs text : List Char} (hc : IsPlainChar c) (hcs : Spells cs text) :
    Spells (c :: cs) (c :: text)
  /-- A letter spells the character that it stands for. -/
  | short {escape : Char × Char} {cs text : List Char} (hescape : escape ∈ shortEscapes)
    (hcs : Spells cs text) : Spells ('\\' :: escape.1 :: cs) (escape.2 :: text)
  /-- Digits spell the character with their value. -/
  | unit {n : Nat} {ds cs text : List Char} (hds : IsUnit n ds)
    (hfirst : Reader.isFirstHalf n = false) (hsecond : Reader.isSecondHalf n = false)
    (hcs : Spells cs text) : Spells ('\\' :: 'u' :: (ds ++ cs)) (Char.ofNat n :: text)
  /-- Two halves spell the character of the pair. -/
  | pair {n m : Nat} {ds es cs text : List Char} (hds : IsUnit n ds) (hes : IsUnit m es)
    (hfirst : Reader.isFirstHalf n = true) (hsecond : Reader.isSecondHalf m = true)
    (hcs : Spells cs text) :
    Spells ('\\' :: 'u' :: (ds ++ '\\' :: 'u' :: (es ++ cs))) (Reader.pairChar n m :: text)

/-- A string token with some content. -/
def quoted (content : List Char) : List Char := '"' :: (content ++ ['"'])

/-- A string token that spells a text. -/
def IsStringOf (text : String) (token : List Char) : Prop :=
  ∃ content, Spells content text.toList ∧ token = quoted content

/-! ## Numbers -/

/-- One decimal digit or more. -/
def IsDigits (cs : List Char) : Prop := cs ≠ [] ∧ ∀ c ∈ cs, c.isDigit = true

/-- The digits before a point, without superfluous zeros. -/
def IsInteger (cs : List Char) : Prop := cs = ['0'] ∨ IsDigits cs ∧ cs.head? ≠ some '0'

/-- A point and digits, or nothing. -/
def IsFraction (cs : List Char) : Prop := cs = [] ∨ ∃ ds, IsDigits ds ∧ cs = '.' :: ds

/-- A power of ten, or nothing. -/
def IsExponent (cs : List Char) : Prop :=
  cs = [] ∨ ∃ letter ∈ ['e', 'E'], ∃ sign ∈ [[], ['+'], ['-']], ∃ ds, IsDigits ds ∧
    cs = letter :: (sign ++ ds)

/-- A number, of any size. -/
def IsNumber (cs : List Char) : Prop :=
  ∃ sign ∈ [[], ['-']], ∃ integer fraction exponent, IsInteger integer ∧ IsFraction fraction ∧
    IsExponent exponent ∧ cs = sign ++ (integer ++ (fraction ++ exponent))

/-! ## Values -/

/-- An element of an array with the space around it. -/
structure Element where
  /-- The space in front of it. -/
  before : List Char
  /-- The characters of its value. -/
  value : List Char
  /-- The space behind it. -/
  after : List Char

namespace Element

/-- The characters of an element. -/
def text (e : Element) : List Char := e.before ++ (e.value ++ e.after)

/-- Only space stands around the value. -/
def IsSpaced (e : Element) : Prop := IsGap e.before ∧ IsGap e.after

end Element

/-- A member of an object with the space around its parts. -/
structure Member where
  /-- The space in front of the key. -/
  before : List Char
  /-- What stands between the quotes of the key. -/
  key : List Char
  /-- The space behind the key. -/
  afterKey : List Char
  /-- The space in front of the value. -/
  beforeValue : List Char
  /-- The characters of the value. -/
  value : List Char
  /-- The space behind the value. -/
  after : List Char

namespace Member

/-- The characters of a member behind the space in front of it. -/
def body (m : Member) : List Char :=
  quoted m.key ++ (m.afterKey ++ ':' :: (m.beforeValue ++ (m.value ++ m.after)))

/-- The characters of a member. -/
def text (m : Member) : List Char := m.before ++ m.body

/-- Only space stands around the key and the value. -/
structure IsSpaced (m : Member) : Prop where
  /-- In front of the key. -/
  before : IsGap m.before
  /-- Behind the key. -/
  afterKey : IsGap m.afterKey
  /-- In front of the value. -/
  beforeValue : IsGap m.beforeValue
  /-- Behind the value. -/
  after : IsGap m.after

/-- A member has a key, in any spelling, and a text as its value. A key is a text, so half of a pair
spells none. -/
def Gives (m : Member) (member : String × List Char) : Prop :=
  Spells m.key member.1.toList ∧ m.value = member.2

end Member

/-- The text of an array with the given elements. -/
inductive IsArray : List Element → List Char → Prop where
  /-- No elements. -/
  | nil {gap : List Char} (hgap : IsGap gap) : IsArray [] ('[' :: (gap ++ [']']))
  /-- Some elements. -/
  | cons {e : Element} {es : List Element} (hspaced : ∀ i ∈ e :: es, i.IsSpaced) :
    IsArray (e :: es) ('[' :: (commaSeparated ((e :: es).map Element.text) ++ [']']))

/-- The text of an object with the given members. -/
inductive IsObject : List Member → List Char → Prop where
  /-- No members. -/
  | nil {gap : List Char} (hgap : IsGap gap) : IsObject [] ('\x7b' :: (gap ++ ['\x7d']))
  /-- Some members. -/
  | cons {m : Member} {ms : List Member} (hspaced : ∀ i ∈ m :: ms, i.IsSpaced) :
    IsObject (m :: ms) ('\x7b' :: (commaSeparated ((m :: ms).map Member.text) ++ ['\x7d']))

/-- The text of a value, of any depth. -/
inductive IsValue : List Char → Prop where
  /-- The literal `null`. -/
  | null : IsValue ['n', 'u', 'l', 'l']
  /-- The literal `true`. -/
  | true : IsValue ['t', 'r', 'u', 'e']
  /-- The literal `false`. -/
  | false : IsValue ['f', 'a', 'l', 's', 'e']
  /-- A number. -/
  | number {cs : List Char} (hcs : IsNumber cs) : IsValue cs
  /-- A string. -/
  | string {cs : List Char} (hcs : IsContent cs) : IsValue (quoted cs)
  /-- An array of values. -/
  | array {es : List Element} {cs : List Char} (harray : IsArray es cs)
    (hvalues : ∀ e ∈ es, IsValue e.value) : IsValue cs
  /-- An object of values. -/
  | object {ms : List Member} {cs : List Char} (hobject : IsObject ms cs)
    (hkeys : ∀ m ∈ ms, IsContent m.key) (hvalues : ∀ m ∈ ms, IsValue m.value) : IsValue cs

/-- The text of an array whose elements have the given texts as values, in order. -/
def IsArrayOf (values : List (List Char)) (cs : List Char) : Prop :=
  ∃ es, IsArray es cs ∧ es.map Element.value = values

/-- The text of an object whose members have the given keys and texts as values, in order. -/
def IsObjectOf (members : List (String × List Char)) (cs : List Char) : Prop :=
  ∃ ms, IsObject ms cs ∧ List.Forall₂ Member.Gives ms members

end DispatchScan.Json
