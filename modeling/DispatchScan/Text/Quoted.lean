import DispatchScan.Text.Hidden

/-!
# Quoted characters and texts

Messages show a stray character between single quotes and a stray text between double quotes. The
mark that closes the quotation, the backslash and four controls have short escapes; a hidden
character appears as its code point in hexadecimal digits between braces.
-/

namespace DispatchScan.Text

/-- The visible form of `c` inside a quotation that `mark` closes. -/
def escape (mark c : Char) : List Char :=
  if c = '\x00' then ['\\', '0']
  else if c = '\t' then ['\\', 't']
  else if c = '\r' then ['\\', 'r']
  else if c = '\n' then ['\\', 'n']
  else if c = '\\' then ['\\', '\\']
  else if c = mark then ['\\', c]
  else if isHidden c then ['\\', 'u', '{'] ++ Nat.toDigits 16 c.toNat ++ ['}']
  else [c]

/-- A character between single quotes. -/
def quotedChar (c : Char) : String :=
  String.ofList (['\''] ++ escape '\'' c ++ ['\''])

/-- A text between double quotes. -/
def quoted (s : String) : String :=
  String.ofList (['"'] ++ s.toList.flatMap (escape '"') ++ ['"'])

end DispatchScan.Text
