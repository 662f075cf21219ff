import DispatchScan.Domain.Direction
import DispatchScan.Domain.Joiner
import DispatchScan.Domain.Mapping
import DispatchScan.Domain.Punycode

/-!
# Domains

A domain is a row of labels with points between them. It may be written with any characters, and has
one form in ASCII: its characters are mapped and composed, and a label beyond ASCII is spelled in
Punycode behind the mark `xn--`. A label with this mark must spell a text that is mapped and
composed already. No label starts with a combining mark, its joiners have letters around them,
and in a domain with characters written from right to left every label has one direction.
-/

namespace DispatchScan.Domain

/-- Whether no host may hold a character. -/
def isReserved (c : Char) : Bool :=
  c = '\x00' || c = '\t' || c = '\n' || c = '\r' || "\x20#/:<>?@[\\]^|".toList.contains c

/-- Whether no domain may hold a character. -/
def isForbidden (c : Char) : Bool :=
  isReserved c || c.toNat < 0x20 || c = '%' || c.toNat = 0x7f

/-- Whether a character is one of ASCII. -/
def isAscii (c : Char) : Bool := c.toNat < 0x80

/-- The mark of a label that is spelled in Punycode. -/
def punycodeMark : List Char := ['x', 'n', '-', '-']

/-- Whether a label is marked as spelled in Punycode. -/
def isMarked (label : List Char) : Bool := punycodeMark.isPrefixOf label

/-- The largest number of characters behind the mark. -/
def maxSpelling : Nat := 2000

/-- The largest number of characters of a label beyond ASCII. -/
def maxLabel : Nat := 1000

/-- The text that a mapped label stands for. A spelling must end in a number, and what it spells
must be mapped and composed. -/
def labelText? (label : List Char) : Option (List Char) :=
  if isMarked label then
    let spelling := label.drop punycodeMark.length
    if spelling.all isAscii ∧ label.getLast? ≠ some '-' ∧ spelling.length ≤ maxSpelling then
      (Punycode.decode? spelling).filter fun text => text.all isKept && composed text == text
    else none
  else some label

/-- Whether a label may stand in a domain, directions apart. -/
def isLabel (text : List Char) : Bool :=
  !text.head?.any isMark && joinersFit [] text && (text.all isAscii || text.length ≤ maxLabel)

/-- The form of a mapped label in ASCII. -/
def labelAscii (label : List Char) : List Char :=
  if label.all isAscii then label else punycodeMark ++ Punycode.encode label

/-- Whether a domain holds nothing but ASCII and no marked label. -/
def isPlain (domain : List Char) : Bool :=
  domain.all isAscii
    && !(Text.splitAt '.' domain).any fun label => isMarked (label.map Char.toLower)

/-- The form of a domain in ASCII; none when it is no domain. A plain domain only becomes lowercase,
which the tables are not needed for. -/
def toAscii? (domain : List Char) : Option (List Char) :=
  if isPlain domain then
    if domain.any isForbidden then none else some (domain.map Char.toLower)
  else do
    let mapped := composed (← mapText? domain)
    if mapped.any isForbidden then none
    else
      let labels := Text.splitAt '.' mapped
      let texts ← labels.mapM labelText?
      if texts.all isLabel && directionsFit texts then
        some (['.'].intercalate (labels.map labelAscii))
      else none

end DispatchScan.Domain
