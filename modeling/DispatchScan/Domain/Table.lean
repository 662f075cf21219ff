import DispatchScan.Hex
import DispatchScan.Text.Split

/-!
# Tables of code points

The properties of characters that domains depend on are tables, written as texts whose words hold
code points in hexadecimal. A table of runs lists ranges `first-last` and single code points. It
only speaks of the characters that a domain may hold, and puts the others on either side.
-/

namespace DispatchScan.Domain

/-- The number that hexadecimal digits spell. -/
def codePoint (digits : List Char) : Nat :=
  digits.foldl (fun n c => n * 16 + (Hex.digitValue? c.toNat).getD 0) 0

/-- The words of a table, which lie between blanks and line ends. -/
def tableWords (table : String) : List (List Char) :=
  let line := table.toList.map fun c => if c = '\n' then ' ' else c
  (Text.splitAt ' ' line).filter fun word => !word.isEmpty

/-- Ranges of code points, each with its first and its last one. -/
abbrev Runs := List (Nat × Nat)

/-- Read a table of runs. -/
def Runs.ofText (table : String) : Runs :=
  (tableWords table).map fun word =>
    match Text.splitAt '-' word with
    | [first, last] => (codePoint first, codePoint last)
    | _ => (codePoint word, codePoint word)

/-- Whether one of the runs holds a character. -/
def Runs.holds (runs : Runs) (c : Char) : Bool :=
  runs.any fun (first, last) => first ≤ c.toNat && c.toNat ≤ last

end DispatchScan.Domain
