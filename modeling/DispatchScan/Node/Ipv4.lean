import DispatchScan.Hex
import DispatchScan.Text.Split

/-!
# IPv4 addresses

An IPv4 address is up to four numbers between points, of which the last fills the bytes that the
others leave. A number may be decimal, octal or hexadecimal. The address is shown as four decimal
bytes.
-/

namespace DispatchScan.Node

/-- The value of digits in a base; none when one of them is no digit of this base. -/
def numberIn? (base : Nat) (cs : List Char) : Option Nat :=
  cs.foldlM (fun value c => do
    let digit ← Hex.digitValue? c.toNat
    if digit < base then some (value * base + digit) else none) 0

/-- A number as a part of an IPv4 address: decimal, octal after `0` or hexadecimal after `0x`. -/
def ipv4Number? : List Char → Option Nat
  | [] => none
  | ['0'] => some 0
  | '0' :: 'x' :: cs => numberIn? 16 cs
  | '0' :: 'X' :: cs => numberIn? 16 cs
  | '0' :: cs => numberIn? 8 cs
  | cs => numberIn? 10 cs

/-- The parts of a domain between points, without an empty last one. -/
def domainParts (domain : List Char) : List (List Char) :=
  let parts := Text.splitAt '.' domain
  if parts.getLast? = some [] then parts.dropLast else parts

/-- Whether the last part of a domain is a number. -/
def endsInNumber (domain : List Char) : Bool :=
  match (domainParts domain).getLast? with
  | none => false
  | some last =>
    (!last.isEmpty && last.all Char.isDigit) || (ipv4Number? last).isSome

/-- The IPv4 address that a domain spells, as a number of four bytes. All numbers of it but the last
are bytes. -/
def ipv4? (domain : List Char) : Option Nat := do
  let numbers ← (domainParts domain).mapM ipv4Number?
  let last ← numbers.getLast?
  let bytes := numbers.dropLast
  if bytes.length < 4 ∧ last < Nat.pow 256 (4 - bytes.length) ∧ bytes.all (· < 256) then
    some (bytes.foldl (fun value b => value * 256 + b) 0 * Nat.pow 256 (4 - bytes.length) + last)
  else none

/-- An IPv4 address as four decimal bytes. -/
def ipv4Text (address : Nat) : String :=
  let part (place : Nat) := address / Nat.pow 256 place
  s!"{part 3}.{part 2 % 256}.{part 1 % 256}.{address % 256}"

end DispatchScan.Node
