import DispatchScan.Node.Ipv4

/-!
# IPv6 addresses

An IPv6 address is eight groups of up to four hexadecimal digits between colons. A double colon
stands for the zero groups that are missing, and the last two groups may be written as four decimal
bytes. The address is shown with a double colon for its longest run of zero groups.
-/

namespace DispatchScan.Node

/-- A decimal byte without leading zeros. -/
def octet? (cs : List Char) : Option Nat :=
  if cs.isEmpty ∨ ¬ cs.all Char.isDigit ∨ (1 < cs.length ∧ cs.head? = some '0') then none
  else (numberIn? 10 cs).filter (· < 256)

/-- The two groups that four decimal bytes spell. -/
def octetGroups? (cs : List Char) : Option (List Nat) := do
  match ← (Text.splitAt '.' cs).mapM octet? with
  | [a, b, c, d] => some [a * 256 + b, c * 256 + d]
  | _ => none

/-- Read the groups of a text into the `room` places left, where `short` says that a double colon
stands for some. A double colon is none among the groups. -/
def groups? : Nat → Bool → List Char → Option (List (Option Nat))
  | room, short, [] => if short ∨ room = 0 then some [] else none
  | 0, _, _ => none
  | room + 1, short, c :: cs =>
    if c = ':' then
      if short then none else (groups? room true cs).map (none :: ·)
    else
      let digits := ((c :: cs).takeWhile Hex.isDigit).take 4
      let group := numberIn? 16 digits
      match (c :: cs).drop digits.length with
      | [] => if short ∨ room = 0 then some [group] else none
      | ':' :: rest =>
        if digits.isEmpty ∨ rest.isEmpty then none else (groups? room short rest).map (group :: ·)
      | '.' :: _ =>
        if digits.isEmpty ∨ room = 0 ∨ ¬ (short ∨ room = 1) then none
        else (octetGroups? (c :: cs)).map (List.map some)
      | _ => none

/-- Put zeros where the double colon is, up to eight groups. -/
def fillGroups (groups : List (Option Nat)) : List Nat :=
  let known := groups.countP Option.isSome
  groups.flatMap fun group =>
    match group with
    | some n => [n]
    | none => List.replicate (8 - known) 0

/-- The groups of the IPv6 address that a text spells. -/
def ipv6? (cs : List Char) : Option (List Nat) :=
  match cs with
  | ':' :: ':' :: rest => (groups? 7 true rest).map fun groups => fillGroups (none :: groups)
  | ':' :: _ => none
  | [] => none
  | _ => (groups? 8 false cs).map fillGroups

/-- The place and the length of the longest run of zeros, the first one of several; `place` is that
of the first group. -/
def longestZeros (place : Nat) : List Nat → Nat × Nat
  | [] => (place, 0)
  | group :: groups =>
    let here := ((group :: groups).takeWhile (· = 0)).length
    let later := longestZeros (place + 1) groups
    if later.2 ≤ here then (place, here) else later

/-- Groups between colons. -/
def groupsText (groups : List Nat) : String :=
  ":".intercalate (groups.map fun group => String.ofList (Nat.toDigits 16 group))

/-- An IPv6 address as its groups. -/
def ipv6Text (groups : List Nat) : String :=
  let (place, length) := longestZeros 0 groups
  if length < 2 then groupsText groups
  else groupsText (groups.take place) ++ "::" ++ groupsText (groups.drop (place + length))

end DispatchScan.Node
