import DispatchScan.Dispatch
import DispatchScan.Text.Position

/-!
# Searching by positions

The same scan of a text, told by byte positions: a round cuts the text at its position, looks for the
first probe in what is left, and cuts the text again behind the probe to read a branch by the indices
of its bytes. A cut may fail, so a round says where it ended and which bytes it read. The next round
begins one byte behind the start of the probe. Main statement: a round moves on in the text, so a
search ends.
-/

namespace DispatchScan.Dispatch

/-- Whether a text starts with a branch, with any effect that reading one of its bytes may have. -/
def branchesVia {m : Type → Type} [Monad m] (read : Nat → m (Option UInt8)) : m Bool := do
  match (← read 0) >>= Opcode.pushWidth? with
  | none => return false
  | some width => return (← read (1 + width)) == some Opcode.jumpi.toByte

/-- Read a byte of a text, and note its index behind those read before. -/
def noting (tail : List UInt8) (index : Nat) : StateM (List Nat) (Option UInt8) := do
  modify (· ++ [index])
  return byteAt? tail index

/-- Whether a text starts with a branch, and the indices of the bytes read to find out, in order. -/
def readBranch (tail : List UInt8) : Bool × List Nat :=
  (branchesVia (noting tail)).run []

/-- What a round of a search comes to. -/
inductive Turn where
  /-- The text cannot be cut where the round begins. -/
  | lost
  /-- No probe starts there or later. -/
  | exhausted
  /-- A probe starts, but the text cannot be cut behind it. -/
  | torn (start : Nat)
  /-- A probe is looked at, and bytes with the given indices are read behind it. -/
  | visited (visit : Visit) (indices : List Nat)
  deriving DecidableEq, Repr

/-- A round of a search. -/
structure Round where
  /-- The position from which the text is searched. -/
  position : Nat
  /-- What the round comes to. -/
  turn : Turn
  deriving DecidableEq, Repr

/-- Look at the probe that starts at a position of a text. -/
def turnOn (text : String) (selector : Selector) (start : Nat) : Turn :=
  match Text.bytesFrom? text (start + (Text.utf8 (probe selector)).length) with
  | none => .torn start
  | some tail => .visited ⟨start, (readBranch tail).1⟩ (readBranch tail).2

/-- Search a text for the probe of a selector from a position on. -/
def turnAt (text : String) (selector : Selector) (position : Nat) : Turn :=
  match Text.bytesFrom? text position with
  | none => .lost
  | some rest =>
    match Text.find? (Text.utf8 (probe selector)) rest with
    | none => .exhausted
    | some count => turnOn text selector (position + count)

/-- The position of the round after a turn: one byte behind the start of a probe that did not
decide. -/
def Turn.next? (strategy : Strategy) : Turn → Option Nat
  | .visited visit _ =>
    if visit.branches ∨ strategy = .firstOccurrence then none else some (visit.start + 1)
  | .lost | .exhausted | .torn _ => none

/-- After a probe the search can only go on one byte behind its start. -/
theorem eq_succ_of_next?_turnOn {text : String} {selector : Selector} {strategy : Strategy}
    {start next : Nat} (h : (turnOn text selector start).next? strategy = some next) :
    next = start + 1 := by
  unfold turnOn at h
  split at h
  · exact absurd h nofun
  · simp only [Turn.next?, Option.ite_none_left_eq_some, Option.some.injEq] at h
    exact h.2.symm

/-- A round leads to a later position, and only from within the text. -/
theorem lt_of_next?_turnAt {text : String} {selector : Selector} {strategy : Strategy}
    {position next : Nat} (h : (turnAt text selector position).next? strategy = some next) :
    position < next ∧ position ≤ (Text.utf8 text).length := by
  unfold turnAt at h
  split at h
  · exact absurd h nofun
  · rename_i rest hrest
    have hle := Text.le_length_of_bytesFrom? hrest
    split at h
    · exact absurd h nofun
    · rename_i count hcount
      have hnext := eq_succ_of_next?_turnOn h
      omega

/-- The rounds of a search from a position on. -/
def rounds (text : String) (selector : Selector) (strategy : Strategy) (position : Nat) :
    List Round :=
  ⟨position, turnAt text selector position⟩ ::
    match ((turnAt text selector position).next? strategy).attach with
    | none => []
    | some ⟨next, h⟩ =>
      have := lt_of_next?_turnAt h
      rounds text selector strategy next
termination_by (Text.utf8 text).length + 1 - position

/-- The rounds of a search of a whole text. -/
def search (text : String) (selector : Selector) (strategy : Strategy) : List Round :=
  rounds text selector strategy 0

/-- The probe that a turn looks at. -/
def Turn.visit? : Turn → Option Visit
  | .visited visit _ => some visit
  | .lost | .exhausted | .torn _ => none

/-- The verdict of a search that ends with a turn; none when the text could not be cut. -/
def Turn.verdict? : Turn → Option Bool
  | .lost | .exhausted => some false
  | .torn _ => none
  | .visited visit _ => some visit.branches

end DispatchScan.Dispatch
