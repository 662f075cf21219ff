import DispatchScan.Domain.Mark

/-!
# Directions of writing

In a domain with characters that are written from right to left, every label must have one
direction: it starts with a letter, holds only what fits the direction of this letter, and ends in a
letter or a number apart from marks. The tables are those of Unicode 17.
-/

namespace DispatchScan.Domain

/-- How a character takes part in the direction of a text. -/
inductive Direction where
  /-- It is written from left to right. -/
  | left
  /-- It is written from right to left. -/
  | right
  /-- It is a digit of Arabic. -/
  | arabicNumber
  /-- It is any other digit that fits both directions. -/
  | number
  /-- It is a mark, which has the direction of what it stands on. -/
  | mark
  /-- It fits both directions. -/
  | neutral
  deriving DecidableEq, Repr

/-- The characters that are written from right to left. -/
def rightCharacters : Runs := .ofText "
    5be-5f4 608 60b 60d 61b-64a 66d-6d5 6e5-6e6 6ee-6ef 6fa-7f5 7fa-8c9 fbb2-fbc2 fe73 10800-1091b
    10920-10b35 10b40-10d23 10d40-10d4f 10d6f-10d8f 10e80-10ed0 10f00-10ff6 1e800-1ed3d"

/-- The digits of Arabic. -/
def arabicDigits : Runs := .ofText "660-669 66b-66c 10d30-10d39 10e60-10e7e"

/-- The digits that fit both directions. -/
def commonDigits : Runs := .ofText "30-39 6f0-6f9 102e1-102fb"

/-- The characters other than digits and marks that fit both directions. -/
def neutralCharacters : Runs := .ofText "
    21-2e 3b-60 7b-d7 f7 2b9-2ba 2c2-2cf 2d2-2ed 2ef-2ff 375 3f6 58a-58f 606-607 609-60a 60c
    60e-60f 66a 6de 6e9 7f6-7f9 9f2-9f3 9fb af1 bf3-bfa c78-c7e e3f f3a-f3d 1390-1399 1400
    169b-169c 17db 17f0-180a 1940-1945 19de-19ff 200c-214d 218a-2335 237b-2394 2396-26ab 26ad-27ff
    2900-2bff 2ce5-2cea 2cf9-2cff 2e00-3004 3008-3020 3030 3037 303d-303f 30a0 30fb 31c0-31e5
    4dc0-4dff a490-a4c6 a60d-a60f a673-a67f a700-a721 a788 a828-a82b a838-a839 a874-a877 ab6a-ab6b
    fbc3-fe46 10101 10140-1018c 10190-101a0 1091f 10b39-10b3f 10d6e 10ed1-10ed8 11052-11065
    11660-1166c 11fd5-11ff1 16fe2 1cc00-1cef0 1d1e9-1d245 1d300-1d356 1e2ff 1eef0-1f12f
    1f16d-1f16f 1f1ad 1f260-1fbfa"

/-- The nonspacing marks that are written from left to right. -/
def leftMarks : Runs := .ofText "cbf cc6 11a07-11a08 11c3f"

/-- The direction of a character. -/
def direction (c : Char) : Direction :=
  if leftMarks.holds c then .left
  else if isNonspacing c then .mark
  else if rightCharacters.holds c then .right
  else if arabicDigits.holds c then .arabicNumber
  else if commonDigits.holds c then .number
  else if neutralCharacters.holds c then .neutral
  else .left

/-- Whether the characters after the first one of a label fit the direction of this one, where the
marks at the end were left out. -/
def fitsFirst (first : Direction) (others : List Direction) : Bool :=
  match first with
  | .left =>
    others.all [Direction.left, .number, .mark, .neutral].contains
      && others.getLast?.all [Direction.left, .number].contains
  | .right =>
    others.all [Direction.right, .arabicNumber, .number, .mark, .neutral].contains
      && others.getLast?.all [Direction.right, .arabicNumber, .number].contains
      && !(others.contains .arabicNumber && others.contains .number)
  | _ => false

/-- Whether a label has one direction. -/
def hasOneDirection (label : List Char) : Bool :=
  match label.map direction with
  | [] => true
  | first :: others => fitsFirst first (others.reverse.dropWhile (· == .mark)).reverse

/-- Whether a label holds characters that are written from right to left. -/
def holdsRight (label : List Char) : Bool :=
  label.any fun c => direction c == .right || direction c == .arabicNumber

/-- Whether the directions of the labels of a domain are in order. -/
def directionsFit (labels : List (List Char)) : Bool :=
  !labels.any holdsRight || labels.all hasOneDirection

end DispatchScan.Domain
