import DispatchScan.Node.Percent
import DispatchScan.Text.Split

/-!
# Paths of network addresses

The normal form of a path has no segments that stand for a folder itself or for the one around it,
and its segments are percent-encoded. In the schemes of the web a backslash parts segments too. No
path leads out of a drive, and in the address of a file a drive at the front has a form of its own.
-/

namespace DispatchScan.Node

/-- The characters that are percent-encoded in a path. -/
def pathMarks : String := " \"<>`#?\x7b\x7d"

/-- The points of a segment, of which each may be percent-encoded; none for any other segment. -/
def points? : List Char → Option Nat
  | [] => some 0
  | '.' :: cs => (points? cs).map (· + 1)
  | '%' :: '2' :: 'e' :: cs => (points? cs).map (· + 1)
  | '%' :: '2' :: 'E' :: cs => (points? cs).map (· + 1)
  | _ => none

/-- Whether a segment stands for the folder that it is in. -/
def isSame (segment : List Char) : Bool := points? segment == some 1

/-- Whether a segment stands for the folder around the one that it is in. -/
def isParent (segment : List Char) : Bool := points? segment == some 2

/-- Whether a segment names a drive, which is a letter with a colon or a bar. -/
def isDrive : List Char → Bool
  | [letter, mark] => letter.isAlpha && (mark == ':' || mark == '|')
  | _ => false

/-- How far a path has been followed. -/
structure Walk where
  /-- The segments so far, the last one first. -/
  reached : List (List Char)
  /-- Whether a segment at the front was a drive. -/
  onDrive : Bool
  deriving DecidableEq, Repr

/-- Whether a segment is a drive up to its first backslash, which only paths outside of the web
hold. -/
def opensDrive (segment : List Char) : Bool := isDrive (segment.takeWhile (· != '\\'))

/-- Go to the folder around, but not out of a drive. -/
def Walk.leave (walk : Walk) : Walk :=
  if walk.reached.head?.any opensDrive then walk
  else { walk with reached := walk.reached.drop 1 }

/-- Go into a segment. -/
def Walk.enter (walk : Walk) (segment : List Char) : Walk :=
  { walk with reached := segment :: walk.reached }

/-- Go into a segment at the front that starts with a drive. The drive is written with a colon, and
what follows the colon directly is a segment of its own, whatever it is. -/
def Walk.enterDrive? (walk : Walk) (segment : List Char) : Option Walk :=
  match walk.reached, segment with
  | [], [letter, mark] =>
    if isDrive [letter, mark] then some ⟨[[letter, ':']], true⟩ else none
  | [], letter :: ':' :: rest =>
    if letter.isAlpha then some ⟨[rest, [letter, ':']], walk.onDrive⟩ else none
  | _, _ => none

/-- Stop in a folder: an empty segment follows when no other does. -/
def Walk.stop (last : Bool) (walk : Walk) : Walk :=
  if last then walk.enter [] else walk

/-- Go where a segment leads, which is the `last` one or not; `drives` says whether there are
drives. -/
def Walk.step (drives last : Bool) (walk : Walk) (segment : List Char) : Walk :=
  if isParent segment then walk.leave.stop last
  else if isSame segment then walk.stop last
  else (if drives then walk.enterDrive? segment else none).getD (walk.enter segment)

/-- Follow the segments of a path. -/
def Walk.follow (drives : Bool) (walk : Walk) : List (List Char) → Walk
  | [] => walk
  | segment :: segments => (walk.step drives segments.isEmpty segment).follow drives segments

/-- The text of the path that was followed, with a slash in front of each segment. -/
def Walk.text (walk : Walk) : List Char :=
  walk.reached.reverse.flatMap fun segment => '/' :: percentEncode pathMarks segment

/-- The segments of a path that starts with a slash or has this slash left out. -/
def pathSegments (web : Bool) (cs : List Char) : List (List Char) :=
  let cs := if web then cs.map fun c => if c = '\\' then '/' else c else cs
  Text.splitAt '/' (if cs.head? = some '/' then cs.drop 1 else cs)

/-- The normal form of a path. Outside of the web it may be empty. -/
def normalPath (web : Bool) (cs : List Char) : List Char :=
  if cs.isEmpty && !web then []
  else (Walk.follow false ⟨[], false⟩ (pathSegments web cs)).text

/-- Follow the path of a file. -/
def followFile (cs : List Char) : Walk :=
  Walk.follow true ⟨[], false⟩ (pathSegments true cs)

/-- The normal form of the path of a file, which starts with one slash. -/
def filePath (cs : List Char) : List Char :=
  '/' :: (followFile cs).text.dropWhile (· == '/')

end DispatchScan.Node
