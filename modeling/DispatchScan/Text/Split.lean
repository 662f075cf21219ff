/-!
# Texts between marks

A text is split at each occurrence of a mark, so there is one part more than there are marks.
-/

namespace DispatchScan.Text

/-- The parts of a text between the given marks. -/
def splitAt (mark : Char) : List Char → List (List Char)
  | [] => [[]]
  | c :: cs =>
    match splitAt mark cs with
    | [] => [[]]
    | part :: parts => if c = mark then [] :: part :: parts else (c :: part) :: parts

end DispatchScan.Text
