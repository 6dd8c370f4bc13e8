/-!
# Splitting texts

A text between the characters that part it.
-/

namespace ScopedSearch

namespace Text

/-- The parts of a text between the characters of a class; one part more than there are such
characters. -/
def splitAt (p : Char → Bool) (cs : List Char) : List (List Char) :=
  cs.foldr (fun c parts =>
    match parts with
    | [] => [[c]]
    | s :: rest => if p c then [] :: s :: rest else (c :: s) :: rest) [[]]

end Text

end ScopedSearch
