import ScopedSearch.Query.Compile

/-!
# Sorting

A sort as a list of fields with directions.  The caller may write it as a list of objects with one
key, or as one object.
-/

namespace ScopedSearch

inductive Direction where
  | asc
  | desc
deriving DecidableEq, Inhabited

namespace Direction

def word : Direction → String
  | asc => "asc"
  | desc => "desc"

def ofWord? (s : String) : Option Direction :=
  if s == "asc" then some asc else if s == "desc" then some desc else none

end Direction

/-- Fields with directions, the most significant first. -/
abbrev SortOrder := List (String × Direction)

namespace SortOrder

def toValue (s : SortOrder) : Value := .arr (s.map fun (f, d) => .single f (.str d.word))

end SortOrder

namespace Lexicon

/-- One field with its direction. -/
def sortEntry? (lex : Lexicon) : Value → Option (String × Direction)
  | .obj [(field, .str word)] =>
    if (lex.fields.lookup field).isNone then none else (Direction.ofWord? word).map (field, ·)
  | _ => none

/-- The items of a sort: the entries of an object count as objects with one key. -/
def sortItems? : Value → Option (List Value)
  | .obj es => some (es.map fun (f, d) => .single f d)
  | .arr items => some items
  | _ => none

/-- Checks a sort.  One entry that is not valid refuses it all. -/
def compileSort (lex : Lexicon) : Value → Except Failure (Option SortOrder)
  | .null => .ok none
  | v =>
    match (sortItems? v).bind (·.mapM lex.sortEntry?) with
    | some s => .ok (some s)
    | none => .error .invalidSort

end Lexicon

end ScopedSearch
