import ScopedSearch.Failure
import ScopedSearch.Value

/-!
# Taking values apart

Reading the parts of an answer that ought to have a certain shape.  A part that must be there, a
part that may be there, and the parts one by one each fail in their own way.
-/

namespace ScopedSearch

namespace Value

/-- The value of a key that must be there. -/
def item (v : Value) (k : String) : Except Failure Value :=
  match v with
  | .obj es =>
    match es.lookup k with
    | some w => .ok w
    | none => .error .missingKey
  | _ => .error .wrongShape

/-- The value of a key that may be there, in what must be an object. -/
def item? (v : Value) (k : String) : Except Failure (Option Value) :=
  match v with
  | .obj es => .ok (es.lookup k)
  | _ => .error .notAnObject

/-- The value of a key that may be there, or else another value. -/
def itemOr (v : Value) (k : String) (other : Value) : Except Failure Value :=
  (v.item? k).map (·.getD other)

/-- The parts that a value is gone through by: the items of a list, the keys of an object, the
characters of a text. -/
def parts : Value → Except Failure (List Value)
  | .arr items => .ok items
  | .obj es => .ok (es.map fun e => .str e.1)
  | .str s => .ok (s.toList.map fun c => .str (String.singleton c))
  | _ => .error .wrongShape

end Value

end ScopedSearch
