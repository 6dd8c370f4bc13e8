import ScopedSearch.Failure
import ScopedSearch.Filter.Expr

/-!
# Reading filters

The grammar of filters.  Null and the empty object are no filter; an object with one key is a group
when the key is a connective and a condition otherwise.  Only the shape is checked here: fields and
operators are checked when the filter is compiled.
-/

namespace ScopedSearch

/-- How many groups may lie inside each other. -/
def depthLimit : Int := 64

def consPresent : Option Expr → List Expr → List Expr
  | some e, es => e :: es
  | none, es => es

namespace Value

/-- The object with the key `key` and a value that is not a list, as a condition. -/
def toCondition (key : String) : Value → Except Failure (Option Expr)
  | .obj [(field, value)] => .ok (some (.leaf ⟨key, field, value⟩))
  | _ => .error .filterSyntax

mutual

/-- The filter that a value writes, `depth` groups inside others. -/
def parseFilter (depth : Int) : Value → Except Failure (Option Expr)
  | .null => .ok none
  | .obj [] => .ok none
  | .obj [(key, operand)] =>
    match Connective.ofKey? key with
    | some c =>
      if depthLimit ≤ depth then .error .filterTooDeep
      else
        match operand with
        | .arr items => (parseFilters (depth + 1) items).map fun es => some (.group c es)
        | _ => .error .filterSyntax
    | none => toCondition key operand
  | _ => .error .filterSyntax

def parseFilters (depth : Int) : List Value → Except Failure (List Expr)
  | [] => .ok []
  | v :: vs => do
    let e ← parseFilter depth v
    let es ← parseFilters depth vs
    return consPresent e es

end

end Value

namespace Wire

mutual

/-- The filter that is handed in, `depth` groups inside others.  A tree that is built already is
taken as it is. -/
def parse (depth : Int) : Wire → Except Failure (Option Expr)
  | .json v => v.parseFilter depth
  | .built e => .ok (some e)
  | .branch key parts =>
    match Connective.ofKey? key with
    | some c =>
      if depthLimit ≤ depth then .error .filterTooDeep
      else (parseAll (depth + 1) parts).map fun es => some (.group c es)
    | none => .error .filterSyntax

def parseAll (depth : Int) : List Wire → Except Failure (List Expr)
  | [] => .ok []
  | w :: ws => do
    let e ← parse depth w
    let es ← parseAll depth ws
    return consPresent e es

end

end Wire

end ScopedSearch
