import ScopedSearch.Value
import ScopedSearch.Filter.Operator

/-!
# Filters

A filter as a tree of groups and conditions, and the form in which a caller hands one in: a plain
value, a tree that is built already, or a group of such parts.
-/

namespace ScopedSearch

/-- One operator, as the caller spelled it, applied to one field and a value. -/
structure Condition where
  operator : String
  field : String
  value : Value
deriving Inhabited

/-- A filter: conditions joined by groups. -/
inductive Expr where
  | group (c : Connective) (parts : List Expr)
  | leaf (condition : Condition)
deriving Inhabited

/-- A filter as it is handed in.  A `branch` is an object with one key whose value is a list of
parts, some of them perhaps built already. -/
inductive Wire where
  | json (v : Value)
  | built (e : Expr)
  | branch (key : String) (parts : List Wire)
deriving Inhabited

namespace Wire

def absent : Wire := .json .null

/-- Whether a filter counts as given; a tree and a group always do. -/
def truthy : Wire → Bool
  | json v => v.truthy
  | built _ => true
  | branch _ _ => true

end Wire

end ScopedSearch
