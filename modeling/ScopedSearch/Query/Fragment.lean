import ScopedSearch.Value
import ScopedSearch.Filter.Operator

/-!
# Query fragments

A compiled filter: clauses on single fields, joined by groups.  As a value, every node is an object
with one key.
-/

namespace ScopedSearch

inductive Fragment where
  /-- The field is equal to the value. -/
  | term (field : String) (value : Value)
  /-- The field is one of the values. -/
  | terms (field : String) (value : Value)
  /-- The field lies on one side of the value. -/
  | range (b : Bound) (field : String) (value : Value)
  | bool (c : Connective) (parts : List Fragment)
deriving Inhabited

namespace Fragment

/-- The clause that an operator asks for. -/
def ofOperator (o : Operator) (field : String) (value : Value) : Fragment :=
  match o with
  | .eq => .term field value
  | .member => .terms field value
  | .bound b => .range b field value

def groupValue (c : Connective) (parts : Value) : Value :=
  .single "bool" (.single c.keyword parts)

mutual

/-- A fragment as it is sent. -/
def toValue : Fragment → Value
  | .term f v => .single "term" (.single f v)
  | .terms f v => .single "terms" (.single f v)
  | .range b f v => .single "range" (.single f (.single b.word v))
  | .bool c ps => groupValue c (.arr (toValues ps))

def toValues : List Fragment → List Value
  | [] => []
  | p :: ps => p.toValue :: toValues ps

end

/-- Equality of fragments as they are sent. -/
def eqv (a b : Fragment) : Bool := a.toValue.eqv b.toValue

end Fragment

/-- Joins given parts under a connective that is named. -/
def joinNamed (connective : String) (parts : Value) : Option Value :=
  (Connective.ofWord? connective).map (Fragment.groupValue · parts)

end ScopedSearch
