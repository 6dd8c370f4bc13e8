import ScopedSearch.Filter.Parse
import ScopedSearch.Catalog.Basic
import ScopedSearch.Types
import ScopedSearch.Query.Fragment

/-!
# Compiling filters

A filter becomes a query fragment: every condition is checked against the fields of the index and
becomes a clause, and groups are joined from the bottom up.  Parts that compile to nothing are
dropped, and a group of which nothing is left compiles to nothing.
-/

namespace ScopedSearch

/-- What a filter on an index may speak of: its fields, and what their types mean. -/
structure Lexicon where
  tables : TypeTables
  fields : Fields
deriving Inhabited

/-- The lexicon of an index; an unknown index has no fields. -/
def Catalog.lexicon (c : Catalog) (index : String) : Lexicon :=
  ⟨.standard, (c.fields? index).getD []⟩

/-! ### Conditions -/

namespace FieldClass

/-- The operators of a class: a text can be compared for equality and membership only. -/
def allows : FieldClass → Operator → Bool
  | text, .bound _ => false
  | _, _ => true

/-- What is said about an operator that the class does not know. -/
def refusal : FieldClass → Condition → Failure
  | text, l => .illegalOperator l.operator
  | numeric, l => .illegalNumericOperator l.operator l.field

/-- The clause of a condition on a field of a class. -/
def clause (k : FieldClass) (l : Condition) : Except Failure Fragment :=
  match Operator.ofSpelling? l.operator with
  | some o => if k.allows o then .ok (.ofOperator o l.field l.value) else .error (k.refusal l)
  | none => .error (k.refusal l)

end FieldClass

namespace Lexicon

/-- The clause of a condition: the field must be known, its type must have a class, and the class
must know the operator. -/
def clause (lex : Lexicon) (l : Condition) : Except Failure Fragment :=
  match lex.fields.lookup l.field with
  | none => .error (.unknownField l.field)
  | some t =>
    match lex.tables.class? t.esType with
    | none => .error (.unclassifiedType t.esType)
    | some k => k.clause l

end Lexicon

/-! ### Groups -/

def consFragment : Option Fragment → List Fragment → List Fragment
  | some f, fs => f :: fs
  | none, fs => fs

/-- A group of compiled parts, unless none is left. -/
def joinParts (c : Connective) : List Fragment → Option Fragment
  | [] => none
  | fs => some (.bool c fs)

namespace Expr

mutual

def compile (leaf : Condition → Except Failure (Option Fragment)) :
    Expr → Except Failure (Option Fragment)
  | .leaf l => leaf l
  | .group c parts => (compileAll leaf parts).map (joinParts c)

def compileAll (leaf : Condition → Except Failure (Option Fragment)) :
    List Expr → Except Failure (List Fragment)
  | [] => .ok []
  | e :: es => do
    let f ← compile leaf e
    let fs ← compileAll leaf es
    return consFragment f fs

end

end Expr

/-! ### Filters -/

namespace Lexicon

/-- A condition on its own account. -/
def ownLeaf (lex : Lexicon) (l : Condition) : Except Failure (Option Fragment) :=
  (lex.clause l).map some

/-- A condition, unless it is on the excluded field: there the substitute takes its place. -/
def leafExcept (lex : Lexicon) (excluded : Option String)
    (substitute : Except Failure (Option Fragment)) (l : Condition) :
    Except Failure (Option Fragment) :=
  if excluded = some l.field then substitute else lex.ownLeaf l

def compileExpr? (leaf : Condition → Except Failure (Option Fragment)) :
    Option Expr → Except Failure (Option Fragment)
  | none => .ok none
  | some e => e.compile leaf

def compile (lex : Lexicon) (filter : Wire) : Except Failure (Option Fragment) := do
  compileExpr? lex.ownLeaf (← filter.parse 0)

/-- The field whose own conditions do not count. -/
def excludedField (target : Option String) (filterSelf : Bool) : Option String :=
  if filterSelf then none else target

/-- Compiles a filter for the aggregation of a field.  When the field's own filter does not count,
the authorization filter takes the place of every condition on it. -/
def compileFor (lex : Lexicon) (filter : Wire) (target : Option String) (filterSelf : Bool)
    (auth : Wire) : Except Failure (Option Fragment) := do
  let e ← filter.parse 0
  compileExpr? (lex.leafExcept (excludedField target filterSelf) (lex.compile auth)) e

end Lexicon

end ScopedSearch
