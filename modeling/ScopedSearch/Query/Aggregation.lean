import ScopedSearch.Query.Compile

/-!
# Filters of aggregations

The filter of the aggregation of one field.  The authorization filter always scopes the result: it
is joined to the caller's filter, unless the two are the same, or the substitution for the field's
own conditions has put it on a path of conjunctions from the root already.
-/

namespace ScopedSearch

namespace Expr

mutual

/-- Whether every match goes through a condition on the field. -/
def requires (field : String) : Expr → Bool
  | .leaf l => l.field == field
  | .group .all parts => requiresOne field parts
  | .group .any _ => false

def requiresOne (field : String) : List Expr → Bool
  | [] => false
  | e :: es => requires field e || requiresOne field es

end

end Expr

/-- Whether a filter that may be absent goes through a condition on the field. -/
def requires? (field : String) : Option Expr → Bool
  | none => false
  | some e => e.requires field

/-- Joins the fragments of the caller and of the authorization.  `covered` says that the caller's
fragment is scoped already. -/
def joinScope (covered : Bool) : Option Fragment → Option Fragment → Option Fragment
  | client, none => client
  | none, some auth => some auth
  | some client, some auth =>
    if auth.eqv client || covered then some client else some (.bool .all [client, auth])

/-- Compiles the filter for the aggregation of a field. -/
def Lexicon.compileAggregation (lex : Lexicon) (filter : Wire) (target : String)
    (filterSelf : Bool) (auth : Wire) : Except Failure (Option Fragment) := do
  let e ← filter.parse 0
  let substitute := lex.compile auth
  let excluded := excludedField (some target) filterSelf
  let client ← compileExpr? (lex.leafExcept excluded substitute) e
  let scope ← substitute
  return joinScope (!filterSelf && requires? target e) client scope

end ScopedSearch
