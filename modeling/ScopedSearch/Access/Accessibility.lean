import ScopedSearch.Failure
import ScopedSearch.Filter.Expr
import ScopedSearch.Text.Shown

/-!
# Accessibility

Which documents a caller asks to see, relative to the resources that the caller is authorized for,
and the filter that scopes a request to them.  No operator says "is not", so the documents that are
out of reach are those whose resource is among the others.
-/

namespace ScopedSearch

inductive Accessibility where
  | all
  | accessible
  | unaccessible
deriving DecidableEq, Inhabited

namespace Accessibility

def word : Accessibility → String
  | all => "all"
  | accessible => "accessible"
  | unaccessible => "unaccessible"

def ofWord? (s : String) : Option Accessibility :=
  if s == "all" then some all
  else if s == "accessible" then some accessible
  else if s == "unaccessible" then some unaccessible
  else none

def ofValue? : Value → Option Accessibility
  | .str s => ofWord? s
  | _ => none

/-- The accessibility that a value names; any other value is the caller's fault. -/
def ofValue (v : Value) : Except Failure Accessibility :=
  match ofValue? v with
  | some a => .ok a
  | none => .error (.invalidAccessibility (Text.shown v))

/-- The filter for the documents whose field is one of some values. -/
def among (field : String) (vs : List Value) : Value :=
  .single "in" (.single field (.arr vs))

/-- The values of the first list that are not in the second.  Values that cannot be told apart by a
set have no complement. -/
def others (whole authorized : List Value) : Except Failure (List Value) :=
  if authorized.all Value.isScalar && whole.all Value.isScalar then
    .ok (whole.filter fun v => !v.isIn authorized)
  else .error .wrongShape

/-- The filter for an accessibility; none when every document is in scope. -/
def filter (a : Accessibility) (field : String) (authorized : List Value)
    (whole : Option (List Value)) : Except Failure (Option Value) :=
  match a with
  | all => .ok none
  | accessible => .ok (some (among field authorized))
  | unaccessible =>
    match whole with
    | none => .error .missingResources
    | some vs => (others vs authorized).map fun rest => some (among field rest)

end Accessibility

/-- A filter scoped by another: both must match, and one that is not given does not count. -/
def Wire.scope (filter auth : Wire) : Wire :=
  if !auth.truthy then filter
  else if !filter.truthy then auth
  else .branch "AND" [filter, auth]

end ScopedSearch
