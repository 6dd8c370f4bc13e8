import ScopedSearch.Failure
import ScopedSearch.Value
import ScopedSearch.Catalog.FieldType

/-!
# Reading mappings

The field types that the properties of an index mapping describe.  A field without a type is an
object, and whether a field holds a list is told by its name, at every level.
-/

namespace ScopedSearch

namespace Mapping

def typeOf (es : Entries) : Except Failure String :=
  match es.lookup "type" with
  | none => .ok "object"
  | some (.str t) => .ok t
  | some _ => .error .typeNotText

mutual

def fieldTypes (arrays : List String) : Value → Except Failure Fields
  | .obj es => entryTypes arrays es
  | _ => .error .notAnObject

/-- The field types of the entries of a block, in order.  What is below a field is read before the
field itself. -/
def entryTypes (arrays : List String) : List (String × Value) → Except Failure Fields
  | [] => .ok []
  | (name, .obj es) :: rest => do
    let sub ← subTypes arrays es
    let t ← typeOf es
    let types ← entryTypes arrays rest
    return (name, .mk t (arrays.contains name) sub) :: types
  | _ :: _ => .error .notAnObject

/-- The field types of the properties in a field's mapping, if it has any. -/
def subTypes (arrays : List String) : List (String × Value) → Except Failure (Option Fields)
  | [] => .ok none
  | (key, v) :: rest =>
    if key == "properties" then (fieldTypes arrays v).map some else subTypes arrays rest

end

end Mapping

end ScopedSearch
