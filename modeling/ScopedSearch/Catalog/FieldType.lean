/-!
# Field types

What the catalog knows of a field: its type in the index, whether it holds a list, and the fields
below it.
-/

namespace ScopedSearch

inductive FieldType where
  | mk (esType : String) (isArray : Bool) (properties : Option (List (String × FieldType)))
deriving Inhabited

/-- Fields by name, in the order of the mapping. -/
abbrev Fields := List (String × FieldType)

namespace FieldType

def esType : FieldType → String
  | mk t _ _ => t

def isArray : FieldType → Bool
  | mk _ a _ => a

/-- The fields below a field; none for a field whose mapping has no properties. -/
def properties? : FieldType → Option Fields
  | mk _ _ ps => ps

def subfields (t : FieldType) : Fields := t.properties?.getD []

/-- A field whose own fields are exposed as a type. -/
def isNested (t : FieldType) : Bool := t.esType == "nested"

/-! ### Equality -/

mutual

/-- Equality of field types: the fields below are compared by name, whatever their order. -/
def eqv : FieldType → FieldType → Bool
  | mk t a none, mk t' a' none => t == t' && a == a'
  | mk t a (some ps), mk t' a' (some ps') =>
    t == t' && a == a' && ps.length == ps'.length && eqvIn ps ps'
  | _, _ => false

/-- Whether every field of the first list is in the second, with an equal type. -/
def eqvIn : List (String × FieldType) → List (String × FieldType) → Bool
  | [], _ => true
  | (n, t) :: ps, qs =>
    (match qs.lookup n with
     | some u => t.eqv u
     | none => false) && eqvIn ps qs

end

def eqvFields (ps qs : Fields) : Bool := ps.length == qs.length && eqvIn ps qs

/-! ### Size -/

mutual

/-- How many fields a field has below it, counting itself. -/
def size : FieldType → Nat
  | mk _ _ none => 1
  | mk _ _ (some ps) => 1 + sizeAll ps

def sizeAll : List (String × FieldType) → Nat
  | [] => 0
  | (_, t) :: ps => t.size + sizeAll ps

end

theorem size_eq (t : FieldType) : t.size = 1 + sizeAll t.subfields := by
  cases t with
  | mk ty a ps => cases ps <;> rfl

end FieldType

end ScopedSearch
