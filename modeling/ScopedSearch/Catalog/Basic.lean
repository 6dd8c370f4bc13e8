import ScopedSearch.Failure
import ScopedSearch.Catalog.Mapping

/-!
# The catalog

The field types of every index that is known, in the order in which the indices came in.
-/

namespace ScopedSearch

structure Catalog where
  indices : List (String × Fields) := []
deriving Inhabited

namespace Catalog

/-- An index takes the place of its former self, or comes last. -/
def put (index : String) (fields : Fields) : List (String × Fields) → List (String × Fields)
  | [] => [(index, fields)]
  | (i, fs) :: rest => if i == index then (i, fields) :: rest else (i, fs) :: put index fields rest

def setIndex (c : Catalog) (index : String) (fields : Fields) : Catalog :=
  ⟨put index fields c.indices⟩

def fields? (c : Catalog) (index : String) : Option Fields := c.indices.lookup index

/-- The fields of an index that must be known. -/
def fields (c : Catalog) (index : String) : Except Failure Fields :=
  match c.fields? index with
  | some fs => .ok fs
  | none => .error (.unknownIndex index)

def fieldType? (c : Catalog) (index field : String) : Option FieldType :=
  ((c.fields? index).getD []).lookup field

/-- The fields below a field; none below a field that is not known. -/
def nestedFields (c : Catalog) (index field : String) : Fields :=
  match c.fieldType? index field with
  | some t => t.subfields
  | none => []

def isArrayField (c : Catalog) (index field : String) : Bool :=
  match c.fieldType? index field with
  | some t => t.isArray
  | none => false

abbrev ArrayFields := List (String × List String)

def arraysOf (arrays : ArrayFields) (index : String) : List String :=
  (arrays.lookup index).getD []

/-- Reads the mappings of some indices into a catalog, in order. -/
def addMappings (arrays : ArrayFields) : Catalog → List (String × Value) → Except Failure Catalog
  | c, [] => .ok c
  | c, (index, properties) :: rest => do
    let fields ← Mapping.fieldTypes (arraysOf arrays index) properties
    addMappings arrays (c.setIndex index fields) rest

def ofMappings (arrays : ArrayFields) (mappings : List (String × Value)) :
    Except Failure Catalog :=
  addMappings arrays ⟨[]⟩ mappings

end Catalog

end ScopedSearch
