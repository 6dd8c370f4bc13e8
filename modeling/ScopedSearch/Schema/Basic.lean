/-!
# Client schemas

The structural description of the types that callers see: scalars, enumerations and object types
with typed fields.
-/

namespace ScopedSearch

structure Argument where
  name : String
  type : String
  default : Option String := none
deriving DecidableEq, Inhabited

structure FieldDef where
  name : String
  type : String
  arguments : List Argument := []
  description : Option String := none
deriving DecidableEq, Inhabited

structure ObjectType where
  name : String
  fields : List FieldDef := []
deriving DecidableEq, Inhabited

structure EnumType where
  name : String
  values : List String
deriving DecidableEq, Inhabited

structure Schema where
  scalars : List String := []
  enums : List EnumType := []
  types : List ObjectType := []
deriving DecidableEq, Inhabited

namespace Schema

/-- The first object type of a name. -/
def type? (s : Schema) (name : String) : Option ObjectType := s.types.find? (·.name == name)

def typeNames (s : Schema) : List String := s.types.map (·.name)

end Schema

end ScopedSearch
