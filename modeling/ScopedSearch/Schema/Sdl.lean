import ScopedSearch.Schema.Basic

/-!
# Schemas as text

A schema in the schema definition language: scalars, enumerations and object types in this order,
with a blank line between definitions.
-/

namespace ScopedSearch

namespace Sdl

def joinLines (lines : List String) : String := "\n".intercalate lines

def argument (a : Argument) : String :=
  match a.default with
  | some d => s!"{a.name}: {a.type} = {d}"
  | none => s!"{a.name}: {a.type}"

/-- The arguments of a field in parentheses; nothing for a field without any. -/
def arguments : List Argument → String
  | [] => ""
  | as => "(" ++ ", ".intercalate (as.map argument) ++ ")"

/-- The description of a field on a line of its own; an empty one is left out. -/
def description : Option String → List String
  | none => []
  | some d => if d == "" then [] else ["  \"\"\"" ++ d ++ "\"\"\""]

def field (f : FieldDef) : List String :=
  description f.description ++ ["  " ++ f.name ++ arguments f.arguments ++ ": " ++ f.type]

def objectType (t : ObjectType) : String :=
  joinLines (("type " ++ t.name ++ " \x7b") :: (t.fields.flatMap field ++ ["\x7d"]))

def enumType (e : EnumType) : String :=
  joinLines (("enum " ++ e.name ++ " \x7b") :: (e.values.map ("  " ++ ·) ++ ["\x7d"]))

def scalar (name : String) : String := "scalar " ++ name

def definitions (s : Schema) : List String :=
  s.scalars.map scalar ++ s.enums.map enumType ++ s.types.map objectType

def render (s : Schema) : String := "\n\n".intercalate (definitions s) ++ "\n"

end Sdl

end ScopedSearch
