import ScopedSearch.Query.Aggregation
import ScopedSearch.Query.Body
import ScopedSearch.Schema.Generate
import ScopedSearch.Schema.Sdl
import ScopedSearch.Access.Accessibility
import ScopedSearch.Access.Authority
import ScopedSearch.Backend.Basic
import ScopedSearch.Backend.LiveCatalog

/-!
# The gateway

The state of a gateway: the indices that it exposes, their catalog, the backend, the authority, and
the schema once it is generated.  A step of the gateway has a result, the calls and requests made
for it, and the gateway after it.
-/

namespace ScopedSearch

structure Gateway where
  configs : List IndexConfig
  catalog : Catalog
  backend : Backend
  /-- The fields that hold lists, for reading mappings again. -/
  arrays : Catalog.ArrayFields := []
  /-- The position at which a page must end at the latest. -/
  ceiling : Int := 10000
  /-- Without an authority there is no authorization. -/
  authority : Option Authority := none
  /-- The field that holds a document's resource. -/
  authField : String := "auth_resource_path"
  /-- The schema, once it is generated. -/
  schema : Option Schema := none
  /-- The text of the schema, once it is written. -/
  sdl : Option String := none
deriving Inhabited

structure Step (α : Type) where
  result : Except Failure α
  calls : List Call := []
  requests : List AuthorityRequest := []
  gateway : Gateway

namespace Step

/-- A step that only looks at the gateway. -/
def ofResult {α : Type} (g : Gateway) (result : Except Failure α) : Step α :=
  { result, gateway := g }

/-- A step and, if it succeeds, another after it. -/
def andThen {α β : Type} (s : Step α) (next : α → Gateway → Step β) : Step β :=
  match s.result with
  | .error f => { s with result := .error f }
  | .ok a =>
    let t := next a s.gateway
    { t with calls := s.calls ++ t.calls, requests := s.requests ++ t.requests }

def ofExchange {α : Type} (g : Gateway) (e : Exchange Backend α) : Step α :=
  { result := e.result, calls := e.calls, gateway := { g with backend := e.state } }

def ofStream (g : Gateway) (r : StreamRun Backend) : Step (List Value) :=
  { result := r.result, calls := r.calls, gateway := { g with backend := r.state } }

def map {α β : Type} (f : α → β) (s : Step α) : Step β :=
  { s with result := s.result.map f }

end Step

namespace Gateway

/-- What a filter on an index may speak of. -/
def lexicon (g : Gateway) (index : String) : Lexicon := g.catalog.lexicon index

/-- The index behind a type name: the first that is exposed under it. -/
def indexOf (g : Gateway) (type : String) : Except Failure String :=
  match g.configs.find? (·.type == type) with
  | some c => .ok c.index
  | none => .error (.unknownType type)

def mappingFields (g : Gateway) (type : String) : Except Failure (List String) := do
  let fields ← g.catalog.fields (← g.indexOf type)
  return fields.map (·.1)

/-! ### The catalog -/

def setIndex (g : Gateway) (index : String) (arrays : List String) (properties : Value) :
    Step Unit :=
  match Mapping.fieldTypes arrays properties with
  | .error f => .ofResult g (.error f)
  | .ok fields => .ofResult { g with catalog := g.catalog.setIndex index fields } (.ok ())

/-- Reads the mappings of all indices again; a recorder has none to read. -/
def refresh (g : Gateway) : Step Unit :=
  match g.backend with
  | .recorder _ _ => .ofResult g (.ok ())
  | .cluster o c =>
    let e := LiveCatalog.refresh ⟨g.configs.map (·.index), g.arrays⟩ ⟨g.catalog, c⟩
    { result := e.result, calls := e.calls,
      gateway := { g with catalog := e.state.catalog, backend := .cluster o e.state.cluster } }

/-! ### The schema -/

/-- The schema: generated when it is first asked for with success, and the same ever after. -/
def buildSchema (g : Gateway) : Step Schema :=
  match g.schema with
  | some s => .ofResult g (.ok s)
  | none =>
    match Schema.generate .standard g.catalog g.configs with
    | .error f => .ofResult g (.error f)
    | .ok s => .ofResult { g with schema := some s } (.ok s)

def schemaText (g : Gateway) : Step String :=
  match g.sdl with
  | some t => .ofResult g (.ok t)
  | none => g.buildSchema.andThen fun s g =>
    .ofResult { g with sdl := some (Sdl.render s) } (.ok (Sdl.render s))

end Gateway

end ScopedSearch
