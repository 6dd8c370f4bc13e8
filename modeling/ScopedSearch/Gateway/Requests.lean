import ScopedSearch.Gateway.Basic

/-!
# Requests to the gateway

Pages, counts and streams of documents, on an index or under a type name.  Everything is compiled
before the backend is called, so a request that is refused never reaches it; under a type name the
filter is scoped by the authorization filter.
-/

namespace ScopedSearch

def Request.scope (r : Request) (auth : Wire) : Request := { r with filter := r.filter.scope auth }

namespace Gateway

/-! ### On an index -/

def queryValue (query : Option Fragment) : Option Value := query.map Fragment.toValue

def streamArguments (p : StreamPlan) : StreamArguments :=
  ⟨queryValue p.query, Value.ofOption (p.fields.map Value.texts),
    Value.ofOption (p.sort.map SortOrder.toValue)⟩

def indexData (g : Gateway) (index : String) (r : Request) : Step (List Value) :=
  match (g.lexicon index).pageBody g.ceiling r with
  | .error f => .ofResult g (.error f)
  | .ok body =>
    let s := Step.ofExchange g (g.backend.execute index body.toValue)
    { s with result := s.result.bind Backend.documentsOf }

def indexCount (g : Gateway) (index : String) (filter : Wire) : Step Value :=
  match (g.lexicon index).compile filter with
  | .error f => .ofResult g (.error f)
  | .ok query => .ofExchange g (g.backend.count index (queryValue query))

/-- All documents that match, as a stream of which the reader may want some only. -/
def indexStream (g : Gateway) (index : String) (r : Request) (want : Option Nat) :
    Except Failure (StreamRun Backend) :=
  ((g.lexicon index).streamPlan r).map fun p =>
    g.backend.stream index (streamArguments p) want

def indexScroll (g : Gateway) (index : String) (r : Request) (want : Option Nat) :
    Step (List Value) :=
  match g.indexStream index r want with
  | .error f => .ofResult g (.error f)
  | .ok run => .ofStream g run

/-! ### Under a type name -/

/-- Takes a step on the index behind a type name. -/
def onType {α : Type} (g : Gateway) (type : String) (step : String → Step α) : Step α :=
  match g.indexOf type with
  | .error f => .ofResult g (.error f)
  | .ok index => step index

def data (g : Gateway) (type : String) (r : Request) (auth : Wire) : Step (List Value) :=
  g.onType type fun index => g.indexData index (r.scope auth)

def count (g : Gateway) (type : String) (filter auth : Wire) : Step Value :=
  g.onType type fun index => g.indexCount index (filter.scope auth)

def downloadStream (g : Gateway) (type : String) (r : Request) (auth : Wire)
    (want : Option Nat) : Except Failure (StreamRun Backend) := do
  g.indexStream (← g.indexOf type) (r.scope auth) want

def download (g : Gateway) (type : String) (r : Request) (auth : Wire) (want : Option Nat) :
    Step (List Value) :=
  g.onType type fun index => g.indexScroll index (r.scope auth) want

/-- The filter for the aggregation of a field. -/
def aggregationFilter (g : Gateway) (type field : String) (filter : Wire) (filterSelf : Bool)
    (auth : Wire) : Except Failure (Option Fragment) := do
  (g.lexicon (← g.indexOf type)).compileAggregation filter field filterSelf auth

/-! ### Authorization -/

/-- The resources that a token gives access to. -/
def authorized (g : Gateway) (a : Authority) (token : Option String) : Step (List Value) :=
  let (requests, result) := a.resources token
  { result, requests, gateway := g }

def allResources (g : Gateway) (type : String) : Step (List Value) :=
  g.onType type fun index => .ofExchange g (g.backend.distinct index g.authField (.int 1000))

/-- The authorization filter for a caller: none without an authority, and none when every document
is in scope. -/
def authFilter (g : Gateway) (type : String) (token : Option String) (a : Accessibility) :
    Step (Option Value) :=
  match g.authority, a with
  | none, _ => .ofResult g (.ok none)
  | _, .all => .ofResult g (.ok none)
  | some authority, .accessible =>
    (g.authorized authority token).andThen fun vs g =>
      .ofResult g (Accessibility.accessible.filter g.authField vs none)
  | some authority, .unaccessible =>
    (g.authorized authority token).andThen fun vs g =>
      (g.allResources type).andThen fun whole g =>
        .ofResult g (Accessibility.unaccessible.filter g.authField vs (some whole))

/-- The authorization filter for an accessibility that is still to be read. -/
def authFilterFor (g : Gateway) (type : String) (token : Option String) (accessibility : Value) :
    Step (Option Value) :=
  match Accessibility.ofValue accessibility with
  | .error f => .ofResult g (.error f)
  | .ok a => g.authFilter type token a

/-- An authorization filter as a filter. -/
def authWire (filter : Option Value) : Wire := .json (Value.ofOption filter)

end Gateway

end ScopedSearch
