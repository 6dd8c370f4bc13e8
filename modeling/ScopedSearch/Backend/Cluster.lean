import ScopedSearch.Value.Parts
import ScopedSearch.Backend.Call

/-!
# The search cluster

A search cluster, as the replies that it has ready for each kind of request.  A request takes the
next reply of its kind; when none is left, the cluster reports an error.
-/

namespace ScopedSearch

inductive Reply where
  | answer (v : Value)
  | raises (text : String)
deriving Inhabited

structure Cluster where
  mappings : List Reply := []
  searches : List Reply := []
  scrolls : List Reply := []
  counts : List Reply := []
deriving Inhabited

/-- The outcome of an exchange: a result, the calls made for it in order, and the state after. -/
structure Exchange (σ α : Type) where
  result : Except Failure α
  calls : List Call
  state : σ

namespace Exchange

/-- An exchange that fails before any call. -/
def refused {σ α : Type} (f : Failure) (state : σ) : Exchange σ α := ⟨.error f, [], state⟩

/-- The exchange with its state seen as a part of another. -/
def embed {σ τ α : Type} (e : Exchange σ α) (wrap : σ → τ) : Exchange τ α :=
  ⟨e.result, e.calls, wrap e.state⟩

end Exchange

namespace Reply

/-- What a request gets from the replies that are ready, and the replies after it. -/
def next (method : String) : List Reply → Except Failure Value × List Reply
  | [] => (.error (.backend ("no scripted response for " ++ method)), [])
  | answer v :: rest => (.ok v, rest)
  | raises text :: rest => (.error (.backend text), rest)

end Reply

namespace Cluster

/-! ### Searches -/

def argumentName (key : String) : String :=
  if key == "from" then "from_" else if key == "_source" then "source" else key

/-- The names that no argument of a search body may have: that of the index, which is given beside
it, and that of the client itself. -/
def takenNames : List String := ["index", "self"]

def searchArguments (index : String) (body : Value) : Except Failure Entries :=
  match body with
  | .obj es =>
    let named := Value.collect (es.map fun (k, v) => (argumentName k, v))
    if takenNames.any fun n => (named.lookup n).isSome then .error .wrongShape
    else .ok (("index", .str index) :: named)
  | _ => .error .notAnObject

def search (c : Cluster) (arguments : Entries) : Exchange Cluster Value :=
  let (result, rest) := Reply.next "search" c.searches
  ⟨result, [.client "search" arguments], { c with searches := rest }⟩

/-- The number of matches: a number, or an object that holds it. -/
def totalOf (hits : Value) : Except Failure Value := do
  let total ← hits.itemOr "total" (.int 0)
  match total with
  | .obj _ => total.itemOr "value" (.int 0)
  | v => return v

def pageOf (answer : Value) : Except Failure Value := do
  let hits ← answer.item "hits"
  let total ← totalOf hits
  let items ← hits.item "hits"
  return .single "hits" (.obj [("total", total), ("hits", items)])

def execute (c : Cluster) (index : String) (body : Value) : Exchange Cluster Value :=
  match searchArguments index body with
  | .error f => .refused f c
  | .ok arguments =>
    let e := c.search arguments
    ⟨e.result.bind pageOf, e.calls, e.state⟩

/-! ### Counts -/

/-- Counts the documents that match; all of them without a query. -/
def count (c : Cluster) (index : String) (query : Option Value) : Exchange Cluster Value :=
  let (result, rest) := Reply.next "count" c.counts
  ⟨result.bind (·.item "count"),
    [.client "count" (("index", .str index) :: Value.entry? "query" query)],
    { c with counts := rest }⟩

/-! ### Mappings -/

/-- The properties in the answer to a request for the mapping of an index.  The answer is keyed by
the index, or, when the name is an alias, by another name. -/
def propertiesOf (index : String) (answer : Value) : Except Failure Value := do
  let own ← answer.item? index
  let first : Value :=
    match answer with
    | .obj ((_, v) :: _) => v
    | _ => .obj []
  let mapping := match own with
    | some v => if v.truthy then v else first
    | none => first
  let mappings ← mapping.itemOr "mappings" (.obj [])
  mappings.itemOr "properties" (.obj [])

def properties (c : Cluster) (index : String) : Exchange Cluster Value :=
  let (result, rest) := Reply.next "get_mapping" c.mappings
  ⟨result.bind (propertiesOf index), [.client "get_mapping" [("index", .str index)]],
    { c with mappings := rest }⟩

end Cluster

end ScopedSearch
