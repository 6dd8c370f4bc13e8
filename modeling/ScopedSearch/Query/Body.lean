import ScopedSearch.Query.Sort

/-!
# Requests for documents

What the caller asks of an index, and the body of the search that answers it.  A page may not reach
beyond the ceiling, whatever its filter and sort.
-/

namespace ScopedSearch

structure Request where
  filter : Wire := .absent
  /-- The fields to return; all of them when the list is empty or absent. -/
  fields : Option (List String) := none
  sort : Value := .null
  offset : Int := 0
  size : Option Int := none
deriving Inhabited

structure SearchBody where
  start : Int
  query : Option Fragment
  sort : Option SortOrder
  size : Option Int
  source : List String
deriving Inhabited

namespace SearchBody

/-- A body as it is sent; what is absent is left out. -/
def toValue (b : SearchBody) : Value :=
  .obj ([("from", .int b.start)]
    ++ Value.entry? "query" (b.query.map Fragment.toValue)
    ++ Value.entry? "sort" (b.sort.map SortOrder.toValue)
    ++ Value.entry? "size" (b.size.map Value.int)
    ++ (if b.source.isEmpty then [] else [("_source", .texts b.source)]))

end SearchBody

namespace Lexicon

def searchBody (lex : Lexicon) (r : Request) : Except Failure SearchBody := do
  let query ← lex.compile r.filter
  let sort ← lex.compileSort r.sort
  return ⟨r.offset, query, sort, r.size, r.fields.getD []⟩

end Lexicon

/-- Whether a page ends within the ceiling; a request without a size is no page. -/
def withinCeiling (ceiling : Int) (r : Request) : Bool :=
  match r.size with
  | none => true
  | some size => r.offset + size ≤ ceiling

def Lexicon.pageBody (lex : Lexicon) (ceiling : Int) (r : Request) :
    Except Failure SearchBody :=
  if withinCeiling ceiling r then lex.searchBody r
  else .error (.pageTooLarge ceiling r.offset (r.size.getD 0))

/-- What is asked of the backend to stream the documents of a request. -/
structure StreamPlan where
  query : Option Fragment
  fields : Option (List String)
  sort : Option SortOrder
deriving Inhabited

/-- The stream for a request. -/
def Lexicon.streamPlan (lex : Lexicon) (r : Request) : Except Failure StreamPlan := do
  let query ← lex.compile r.filter
  let sort ← lex.compileSort r.sort
  return ⟨query, r.fields, sort⟩

end ScopedSearch
