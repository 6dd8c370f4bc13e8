import ScopedSearch.Value

/-!
# Calls

What is asked of the backend, in the order of asking, and the outcome of an exchange with it.
-/

namespace ScopedSearch

/-- A call to the backend.  The first four are the questions of the gateway itself; `client` is a
request to a search cluster with named arguments. -/
inductive Call where
  | execute (index : String) (body : Value)
  | count (index : String) (query : Value)
  | stream (index : String) (query fields sort : Value)
  | distinct (index field : String)
  | client (method : String) (arguments : Entries)
deriving Inhabited

namespace Call

def toValue : Call → Value
  | execute index body => .arr [.str "execute", .str index, body]
  | count index query => .arr [.str "count", .str index, query]
  | stream index query fields sort => .arr [.str "stream", .str index, query, fields, sort]
  | distinct index field => .arr [.str "distinct", .str index, .str field]
  | client method arguments => .arr [.str method, .obj arguments]

end Call

end ScopedSearch
