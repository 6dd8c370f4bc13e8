import ScopedSearch.Catalog.Basic
import ScopedSearch.Backend.Cluster

/-!
# The catalog of a live cluster

Field types read from the mappings of a search cluster.  A refresh asks for one index after the
other; an index takes its new fields as soon as they are read, so one that fails leaves the indices
before it refreshed and all others as they were.
-/

namespace ScopedSearch

/-- The indices whose mappings are read, and the fields of theirs that hold lists. -/
structure LiveIndices where
  names : List String
  arrays : Catalog.ArrayFields := []
deriving Inhabited

structure LiveCatalog where
  catalog : Catalog := {}
  cluster : Cluster
deriving Inhabited

namespace LiveCatalog

def refreshIndex (arrays : Catalog.ArrayFields) (l : LiveCatalog) (index : String) :
    Exchange LiveCatalog Unit :=
  let asked := l.cluster.properties index
  match asked.result.bind (Mapping.fieldTypes (Catalog.arraysOf arrays index)) with
  | .error f => ⟨.error f, asked.calls, { l with cluster := asked.state }⟩
  | .ok fields => ⟨.ok (), asked.calls, ⟨l.catalog.setIndex index fields, asked.state⟩⟩

/-- Reads the fields of some indices, in order, up to the first that fails. -/
def refreshAll (arrays : Catalog.ArrayFields) :
    List String → LiveCatalog → Exchange LiveCatalog Unit
  | [], l => ⟨.ok (), [], l⟩
  | index :: rest, l =>
    let one := refreshIndex arrays l index
    match one.result with
    | .error f => ⟨.error f, one.calls, one.state⟩
    | .ok () =>
      let others := refreshAll arrays rest one.state
      ⟨others.result, one.calls ++ others.calls, others.state⟩

def refresh (live : LiveIndices) (l : LiveCatalog) : Exchange LiveCatalog Unit :=
  refreshAll live.arrays live.names l

end LiveCatalog

end ScopedSearch
