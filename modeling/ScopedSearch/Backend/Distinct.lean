import ScopedSearch.Backend.Cluster

/-!
# Distinct values

All values that a field takes, fetched page by page: every page but the first starts after the key
with which the page before it ended, and the first page without values or without a key is the last.
-/

namespace ScopedSearch

namespace Distinct

/-- The request for a page of values, after a key if there is one. -/
def pageCall (index field : String) (size : Value) (after : Option Value) : Call :=
  .client "search" [
    ("index", .str index),
    ("size", .int 0),
    ("aggs", .single "distinct_values" (.single "composite" (.obj
      ([("size", size),
        ("sources", .arr [.single "value" (.single "terms" (.single "field" (.str field)))])]
        ++ Value.entry? "after" after))))]

structure Page where
  values : List Value
  /-- The key to go on from; none on the last page. -/
  next : Option Value

def bucketValue (bucket : Value) : Except Failure Value := do
  (← bucket.item "key").item "value"

def pageOf (answer : Value) : Except Failure Page := do
  let aggregations ← answer.itemOr "aggregations" (.obj [])
  let aggregation ← aggregations.itemOr "distinct_values" (.obj [])
  let buckets ← aggregation.itemOr "buckets" (.arr [])
  let values ← (← buckets.parts).mapM bucketValue
  let key ← aggregation.itemOr "after_key" .null
  return ⟨values, match key with
    | .null => none
    | k => if buckets.truthy then some k else none⟩

/-- The pages of a field's values as they are read. -/
structure Pages where
  calls : List Call
  values : Except Failure (List Value)
  /-- The replies that are left. -/
  rest : List Reply

/-- Reads the pages of a field's values, after a key if there is one. -/
def readPages (index field : String) (size : Value) : List Reply → Option Value → Pages
  | [], after =>
    ⟨[pageCall index field size after], (Reply.next "search" []).1.map fun _ => [], []⟩
  | .raises text :: rest, after =>
    ⟨[pageCall index field size after], .error (.backend text), rest⟩
  | .answer v :: rest, after =>
    match pageOf v with
    | .error f => ⟨[pageCall index field size after], .error f, rest⟩
    | .ok ⟨values, none⟩ => ⟨[pageCall index field size after], .ok values, rest⟩
    | .ok ⟨values, some key⟩ =>
      let more := readPages index field size rest (some key)
      ⟨pageCall index field size after :: more.calls, more.values.map (values ++ ·), more.rest⟩

end Distinct

def Cluster.distinct (c : Cluster) (index field : String) (size : Value) :
    Exchange Cluster (List Value) :=
  let pages := Distinct.readPages index field size c.searches none
  ⟨pages.values, pages.calls, { c with searches := pages.rest }⟩

end ScopedSearch
