import ScopedSearch.Backend.Scroll
import ScopedSearch.Backend.Distinct

/-!
# Backends

What answers the gateway's questions: a search cluster, or a recorder that serves the same
documents and values for every question.
-/

namespace ScopedSearch

inductive Backend where
  | recorder (documents distinct : List Value)
  | cluster (options : ScrollOptions) (c : Cluster)
deriving Inhabited

namespace Backend

def pageOf (documents : List Value) : Value :=
  .single "hits" (.obj [("total", .int documents.length),
    ("hits", .arr (documents.map (.single "_source")))])

def execute (b : Backend) (index : String) (body : Value) : Exchange Backend Value :=
  match b with
  | recorder documents _ => ⟨.ok (pageOf documents), [.execute index body], b⟩
  | cluster o c => (c.execute index body).embed (cluster o)

/-- Counts the documents that match; all of them without a query. -/
def count (b : Backend) (index : String) (query : Option Value) : Exchange Backend Value :=
  match b with
  | recorder documents _ =>
    ⟨.ok (.int documents.length), [.count index (Value.ofOption query)], b⟩
  | cluster o c => (c.count index query).embed (cluster o)

/-- Reads a stream; `want` is the number of documents that the reader asks for, if not all. -/
def stream (b : Backend) (index : String) (a : StreamArguments) (want : Option Nat) :
    StreamRun Backend :=
  match b with
  | recorder documents _ =>
    let read := match want with
      | none => documents
      | some n => documents.take n
    ⟨.call (.stream index (Value.ofOption a.query) a.fields a.sort) :: read.map .document,
      .ok (), b⟩
  | cluster o c => (c.stream o index a want).embed (cluster o)

/-- All values of a field, `size` of them at a time. -/
def distinct (b : Backend) (index field : String) (size : Value) :
    Exchange Backend (List Value) :=
  match b with
  | recorder _ values => ⟨.ok values, [.distinct index field], b⟩
  | cluster o c => (c.distinct index field size).embed (cluster o)

def documentsOf (page : Value) : Except Failure (List Value) := do
  let hits ← page.item "hits"
  let items ← hits.item "hits"
  (← items.parts).mapM (·.item "_source")

end Backend

end ScopedSearch
