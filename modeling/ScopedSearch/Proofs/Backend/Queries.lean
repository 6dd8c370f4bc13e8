import ScopedSearch.Query.Body
import ScopedSearch.Backend.Basic

/-!
# The queries that reach a backend

A call for documents or for their number carries a query, or goes without one and is then about every
document.  Pages, counts and streams carry exactly the query that they are given; the requests for the
following pages of a stream and for the values of a field carry none.
-/

namespace ScopedSearch

namespace Call

/-- A query that is sent; `null` stands for none. -/
def given : Value → Option Value
  | .null => none
  | v => some v

/-- The query of a call for documents or for their number, if it has one; nothing for all other calls.
Of the searches of a cluster, those for the values of a field ask for an aggregation. -/
def query? : Call → Option (Option Value)
  | .execute _ body => some (body.get? "query")
  | .count _ query => some (given query)
  | .stream _ query _ _ => some (given query)
  | .distinct _ _ => none
  | .client method arguments =>
    if method = "count" ∨ method = "search" ∧ arguments.lookup "aggs" = none then
      some (arguments.lookup "query")
    else none

def queries (cs : List Call) : List (Option Value) := cs.filterMap query?

@[simp] theorem queries_nil : queries [] = [] := rfl

theorem queries_append (cs ds : List Call) : queries (cs ++ ds) = queries cs ++ queries ds :=
  List.filterMap_append

theorem ne_nil_of_mem_queries {cs : List Call} {q : Option Value} (h : q ∈ queries cs) : cs ≠ [] := by
  rintro rfl
  cases h

end Call

theorem Fragment.given_toValue (f : Option Fragment) :
    Call.given (Value.ofOption (f.map toValue)) = f.map toValue := by
  cases f with
  | none => rfl
  | some f => cases f <;> rfl

namespace Distinct

end Distinct

namespace Scroll

def queriesOf (events : List StreamEvent) : List (Option Value) :=
  Call.queries (events.filterMap StreamEvent.call?)

theorem queriesOf_append (es fs : List StreamEvent) :
    queriesOf (es ++ fs) = queriesOf es ++ queriesOf fs := by
  rw [queriesOf, List.filterMap_append, Call.queries_append]
  rfl

theorem queriesOf_call {call : Call} {q : Option Value} (h : call.query? = some q) :
    queriesOf [.call call] = [q] := by
  simp [queriesOf, StreamEvent.call?, Call.queries, h]

@[simp] theorem queriesOf_documents (vs : List Value) :
    queriesOf (vs.map StreamEvent.document) = [] := by
  have h : (vs.map StreamEvent.document).filterMap StreamEvent.call? = [] := by
    simp [List.filterMap_eq_nil_iff, StreamEvent.call?]
  rw [queriesOf, h, Call.queries_nil]

@[simp] theorem queriesOf_nextCall (keepAlive : String) (id : Value) :
    queriesOf [.call (nextCall keepAlive id)] = [] := by
  simp [queriesOf, StreamEvent.call?, nextCall, Call.queries, Call.query?]

@[simp] theorem queriesOf_release (id : Value) : queriesOf (release id) = [] := by
  unfold release
  split
  · simp [queriesOf, StreamEvent.call?, Call.queries, Call.query?]
  · rfl

/-- However many pages are read, none of the calls after the opening of a stream carries a query. -/
theorem queriesOf_readPages (keepAlive : String) (rs : List Reply) (id page : Value)
    (want : Option Nat) : queriesOf (readPages keepAlive rs id page want).events = [] := by
  induction rs generalizing id page want with
  | nil =>
    unfold readPages
    split
    · rfl
    · rfl
    · split
      split <;> simp [queriesOf_append]
  | cons r rs ih =>
    unfold readPages
    split
    · rfl
    · rfl
    · split
      split
      · simp
      · simp
      · cases r with
        | raises text => simp [queriesOf_append]
        | answer v =>
          dsimp only
          split
          · simp [queriesOf_append]
          · rw [Pages.after, queriesOf_append, queriesOf_append, ih]
            simp

end Scroll

/-! ### What a backend is asked -/

theorem SearchBody.get?_query (body : SearchBody) :
    body.toValue.get? "query" = body.query.map Fragment.toValue := by
  obtain ⟨start, query, sort, size, source⟩ := body
  cases query <;> cases sort <;> cases size <;> by_cases hs : source.isEmpty = true <;>
    simp [toValue, Value.get?, Value.entry?, List.lookup_cons, hs]

theorem SearchBody.searchArguments_toValue (index : String) (body : SearchBody) :
    ∃ arguments, Cluster.searchArguments index body.toValue = .ok arguments ∧
      arguments.lookup "query" = body.query.map Fragment.toValue ∧
      arguments.lookup "aggs" = none := by
  obtain ⟨start, query, sort, size, source⟩ := body
  cases query <;> cases sort <;> cases size <;> by_cases hs : source.isEmpty = true <;>
    simp [toValue, Value.entry?, Cluster.searchArguments, Cluster.argumentName, Cluster.takenNames,
      Value.collect, Value.putEntry, List.lookup_cons, hs, -List.lookup_eq_none_iff]

namespace Backend

theorem queries_execute (b : Backend) (index : String) (body : SearchBody) :
    Call.queries (b.execute index body.toValue).calls = [body.query.map Fragment.toValue] := by
  cases b with
  | recorder documents values =>
    simp [execute, Call.queries, Call.query?, body.get?_query]
  | cluster o c =>
    obtain ⟨arguments, ha, hq, haggs⟩ := body.searchArguments_toValue index
    simp [execute, Exchange.embed, Cluster.execute, ha, Cluster.search, Call.queries, Call.query?, hq,
      haggs]

theorem queries_count (b : Backend) (index : String) (f : Option Fragment) :
    Call.queries (b.count index (f.map Fragment.toValue)).calls = [f.map Fragment.toValue] := by
  cases b with
  | recorder documents values => simp [count, Call.queries, Call.query?, Fragment.given_toValue]
  | cluster o c =>
    cases f <;> simp [count, Exchange.embed, Cluster.count, Call.queries, Call.query?, Value.entry?,
      List.lookup_cons]

theorem query?_open (o : ScrollOptions) (index : String) (a : StreamArguments) :
    (Call.client "search" (Cluster.openArguments o index a)).query? = some a.query := by
  obtain ⟨query, fields, sort⟩ := a
  cases query <;> by_cases hf : fields.truthy = true <;> by_cases hs : sort.truthy = true <;>
    simp [Call.query?, Cluster.openArguments, Value.entry?, List.lookup_cons, hf, hs]

/-- A stream for which anything is asked is opened with its query. -/
theorem queries_stream {b : Backend} {index : String} {f : Option Fragment} {fields sort : Value}
    {want : Option Nat}
    (h : (b.stream index ⟨f.map Fragment.toValue, fields, sort⟩ want).calls ≠ []) :
    Call.queries (b.stream index ⟨f.map Fragment.toValue, fields, sort⟩ want).calls =
      [f.map Fragment.toValue] := by
  cases b with
  | recorder documents values =>
    change Scroll.queriesOf ([.call _] ++ List.map StreamEvent.document _) = _
    rw [Scroll.queriesOf_append, Scroll.queriesOf_documents, Scroll.queriesOf_call rfl,
      Fragment.given_toValue]
    rfl
  | cluster o c =>
    -- a reader who wants no document never has the stream opened
    have hwant : want ≠ some 0 := by
      rintro rfl
      exact h rfl
    change Scroll.queriesOf (Cluster.stream o c index _ want).events = _
    unfold Cluster.stream
    simp only [hwant, ↓reduceIte, Cluster.search, List.map_cons, List.map_nil]
    split
    · exact Scroll.queriesOf_call (query?_open o index _)
    · rw [List.append_assoc, Scroll.queriesOf_append, Scroll.queriesOf_call (query?_open o index _),
        Scroll.queriesOf_append, Scroll.queriesOf_readPages, Scroll.queriesOf_release]
      rfl

end Backend

end ScopedSearch
