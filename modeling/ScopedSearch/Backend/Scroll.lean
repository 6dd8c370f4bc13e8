import ScopedSearch.Backend.Cluster

/-!
# Streams

A stream of all documents that match, fetched page by page under a scroll.  The reader of a stream
may stop after some documents.  However a stream ends, its scroll is released, if the cluster gave
it a name.  The trace of a stream holds its calls and its documents in the order of events.
-/

namespace ScopedSearch

structure ScrollOptions where
  batchSize : Int := 1000
  keepAlive : String := "1m"
deriving Inhabited

/-- Something that happens while a stream is read. -/
inductive StreamEvent where
  | call (c : Call)
  | document (v : Value)
deriving Inhabited

/-- A stream that was read: its events, how it ended, and the state after. -/
structure StreamRun (σ : Type) where
  events : List StreamEvent
  ended : Except Failure Unit
  state : σ

namespace StreamEvent

def call? : StreamEvent → Option Call
  | call c => some c
  | document _ => none

def document? : StreamEvent → Option Value
  | call _ => none
  | document v => some v

end StreamEvent

namespace StreamRun

def calls {σ : Type} (r : StreamRun σ) : List Call := r.events.filterMap StreamEvent.call?

def documents {σ : Type} (r : StreamRun σ) : List Value :=
  r.events.filterMap StreamEvent.document?

/-- The documents of a stream that ended well. -/
def result {σ : Type} (r : StreamRun σ) : Except Failure (List Value) :=
  r.ended.map fun _ => r.documents

def embed {σ τ : Type} (r : StreamRun σ) (wrap : σ → τ) : StreamRun τ :=
  ⟨r.events, r.ended, wrap r.state⟩

end StreamRun

/-- How the reading of one page ends. -/
inductive Delivery where
  /-- All of it was read, and the reader wants so many more documents, or all. -/
  | wants (more : Option Nat)
  /-- The reader has enough. -/
  | stopped
  | failed (f : Failure)

namespace Scroll

/-- The hits of a page; none when the page is empty. -/
def batchOf (page : Value) : Except Failure (Option (List Value)) := do
  let hits ← page.item "hits"
  let batch ← hits.item "hits"
  if batch.truthy then return some (← batch.parts) else return none

/-- Reads the documents of some hits until the reader has enough.  A reader that wants a number of
documents wants at least one. -/
def deliver : List Value → Option Nat → List Value × Delivery
  | [], want => ([], .wants want)
  | hit :: rest, want =>
    match hit.item "_source" with
    | .error f => ([], .failed f)
    | .ok document =>
      match want with
      | none =>
        let (documents, d) := deliver rest none
        (document :: documents, d)
      | some n =>
        if n ≤ 1 then ([document], .stopped)
        else
          let (documents, d) := deliver rest (some (n - 1))
          (document :: documents, d)

/-- The name of the scroll after an answer: the one that it gives, or else the former. -/
def idAfter (id : Value) (answer : Value) : Except Failure Value := answer.itemOr "_scroll_id" id

def nextCall (keepAlive : String) (id : Value) : Call :=
  .client "scroll" [("scroll_id", id), ("scroll", .str keepAlive)]

/-- The pages of a stream as they are read, up to the release of the scroll. -/
structure Pages where
  events : List StreamEvent
  /-- The last name of the scroll. -/
  id : Value
  ended : Except Failure Unit
  /-- The replies that are left. -/
  rest : List Reply

def Pages.after (events : List StreamEvent) (p : Pages) : Pages :=
  { p with events := events ++ p.events }

/-- Reads a page and all that follow it. -/
def readPages (keepAlive : String) :
    List Reply → (id page : Value) → Option Nat → Pages
  | replies, id, page, want =>
    match batchOf page with
    | .error f => ⟨[], id, .error f, replies⟩
    | .ok none => ⟨[], id, .ok (), replies⟩
    | .ok (some hits) =>
      let (documents, d) := deliver hits want
      let events := documents.map StreamEvent.document
      match d with
      | .failed f => ⟨events, id, .error f, replies⟩
      | .stopped => ⟨events, id, .ok (), replies⟩
      | .wants more =>
        let events := events ++ [.call (nextCall keepAlive id)]
        match replies with
        | [] => ⟨events, id, (Reply.next "scroll" []).1.map fun _ => (), []⟩
        | .raises text :: rest => ⟨events, id, .error (.backend text), rest⟩
        | .answer v :: rest =>
          match idAfter id v with
          | .error f => ⟨events, id, .error f, rest⟩
          | .ok id => (readPages keepAlive rest id v more).after events

/-- The release of a scroll that has a name. -/
def release (id : Value) : List StreamEvent :=
  if id.truthy then [.call (.client "clear_scroll" [("scroll_id", id)])] else []

end Scroll

/-- What is asked of a stream: a query, the fields to return, and an order. -/
structure StreamArguments where
  query : Option Value
  fields : Value
  sort : Value
deriving Inhabited

namespace Cluster

def openArguments (o : ScrollOptions) (index : String) (a : StreamArguments) : Entries :=
  [("index", .str index), ("scroll", .str o.keepAlive), ("size", .int o.batchSize)]
    ++ Value.entry? "query" a.query
    ++ (if a.fields.truthy then [("source", a.fields)] else [])
    ++ (if a.sort.truthy then [("sort", a.sort)] else [])

/-- Reads a stream.  `want` is the number of documents that the reader asks for; without it the
stream is read to its end.  Nothing happens before the first document is asked for. -/
def stream (o : ScrollOptions) (c : Cluster) (index : String) (a : StreamArguments)
    (want : Option Nat) : StreamRun Cluster :=
  if want = some 0 then ⟨[], .ok (), c⟩ else
  let opening := c.search (openArguments o index a)
  let events := opening.calls.map StreamEvent.call
  match opening.result.bind fun v => (v.itemOr "_scroll_id" .null).map (v, ·) with
  | .error f => ⟨events, .error f, opening.state⟩
  | .ok (page, id) =>
    let pages := Scroll.readPages o.keepAlive opening.state.scrolls id page want
    ⟨events ++ pages.events ++ Scroll.release pages.id, pages.ended,
      { opening.state with scrolls := pages.rest }⟩

end Cluster

end ScopedSearch
