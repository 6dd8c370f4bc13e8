import ScopedSearch.Backend.Scroll

/-!
# What replies list

The documents that the replies of a cluster list, told without the reading of pages: each reply holds a
page with hits, an empty page, or no page at all, and the hits count up to the first empty page.  From
that, and from the names that the replies give to the scroll, how a stream ought to run
(`StreamRun.Lawful`).
-/

namespace ScopedSearch

/-! ### Replies -/

namespace Reply

/-- What lies where the hits of an answer are to be. -/
def batch? (v : Value) : Option Value := (v.get? "hits").bind (·.get? "hits")

inductive Page where
  | hits (hs : List Value)
  | empty
  | broken

def page : Reply → Page
  | raises _ => .broken
  | answer v =>
    match batch? v with
    | none => .broken
    | some batch =>
      if batch.truthy then
        match batch with
        | .arr hs => .hits hs
        | _ => .broken
      else .empty

def scrollId? : Reply → Option Value
  | raises _ => none
  | answer v => v.get? "_scroll_id"

end Reply

namespace Scroll

/-- The sources that some replies list: those of the hits on their pages, before the first empty page.
Where a hit has no source, and where no page comes, there is a gap. -/
def listed : List Reply → List (Option Value)
  | [] => [none]
  | r :: rs =>
    match r.page with
    | .hits hs => hs.map (·.get? "_source") ++ listed rs
    | .empty => []
    | .broken => [none]

/-- The name of the scroll that some replies gave last. -/
def latestId : List Reply → Option Value
  | [] => none
  | r :: rs => (latestId rs).or r.scrollId?

def releaseOf : Option Value → List StreamEvent
  | none => []
  | some id => [.call (.client "clear_scroll" [("scroll_id", id)])]

/-- So many replies came first, all of them pages with hits, and every hit on them was delivered. -/
def FullyRead (replies : List Reply) (n : Nat) (documents : List Value) : Prop :=
  ∃ pages : List (List Value), pages.length = n ∧
    (replies.take n).map Reply.page = pages.map .hits ∧
    documents.map some = pages.flatten.map (·.get? "_source")

variable {rs : List Reply}

theorem FullyRead.nil : FullyRead rs 0 [] := ⟨[], rfl, rfl, rfl⟩

theorem FullyRead.cons {r : Reply} {hs ds documents : List Value} {n : Nat}
    (h : FullyRead rs n documents) (hr : r.page = .hits hs)
    (hds : ds.map some = hs.map (·.get? "_source")) :
    FullyRead (r :: rs) (n + 1) (ds ++ documents) := by
  obtain ⟨pages, rfl, hpages, hdocuments⟩ := h
  exact ⟨hs :: pages, rfl, by simp [hr, hpages], by simp [hds, hdocuments]⟩

theorem listed_hits {r : Reply} {hs : List Value} (h : r.page = .hits hs) :
    listed (r :: rs) = hs.map (·.get? "_source") ++ listed rs := by
  simp [listed, h]

theorem getD_latestId (r : Reply) (rs : List Reply) (id : Value) :
    (latestId (r :: rs)).getD id = (latestId rs).getD (r.scrollId?.getD id) := by
  rw [latestId]
  cases latestId rs <;> rfl

/-- Every name that is given is a text that is not empty. -/
def Named (replies : List Reply) : Prop :=
  ∀ r ∈ replies, ∀ id, r.scrollId? = some id → ∃ s, id = .str s ∧ s ≠ ""

theorem Named.take {replies : List Reply} (h : Named replies) (n : Nat) : Named (replies.take n) :=
  fun r hr => h r (List.mem_of_mem_take hr)

theorem Named.latestId {replies : List Reply} (h : Named replies) {id : Value}
    (hid : Scroll.latestId replies = some id) : ∃ s, id = .str s ∧ s ≠ "" := by
  induction replies with
  | nil => cases hid
  | cons r rs ih =>
    rw [Scroll.latestId, Option.or_eq_some_iff] at hid
    rcases hid with hid | ⟨-, hid⟩
    · exact ih (fun r hr => h r (List.mem_cons_of_mem _ hr)) hid
    · exact h r (List.mem_cons_self ..) id hid

end Scroll

/-! ### Traces -/

namespace StreamEvent

def calls (es : List StreamEvent) : List Call := es.filterMap call?

def documents (es : List StreamEvent) : List Value := es.filterMap document?

section

variable (es fs : List StreamEvent) (vs : List Value) (c : Call)

@[simp] theorem calls_nil : calls [] = [] := rfl

@[simp] theorem documents_nil : documents [] = [] := rfl

@[simp] theorem calls_append : calls (es ++ fs) = calls es ++ calls fs := List.filterMap_append

@[simp] theorem documents_append : documents (es ++ fs) = documents es ++ documents fs :=
  List.filterMap_append

@[simp] theorem calls_call : calls (call c :: es) = c :: calls es := rfl

@[simp] theorem documents_call : documents (call c :: es) = documents es := rfl

@[simp] theorem calls_map_document : calls (vs.map document) = [] := by
  simp [calls, List.filterMap_eq_nil_iff, call?]

@[simp] theorem documents_map_document : documents (vs.map document) = vs := by
  simp [documents, List.filterMap_map, Function.comp_def, document?]

end

theorem documents_ne_call {vs : List Value} {c : Call} {before after : List StreamEvent} :
    vs.map document ≠ before ++ call c :: after := by
  intro h
  have hmem : call c ∈ vs.map document := by simp [h]
  simp at hmem

/-- Where a call can lie in a trace of some documents, a call, and what follows. -/
theorem split_documents {vs : List Value} {c d : Call} {es before after : List StreamEvent}
    (h : vs.map document ++ call c :: es = before ++ call d :: after) :
    (before = vs.map document ∧ d = c ∧ after = es) ∨
      ∃ rest, before = vs.map document ++ call c :: rest ∧ es = rest ++ call d :: after := by
  induction vs generalizing before with
  | nil =>
    cases before with
    | nil =>
      obtain ⟨hc, rfl⟩ := List.cons.inj h
      cases hc
      exact .inl ⟨rfl, rfl, rfl⟩
    | cons e before =>
      obtain ⟨rfl, rfl⟩ := List.cons.inj h
      exact .inr ⟨before, rfl, rfl⟩
  | cons v vs ih =>
    cases before with
    | nil => cases (List.cons.inj h).1
    | cons e before =>
      obtain ⟨rfl, hrest⟩ := List.cons.inj h
      obtain ⟨rfl, rfl, rfl⟩ | ⟨rest, rfl, rfl⟩ := ih hrest
      · exact .inl ⟨rfl, rfl, rfl⟩
      · exact .inr ⟨rest, rfl, rfl⟩

theorem split_append {es fs before after : List StreamEvent} {e : StreamEvent}
    (h : es ++ fs = before ++ e :: after) (he : e ∉ fs) : ∃ rest, es = before ++ e :: rest := by
  rcases List.append_eq_append_iff.mp h with ⟨between, -, rfl⟩ | ⟨between, rfl, hfs⟩
  · simp at he
  · cases between with
    | nil =>
      obtain rfl : fs = e :: after := by simpa using hfs.symm
      simp at he
    | cons e' rest =>
      obtain ⟨rfl, -⟩ := List.cons.inj hfs
      exact ⟨rest, rfl⟩

end StreamEvent

/-- **How a stream ought to run** on some replies, for a reader who wants so many documents, or all. -/
structure StreamRun.Lawful {σ : Type} (keepAlive : String) (replies : List Reply)
    (want : Option Nat) (run : StreamRun σ) : Prop where
  /-- The documents are delivered in the order of the listing, from its first. -/
  inOrder : run.documents.map some <+: Scroll.listed replies
  /-- A stream that ends well delivered all of them, unless the reader had enough. -/
  complete : run.ended = .ok () →
    run.documents.map some = Scroll.listed replies ∨ want = some run.documents.length
  /-- A stream that fails delivered all that lies before a gap. -/
  failed : ∀ f, run.ended = .error f → run.documents.map some ++ [none] <+: Scroll.listed replies
  /-- Nothing is asked for a reader who wants no document. -/
  idle : want = some 0 → run.events = []
  /-- For any other the search comes first. -/
  opened : want ≠ some 0 → ∃ arguments rest, run.events = .call (.client "search" arguments) :: rest
  /-- Whatever is called after the search, up to the release, asks for the next page under the last
  name, when every hit of all earlier pages was delivered. -/
  requests : ∀ before call after, run.events = before ++ .call call :: after → before ≠ [] →
    (∀ arguments, call ≠ .client "clear_scroll" arguments) →
      Scroll.FullyRead replies (StreamEvent.calls before).length (StreamEvent.documents before) ∧
      call = .client "scroll" [
        ("scroll_id", (Scroll.latestId (replies.take (StreamEvent.calls before).length)).getD .null),
        ("scroll", .str keepAlive)]
  /-- Once the stream has started, its last event is the release of the scroll under its last name, and
  there is no other; without a name there is none at all. -/
  released : want ≠ some 0 → ∃ before,
    run.events = before ++
      Scroll.releaseOf (Scroll.latestId (replies.take (StreamEvent.calls before).length)) ∧
    ∀ arguments, StreamEvent.call (.client "clear_scroll" arguments) ∉ before

end ScopedSearch
