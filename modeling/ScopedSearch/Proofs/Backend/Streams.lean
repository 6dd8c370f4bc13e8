import ScopedSearch.Proofs.Backend.Pages

/-!
# What a stream delivers

A stream of documents loses nothing, says nothing twice and releases its scroll, whatever the cluster
replies and wherever its reader stops (`stream_lawful`).  One page keeps the reading lawful
(`Conduct.after_page`), and the rest is one induction on the replies that are still to come
(`receive_conduct`).
-/

namespace ScopedSearch

namespace Scroll

variable {keepAlive : String} {rs : List Reply} {id v : Value} {want : Option Nat}

/-! ### Page after page -/

/-- How pages ought to be read, from the replies that are still to come, under a former name: as a
lawful stream, up to the release.  Of the replies, one more was taken than the pages asked for. -/
structure Conduct (keepAlive : String) (replies : List Reply) (former : Value) (want : Option Nat)
    (p : Pages) : Prop where
  inOrder : (StreamEvent.documents p.events).map some <+: listed replies
  complete : p.ended = .ok () → (StreamEvent.documents p.events).map some = listed replies ∨
    want = some (StreamEvent.documents p.events).length
  failed : ∀ f, p.ended = .error f →
    (StreamEvent.documents p.events).map some ++ [none] <+: listed replies
  requests : ∀ before call after, p.events = before ++ .call call :: after →
    FullyRead replies ((StreamEvent.calls before).length + 1) (StreamEvent.documents before) ∧
    call = .client "scroll" [
      ("scroll_id", (latestId (replies.take ((StreamEvent.calls before).length + 1))).getD former),
      ("scroll", .str keepAlive)]
  id : p.id = (latestId (replies.take ((StreamEvent.calls p.events).length + 1))).getD former

namespace Conduct

variable {former : Value} {r : Reply} {rest : List Reply} {hs ds : List Value} {f : Failure}

theorem fails (hlisted : listed rs = [none]) (hid : id = (latestId (rs.take 1)).getD former) :
    Conduct keepAlive rs former want ⟨[], id, .error f, rest⟩ where
  inOrder := by simp
  complete := by simp
  failed := by simp [hlisted]
  requests := by simp
  id := hid

theorem ends (hpage : r.page = .empty) (hid : id = r.scrollId?.getD former) :
    Conduct keepAlive (r :: rs) former want ⟨[], id, .ok (), rest⟩ where
  inOrder := by simp
  complete := by simp [listed, hpage]
  failed := by simp
  requests := by simp
  id := by simpa [getD_latestId, latestId] using hid

/-- Reading that stops within a page, since the reader has enough. -/
theorem stops (hpage : r.page = .hits hs) (hid : id = r.scrollId?.getD former)
    (hds : ds.map some <+: hs.map (·.get? "_source")) :
    Conduct keepAlive (r :: rs) former (some ds.length) ⟨ds.map .document, id, .ok (), rest⟩ where
  inOrder := by
    rw [listed_hits hpage, StreamEvent.documents_map_document]
    exact hds.trans (List.prefix_append ..)
  complete := by simp
  failed := by simp
  requests := by
    intro before call after h
    exact absurd h StreamEvent.documents_ne_call
  id := by simpa [getD_latestId, latestId] using hid

/-- Reading that fails within a page, at a hit without a source. -/
theorem breaks (hpage : r.page = .hits hs) (hid : id = r.scrollId?.getD former)
    (hds : ds.map some ++ [none] <+: hs.map (·.get? "_source")) :
    Conduct keepAlive (r :: rs) former want ⟨ds.map .document, id, .error f, rest⟩ := by
  have hgap : ds.map some ++ [none] <+: listed (r :: rs) := by
    rw [listed_hits hpage]
    exact hds.trans (List.prefix_append ..)
  refine ⟨?_, by simp, by simpa using hgap, ?_, ?_⟩
  · rw [StreamEvent.documents_map_document]
    exact (List.prefix_append ..).trans hgap
  · intro before call after h
    exact absurd h StreamEvent.documents_ne_call
  · simpa [getD_latestId, latestId] using hid

/-- **What one page adds**: when all its hits are delivered and the next page is asked for, the reading
goes on as it ought to on the replies after it. -/
theorem after_page {p : Pages} {more : Option Nat} (hpage : r.page = .hits hs)
    (hds : ds.map some = hs.map (·.get? "_source")) (hid : id = r.scrollId?.getD former)
    (hp : Conduct keepAlive rs id more p) :
    Conduct keepAlive (r :: rs) former (more.map (ds.length + ·))
      (p.after (ds.map .document ++ [.call (nextCall keepAlive id)])) where
  inOrder := by
    simpa [Pages.after, listed_hits hpage, hds] using hp.inOrder
  complete := by
    intro hend
    rcases hp.complete hend with hall | hmore
    · left
      simp [Pages.after, listed_hits hpage, hds, hall]
    · right
      simp [Pages.after, hmore]
  failed := by
    intro f hf
    have := hp.failed f hf
    simpa [Pages.after, listed_hits hpage, hds] using this
  requests := by
    intro before call after h
    rw [Pages.after] at h
    simp only [List.append_assoc, List.singleton_append] at h
    rcases StreamEvent.split_documents h with ⟨rfl, rfl, rfl⟩ | ⟨rest, rfl, hrest⟩
    · -- the request for the page right after this one
      exact ⟨by simpa using FullyRead.nil.cons hpage hds, by simp [nextCall, latestId, hid]⟩
    · obtain ⟨hread, hcall⟩ := hp.requests rest call after hrest
      refine ⟨?_, ?_⟩
      · simpa using hread.cons hpage hds
      · simpa [getD_latestId, hid] using hcall
  id := by
    simpa [Pages.after, getD_latestId, hid] using hp.id

/-- All that is asked for is further pages. -/
theorem eq_scroll {p : Pages} (hp : Conduct keepAlive rs former want p) {c : Call}
    (hc : StreamEvent.call c ∈ p.events) : ∃ arguments, c = .client "scroll" arguments := by
  obtain ⟨before, after, h⟩ := List.append_of_mem hc
  exact ⟨_, (hp.requests before c after h).2⟩

end Conduct

/-- A page and all that follow it are read as they ought to be, when what follows is. -/
theorem readPages_conduct {former : Value} (hid : id = (Reply.answer v).scrollId?.getD former)
    (hw : want ≠ some 0) (hrest : ∀ more, more ≠ some 0 →
      Conduct keepAlive rs id more (receive "scroll" keepAlive rs id more)) :
    Conduct keepAlive (.answer v :: rs) former want (readPages keepAlive rs id v want) := by
  rcases readPages_cases keepAlive rs id v want with ⟨hpage, f, hread⟩ | ⟨hpage, hread⟩ |
    ⟨hs, ds, hpage, h⟩
  · rw [hread]
    exact Conduct.fails (by simp [listed, hpage]) (by simpa [getD_latestId, latestId] using hid)
  · rw [hread]
    exact Conduct.ends hpage hid
  · have hd := deliver_of hs hw
    rcases h with ⟨f, hdeliver, hread⟩ | ⟨hdeliver, hread⟩ | ⟨more, hdeliver, hread⟩
    · rw [hread]
      rw [hdeliver] at hd
      exact Conduct.breaks hpage hid hd
    · rw [hread]
      rw [hdeliver] at hd
      obtain ⟨hpre, rfl⟩ : _ ∧ want = some ds.length := hd
      exact Conduct.stops hpage hid hpre
    · rw [hread]
      rw [hdeliver] at hd
      obtain ⟨hall, rfl, hmore⟩ : _ ∧ want = more.map (ds.length + ·) ∧ more ≠ some 0 := hd
      exact Conduct.after_page hpage hall hid (hrest more hmore)

/-- **However a stream is read, it is read as it ought to be.**  The induction is on the replies that
are still to come; the reader wants at least one document more. -/
theorem receive_conduct (method keepAlive : String) (replies : List Reply) (id : Value)
    (want : Option Nat) (hw : want ≠ some 0) :
    Conduct keepAlive replies id want (receive method keepAlive replies id want) := by
  induction replies generalizing method id want with
  | nil => exact Conduct.fails rfl rfl
  | cons r rs ih =>
    cases r with
    | raises text => exact Conduct.fails rfl rfl
    | answer v =>
      rw [receive]
      split
      · rename_i f hid
        have hnone := get?_of_idAfter_error hid
        exact Conduct.fails (by simp [listed, Reply.page, Reply.batch?, hnone])
          (by simp [latestId, Reply.scrollId?, hnone])
      · rename_i id' hid
        exact readPages_conduct (idAfter_ok hid) hw (ih "scroll" id')

/-! ### The release -/

@[simp] theorem documents_release (id : Value) : StreamEvent.documents (release id) = [] := by
  unfold release
  split <;> rfl

theorem eq_of_mem_release {c : Call} (h : StreamEvent.call c ∈ release id) :
    c = .client "clear_scroll" [("scroll_id", id)] := by
  unfold release at h
  split at h
  · simpa using h
  · simp at h

theorem release_latestId {replies : List Reply} (h : Named replies) :
    release ((Scroll.latestId replies).getD .null) = releaseOf (Scroll.latestId replies) := by
  cases hid : Scroll.latestId replies with
  | none => rfl
  | some id =>
    obtain ⟨s, rfl, hs⟩ := h.latestId hid
    simp [release, releaseOf, Value.truthy, hs]

/-- **Pages that are read as they ought to be make a lawful stream**, between the search that opens it
and the release. -/
theorem Conduct.lawful {σ : Type} {run : StreamRun σ} {replies : List Reply} {p : Pages}
    {arguments : Entries} (hp : Conduct keepAlive replies .null want p) (hw : want ≠ some 0)
    (hnamed : Named replies)
    (hevents : run.events = .call (.client "search" arguments) :: p.events ++ release p.id)
    (hended : run.ended = p.ended) : run.Lawful keepAlive replies want := by
  have hdocuments : run.documents = StreamEvent.documents p.events := by
    change StreamEvent.documents run.events = _
    simp [hevents]
  have hrelease : release p.id = releaseOf
      (Scroll.latestId (replies.take ((StreamEvent.calls p.events).length + 1))) := by
    rw [hp.id]
    exact release_latestId (hnamed.take _)
  refine ⟨?inOrder, ?complete, ?failed, fun h => absurd h hw, fun _ => ⟨arguments, _, hevents⟩,
    ?requests, fun _ => ?released⟩
  case inOrder =>
    rw [hdocuments]
    exact hp.inOrder
  case complete =>
    rw [hdocuments, hended]
    exact hp.complete
  case failed =>
    rw [hdocuments, hended]
    exact hp.failed
  case requests =>
    intro before call after h hfirst hcall
    rw [hevents] at h
    cases before with
    | nil => exact absurd rfl hfirst
    | cons e before =>
      obtain ⟨rfl, htail⟩ := List.cons.inj h
      have hlast : StreamEvent.call call ∉ release p.id := by
        intro hmem
        exact hcall _ (eq_of_mem_release hmem)
      obtain ⟨rest, hrest⟩ := StreamEvent.split_append htail hlast
      exact hp.requests before _ rest hrest
  case released =>
    refine ⟨.call (.client "search" arguments) :: p.events, ?_, ?_⟩
    · rw [hevents, hrelease]
      rfl
    · intro arguments hmem
      rcases List.mem_cons.mp hmem with hfirst | hmem
      · simp at hfirst
      · obtain ⟨_, hscroll⟩ := hp.eq_scroll hmem
        simp at hscroll

end Scroll

namespace Cluster

def replies (c : Cluster) : List Reply :=
  match c.searches with
  | [] => []
  | r :: _ => r :: c.scrolls

theorem stream_events (o : ScrollOptions) (c : Cluster) (index : String) (a : StreamArguments)
    {want : Option Nat} (hw : want ≠ some 0) :
    (c.stream o index a want).events =
      .call (.client "search" (openArguments o index a)) ::
        (Scroll.receive "search" o.keepAlive c.replies .null want).events ++
        Scroll.release (Scroll.receive "search" o.keepAlive c.replies .null want).id ∧
    (c.stream o index a want).ended =
      (Scroll.receive "search" o.keepAlive c.replies .null want).ended := by
  unfold stream replies search
  rw [if_neg hw]
  cases c.searches with
  | nil => exact ⟨rfl, rfl⟩
  | cons r rs =>
    cases r with
    | raises text => exact ⟨rfl, rfl⟩
    | answer v =>
      simp only [Reply.next, Scroll.receive, Scroll.idAfter, Except.bind]
      cases v.itemOr "_scroll_id" .null with
      | error f => exact ⟨rfl, rfl⟩
      | ok id => exact ⟨rfl, rfl⟩

/-- **A stream loses nothing, says nothing twice and releases its scroll.**  Whatever the cluster
replies, as long as every name that it gives to the scroll is a text that is not empty, and wherever the
reader stops, the stream runs as it ought to. -/
theorem stream_lawful (o : ScrollOptions) (c : Cluster) (index : String) (a : StreamArguments)
    (want : Option Nat) (hnamed : Scroll.Named c.replies) :
    (c.stream o index a want).Lawful o.keepAlive c.replies want := by
  by_cases hw : want = some 0
  · subst hw
    exact ⟨by simp [stream, StreamRun.documents], by simp [stream, StreamRun.documents],
      by simp [stream], by simp [stream], by simp, by simp [stream], by simp⟩
  · obtain ⟨hevents, hended⟩ := c.stream_events o index a hw
    have hp := Scroll.receive_conduct "search" o.keepAlive c.replies .null want hw
    exact hp.lawful hw hnamed hevents hended

def pageAnswer (name : Option String) (documents : List Value) : Reply :=
  let hits := [("hits", Value.single "hits" (.arr (documents.map (.single "_source"))))]
  match name with
  | none => .answer (.obj hits)
  | some name => .answer (.obj (("_scroll_id", .str name) :: hits))

/-- Four documents on three pages, of which the second does not name the scroll and the third gives it
another name, and then an error. -/
def threePaged : Cluster where
  searches := [pageAnswer (some "a") [.int 1, .int 2]]
  scrolls := [pageAnswer none [.int 3], pageAnswer (some "b") [.int 4], .raises "gone"]

theorem named_pageAnswer {name : Option String} {documents : List Value} {id : Value}
    (hname : name ≠ some "") (h : (pageAnswer name documents).scrollId? = some id) :
    ∃ s, id = .str s ∧ s ≠ "" := by
  cases name with
  | none => simp [pageAnswer, Reply.scrollId?, Value.get?, List.lookup_cons] at h
  | some s =>
    obtain rfl : Value.str s = id := by
      simpa [pageAnswer, Reply.scrollId?, Value.get?, List.lookup_cons] using h
    exact ⟨s, rfl, fun hs => hname (by rw [hs])⟩

theorem stream_lawful_of_threePaged :
    Scroll.Named threePaged.replies ∧
    (threePaged.stream {} "people" ⟨none, .null, .null⟩ none).events = [
      .call (.client "search"
        [("index", .str "people"), ("scroll", .str "1m"), ("size", .int 1000)]),
      .document (.int 1), .document (.int 2),
      .call (.client "scroll" [("scroll_id", .str "a"), ("scroll", .str "1m")]),
      .document (.int 3),
      .call (.client "scroll" [("scroll_id", .str "a"), ("scroll", .str "1m")]),
      .document (.int 4),
      .call (.client "scroll" [("scroll_id", .str "b"), ("scroll", .str "1m")]),
      .call (.client "clear_scroll" [("scroll_id", .str "b")])] ∧
    (threePaged.stream {} "people" ⟨none, .null, .null⟩ none).Lawful "1m" threePaged.replies none := by
  have hnamed : Scroll.Named threePaged.replies := by
    intro r hr id hid
    simp only [replies, threePaged, List.mem_cons, List.not_mem_nil, or_false] at hr
    rcases hr with rfl | rfl | rfl | rfl
    · exact named_pageAnswer (by decide) hid
    · exact named_pageAnswer (by decide) hid
    · exact named_pageAnswer (by decide) hid
    · cases hid
  exact ⟨hnamed, by rfl, stream_lawful {} threePaged "people" ⟨none, .null, .null⟩ none hnamed⟩

end Cluster

end ScopedSearch
