import ScopedSearch.Proofs.Backend.Replies
import ScopedSearch.Proofs.Outcome

/-!
# Reading one page

What becomes of one page of a stream: the documents that are delivered and how that ends, against what
the page lists (`deliver_of`), and which of five things the reading of a page does (`readPages_cases`).
-/

namespace ScopedSearch

/-! ### Looking into an answer -/

theorem Value.item_of_get? {v w : Value} {k : String} (h : v.get? k = some w) : v.item k = .ok w := by
  cases v with
  | obj es =>
    rw [get?] at h
    simp only [item, h]
  | _ => cases h

theorem Value.item_of_get?_eq_none {v : Value} {k : String} (h : v.get? k = none) :
    ∃ f, v.item k = .error f := by
  cases v with
  | obj es =>
    rw [get?] at h
    simp [item, h]
  | _ => exact ⟨_, rfl⟩

theorem Scroll.idAfter_ok {id v w : Value} (h : idAfter id v = .ok w) :
    w = (v.get? "_scroll_id").getD id := by
  obtain ⟨found, hfound, rfl⟩ := map_ok_iff.mp h
  cases v with
  | obj es =>
    cases hfound
    rfl
  | _ => cases hfound

/-- An answer under which there is no telling the name of the scroll is no object. -/
theorem Scroll.get?_of_idAfter_error {id v : Value} {f : Failure} (h : idAfter id v = .error f)
    (k : String) : v.get? k = none := by
  cases v with
  | obj es => simp [idAfter, Value.itemOr, Value.item?, Except.map] at h
  | _ => rfl

/-- What the end of the reading of a page says of the documents delivered, given what the page lists
and how many the reader wants. -/
def Delivery.Of (sources : List (Option Value)) (want : Option Nat) (documents : List Value) :
    Delivery → Prop
  | wants more =>
    documents.map some = sources ∧ want = more.map (documents.length + ·) ∧ more ≠ some 0
  | stopped => documents.map some <+: sources ∧ want = some documents.length
  | failed _ => documents.map some ++ [none] <+: sources

theorem Delivery.Of.cons {sources : List (Option Value)} {more : Option Nat} {documents : List Value}
    {d : Delivery} (h : d.Of sources more documents) (v : Value) :
    d.Of (some v :: sources) (more.map (1 + ·)) (v :: documents) := by
  cases d with
  | wants rest =>
    obtain ⟨hall, rfl, hrest⟩ := h
    refine ⟨by simp [hall], ?_, hrest⟩
    cases rest with
    | none => rfl
    | some n =>
      simp
      omega
  | stopped =>
    obtain ⟨hpre, rfl⟩ := h
    exact ⟨by simpa using hpre, by simp; omega⟩
  | failed f => simpa [Delivery.Of] using h

namespace Scroll

/-- **What the delivery of some hits comes to**, for a reader who wants at least one more document. -/
theorem deliver_of (hits : List Value) {want : Option Nat} (hw : want ≠ some 0) :
    (deliver hits want).2.Of (hits.map (·.get? "_source")) want (deliver hits want).1 := by
  induction hits generalizing want with
  | nil => exact ⟨rfl, by cases want <;> simp [deliver], hw⟩
  | cons hit hits ih =>
    cases hsource : hit.get? "_source" with
    | none =>
      obtain ⟨f, hf⟩ := Value.item_of_get?_eq_none hsource
      simp [deliver, hf, hsource, Delivery.Of]
    | some document =>
      have hitem := Value.item_of_get? hsource
      cases want with
      | none =>
        have hrest := Delivery.Of.cons (ih (show none ≠ some 0 by simp)) document
        simpa [deliver, hitem, hsource] using hrest
      | some n =>
        by_cases hn : n ≤ 1
        · have hpos : n ≠ 0 := fun h => hw (by rw [h])
          have hone : n = 1 := by omega
          simp [deliver, hitem, hsource, Delivery.Of, hone]
        · have hmore : some (n - 1) ≠ some 0 := by
            simp
            omega
          have hrest := Delivery.Of.cons (ih hmore) document
          have hcount : 1 + (n - 1) = n := by omega
          simpa [deliver, hitem, hsource, hn, hcount] using hrest

theorem batchOf_of_batch? {v batch : Value} (h : Reply.batch? v = some batch) :
    batchOf v = if batch.truthy then batch.parts.map some else .ok none := by
  obtain ⟨hits, hhits, hbatch⟩ := Option.bind_eq_some_iff.mp h
  rw [batchOf, Value.item_of_get? hhits]
  simp only [bind, Except.bind, Value.item_of_get? hbatch]
  split
  · cases batch.parts <;> rfl
  · rfl

theorem batchOf_of_batch?_eq_none {v : Value} (h : Reply.batch? v = none) :
    ∃ f, batchOf v = .error f := by
  rw [batchOf]
  cases hhits : v.get? "hits" with
  | none =>
    obtain ⟨f, hf⟩ := Value.item_of_get?_eq_none hhits
    exact ⟨f, by rw [hf]; rfl⟩
  | some hits =>
    obtain ⟨f, hf⟩ := Value.item_of_get?_eq_none (v := hits) (k := "hits")
      (by simpa [Reply.batch?, hhits] using h)
    exact ⟨f, by simp [Value.item_of_get? hhits, hf, bind, Except.bind]⟩

/-- What is given and is no list has no parts, or its first part, a key or a character, has no
source. -/
theorem parts_of_truthy {batch : Value} (ht : batch.truthy = true) (harr : ∀ items, batch ≠ .arr items)
    (k : String) : (∃ f, batch.parts = .error f) ∨
      ∃ hit hs, batch.parts = .ok (hit :: hs) ∧ hit.get? k = none := by
  cases batch with
  | arr items => exact absurd rfl (harr items)
  | obj es =>
    cases es with
    | nil => simp [Value.truthy] at ht
    | cons e es => exact .inr ⟨_, _, rfl, rfl⟩
  | str t =>
    have hne : t.toList ≠ [] := by simpa [Value.truthy] using ht
    obtain ⟨c, cs, hcs⟩ := List.exists_cons_of_ne_nil hne
    exact .inr ⟨.str (String.singleton c), _, by rw [Value.parts, hcs, List.map_cons], rfl⟩
  | _ => exact .inl ⟨_, rfl⟩

/-- The reading of what comes next: a page and all that follow it, if it is a page. -/
def receive (method keepAlive : String) (replies : List Reply) (id : Value) (want : Option Nat) :
    Pages :=
  match replies with
  | [] => ⟨[], id, (Reply.next method []).1.map fun _ => (), []⟩
  | .raises text :: rest => ⟨[], id, .error (.backend text), rest⟩
  | .answer v :: rest =>
    match idAfter id v with
    | .error f => ⟨[], id, .error f, rest⟩
    | .ok id => readPages keepAlive rest id v want

variable {keepAlive : String} {rs : List Reply} {id v : Value} {want : Option Nat}

theorem page_cases (v : Value) :
    (Reply.batch? v = none ∧ (Reply.answer v).page = .broken) ∨
    ∃ batch, Reply.batch? v = some batch ∧
      ((batch.truthy = false ∧ (Reply.answer v).page = .empty) ∨
        batch.truthy = true ∧ ((∃ hs, batch = .arr hs ∧ (Reply.answer v).page = .hits hs) ∨
          (∀ items, batch ≠ .arr items) ∧ (Reply.answer v).page = .broken)) := by
  cases hbatch : Reply.batch? v with
  | none => exact .inl ⟨rfl, by simp [Reply.page, hbatch]⟩
  | some batch =>
    refine .inr ⟨batch, rfl, ?_⟩
    cases ht : batch.truthy with
    | false => exact .inl ⟨rfl, by simp [Reply.page, hbatch, ht]⟩
    | true =>
      refine .inr ⟨rfl, ?_⟩
      cases batch with
      | arr hs => exact .inl ⟨hs, rfl, by simp [Reply.page, hbatch, ht]⟩
      | _ => exact .inr ⟨by simp, by simp [Reply.page, hbatch, ht]⟩

theorem readPages_parts {batch : Value} (hbatch : Reply.batch? v = some batch)
    (ht : batch.truthy = true) (harr : ∀ items, batch ≠ .arr items) :
    ∃ f, readPages keepAlive rs id v want = ⟨[], id, .error f, rs⟩ := by
  have hof := batchOf_of_batch? hbatch
  rw [if_pos ht] at hof
  unfold readPages
  rcases parts_of_truthy ht harr "_source" with ⟨f, hparts⟩ | ⟨hit, hs, hparts, hhit⟩
  · exact ⟨f, by simp [hof, hparts, Except.map]⟩
  · obtain ⟨f, hf⟩ := Value.item_of_get?_eq_none hhit
    exact ⟨f, by simp [hof, hparts, Except.map, deliver, hf]⟩

/-- **What the reading of a page does.**  It fails at once, ends with an empty page, or delivers hits:
then it fails at a hit, the reader has enough, or the next page is asked for. -/
theorem readPages_cases (keepAlive : String) (rs : List Reply) (id v : Value) (want : Option Nat) :
    ((Reply.answer v).page = .broken ∧
      ∃ f, readPages keepAlive rs id v want = ⟨[], id, .error f, rs⟩) ∨
    ((Reply.answer v).page = .empty ∧ readPages keepAlive rs id v want = ⟨[], id, .ok (), rs⟩) ∨
    ∃ hs ds, (Reply.answer v).page = .hits hs ∧
      ((∃ f, deliver hs want = (ds, .failed f) ∧
        readPages keepAlive rs id v want = ⟨ds.map .document, id, .error f, rs⟩) ∨
      (deliver hs want = (ds, .stopped) ∧
        readPages keepAlive rs id v want = ⟨ds.map .document, id, .ok (), rs⟩) ∨
      ∃ more, deliver hs want = (ds, .wants more) ∧
        readPages keepAlive rs id v want = (receive "scroll" keepAlive rs id more).after
          (ds.map .document ++ [.call (nextCall keepAlive id)])) := by
  rcases page_cases v with ⟨hbatch, hpage⟩ | ⟨batch, hbatch, ⟨ht, hpage⟩ | ⟨ht, ⟨hs, rfl, hpage⟩ |
    ⟨harr, hpage⟩⟩⟩
  · obtain ⟨f, hf⟩ := batchOf_of_batch?_eq_none hbatch
    exact .inl ⟨hpage, f, by unfold readPages; simp only [hf]⟩
  · have hof := batchOf_of_batch? hbatch
    exact .inr (.inl ⟨hpage, by unfold readPages; simp [hof, ht]⟩)
  · have hof := batchOf_of_batch? hbatch
    simp only [ht, ↓reduceIte, Value.parts, Except.map] at hof
    rcases hd : deliver hs want with ⟨ds, d⟩
    refine .inr (.inr ⟨hs, ds, hpage, ?_⟩)
    unfold readPages
    simp only [hof, hd]
    -- the reading of the next page is that of whatever reply comes next
    cases d with
    | failed f => exact .inl ⟨f, rfl, rfl⟩
    | stopped => exact .inr (.inl ⟨rfl, rfl⟩)
    | wants more =>
      refine .inr (.inr ⟨more, rfl, ?_⟩)
      cases rs with
      | nil => simp [receive, Pages.after]
      | cons r rs =>
        cases r with
        | raises text => simp [receive, Pages.after]
        | answer w =>
          simp only [receive]
          cases idAfter id w <;> simp [Pages.after]
  · exact .inl ⟨hpage, readPages_parts hbatch ht harr⟩

end Scroll

end ScopedSearch
