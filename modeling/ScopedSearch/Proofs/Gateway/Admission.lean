import Mathlib.Data.List.Forall2
import Mathlib.Data.List.ReduceOption
import ScopedSearch.Proofs.Backend.Replies
import ScopedSearch.Proofs.Gateway.Acceptance

/-!
# What reaches the backend

A gateway that performs pages, counts and streams one after the other puts one question to its backend
for each of them that is admitted, in order, and none for any other (`calls_performAll`).  A task is
admitted when everything in it compiles and its page ends within the ceiling (`Gateway.Admits`); what it
asks then fits the task, and a search that asks for a size stays within the ceiling (`Gateway.Fits`).
One task is told by `perform_cases`, and a run by induction over its tasks.
-/

namespace ScopedSearch

/-! ### Questions -/

/-- A question to a backend: a search, a count, or a stream of which so many documents are read. -/
inductive Question where
  | execute (index : String) (body : Value)
  | count (index : String) (query : Option Value)
  | stream (index : String) (arguments : StreamArguments) (want : Option ℕ)

def Question.call : Question → Call
  | execute index body => .execute index body
  | count index query => .count index (Value.ofOption query)
  | stream index a _ => .stream index (Value.ofOption a.query) a.fields a.sort

namespace Backend

def answer (b : Backend) : Question → List Call × Backend
  | .execute index body => ((b.execute index body).calls, (b.execute index body).state)
  | .count index query => ((b.count index query).calls, (b.count index query).state)
  | .stream index a want => ((b.stream index a want).calls, (b.stream index a want).state)

def callsFor (b : Backend) : List Question → List Call
  | [] => []
  | q :: qs => (b.answer q).1 ++ (b.answer q).2.callsFor qs

variable {documents values : List Value}

theorem answer_recorder (q : Question) :
    (recorder documents values).answer q = ([q.call], recorder documents values) := by
  cases q with
  | execute index body => rfl
  | count index query => rfl
  | stream index a want =>
    refine Prod.ext ?_ rfl
    change StreamEvent.calls (.call (Question.stream index a want).call :: List.map _ _) = _
    rw [StreamEvent.calls_call, StreamEvent.calls_map_document]

theorem callsFor_recorder (qs : List Question) :
    (recorder documents values).callsFor qs = qs.map Question.call := by
  induction qs with
  | nil => rfl
  | cons q qs ih => simp [callsFor, answer_recorder, ih]

end Backend

/-! ### Tasks -/

/-- What a gateway is asked for on an index: a page, a count, or a stream of which so many documents are
read. -/
inductive Task where
  | page (index : String) (r : Request)
  | count (index : String) (filter : Wire)
  | stream (index : String) (r : Request) (want : Option ℕ)

namespace Gateway

def perform (g : Gateway) : Task → Step Value
  | .page index r => (g.indexData index r).map Value.arr
  | .count index filter => g.indexCount index filter
  | .stream index r want => (g.indexScroll index r want).map Value.arr

def performAll (g : Gateway) : List Task → List (Step Value)
  | [] => []
  | t :: ts => g.perform t :: (g.perform t).gateway.performAll ts

/-- Everything in a task compiles, and its page ends within the ceiling. -/
def Admits (g : Gateway) : Task → Prop
  | .page index r => (∃ f, (g.lexicon index).compile r.filter = .ok f) ∧
    (∃ s, (g.lexicon index).compileSort r.sort = .ok s) ∧
    ∀ size, r.size = some size → r.offset + size ≤ g.ceiling
  | .count index filter => ∃ f, (g.lexicon index).compile filter = .ok f
  | .stream index r _ => (∃ f, (g.lexicon index).compile r.filter = .ok f) ∧
    ∃ s, (g.lexicon index).compileSort r.sort = .ok s

/-- A question is the one that a task asks: about its index, and with what its filter and its sort
compile to.  A search starts at the offset, and with a size it ends within the ceiling. -/
def Fits (g : Gateway) : Task → Question → Prop
  | .page index r, .execute i body => i = index ∧
    (∃ f, (g.lexicon index).compile r.filter = .ok f ∧ body.get? "query" = queryValue f) ∧
    (∃ s, (g.lexicon index).compileSort r.sort = .ok s ∧
      body.get? "sort" = s.map SortOrder.toValue) ∧
    body.get? "from" = some (.int r.offset) ∧ body.get? "size" = r.size.map Value.int ∧
    ∀ start size, body.get? "from" = some (.int start) → body.get? "size" = some (.int size) →
      start + size ≤ g.ceiling
  | .count index filter, .count i query => i = index ∧
    ∃ f, (g.lexicon index).compile filter = .ok f ∧ query = queryValue f
  | .stream index r want, .stream i a n => i = index ∧ n = want ∧
    (∃ f, (g.lexicon index).compile r.filter = .ok f ∧ a.query = queryValue f) ∧
    ∃ s, (g.lexicon index).compileSort r.sort = .ok s ∧
      a.sort = Value.ofOption (s.map SortOrder.toValue)
  | _, _ => False

/-- What a task asks: one question that fits it when it is admitted, and nothing otherwise. -/
def Asks (g : Gateway) (t : Task) : Option Question → Prop
  | some q => g.Admits t ∧ g.Fits t q
  | none => ¬ g.Admits t

/-- How a task ends that is not admitted: it fails without a call, and when its page is too large, that is
the caller's fault. -/
structure Refuses (g : Gateway) (t : Task) (s : Step Value) : Prop where
  refused : ¬ g.Admits t → s.calls = [] ∧ ∃ f, s.result = .error f
  oversized : ∀ index r size, t = .page index r → r.size = some size → g.ceiling < r.offset + size →
    ∃ f, s.result = .error f ∧ f.kind = .input

end Gateway

/-! ### What compiles -/

theorem withinCeiling_iff {ceiling : Int} {r : Request} :
    withinCeiling ceiling r = true ↔ ∀ size, r.size = some size → r.offset + size ≤ ceiling := by
  unfold withinCeiling
  cases r.size <;> simp

theorem SearchBody.get?_others (body : SearchBody) :
    body.toValue.get? "from" = some (.int body.start) ∧
    body.toValue.get? "sort" = body.sort.map SortOrder.toValue ∧
    body.toValue.get? "size" = body.size.map Value.int := by
  obtain ⟨start, query, sort, size, source⟩ := body
  cases query <;> cases sort <;> cases size <;> by_cases hs : source.isEmpty = true <;>
    simp [toValue, Value.get?, Value.entry?, List.lookup_cons, hs]

namespace Lexicon

variable {lex : Lexicon} {ceiling : Int} {r : Request}

theorem pageBody_ok {body : SearchBody} (h : lex.pageBody ceiling r = .ok body) :
    withinCeiling ceiling r = true ∧ ∃ f s, lex.compile r.filter = .ok f ∧
      lex.compileSort r.sort = .ok s ∧ body = ⟨r.offset, f, s, r.size, r.fields.getD []⟩ := by
  unfold pageBody at h
  split at h
  · rename_i hpage
    obtain ⟨f, hf, h⟩ := bind_ok_iff.mp h
    obtain ⟨s, hs, h⟩ := bind_ok_iff.mp h
    exact ⟨hpage, f, s, hf, hs, (pure_ok_iff.mp h).symm⟩
  · cases h

theorem streamPlan_ok {plan : StreamPlan} (h : lex.streamPlan r = .ok plan) :
    ∃ f s, lex.compile r.filter = .ok f ∧ lex.compileSort r.sort = .ok s ∧
      plan = ⟨f, r.fields, s⟩ := by
  obtain ⟨f, hf, h⟩ := bind_ok_iff.mp h
  obtain ⟨s, hs, h⟩ := bind_ok_iff.mp h
  exact ⟨f, s, hf, hs, (pure_ok_iff.mp h).symm⟩

end Lexicon

namespace Gateway

variable {g : Gateway} {index : String}

theorem admits_page_iff {r : Request} :
    g.Admits (.page index r) ↔ ∃ body, (g.lexicon index).pageBody g.ceiling r = .ok body := by
  rw [Lexicon.exists_pageBody_iff, withinCeiling_iff, Admits]
  tauto

theorem admits_stream_iff {r : Request} {want : Option ℕ} :
    g.Admits (.stream index r want) ↔ ∃ plan, (g.lexicon index).streamPlan r = .ok plan :=
  Lexicon.exists_streamPlan_iff.symm

theorem fits_page {r : Request} {body : SearchBody}
    (h : (g.lexicon index).pageBody g.ceiling r = .ok body) :
    g.Fits (.page index r) (.execute index body.toValue) := by
  obtain ⟨hpage, f, s, hf, hs, rfl⟩ := Lexicon.pageBody_ok h
  obtain ⟨hfrom, hsort, hsize⟩ := SearchBody.get?_others ⟨r.offset, f, s, r.size, r.fields.getD []⟩
  refine ⟨rfl, ⟨f, hf, SearchBody.get?_query _⟩, ⟨s, hs, hsort⟩, hfrom, hsize, ?_⟩
  intro start size hstart hsize'
  rw [hfrom] at hstart
  rw [hsize] at hsize'
  obtain ⟨n, hn, hn'⟩ := Option.map_eq_some_iff.mp hsize'
  cases hstart
  cases hn'
  exact withinCeiling_iff.mp hpage size hn

theorem fits_stream {r : Request} {plan : StreamPlan} {want : Option ℕ}
    (h : (g.lexicon index).streamPlan r = .ok plan) :
    g.Fits (.stream index r want) (.stream index (streamArguments plan) want) := by
  obtain ⟨f, s, hf, hs, rfl⟩ := Lexicon.streamPlan_ok h
  exact ⟨rfl, rfl, ⟨f, hf, rfl⟩, ⟨s, hs, rfl⟩⟩

/-! ### One task -/

/-- A task that is admitted puts one question to the backend; any other only fails. -/
theorem perform_cases (g : Gateway) (t : Task) :
    (∃ q, g.Admits t ∧ g.Fits t q ∧ (g.perform t).calls = (g.backend.answer q).1 ∧
      (g.perform t).gateway = { g with backend := (g.backend.answer q).2 }) ∨
    (¬ g.Admits t ∧ ∃ f, g.perform t = .ofResult g (.error f)) := by
  cases t with
  | page index r =>
    cases h : (g.lexicon index).pageBody g.ceiling r with
    | error f =>
      refine .inr ⟨?_, f, by simp [perform, indexData, h, Step.map, Step.ofResult, Except.map]⟩
      rw [admits_page_iff]
      simp [h]
    | ok body =>
      refine .inl ⟨_, admits_page_iff.mpr ⟨body, h⟩, fits_page h, ?_, ?_⟩ <;>
        simp [perform, indexData, h, Step.map, Step.ofExchange, Backend.answer]
  | count index filter =>
    cases h : (g.lexicon index).compile filter with
    | error f => exact .inr ⟨by simp [Admits, h], f, by simp [perform, indexCount, h]⟩
    | ok query =>
      refine .inl ⟨.count index (queryValue query), ⟨query, h⟩, ⟨rfl, query, h, rfl⟩, ?_, ?_⟩ <;>
        simp [perform, indexCount, h, Step.ofExchange, Backend.answer]
  | stream index r want =>
    cases h : (g.lexicon index).streamPlan r with
    | error f =>
      refine .inr ⟨?_, f, by
        simp [perform, indexScroll, indexStream, h, Step.map, Step.ofResult, Except.map]⟩
      rw [admits_stream_iff]
      simp [h]
    | ok plan =>
      refine .inl ⟨_, admits_stream_iff.mpr ⟨plan, h⟩, fits_stream h, ?_, ?_⟩ <;>
        simp [perform, indexScroll, indexStream, h, Step.map, Step.ofStream, Backend.answer,
          Except.map]

theorem perform_oversized {r : Request} {size : Int} (hsize : r.size = some size)
    (h : g.ceiling < r.offset + size) :
    (g.perform (.page index r)).result = .error (.pageTooLarge g.ceiling r.offset size) := by
  have hpage : withinCeiling g.ceiling r = false := by simp [withinCeiling, hsize, h]
  simp [perform, indexData, Lexicon.pageBody, hpage, hsize, Step.map, Step.ofResult, Except.map]

theorem refuses_perform (g : Gateway) (t : Task) : g.Refuses t (g.perform t) := by
  refine ⟨?_, ?_⟩
  · intro ht
    rcases perform_cases g t with ⟨-, hadmits, -⟩ | ⟨-, f, hf⟩
    · exact absurd hadmits ht
    · rw [hf]
      exact ⟨rfl, f, rfl⟩
  · rintro index r size rfl hsize h
    exact ⟨_, perform_oversized hsize h, rfl⟩

/-! ### A run -/

theorem asks_withBackend (b : Backend) : Asks { g with backend := b } = g.Asks := by
  funext t q
  cases t <;> cases q <;> rfl

theorem refuses_withBackend (b : Backend) : Refuses { g with backend := b } = g.Refuses := by
  funext t s
  apply propext
  have hadmits : Admits { g with backend := b } t = g.Admits t := by cases t <;> rfl
  constructor <;> rintro ⟨refused, oversized⟩ <;> exact ⟨hadmits ▸ refused, oversized⟩

/-- **Only what is admitted reaches the backend.**  In a run of tasks the calls to the backend are those
for one question for each admitted task, in the order of the tasks, and none for any other; over a
recorder each question is one call.  A question fits its task, so every search starts at the offset and,
with a size, ends within the ceiling.  A task that is not admitted fails without a call, and a page that
is too large fails as the caller's fault, whatever its filter and its sort. -/
theorem calls_performAll (g : Gateway) (tasks : List Task) :
    ∃ asked : List (Option Question), List.Forall₂ g.Asks tasks asked ∧
      (g.performAll tasks).flatMap Step.calls = g.backend.callsFor asked.reduceOption ∧
      (∀ documents values, g.backend = .recorder documents values →
        (g.performAll tasks).flatMap Step.calls = asked.reduceOption.map Question.call) ∧
      List.Forall₂ g.Refuses tasks (g.performAll tasks) := by
  induction tasks generalizing g with
  | nil => exact ⟨[], .nil, rfl, fun _ _ _ => rfl, .nil⟩
  | cons t ts ih =>
    obtain ⟨asked, hasks, hcalls, -, hrefuses⟩ := ih (g.perform t).gateway
    -- a task changes the backend at most, and what the others ask does not depend on that
    suffices h : ∃ q, g.Asks t q ∧ (g.performAll (t :: ts)).flatMap Step.calls =
        g.backend.callsFor (q :: asked).reduceOption ∧
        ∃ b, (g.perform t).gateway = { g with backend := b } by
      obtain ⟨q, hq, hall, b, hb⟩ := h
      rw [hb, asks_withBackend] at hasks
      rw [hb, refuses_withBackend] at hrefuses
      refine ⟨q :: asked, .cons hq hasks, hall, ?_, .cons (refuses_perform g t) (hb ▸ hrefuses)⟩
      intro documents values hg
      rw [hall, hg, Backend.callsFor_recorder]
    rcases perform_cases g t with ⟨q, hadmits, hfits, hq, hgateway⟩ | ⟨hadmits, f, hf⟩
    · refine ⟨some q, ⟨hadmits, hfits⟩, ?_, _, hgateway⟩
      rw [hgateway] at hcalls
      rw [performAll, List.flatMap_cons, hq, hgateway, hcalls, List.reduceOption_cons_of_some,
        Backend.callsFor]
    · refine ⟨none, hadmits, ?_, g.backend, by rw [hf]; rfl⟩
      rw [hf] at hcalls
      rw [performAll, List.flatMap_cons, hf, List.reduceOption_cons_of_none]
      exact hcalls

/-- A page that is too large, a count, a page in an order that is none, a stream and a page that ends at
the ceiling. -/
def peopleTasks : List Task := [
  .page "people" { filter := .json (.bool true), offset := 9999, size := some 2 },
  .count "people" (.women 1),
  .page "people" { sort := .obj [("age", .str "up")], size := some 1 },
  .stream "people" { sort := .obj [("age", .str "asc")] } (some 3),
  .page "people" { filter := .ownResource, offset := -1, size := some 10001 }]

theorem calls_performAll_of_people :
    people.backend = .recorder [] [] ∧
    ∃ asked : List (Option Question), List.Forall₂ people.Asks peopleTasks asked ∧
      asked.reduceOption.map Question.call = [
        .count "people" (.obj [("bool", .obj [("must", .arr [
          .obj [("term", .obj [("gender", .str "f")])]])])]),
        .stream "people" .null .null (.arr [.obj [("age", .str "asc")]]),
        .execute "people" (.obj [("from", .int (-1)),
          ("query", .obj [("terms", .obj [("resource", .arr [.str "/p"])])]),
          ("size", .int 10001)])] ∧
      List.Forall₂ people.Refuses peopleTasks (people.performAll peopleTasks) := by
  obtain ⟨asked, hasks, -, hcalls, hrefuses⟩ := calls_performAll people peopleTasks
  exact ⟨rfl, asked, hasks, (hcalls [] [] rfl).symm.trans (by cbv), hrefuses⟩

end Gateway

end ScopedSearch
