import Mathlib.Data.Finset.Sort
import Mathlib.Data.List.Chain
import Mathlib.Data.String.Basic
import ScopedSearch.Backend.Distinct
import ScopedSearch.Proofs.Outcome

/-!
# All values of a field

A cluster that holds a finite set of values answers every request for a page with the next values in
ascending order.  Then the pages are read to their end: every value comes once, in ascending order, and
every request but the first goes on from the key of the page before it (`distinct_complete`).  A page
that is not empty leaves fewer values (`above_last`), and the first empty page is the last.
-/

namespace ScopedSearch

universe u

namespace Distinct

/-! ### Requests and answers -/

def keyOf (v : Value) : Value := .single "value" v

def composite? : Call → Option Value
  | .client _ arguments =>
    ((arguments.lookup "aggs").bind (·.get? "distinct_values")).bind (·.get? "composite")
  | _ => none

/-- A call asks for a page of so many values of a field, after a key if there is one. -/
def Asks (field : String) (size : ℕ) (after : Option Value) (call : Call) : Prop :=
  ∃ c, composite? call = some c ∧ c.get? "size" = some (.int size) ∧
    c.get? "sources" =
      some (.arr [.single "value" (.single "terms" (.single "field" (.str field)))]) ∧
    c.get? "after" = after

def aggregation? : Reply → Option Value
  | .answer v => (v.get? "aggregations").bind (·.get? "distinct_values")
  | .raises _ => none

def afterKey? (r : Reply) : Option Value := (aggregation? r).bind (·.get? "after_key")

/-- A reply lists a page of values: a bucket for each of them in order, and unless the page is empty the
key of the last one. -/
def Lists (r : Reply) (page : List Value) : Prop :=
  (∃ aggregation buckets, aggregation? r = some aggregation ∧
    aggregation.get? "buckets" = some (.arr buckets) ∧
    List.Forall₂ (fun bucket v => bucket.get? "key" = some (keyOf v)) buckets page) ∧
  ∀ v, page.getLast? = some v → afterKey? r = some (keyOf v)

theorem asks_pageCall (index field : String) (size : ℕ) (after : Option Value) :
    Asks field size after (pageCall index field (.int size) after) := by
  refine ⟨.obj _, rfl, rfl, rfl, ?_⟩
  cases after <;> simp [Value.get?, Value.entry?, List.lookup_cons]

/-! ### Reading one page -/

theorem itemOr_of_get? {v w other : Value} {k : String} (h : v.get? k = some w) :
    v.itemOr k other = .ok w := by
  cases v with
  | obj es =>
    rw [Value.get?] at h
    simp [Value.itemOr, Value.item?, Except.map, h]
  | _ => cases h

theorem bucketValue_of_key {bucket v : Value} (h : bucket.get? "key" = some (keyOf v)) :
    bucketValue bucket = .ok v := by
  cases bucket with
  | obj es =>
    rw [Value.get?] at h
    simp [bucketValue, Value.item, h, keyOf, Value.single, bind, Except.bind]
  | _ => cases h

theorem mapM_bucketValue {buckets page : List Value}
    (h : List.Forall₂ (fun bucket v => bucket.get? "key" = some (keyOf v)) buckets page) :
    buckets.mapM bucketValue = .ok page := by
  induction h with
  | nil => rfl
  | cons hbucket _ ih =>
    rw [List.mapM_cons, bucketValue_of_key hbucket, ih]
    rfl

theorem pageOf_of_lists {r : Reply} {page : List Value} (h : Lists r page) :
    ∃ v, r = .answer v ∧ pageOf v = .ok ⟨page, page.getLast?.map keyOf⟩ := by
  obtain ⟨⟨aggregation, buckets, hagg, hbuckets, hpage⟩, hlast⟩ := h
  cases r with
  | raises text => cases hagg
  | answer v =>
    obtain ⟨aggregations, haggs, hdistinct⟩ := Option.bind_eq_some_iff.mp hagg
    refine ⟨v, rfl, ?_⟩
    unfold pageOf
    rw [itemOr_of_get? haggs]
    simp only [bind, Except.bind]
    rw [itemOr_of_get? hdistinct]
    simp only []
    rw [itemOr_of_get? hbuckets]
    simp only [Value.parts]
    rw [mapM_bucketValue hpage]
    simp only []
    cases hp : page.getLast? with
    | some w =>
      -- a page that is not empty has buckets, so that its key counts
      have hkey : aggregation.get? "after_key" = some (keyOf w) := by
        have := hlast w hp
        rwa [afterKey?, hagg] at this
      have hne : buckets ≠ [] := by
        rintro rfl
        obtain rfl := List.forall₂_nil_left_iff.mp hpage
        cases hp
      rw [itemOr_of_get? hkey]
      simp [keyOf, Value.single, Value.truthy, hne, pure, Except.pure]
    | none =>
      obtain rfl := List.getLast?_eq_none_iff.mp hp
      obtain rfl := List.forall₂_nil_right_iff.mp hpage
      cases aggregation with
      | obj es =>
        simp only [Value.itemOr, Value.item?, Except.map, pure, Except.pure, Option.map_none,
          Value.truthy, List.isEmpty_nil, Bool.not_true, Bool.false_eq_true, ↓reduceIte]
        split <;> rfl
      | _ => cases hbuckets

/-! ### The values that are left -/

variable {α : Type u} [LinearOrder α]

/-- The values above one of them, in ascending order; all of them from the start. -/
def above (values : Finset α) : Option α → List α
  | none => values.sort
  | some a => (values.filter (a < ·)).sort

theorem pairwise_above (values : Finset α) (after : Option α) :
    (above values after).Pairwise (· < ·) := by
  cases after <;> exact (Finset.sortedLT_sort _).pairwise

theorem mem_above {values : Finset α} {after : Option α} {x : α} :
    x ∈ above values after ↔ x ∈ values ∧ ∀ a, after = some a → a < x := by
  cases after <;> simp [above]

/-- In an ascending list, what comes after the first elements lies above the last of them. -/
theorem mem_drop_iff {L : List α} (hL : L.Pairwise (· < ·)) {n : ℕ} {a : α}
    (ha : (L.take n).getLast? = some a) (x : α) : x ∈ L.drop n ↔ x ∈ L ∧ a < x := by
  obtain ⟨front, hfront⟩ := List.getLast?_eq_some_iff.mp ha
  have hsplit : L = front ++ [a] ++ L.drop n := by
    rw [← hfront, List.take_append_drop]
  rw [hsplit, List.pairwise_append] at hL
  obtain ⟨hupto, -, hcross⟩ := hL
  constructor
  · intro hx
    exact ⟨List.mem_of_mem_drop hx, hcross a (by simp) x hx⟩
  · rintro ⟨hx, hlt⟩
    rw [hsplit] at hx
    rcases List.mem_append.mp hx with hx | hx
    · -- what is not after `a` is not above it
      have hle : x ≤ a := by
        rcases List.mem_append.mp hx with hx | hx
        · exact le_of_lt ((List.pairwise_append.mp hupto).2.2 x hx a (by simp))
        · exact le_of_eq (List.mem_singleton.mp hx)
      exact absurd hlt (not_lt.mpr hle)
    · exact hx

/-- **What is left after a page** is what lies above its last value. -/
theorem above_last {values : Finset α} {after : Option α} {n : ℕ} {a : α}
    (ha : ((above values after).take n).getLast? = some a) :
    above values (some a) = (above values after).drop n := by
  have hleft := pairwise_above values after
  have hmem : a ∈ above values after := List.mem_of_mem_take (List.mem_of_getLast? ha)
  have hbeyond := (mem_above.mp hmem).2
  refine (pairwise_above values (some a)).eq_of_mem_iff (hleft.sublist (List.drop_sublist n _)) ?_
  intro x
  rw [mem_drop_iff hleft ha, mem_above, mem_above]
  constructor
  · rintro ⟨hx, hlt⟩
    have hax : a < x := hlt a rfl
    exact ⟨⟨hx, fun b hb => (hbeyond b hb).trans hax⟩, hax⟩
  · rintro ⟨⟨hx, -⟩, hax⟩
    exact ⟨hx, fun b hb => by cases hb; exact hax⟩

/-! ### Page after page -/

/-- A cluster that holds some values of a field, as it answers the calls one after another: a request
for a page lists the first values above its key. -/
def Serves (field : String) (values : Finset α) (shown : α → Value) (respond : ℕ → Call → Reply) :
    Prop :=
  ∀ i size after call, Asks field size (after.map fun a => keyOf (shown a)) call →
    Lists (respond i call) (((above values after).take size).map shown)

/-- A request goes on from the key of the reply before it. -/
def Continues (field : String) (size : ℕ) (earlier later : Call × Reply) : Prop :=
  ∃ key, afterKey? earlier.2 = some key ∧ Asks field size (some key) later.1

/-- How values ought to be read from a cluster, after a key if there is one: the replies are those of
the cluster, every request goes on from the reply before it, and the replies after the last one are
left as they are. -/
structure Conversation (index field : String) (size : ℕ) (respond : ℕ → Call → Reply)
    (after : Option Value) (values : List Value) (exchanges : List (Call × Reply)) : Prop where
  answered : ∀ i call reply, exchanges[i]? = some (call, reply) → reply = respond i call
  opened : ∃ call, (exchanges.map Prod.fst).head? = some call ∧ Asks field size after call
  continued : exchanges.IsChain (Continues field size)
  read : ∀ rest, readPages index field (.int size) (exchanges.map Prod.snd ++ rest) after =
    ⟨exchanges.map Prod.fst, .ok values, rest⟩

section

variable {index field : String} {size : ℕ} {respond : ℕ → Call → Reply} {after : Option Value}

theorem Conversation.last
    (h : Lists (respond 0 (pageCall index field (.int size) after)) []) :
    Conversation index field size respond after [] [(pageCall index field (.int size) after,
      respond 0 (pageCall index field (.int size) after))] where
  answered := by
    intro i call reply hi
    cases i with
    | zero =>
      obtain ⟨rfl, rfl⟩ := Prod.mk.inj (Option.some.inj hi)
      rfl
    | succ i => cases hi
  opened := ⟨_, rfl, asks_pageCall index field size after⟩
  continued := List.isChain_singleton _
  read := by
    intro rest
    obtain ⟨v, hv, hpage⟩ := pageOf_of_lists h
    simp [hv, readPages, hpage]

/-- **What one page adds**: its values come first, and the reading goes on from its key. -/
theorem Conversation.cons {page values : List Value} {v : Value} {exchanges : List (Call × Reply)}
    (hpage : Lists (respond 0 (pageCall index field (.int size) after)) page)
    (hlast : page.getLast? = some v)
    (h : Conversation index field size (fun i => respond (i + 1)) (some (keyOf v)) values exchanges) :
    Conversation index field size respond after (page ++ values)
      ((pageCall index field (.int size) after,
        respond 0 (pageCall index field (.int size) after)) :: exchanges) where
  answered := by
    intro i call reply hi
    cases i with
    | zero =>
      obtain ⟨rfl, rfl⟩ := Prod.mk.inj (Option.some.inj hi)
      rfl
    | succ i => exact h.answered i call reply hi
  opened := ⟨_, rfl, asks_pageCall index field size after⟩
  continued := by
    obtain ⟨call, hhead, hasks⟩ := h.opened
    cases exchanges with
    | nil => cases hhead
    | cons next more =>
      obtain rfl : next.1 = call := Option.some.inj hhead
      exact List.isChain_cons_cons.mpr ⟨⟨keyOf v, hpage.2 v hlast, hasks⟩, h.continued⟩
  read := by
    intro rest
    obtain ⟨answer, hanswer, hread⟩ := pageOf_of_lists hpage
    have hmore := h.read rest
    simp [hanswer, readPages, hread, hlast, hmore, Except.map]

end

/-- **The pages are read to their end.**  The induction is on how many values are left. -/
theorem exists_conversation (index : String) {field : String} {values : Finset α} {shown : α → Value}
    {size : ℕ} (hsize : 1 ≤ size) {respond : ℕ → Call → Reply} (h : Serves field values shown respond)
    (after : Option α) :
    ∃ exchanges, Conversation index field size respond (after.map fun a => keyOf (shown a))
      ((above values after).map shown) exchanges := by
  induction hk : (above values after).length using Nat.strong_induction_on generalizing after respond with
  | _ k ih =>
  have hpage := h 0 size after _ (asks_pageCall index field size _)
  cases hlast : ((above values after).take size).getLast? with
  | none =>
    have hnone : above values after = [] := by
      have htake := List.getLast?_eq_none_iff.mp hlast
      rcases List.take_eq_nil_iff.mp htake with hzero | hnil
      · omega
      · exact hnil
    rw [hnone, List.take_nil, List.map_nil] at hpage
    rw [hnone]
    exact ⟨_, Conversation.last hpage⟩
  | some a =>
    have hleft := above_last hlast
    have hne : above values after ≠ [] := by
      intro hnil
      rw [hnil, List.take_nil] at hlast
      cases hlast
    have hfewer : (above values (some a)).length < k := by
      have hpos := List.length_pos_iff.mpr hne
      rw [hleft, List.length_drop]
      omega
    have hnext : Serves field values shown fun i => respond (i + 1) := fun i => h (i + 1)
    obtain ⟨exchanges, hrest⟩ := ih _ hfewer hnext (some a) rfl
    have hshown : (((above values after).take size).map shown).getLast? = some (shown a) := by
      rw [List.getLast?_map, hlast]
      rfl
    have hall := Conversation.cons hpage hshown hrest
    rw [hleft, ← List.map_append, List.take_append_drop] at hall
    exact ⟨_, hall⟩

end Distinct

namespace Cluster

open Distinct

/-- **All values of a field are found, once each and in ascending order.**  When a cluster holds a
finite set of values and answers every request for a page with the first values above its key, the
reading ends after finitely many replies of the cluster and leaves all others alone, whatever the page
size; and every request but the first goes on from the key of the reply before it. -/
theorem distinct_complete {α : Type u} [LinearOrder α] (values : Finset α) (shown : α → Value)
    (c : Cluster) (index field : String) (respond : ℕ → Call → Reply)
    (h : Serves field values shown respond) (size : ℕ) (hsize : 1 ≤ size) :
    ∃ exchanges : List (Call × Reply),
      (∀ i call reply, exchanges[i]? = some (call, reply) → reply = respond i call) ∧
      (∃ call, (exchanges.map Prod.fst).head? = some call ∧ Asks field size none call) ∧
      exchanges.IsChain (Continues field size) ∧
      ∀ rest, ({ c with searches := exchanges.map Prod.snd ++ rest }).distinct index field (.int size) =
        ⟨.ok (values.sort.map shown), exchanges.map Prod.fst, { c with searches := rest }⟩ := by
  obtain ⟨exchanges, hread⟩ := exists_conversation index hsize h none
  refine ⟨exchanges, hread.answered, hread.opened, hread.continued, fun rest => ?_⟩
  have hpages := hread.read rest
  rw [Option.map_none] at hpages
  simp only [distinct, hpages]
  rfl

end Cluster

/-! ### A cluster of texts -/

namespace Distinct

def listing (page : List Value) : Value :=
  .single "aggregations" (.single "distinct_values" (.obj
    (("buckets", .arr (page.map fun v => .single "key" (keyOf v))) ::
      Value.entry? "after_key" (page.getLast?.map keyOf))))

theorem lists_listing (page : List Value) : Lists (.answer (listing page)) page := by
  refine ⟨⟨_, page.map fun v => .single "key" (keyOf v), rfl, rfl, ?_⟩, ?_⟩
  · rw [List.forall₂_map_left_iff]
    exact List.forall₂_same.mpr fun v _ => rfl
  · intro v hv
    simp [afterKey?, aggregation?, listing, Value.single, Value.get?, Value.entry?, hv,
      List.lookup_cons]

def textAfter : Option Value → Option String
  | some (.obj [(_, .str s)]) => some s
  | _ => none

/-- How a cluster that holds some texts answers a request for a page. -/
def respondTexts (values : Finset String) (call : Call) : Reply :=
  match composite? call with
  | some c =>
    match c.get? "size" with
    | some (.int size) =>
      .answer (listing (((above values (textAfter (c.get? "after"))).take size.toNat).map .str))
    | _ => .raises "no size"
  | none => .raises "no aggregation"

theorem serves_respondTexts (field : String) (values : Finset String) :
    Serves field values Value.str fun _ => respondTexts values := by
  rintro i size after call ⟨c, hc, hsize, -, hafter⟩
  have htext : textAfter (c.get? "after") = after := by
    rw [hafter]
    cases after <;> rfl
  have hreply : respondTexts values call =
      .answer (listing (((above values after).take size).map .str)) := by
    simp [respondTexts, hc, hsize, htext]
  change Lists (respondTexts values call) _
  rw [hreply]
  exact lists_listing _

end Distinct

namespace Cluster

open Distinct

/-- Three resources on pages of two. -/
theorem distinct_complete_of_resources :
    Serves "resource" ["/a", "/b", "/c"].toFinset Value.str
      (fun _ => respondTexts ["/a", "/b", "/c"].toFinset) ∧ 1 ≤ 2 ∧
    ∃ exchanges : List (Call × Reply),
      (∀ (i : ℕ) (call : Call) (reply : Reply), exchanges[i]? = some (call, reply) →
        reply = respondTexts ["/a", "/b", "/c"].toFinset call) ∧
      (∃ call, (exchanges.map Prod.fst).head? = some call ∧ Asks "resource" 2 none call) ∧
      exchanges.IsChain (Continues "resource" 2) ∧
      ∀ rest, ({ searches := exchanges.map Prod.snd ++ rest } : Cluster).distinct "people" "resource"
          (.int 2) =
        ⟨.ok [.str "/a", .str "/b", .str "/c"], exchanges.map Prod.fst, { searches := rest }⟩ := by
  have hserves := serves_respondTexts "resource" ["/a", "/b", "/c"].toFinset
  have hsort : ["/a", "/b", "/c"].toFinset.sort = ["/a", "/b", "/c"] :=
    (List.toFinset_sort (· ≤ ·) (by decide)).mpr (by decide)
  have hall := distinct_complete ["/a", "/b", "/c"].toFinset Value.str {} "people" "resource" _ hserves
    2 (by decide)
  rw [hsort] at hall
  exact ⟨hserves, by decide, hall⟩

end Cluster

end ScopedSearch
