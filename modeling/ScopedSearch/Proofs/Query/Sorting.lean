import Mathlib.Data.List.Basic
import ScopedSearch.Query.Sort
import ScopedSearch.Proofs.Query.Compile

/-!
# Sorts are taken whole or not at all

Which values write a sort (`Catalog.WritesSort`): an object, or a list of objects with one key, in which
every field is known and every direction is one of two words.  A sort is compiled exactly when it is
written so, each of its entries in its place, and all other values but null are refused as faults of the
caller; what is compiled can be compiled again and stays as it is (`compileSort_exact`).
-/

namespace ScopedSearch

/-! ### Values that write sorts -/

namespace Value

def oneByOne (es : Entries) : Value := .arr (es.map fun e => .single e.1 e.2)

theorem oneByOne_inj {es es' : Entries} : oneByOne es = oneByOne es' ↔ es = es' := by
  have hsingle : Function.Injective fun e : String × Value => single e.1 e.2 := by
    rintro ⟨k, v⟩ ⟨k', v'⟩ h
    simpa [single] using h
  rw [oneByOne, oneByOne, Value.arr.injEq, hsingle.list_map.eq_iff]

end Value

namespace Catalog

/-- An entry sorts by a known field of the index, in one of the two directions. -/
structure SortsBy (c : Catalog) (index : String) (e : String × Value) : Prop where
  known : (c.fieldType? index e.1).isSome = true
  directed : e.2 = .str "asc" ∨ e.2 = .str "desc"

/-- The values that write a sort on an index. -/
inductive WritesSort (c : Catalog) (index : String) : Value → Prop where
  | object {es : Entries} (h : ∀ e ∈ es, c.SortsBy index e) : WritesSort c index (.obj es)
  | list {es : Entries} (h : ∀ e ∈ es, c.SortsBy index e) : WritesSort c index (.oneByOne es)

end Catalog

/-! ### Entries -/

namespace Direction

theorem ofWord?_eq_some_iff {s : String} {d : Direction} : ofWord? s = some d ↔ s = d.word := by
  unfold ofWord?
  by_cases hasc : s = "asc"
  · subst hasc
    cases d <;> simp [word]
  · by_cases hdesc : s = "desc"
    · subst hdesc
      cases d <;> simp [word]
    · cases d <;> simp [word, hasc, hdesc]

end Direction

namespace SortOrder

def entries (s : SortOrder) : Entries := s.map fun e => (e.1, .str e.2.word)

theorem toValue_eq (s : SortOrder) : s.toValue = .oneByOne s.entries := by
  simp [toValue, Value.oneByOne, entries]

end SortOrder

theorem Catalog.sortsBy_iff {c : Catalog} {index : String} {e : String × Value} :
    c.SortsBy index e ↔ (c.fieldType? index e.1).isSome = true ∧ ∃ d : Direction, e.2 = .str d.word := by
  constructor
  · rintro ⟨hknown, hasc | hdesc⟩
    · exact ⟨hknown, .asc, hasc⟩
    · exact ⟨hknown, .desc, hdesc⟩
  · rintro ⟨hknown, d, hd⟩
    cases d with
    | asc => exact ⟨hknown, .inl hd⟩
    | desc => exact ⟨hknown, .inr hd⟩

theorem Catalog.sortsBy_entries {c : Catalog} {index : String} {s : SortOrder}
    (h : ∀ e ∈ s, (c.fieldType? index e.1).isSome = true) : ∀ e ∈ s.entries, c.SortsBy index e := by
  intro e he
  obtain ⟨⟨field, d⟩, hmem, rfl⟩ := List.mem_map.mp he
  exact Catalog.sortsBy_iff.mpr ⟨h _ hmem, d, rfl⟩

theorem Catalog.exists_entries_of_sortsBy {c : Catalog} {index : String} {es : Entries}
    (h : ∀ e ∈ es, c.SortsBy index e) :
    ∃ s : SortOrder, es = s.entries ∧ ∀ e ∈ s, (c.fieldType? index e.1).isSome = true := by
  induction es with
  | nil => exact ⟨[], rfl, by simp⟩
  | cons e es ih =>
    obtain ⟨he, hes⟩ := List.forall_mem_cons.mp h
    obtain ⟨hknown, d, hd⟩ := Catalog.sortsBy_iff.mp he
    obtain ⟨s, rfl, hs⟩ := ih hes
    refine ⟨(e.1, d) :: s, ?_, List.forall_mem_cons.mpr ⟨hknown, hs⟩⟩
    show e :: s.entries = (e.1, .str d.word) :: s.entries
    rw [← hd]

namespace Lexicon

variable {lex : Lexicon}

/-- What is taken for an entry is one that is written so, with a known field. -/
theorem sortEntry?_eq_some {v : Value} {e : String × Direction} :
    lex.sortEntry? v = some e ↔
      v = .single e.1 (.str e.2.word) ∧ (lex.fields.lookup e.1).isSome = true := by
  obtain ⟨field, d⟩ := e
  constructor
  · intro h
    unfold sortEntry? at h
    split at h
    · rename_i key word
      split at h
      · cases h
      · rename_i hknown
        obtain ⟨d', hd', heq⟩ := Option.map_eq_some_iff.mp h
        cases heq
        rw [Direction.ofWord?_eq_some_iff] at hd'
        subst hd'
        refine ⟨rfl, ?_⟩
        simpa [Option.isSome_iff_ne_none] using hknown
    · cases h
  · rintro ⟨rfl, hknown⟩
    have hsome : (lex.fields.lookup field).isNone = false := by
      simpa [← Option.not_isSome] using hknown
    have hword : Direction.ofWord? d.word = some d := Direction.ofWord?_eq_some_iff.mpr rfl
    unfold sortEntry?
    simp [Value.single, hsome, hword]

/-- A list of items is taken when it lists the entries of a sort, and all of their fields are known. -/
theorem mapM_sortEntry?_eq_some {items : List Value} {s : SortOrder} :
    items.mapM lex.sortEntry? = some s ↔
      Value.arr items = s.toValue ∧ ∀ e ∈ s, (lex.fields.lookup e.1).isSome = true := by
  induction items generalizing s with
  | nil => cases s <;> simp [SortOrder.toValue]
  | cons v items ih =>
    rw [List.mapM_cons]
    constructor
    · intro h
      obtain ⟨e, he, h⟩ := Option.bind_eq_some_iff.mp h
      obtain ⟨rest, hrest, h⟩ := Option.bind_eq_some_iff.mp h
      cases h
      obtain ⟨rfl, hknown⟩ := sortEntry?_eq_some.mp he
      obtain ⟨hitems, hall⟩ := ih.mp hrest
      refine ⟨?_, List.forall_mem_cons.mpr ⟨hknown, hall⟩⟩
      rw [SortOrder.toValue] at hitems ⊢
      rw [List.map_cons, Value.arr.inj hitems]
    · rintro ⟨hitems, hall⟩
      cases s with
      | nil => simp [SortOrder.toValue] at hitems
      | cons e rest =>
        obtain ⟨hknown, hrest⟩ := List.forall_mem_cons.mp hall
        rw [SortOrder.toValue, List.map_cons] at hitems
        obtain ⟨hv, hitems⟩ := List.cons.inj (Value.arr.inj hitems)
        have he : lex.sortEntry? v = some e := sortEntry?_eq_some.mpr ⟨hv, hknown⟩
        have hmap : items.mapM lex.sortEntry? = some rest := by
          rw [ih, SortOrder.toValue, hitems]
          exact ⟨rfl, hrest⟩
        rw [he, hmap]
        rfl

/-! ### Whole sorts -/

theorem compileSort_eq {v : Value} (hv : v ≠ .null) :
    lex.compileSort v =
      ((sortItems? v).bind (·.mapM lex.sortEntry?)).elim (.error .invalidSort) (.ok ∘ some) := by
  cases v with
  | null => contradiction
  | _ =>
    rw [compileSort]
    · split <;> simp [*]
    · simp

theorem compileSort_eq_none {v : Value} : lex.compileSort v = .ok none ↔ v = .null := by
  constructor
  · intro h
    by_contra hv
    rw [compileSort_eq hv] at h
    cases hs : (sortItems? v).bind (·.mapM lex.sortEntry?) <;> simp [hs] at h
  · rintro rfl
    rfl

theorem compileSort_refused {v : Value} (hv : v ≠ .null) (h : ∀ s, lex.compileSort v ≠ .ok (some s)) :
    lex.compileSort v = .error .invalidSort := by
  have heq := lex.compileSort_eq hv
  cases hs : (sortItems? v).bind (·.mapM lex.sortEntry?) with
  | none =>
    rw [heq, hs]
    rfl
  | some s =>
    rw [hs] at heq
    exact absurd heq (h s)

theorem sortItems?_eq_some {v : Value} {es : Entries} :
    sortItems? v = some (es.map fun e => .single e.1 e.2) ↔ v = .obj es ∨ v = .oneByOne es := by
  cases v with
  | obj es' =>
    have hsame : sortItems? (.obj es') = some (es.map fun e => .single e.1 e.2) ↔
        Value.oneByOne es' = .oneByOne es := by
      simp [sortItems?, Value.oneByOne]
    rw [hsame, Value.oneByOne_inj]
    simp [Value.oneByOne]
  | arr items => simp [sortItems?, Value.oneByOne]
  | _ => simp [sortItems?, Value.oneByOne]

/-- **A value is compiled to a sort when it has the sort's entries**, as an object or one by one, and all
of their fields are known. -/
theorem compileSort_eq_some {v : Value} {s : SortOrder} :
    lex.compileSort v = .ok (some s) ↔
      (v = .obj s.entries ∨ v = .oneByOne s.entries) ∧
        ∀ e ∈ s, (lex.fields.lookup e.1).isSome = true := by
  by_cases hv : v = .null
  · subst hv
    simp [compileSort, Value.oneByOne]
  · have hmap : lex.compileSort v = .ok (some s) ↔
        ∃ items, sortItems? v = some items ∧ items.mapM lex.sortEntry? = some s := by
      rw [compileSort_eq hv, ← Option.bind_eq_some_iff]
      cases (sortItems? v).bind (·.mapM lex.sortEntry?) <;> simp
    simp only [hmap, mapM_sortEntry?_eq_some, SortOrder.toValue_eq]
    constructor
    · rintro ⟨items, hitems, hs, hknown⟩
      rw [Value.arr.inj hs] at hitems
      exact ⟨sortItems?_eq_some.mp hitems, hknown⟩
    · rintro ⟨hwritten, hknown⟩
      exact ⟨_, sortItems?_eq_some.mpr hwritten, rfl, hknown⟩

/-- **A sort is compiled whole or not at all.**  Only null is no sort.  A value is compiled to one exactly
when it writes one, as an object or as a list of objects with one key, with known fields and directions
in all of its entries; any other value is refused as a fault of the caller.  What is compiled has every
entry in its place, an object gives the same as the list of its entries, and the sort that was compiled
is compiled to itself. -/
theorem compileSort_exact (c : Catalog) (index : String) (v : Value) :
    ((c.lexicon index).compileSort v = .ok none ↔ v = .null) ∧
    ((∃ s, (c.lexicon index).compileSort v = .ok (some s)) ↔ c.WritesSort index v) ∧
    (v ≠ .null → ¬ c.WritesSort index v →
      ∃ f, (c.lexicon index).compileSort v = .error f ∧ f.kind = .input) ∧
    (∀ s, (c.lexicon index).compileSort v = .ok (some s) →
      (∀ es, v = .obj es ∨ v = .oneByOne es → s.toValue = .oneByOne es) ∧
      (c.lexicon index).compileSort s.toValue = .ok (some s)) ∧
    ∀ es, (c.lexicon index).compileSort (.obj es) = (c.lexicon index).compileSort (.oneByOne es) := by
  have hwritten : (∃ s, (c.lexicon index).compileSort v = .ok (some s)) ↔ c.WritesSort index v := by
    constructor
    · rintro ⟨s, hs⟩
      obtain ⟨hv, hknown⟩ := compileSort_eq_some.mp hs
      have hsorts : ∀ e ∈ s.entries, c.SortsBy index e := Catalog.sortsBy_entries hknown
      rcases hv with rfl | rfl
      · exact .object hsorts
      · exact .list hsorts
    · rintro (h | h)
      · obtain ⟨s, rfl, hknown⟩ := Catalog.exists_entries_of_sortsBy h
        exact ⟨s, compileSort_eq_some.mpr ⟨.inl rfl, hknown⟩⟩
      · obtain ⟨s, rfl, hknown⟩ := Catalog.exists_entries_of_sortsBy h
        exact ⟨s, compileSort_eq_some.mpr ⟨.inr rfl, hknown⟩⟩
  refine ⟨compileSort_eq_none, hwritten, ?_, ?_, ?_⟩
  · intro hnull hnot
    have hrefused : (c.lexicon index).compileSort v = .error .invalidSort :=
      compileSort_refused hnull fun s hs => hnot (hwritten.mp ⟨s, hs⟩)
    exact ⟨.invalidSort, hrefused, rfl⟩
  · intro s hs
    obtain ⟨hv, hknown⟩ := compileSort_eq_some.mp hs
    refine ⟨?_, ?_⟩
    · intro es hes
      have hsame : some (s.entries.map fun e => Value.single e.1 e.2) =
          some (es.map fun e => Value.single e.1 e.2) :=
        (sortItems?_eq_some.mpr hv).symm.trans (sortItems?_eq_some.mpr hes)
      rw [SortOrder.toValue_eq, Value.oneByOne, Option.some_inj.mp hsame, Value.oneByOne]
    · rw [SortOrder.toValue_eq]
      exact compileSort_eq_some.mpr ⟨.inr rfl, hknown⟩
  · intro es
    have hobj : (Value.obj es) ≠ .null := by simp
    have hlist : Value.oneByOne es ≠ .null := by simp [Value.oneByOne]
    rw [compileSort_eq hobj, compileSort_eq hlist, sortItems?_eq_some.mpr (.inl rfl),
      sortItems?_eq_some.mpr (.inr rfl)]

end Lexicon

def Value.oldestFirst : Value := .obj [("age", .str "desc"), ("gender", .str "asc")]

/-- The second entry has a direction that is none. -/
def Value.oldestUp : Value := .oneByOne [("age", .str "desc"), ("gender", .str "ASC")]

namespace Lexicon

theorem compileSort_exact_of_people :
    (Catalog.people.lexicon "people").compileSort .oldestFirst =
      .ok (some [("age", .desc), ("gender", .asc)]) ∧
    Catalog.people.WritesSort "people" .oldestFirst ∧
    SortOrder.toValue [("age", .desc), ("gender", .asc)] =
      .oneByOne [("age", .str "desc"), ("gender", .str "asc")] ∧
    (Catalog.people.lexicon "people").compileSort (SortOrder.toValue [("age", .desc), ("gender", .asc)]) =
      .ok (some [("age", .desc), ("gender", .asc)]) ∧
    ¬ Catalog.people.WritesSort "people" .oldestUp ∧
    ∃ f, (Catalog.people.lexicon "people").compileSort .oldestUp = .error f ∧ f.kind = .input := by
  have htaken : (Catalog.people.lexicon "people").compileSort .oldestFirst =
      .ok (some [("age", .desc), ("gender", .asc)]) := by cbv
  have hrefused : (Catalog.people.lexicon "people").compileSort .oldestUp = .error .invalidSort := by cbv
  obtain ⟨-, hwritten, -, hkept, -⟩ := compileSort_exact Catalog.people "people" .oldestFirst
  obtain ⟨-, hunwritten, hinput, -⟩ := compileSort_exact Catalog.people "people" .oldestUp
  obtain ⟨horder, hagain⟩ := hkept _ htaken
  have hnot : ¬ Catalog.people.WritesSort "people" .oldestUp := by
    rw [← hunwritten, hrefused]
    simp
  have hgiven : Value.oldestUp ≠ .null := by simp [Value.oldestUp, Value.oneByOne]
  exact ⟨htaken, hwritten.mp ⟨_, htaken⟩, horder _ (.inl rfl), hagain, hnot, hinput hgiven hnot⟩

end Lexicon

end ScopedSearch
