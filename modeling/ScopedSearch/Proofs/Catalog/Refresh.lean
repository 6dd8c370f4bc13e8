import Mathlib.Data.List.Basic
import ScopedSearch.Backend.LiveCatalog
import ScopedSearch.Proofs.Catalog.Keyed

/-!
# Catalogs that are read again

A live catalog goes through its indices time and again, and a reply may be anything.  The history of its
fetches is told by the calls that were made and the replies that were ready for them (`fetches`).  At
every point of every run the catalog answers for each index from the fields that were read of it last,
and knows nothing of an index that was never read (`tells_latest`); a refresh that fails leaves the
catalog as it was before the fetch that failed, and one that succeeds has read every index.
-/

namespace ScopedSearch

/-! ### Histories -/

/-- A request for the mapping of an index, and what was read from the reply. -/
structure Fetch where
  index : String
  fields : Except Failure Fields

/-- Some fields are the ones that were read last of an index, or else none were ever read. -/
def Fetch.Latest (history : List Fetch) (index : String) : Option Fields → Prop
  | some fields => ∃ before after, history = before ++ ⟨index, .ok fields⟩ :: after ∧
    ∀ others, ⟨index, .ok others⟩ ∉ after
  | none => ∀ fields, ⟨index, .ok fields⟩ ∉ history

def Call.mappingOf? : Call → Option String
  | .client "get_mapping" [("index", .str index)] => some index
  | _ => none

def Call.asked (cs : List Call) : List String := cs.filterMap mappingOf?

@[simp] theorem Call.asked_append (cs ds : List Call) : asked (cs ++ ds) = asked cs ++ asked ds :=
  List.filterMap_append

/-- What is read of an index from the first of some replies: the fields of the mapping in it. -/
def Fetch.read (arrays : Catalog.ArrayFields) (index : String) (replies : List Reply) :
    Except Failure Fields := do
  let answer ← (Reply.next "get_mapping" replies).1
  let properties ← Cluster.propertiesOf index answer
  Mapping.fieldTypes (Catalog.arraysOf arrays index) properties

/-- The history of requests for the mappings of some indices, each of which takes the next reply. -/
def fetches (arrays : Catalog.ArrayFields) : List String → List Reply → List Fetch
  | [], _ => []
  | index :: rest, replies =>
    ⟨index, Fetch.read arrays index replies⟩ :: fetches arrays rest replies.tail

/-- Everything that a catalog tells of an index: what `known` holds, or that the index is not known. -/
structure Catalog.Tells (c : Catalog) (index : String) (known : Option Fields) : Prop where
  fields : c.fields index = known.elim (.error (.unknownIndex index)) .ok
  names : (c.fields index).map Fields.names =
    known.elim (.error (.unknownIndex index)) fun fields => .ok (Fields.names fields)
  fieldType? : ∀ field, c.fieldType? index field = known.bind (·.lookup field)
  nestedFields : ∀ field, c.nestedFields index field =
    ((known.bind (·.lookup field)).map FieldType.subfields).getD []
  isArrayField : ∀ field, c.isArrayField index field =
    ((known.bind (·.lookup field)).map FieldType.isArray).getD false

namespace Fetch

variable {history : List Fetch} {index : String}

theorem latest_snoc_ok (fields : Fields) :
    Latest (history ++ [⟨index, .ok fields⟩]) index (some fields) :=
  ⟨history, [], rfl, by simp⟩

/-- A fetch of another index, and one that fails, changes nothing. -/
theorem Latest.snoc {known : Option Fields} (h : Latest history index known) {f : Fetch}
    (hf : ∀ fields, f ≠ ⟨index, .ok fields⟩) : Latest (history ++ [f]) index known := by
  cases known with
  | none =>
    intro fields hmem
    rcases List.mem_append.mp hmem with hmem | hmem
    · exact h fields hmem
    · exact hf fields (List.mem_singleton.mp hmem).symm
  | some fields =>
    obtain ⟨before, after, rfl, hafter⟩ := h
    refine ⟨before, after ++ [f], by simp, ?_⟩
    intro others hmem
    rcases List.mem_append.mp hmem with hmem | hmem
    · exact hafter others hmem
    · exact hf others (List.mem_singleton.mp hmem).symm

end Fetch

theorem fetches_append (arrays : Catalog.ArrayFields) (is js : List String) (replies : List Reply) :
    fetches arrays (is ++ js) replies =
      fetches arrays is replies ++ fetches arrays js (replies.drop is.length) := by
  induction is generalizing replies with
  | nil => rfl
  | cons i is ih => simp [fetches, ih]

/-! ### The catalog -/

namespace Catalog

variable {c : Catalog} {index : String}

theorem lookup_put (index other : String) (fields : Fields) (indices : List (String × Fields)) :
    (put index fields indices).lookup other =
      if other = index then some fields else indices.lookup other := by
  induction indices with
  | nil => by_cases h : other = index <;> simp [put, List.lookup_cons, h, beq_false_of_ne]
  | cons e es ih =>
    obtain ⟨i, fs⟩ := e
    rw [put]
    by_cases hi : i = index
    · subst hi
      by_cases h : other = i <;> simp [List.lookup_cons, h, beq_false_of_ne]
    · by_cases h : other = i
      · subst h
        simp [hi]
      · simp [List.lookup_cons, hi, beq_false_of_ne h, ih]

theorem fields?_setIndex (other : String) (fields : Fields) :
    (c.setIndex index fields).fields? other =
      if other = index then some fields else c.fields? other :=
  lookup_put index other fields c.indices

theorem fieldType?_eq (field : String) :
    c.fieldType? index field = (c.fields? index).bind (·.lookup field) := by
  unfold fieldType?
  cases c.fields? index <;> rfl

theorem tells_fields? (c : Catalog) (index : String) : c.Tells index (c.fields? index) where
  fields := by
    unfold Catalog.fields
    cases c.fields? index <;> rfl
  names := by
    unfold Catalog.fields
    cases c.fields? index <;> rfl
  fieldType? := fieldType?_eq
  nestedFields field := by
    rw [Catalog.nestedFields, fieldType?_eq]
    cases (c.fields? index).bind (·.lookup field) <;> rfl
  isArrayField field := by
    rw [Catalog.isArrayField, fieldType?_eq]
    cases (c.fields? index).bind (·.lookup field) <;> rfl

end Catalog

/-! ### Going through indices -/

namespace LiveCatalog

/-- Goes through lists of indices one after the other, each up to the first index that fails: the calls,
and the catalog after them. -/
def rounds (arrays : Catalog.ArrayFields) : List (List String) → LiveCatalog → List Call × LiveCatalog
  | [], l => ([], l)
  | names :: rest, l =>
    let one := refreshAll arrays names l
    let others := rounds arrays rest one.state
    (one.calls ++ others.1, others.2)

/-- A run of refreshes over a cluster: the calls and the catalog after `n` refreshes and, in the next
one, the first `j` indices. -/
def point (live : LiveIndices) (c : Cluster) (n j : ℕ) : List Call × LiveCatalog :=
  rounds live.arrays (List.replicate n live.names ++ [live.names.take j]) { cluster := c }

/-- After some calls every reply has gone to its own call, and the catalog has the fields of every index
that were read last. -/
structure Follows (arrays : Catalog.ArrayFields) (replies : List Reply) (calls : List Call)
    (l : LiveCatalog) : Prop where
  rest : l.cluster.mappings = replies.drop (Call.asked calls).length
  latest : ∀ index,
    Fetch.Latest (fetches arrays (Call.asked calls) replies) index (l.catalog.fields? index)

variable {arrays : Catalog.ArrayFields} {l : LiveCatalog} {index : String} {names : List String}

/-- One index is asked for; when its fields can be read they are its new ones, and otherwise the catalog
stays as it is. -/
theorem refreshIndex_cases (arrays : Catalog.ArrayFields) (l : LiveCatalog) (index : String) :
    Call.asked (refreshIndex arrays l index).calls = [index] ∧
    (refreshIndex arrays l index).state.cluster.mappings = l.cluster.mappings.tail ∧
    ((∃ fields, Fetch.read arrays index l.cluster.mappings = .ok fields ∧
      (refreshIndex arrays l index).result = .ok () ∧
      (refreshIndex arrays l index).state.catalog = l.catalog.setIndex index fields) ∨
    (∃ f, Fetch.read arrays index l.cluster.mappings = .error f ∧
      (refreshIndex arrays l index).result = .error f ∧
      (refreshIndex arrays l index).state.catalog = l.catalog)) := by
  have hread : (l.cluster.properties index).result.bind
      (Mapping.fieldTypes (Catalog.arraysOf arrays index)) =
        Fetch.read arrays index l.cluster.mappings := by
    unfold Cluster.properties Fetch.read
    rcases l.cluster.mappings with _ | ⟨_ | _, _⟩ <;> rfl
  have hrest : (l.cluster.properties index).state.mappings = l.cluster.mappings.tail := by
    unfold Cluster.properties
    rcases l.cluster.mappings with _ | ⟨_ | _, _⟩ <;> rfl
  unfold refreshIndex
  dsimp only
  rw [hread]
  cases Fetch.read arrays index l.cluster.mappings with
  | error f => exact ⟨rfl, hrest, .inr ⟨f, rfl, rfl, rfl⟩⟩
  | ok fields => exact ⟨rfl, hrest, .inl ⟨fields, rfl, rfl, rfl⟩⟩

theorem fields?_refreshAll {i : String} (hi : i ∉ names) :
    (refreshAll arrays names l).state.catalog.fields? i = l.catalog.fields? i := by
  induction names generalizing l with
  | nil => rfl
  | cons index rest ih =>
    obtain ⟨hne, hrest⟩ := not_or.mp (List.mem_cons.not.mp hi)
    have hone : (refreshIndex arrays l index).state.catalog.fields? i = l.catalog.fields? i := by
      obtain ⟨-, -, ⟨fields, -, -, hcatalog⟩ | ⟨f, -, -, hcatalog⟩⟩ := refreshIndex_cases arrays l index
      · rw [hcatalog, Catalog.fields?_setIndex, if_neg hne]
      · rw [hcatalog]
    rw [refreshAll]
    split
    · exact hone
    · exact (ih hrest).trans hone

/-- All indices are gone through, or all up to one that fails, which leaves the catalog as it was before
its fetch. -/
theorem refreshAll_cases (arrays : Catalog.ArrayFields) (names : List String) (l : LiveCatalog) :
    ((refreshAll arrays names l).result = .ok () ∧
      Call.asked (refreshAll arrays names l).calls = names) ∨
    ∃ before index after f, names = before ++ index :: after ∧
      (refreshAll arrays before l).result = .ok () ∧
      Fetch.read arrays index (refreshAll arrays before l).state.cluster.mappings = .error f ∧
      (refreshAll arrays names l).result = .error f ∧
      Call.asked (refreshAll arrays names l).calls = before ++ [index] ∧
      (refreshAll arrays names l).state.catalog = (refreshAll arrays before l).state.catalog := by
  induction names generalizing l with
  | nil => exact .inl ⟨rfl, rfl⟩
  | cons index rest ih =>
    obtain ⟨hasked, -, ⟨fields, -, hok, -⟩ | ⟨f, hread, herror, hcatalog⟩⟩ :=
      refreshIndex_cases arrays l index
    · -- for any rest, as it serves the whole list and the part before the failure
      have hcons (is : List String) : refreshAll arrays (index :: is) l =
          ⟨(refreshAll arrays is (refreshIndex arrays l index).state).result,
            (refreshIndex arrays l index).calls ++
              (refreshAll arrays is (refreshIndex arrays l index).state).calls,
            (refreshAll arrays is (refreshIndex arrays l index).state).state⟩ := by
        rw [refreshAll, hok]
      obtain ⟨hall, hcalls⟩ | ⟨before, i, after, f, rfl, hbefore, hi, hf, hcalls, hcat⟩ :=
        ih (refreshIndex arrays l index).state
      · exact .inl ⟨by rw [hcons, hall], by simp [hcons, hasked, hcalls]⟩
      · exact .inr ⟨index :: before, i, after, f, rfl, by rw [hcons, hbefore], by rw [hcons, hi],
          by rw [hcons, hf], by simp [hcons, hasked, hcalls], by rw [hcons, hcons, hcat]⟩
    · have hstop : refreshAll arrays (index :: rest) l =
          ⟨.error f, (refreshIndex arrays l index).calls, (refreshIndex arrays l index).state⟩ := by
        rw [refreshAll, herror]
      exact .inr ⟨[], index, rest, f, rfl, rfl, hread, by rw [hstop], by rw [hstop, hasked]; rfl,
        by rw [hstop, hcatalog]; rfl⟩

/-! ### Runs -/

variable {replies : List Reply} {calls : List Call}

theorem Follows.refreshIndex (h : Follows arrays replies calls l) (index : String) :
    Follows arrays replies (calls ++ (refreshIndex arrays l index).calls)
      (refreshIndex arrays l index).state := by
  obtain ⟨hasked, hrest, hcases⟩ := refreshIndex_cases arrays l index
  have hhistory : fetches arrays (Call.asked (calls ++ (LiveCatalog.refreshIndex arrays l index).calls))
      replies = fetches arrays (Call.asked calls) replies ++
        [⟨index, Fetch.read arrays index l.cluster.mappings⟩] := by
    rw [Call.asked_append, hasked, fetches_append, h.rest]
    rfl
  refine ⟨by rw [hrest, h.rest, Call.asked_append, hasked, List.tail_drop, List.length_append]; rfl, ?_⟩
  intro i
  rw [hhistory]
  obtain ⟨fields, hread, -, hcatalog⟩ | ⟨f, hread, -, hcatalog⟩ := hcases
  · rw [hcatalog, Catalog.fields?_setIndex, hread]
    by_cases hi : i = index
    · subst hi
      rw [if_pos rfl]
      exact Fetch.latest_snoc_ok fields
    · rw [if_neg hi]
      exact (h.latest i).snoc fun others heq => hi (Fetch.mk.inj heq).1.symm
  · rw [hcatalog, hread]
    exact (h.latest i).snoc fun others heq => by cases (Fetch.mk.inj heq).2

theorem Follows.refreshAll (h : Follows arrays replies calls l) (names : List String) :
    Follows arrays replies (calls ++ (refreshAll arrays names l).calls)
      (refreshAll arrays names l).state := by
  induction names generalizing l calls with
  | nil => simpa [LiveCatalog.refreshAll] using h
  | cons index rest ih =>
    have hone := h.refreshIndex index
    rw [LiveCatalog.refreshAll]
    split
    · exact hone
    · simpa using ih hone

theorem Follows.rounds (h : Follows arrays replies calls l) (lists : List (List String)) :
    Follows arrays replies (calls ++ (rounds arrays lists l).1) (rounds arrays lists l).2 := by
  induction lists generalizing l calls with
  | nil => simpa [LiveCatalog.rounds] using h
  | cons names rest ih => simpa [LiveCatalog.rounds] using ih (h.refreshAll names)

theorem follows_point (live : LiveIndices) (c : Cluster) (n j : ℕ) :
    Follows live.arrays c.mappings (point live c n j).1 (point live c n j).2 := by
  have hstart : Follows live.arrays c.mappings [] { cluster := c } :=
    ⟨rfl, fun index fields hmem => by cases hmem⟩
  exact hstart.rounds _

/-- **A catalog that is read again and again knows what was read last.**  At every point of a run of
refreshes, within a refresh or between two, whatever the replies are, every lookup of an index answers
from the fields that were read of it last, or as for an index that is not known when none were ever read.
A refresh that succeeds has asked for every index.  One that fails has asked up to an index whose fields
cannot be read, and it leaves the catalog as it was before that fetch, so that the indices not gone
through keep their fields. -/
theorem tells_latest (live : LiveIndices) (c : Cluster) (n j : ℕ) :
    (∀ index, ∃ known,
      Fetch.Latest (fetches live.arrays (Call.asked (point live c n j).1) c.mappings) index known ∧
      (point live c n j).2.catalog.Tells index known) ∧
    ∀ l : LiveCatalog,
      ((refresh live l).result = .ok () → Call.asked (refresh live l).calls = live.names) ∧
      ∀ f, (refresh live l).result = .error f →
        ∃ before index after, live.names = before ++ index :: after ∧
          (refreshAll live.arrays before l).result = .ok () ∧
          Fetch.read live.arrays index
            (refreshAll live.arrays before l).state.cluster.mappings = .error f ∧
          Call.asked (refresh live l).calls = before ++ [index] ∧
          (refresh live l).state.catalog = (refreshAll live.arrays before l).state.catalog ∧
          ∀ i ∉ before, (refresh live l).state.catalog.fields? i = l.catalog.fields? i := by
  refine ⟨?_, ?_⟩
  · intro index
    exact ⟨_, (follows_point live c n j).latest index, Catalog.tells_fields? _ index⟩
  · intro l
    unfold refresh
    obtain ⟨hok, hasked⟩ | ⟨before, index, after, f, hnames, hbefore, hread, hf, hasked, hcatalog⟩ :=
      refreshAll_cases live.arrays live.names l
    · refine ⟨fun _ => hasked, ?_⟩
      intro f hf
      rw [hok] at hf
      cases hf
    · refine ⟨?_, ?_⟩
      · intro hok
        rw [hf] at hok
        cases hok
      · intro f' hf'
        obtain rfl := Except.error.inj (hf.symm.trans hf')
        refine ⟨before, index, after, hnames, hbefore, hread, hasked, hcatalog, ?_⟩
        intro i hi
        rw [hcatalog]
        exact fields?_refreshAll hi

def pair : LiveIndices := ⟨["people", "visits"], [("people", ["tags"])]⟩

def mappingOf (name : String) (properties : Entries) : Value :=
  .single name (.single "mappings" (.single "properties" (.obj properties)))

/-- A cluster that fails at the second fetch, then answers under another name, and at last with what is no
mapping. -/
def flaky : Cluster where
  mappings := [
    .answer (mappingOf "people" [("gender", .single "type" (.str "keyword"))]),
    .raises "down",
    .answer (mappingOf "people_v2" [("age", .single "type" (.str "integer")), ("tags", .obj [])]),
    .answer (mappingOf "visits" [("day", .str "date")])]

theorem tells_latest_of_pair :
    (refresh pair { cluster := flaky }).result = .error (.backend "down") ∧
    (∃ before index after, pair.names = before ++ index :: after ∧
      (refreshAll pair.arrays before { cluster := flaky }).result = .ok () ∧
      Fetch.read pair.arrays index
        (refreshAll pair.arrays before { cluster := flaky }).state.cluster.mappings =
          .error (.backend "down") ∧
      Call.asked (refresh pair { cluster := flaky }).calls = before ++ [index] ∧
      (refresh pair { cluster := flaky }).state.catalog =
        (refreshAll pair.arrays before { cluster := flaky }).state.catalog ∧
      ∀ i ∉ before, (refresh pair { cluster := flaky }).state.catalog.fields? i =
        Catalog.fields? {} i) ∧
    (point pair flaky 2 0).2.catalog.indices =
      [("people", [("age", .mk "integer" false none), ("tags", .mk "object" true none)])] ∧
    ∀ index, ∃ known,
      Fetch.Latest (fetches pair.arrays (Call.asked (point pair flaky 2 0).1) flaky.mappings) index
        known ∧
      (point pair flaky 2 0).2.catalog.Tells index known :=
  ⟨rfl, ((tells_latest pair flaky 2 0).2 { cluster := flaky }).2 _ rfl, rfl,
    (tells_latest pair flaky 2 0).1⟩

end LiveCatalog

end ScopedSearch
