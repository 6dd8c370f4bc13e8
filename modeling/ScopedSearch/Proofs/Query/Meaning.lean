import Mathlib.Data.List.Basic
import Mathlib.Tactic.MkIffOfInductiveProp
import ScopedSearch.Query.Fragment
import ScopedSearch.Proofs.Value.Equality

/-!
# What a query means

Which documents a query matches as it is sent, under any reading of the clauses on single fields: the
words of the clauses and of the groups say what they ask (`Value.Matches`).  A fragment means what is
sent for it (`Fragment.matches_toValue`), and what is sent tells the fragment (`toValue_injective`).
Two fragments whose values are equal match the same documents under every reading that does not tell
equal values apart (`matches_of_eqv`).
-/

namespace ScopedSearch

universe u

/-- What the clauses on single fields say of the documents of a type: whether the field of a document
stands to a value as an operator asks. -/
abbrev Reading (δ : Type u) := Operator → String → Value → δ → Prop

/-- The reading does not tell equal values apart. -/
def Reading.Coherent {δ : Type u} (I : Reading δ) : Prop :=
  ∀ o field v w d, v.eqv w = true → (I o field v d ↔ I o field w d)

/-- What a connective makes of what its parts say: all of it, or at least one thing. -/
def Connective.Joins : Connective → List Prop → Prop
  | all, ps => ∀ p ∈ ps, p
  | any, ps => ∃ p ∈ ps, p

namespace Connective

@[simp] theorem joins_all_nil : all.Joins [] := by simp [Joins]

@[simp] theorem joins_all_cons {p : Prop} {ps : List Prop} :
    all.Joins (p :: ps) ↔ p ∧ all.Joins ps := List.forall_mem_cons

theorem joins_any_cons {p : Prop} {ps : List Prop} : any.Joins (p :: ps) ↔ p ∨ any.Joins ps :=
  List.exists_mem_cons_iff _ p ps

theorem keyword_inj {c c' : Connective} : c.keyword = c'.keyword ↔ c = c' := by
  cases c <;> cases c' <;> simp [keyword]

end Connective

theorem Bound.word_inj {b b' : Bound} : b.word = b'.word ↔ b = b' := by
  cases b <;> cases b' <;> simp [word]

/-! ### Queries as they are sent -/

/-- Whether a document matches a query as it is sent. -/
@[mk_iff]
inductive Value.Matches {δ : Type u} (I : Reading δ) (d : δ) : Value → Prop
  | term {field : String} {v : Value} (h : I .eq field v d) :
    Matches I d (.obj [("term", .obj [(field, v)])])
  | terms {field : String} {v : Value} (h : I .member field v d) :
    Matches I d (.obj [("terms", .obj [(field, v)])])
  | gt {field : String} {v : Value} (h : I (.bound .gt) field v d) :
    Matches I d (.obj [("range", .obj [(field, .obj [("gt", v)])])])
  | gte {field : String} {v : Value} (h : I (.bound .gte) field v d) :
    Matches I d (.obj [("range", .obj [(field, .obj [("gte", v)])])])
  | lt {field : String} {v : Value} (h : I (.bound .lt) field v d) :
    Matches I d (.obj [("range", .obj [(field, .obj [("lt", v)])])])
  | lte {field : String} {v : Value} (h : I (.bound .lte) field v d) :
    Matches I d (.obj [("range", .obj [(field, .obj [("lte", v)])])])
  | must {parts : List Value} (h : ∀ p ∈ parts, Matches I d p) :
    Matches I d (.obj [("bool", .obj [("must", .arr parts)])])
  | should {p : Value} {parts : List Value} (hp : p ∈ parts) (h : Matches I d p) :
    Matches I d (.obj [("bool", .obj [("should", .arr parts)])])

/-- Whether a document matches a query that may be left out; what is left out asks for nothing. -/
def Value.Matches? {δ : Type u} (I : Reading δ) (d : δ) : Option Value → Prop
  | none => True
  | some query => query.Matches I d

namespace Value

variable {δ : Type u} {I : Reading δ} {d : δ} {field : String} {v : Value} {parts : List Value}

theorem matches_term : (single "term" (single field v)).Matches I d ↔ I .eq field v d := by
  rw [matches_iff]
  simp [single]

theorem matches_terms : (single "terms" (single field v)).Matches I d ↔ I .member field v d := by
  rw [matches_iff]
  simp [single]

theorem matches_range {b : Bound} :
    (single "range" (single field (single b.word v))).Matches I d ↔ I (.bound b) field v d := by
  rw [matches_iff]
  cases b <;> simp [single, Bound.word]

theorem matches_must :
    (single "bool" (single "must" (.arr parts))).Matches I d ↔ ∀ p ∈ parts, p.Matches I d := by
  rw [matches_iff]
  simp [single]

theorem matches_should :
    (single "bool" (single "should" (.arr parts))).Matches I d ↔ ∃ p ∈ parts, p.Matches I d := by
  rw [matches_iff]
  simp [single]

theorem matches_group {c : Connective} :
    (Fragment.groupValue c (.arr parts)).Matches I d ↔ c.Joins (parts.map (·.Matches I d)) := by
  cases c with
  | all =>
    show _ ↔ ∀ p ∈ parts.map (·.Matches I d), p
    rw [List.forall_mem_map]
    exact matches_must
  | any =>
    constructor
    · intro h
      obtain ⟨p, hp, h⟩ := matches_should.mp h
      exact ⟨_, List.mem_map_of_mem hp, h⟩
    · rintro ⟨_, hq, h⟩
      obtain ⟨p, hp, rfl⟩ := List.mem_map.mp hq
      exact matches_should.mpr ⟨p, hp, h⟩

end Value

/-! ### Fragments -/

namespace Fragment

variable {δ : Type u}

mutual

def Matches (I : Reading δ) (d : δ) : Fragment → Prop
  | .term field v => I .eq field v d
  | .terms field v => I .member field v d
  | .range b field v => I (.bound b) field v d
  | .bool c parts => c.Joins (matchesEach I d parts)

def matchesEach (I : Reading δ) (d : δ) : List Fragment → List Prop
  | [] => []
  | p :: ps => p.Matches I d :: matchesEach I d ps

end

/-- Whether a document matches a fragment that may be absent; what is absent asks for nothing. -/
def Matches? (I : Reading δ) (d : δ) : Option Fragment → Prop
  | none => True
  | some g => g.Matches I d

@[simp] theorem matches_ofOperator (I : Reading δ) (d : δ) (o : Operator) (field : String) (v : Value) :
    (ofOperator o field v).Matches I d ↔ I o field v d := by
  cases o <;> simp [ofOperator, Matches]

theorem matches_all_pair (I : Reading δ) (d : δ) (a b : Fragment) :
    (Fragment.bool .all [a, b]).Matches I d ↔ a.Matches I d ∧ b.Matches I d := by
  simp [Matches, matchesEach]

/-! ### A fragment and its value -/

mutual

/-- **A fragment means what is sent for it.** -/
theorem matches_toValue (I : Reading δ) (d : δ) : ∀ f : Fragment, f.toValue.Matches I d ↔ f.Matches I d
  | .term field v => by rw [toValue, Matches, Value.matches_term]
  | .terms field v => by rw [toValue, Matches, Value.matches_terms]
  | .range b field v => by rw [toValue, Matches, Value.matches_range]
  | .bool c parts => by rw [toValue, Matches, Value.matches_group, matchesEach_toValues I d parts]

theorem matchesEach_toValues (I : Reading δ) (d : δ) : ∀ fs : List Fragment,
    (toValues fs).map (·.Matches I d) = matchesEach I d fs
  | [] => rfl
  | f :: fs => by
    rw [toValues, matchesEach, List.map_cons, propext (matches_toValue I d f),
      matchesEach_toValues I d fs]

end

theorem matches?_map_toValue {I : Reading δ} {d : δ} {q : Option Fragment} :
    Value.Matches? I d (q.map toValue) ↔ Matches? I d q := by
  cases q with
  | none => rfl
  | some g => exact matches_toValue I d g

mutual

theorem toValue_injective : ∀ {a b : Fragment}, a.toValue = b.toValue → a = b
  | .term _ _, b, h => by
    cases b <;> simp_all [toValue, groupValue, Value.single_inj]
  | .terms _ _, b, h => by
    cases b <;> simp_all [toValue, groupValue, Value.single_inj]
  | .range _ _ _, b, h => by
    cases b <;> simp_all [toValue, groupValue, Value.single_inj, Bound.word_inj]
  | .bool c ps, b, h => by
    cases b with
    | bool c' qs =>
      simp only [toValue, groupValue, Value.single_inj, Connective.keyword_inj, Value.arr.injEq,
        true_and] at h
      rw [h.1, toValues_injective h.2]
    | _ => simp [toValue, groupValue, Value.single_inj] at h

theorem toValues_injective : ∀ {ps qs : List Fragment}, toValues ps = toValues qs → ps = qs
  | [], [], _ => rfl
  | [], _ :: _, h => by simp [toValues] at h
  | _ :: _, [], h => by simp [toValues] at h
  | p :: ps, q :: qs, h => by
    simp only [toValues, List.cons.injEq] at h
    rw [toValue_injective h.1, toValues_injective h.2]

end

mutual

/-- **Equal fragments match the same documents**, under a reading that does not tell equal values
apart. -/
theorem matches_of_eqv {I : Reading δ} (hI : I.Coherent) (d : δ) :
    ∀ {a b : Fragment}, a.eqv b = true → (a.Matches I d ↔ b.Matches I d)
  | .term _ _, b, h => by
    cases b with
    | term field w =>
      simp only [eqv, toValue, Value.eqv_single, true_and] at h
      obtain ⟨rfl, hv⟩ := h
      exact hI _ _ _ _ d hv
    | _ => simp [eqv, toValue, groupValue] at h
  | .terms _ _, b, h => by
    cases b with
    | terms field w =>
      simp only [eqv, toValue, Value.eqv_single, true_and] at h
      obtain ⟨rfl, hv⟩ := h
      exact hI _ _ _ _ d hv
    | _ => simp [eqv, toValue, groupValue] at h
  | .range _ _ _, b, h => by
    cases b with
    | range b' field w =>
      simp only [eqv, toValue, Value.eqv_single, true_and, Bound.word_inj] at h
      obtain ⟨rfl, rfl, hv⟩ := h
      exact hI _ _ _ _ d hv
    | _ => simp [eqv, toValue, groupValue] at h
  | .bool c ps, b, h => by
    cases b with
    | bool c' qs =>
      simp only [eqv, toValue, groupValue, Value.eqv_single, Value.eqv_arr, true_and,
        Connective.keyword_inj] at h
      obtain ⟨rfl, hps⟩ := h
      rw [Matches, Matches, matchesEach_of_eqv hI d hps]
    | _ => simp [eqv, toValue, groupValue] at h

theorem matchesEach_of_eqv {I : Reading δ} (hI : I.Coherent) (d : δ) :
    ∀ {ps qs : List Fragment}, Value.eqvList (toValues ps) (toValues qs) = true →
      matchesEach I d ps = matchesEach I d qs
  | [], [], _ => rfl
  | [], _ :: _, h => by simp [toValues, Value.eqvList] at h
  | _ :: _, [], h => by simp [toValues, Value.eqvList] at h
  | p :: ps, q :: qs, h => by
    simp only [toValues, Value.eqvList, Bool.and_eq_true] at h
    rw [matchesEach, matchesEach, propext (matches_of_eqv hI d h.1), matchesEach_of_eqv hI d h.2]

end

end Fragment

end ScopedSearch
