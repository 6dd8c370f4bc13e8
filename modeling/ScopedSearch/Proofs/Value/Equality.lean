import ScopedSearch.Value

/-!
# Equality of values

Equality of objects with one entry, of texts, and the lists whose members are texts.  Objects with
one entry are what compiled queries are made of, and texts are what resources are.
-/

namespace ScopedSearch

namespace Value

/-! ### Objects with one entry -/

@[simp] theorem eqv_single {k l : String} {v w : Value} :
    (single k v).eqv (single l w) = true ↔ k = l ∧ v.eqv w = true := by
  by_cases h : k = l
  · subst h; simp [single, eqv, eqvIn]
  · have hb : (k == l) = false := beq_false_of_ne h
    simp [single, eqv, eqvIn, List.lookup_cons, hb, h]

theorem single_inj {k l : String} {v w : Value} : single k v = single l w ↔ k = l ∧ v = w := by
  simp [single]

@[simp] theorem eqv_arr {vs ws : List Value} : (arr vs).eqv (arr ws) = eqvList vs ws := by
  simp [eqv]

/-! ### Texts -/

@[simp] theorem eqv_str {v : Value} {s : String} : v.eqv (.str s) = true ↔ v = .str s := by
  cases v <;> simp [eqv, numberEqv]

@[simp] theorem str_eqv {v : Value} {s : String} : (str s).eqv v = true ↔ v = .str s := by
  cases v with
  | str t => simp only [eqv, beq_iff_eq, str.injEq]; exact eq_comm
  | _ => simp [eqv, numberEqv]

theorem isIn_iff {v : Value} {vs : List Value} : v.isIn vs = true ↔ ∃ w ∈ vs, v.eqv w = true := by
  simp [isIn]

theorem isIn_texts {v : Value} {ss : List String} :
    v.isIn (ss.map .str) = true ↔ ∃ s ∈ ss, v = .str s := by
  simp only [isIn_iff, List.mem_map]
  constructor
  · rintro ⟨_, ⟨s, hs, rfl⟩, h⟩
    exact ⟨s, hs, eqv_str.mp h⟩
  · rintro ⟨s, hs, rfl⟩
    exact ⟨_, ⟨s, hs, rfl⟩, eqv_str.mpr rfl⟩

end Value

end ScopedSearch
