import Mathlib.Data.List.Perm.Subperm
import ScopedSearch.Proofs.Catalog.Keyed

/-!
# Equality of fields

Fields are compared by name, whatever their order.  On keyed fields that is symmetric
(`eqvFields_symm`), and it is transitive on all fields (`eqvFields_trans`); equal fields have equal
types under the same names (`exists_of_eqvFields`).
-/

namespace ScopedSearch

theorem Fields.lookup_of_mem {ps : Fields} (hk : (Fields.names ps).Nodup) {p : String × FieldType}
    (hp : p ∈ ps) : ps.lookup p.1 = some p.2 := by
  induction ps with
  | nil => cases hp
  | cons q ps ih =>
    obtain ⟨n, t⟩ := q
    rw [Fields.names, List.map_cons, List.nodup_cons] at hk
    obtain ⟨hn, hk⟩ := hk
    rcases List.mem_cons.mp hp with rfl | hp
    · simp
    · have hne : p.1 ≠ n := by
        intro h
        exact hn (List.mem_map.mpr ⟨p, hp, h⟩)
      have hbeq : (p.1 == n) = false := by simpa using hne
      rw [List.lookup_cons, hbeq]
      exact ih hk hp

theorem mem_of_lookup {α β : Type} [BEq α] [LawfulBEq α] {entries : List (α × β)} {key : α} {value : β}
    (h : entries.lookup key = some value) : (key, value) ∈ entries := by
  obtain ⟨before, after, rfl, -⟩ := List.lookup_eq_some_iff.mp h
  simp

namespace FieldType

/-! ### Induction on what is below -/

/-- A property of field types that each has when those below it have it. -/
theorem subfields_induction {P : FieldType → Prop}
    (step : ∀ t : FieldType, (∀ p ∈ t.subfields, P p.2) → P t) (t : FieldType) : P t := by
  induction h : t.size using Nat.strongRecOn generalizing t with
  | _ n ih =>
    subst h
    refine step t fun p hp => ih p.2.size ?_ p.2 rfl
    have hle := size_le_sizeAll hp
    have hsize := size_eq t
    omega

/-! ### What equality says -/

theorem eqvIn_iff {ps qs : Fields} :
    eqvIn ps qs = true ↔ ∀ p ∈ ps, ∃ u, qs.lookup p.1 = some u ∧ p.2.eqv u = true := by
  induction ps with
  | nil => simp [eqvIn]
  | cons p ps ih =>
    obtain ⟨n, t⟩ := p
    rw [eqvIn, Bool.and_eq_true, ih, List.forall_mem_cons]
    refine and_congr_left fun _ => ?_
    cases qs.lookup n <;> simp

theorem eqvFields_iff {ps qs : Fields} :
    eqvFields ps qs = true ↔
      ps.length = qs.length ∧ ∀ p ∈ ps, ∃ u, qs.lookup p.1 = some u ∧ p.2.eqv u = true := by
  simp [eqvFields, eqvIn_iff]

theorem eqv_iff {t u : FieldType} :
    t.eqv u = true ↔ t.esType = u.esType ∧ t.isArray = u.isArray ∧
      t.properties?.isSome = u.properties?.isSome ∧ eqvFields t.subfields u.subfields = true := by
  obtain ⟨ty, a, ps⟩ := t
  obtain ⟨ty', a', ps'⟩ := u
  cases ps <;> cases ps' <;>
    simp [eqv, eqvFields, eqvIn, esType, isArray, subfields, properties?, and_assoc]

theorem exists_of_eqvFields {ps qs : Fields} (h : eqvFields ps qs = true) {p : String × FieldType}
    (hp : p ∈ ps) : ∃ q ∈ qs, q.1 = p.1 ∧ p.2.eqv q.2 = true := by
  obtain ⟨u, hu, heq⟩ := (eqvFields_iff.mp h).2 p hp
  exact ⟨(p.1, u), mem_of_lookup hu, rfl, heq⟩

/-! ### Transitivity -/

theorem eqvFields_trans_of {ps qs rs : Fields}
    (step : ∀ p ∈ ps, ∀ u v, p.2.eqv u = true → u.eqv v = true → p.2.eqv v = true)
    (h : eqvFields ps qs = true) (h' : eqvFields qs rs = true) : eqvFields ps rs = true := by
  rw [eqvFields_iff] at h h' ⊢
  refine ⟨h.1.trans h'.1, fun p hp => ?_⟩
  obtain ⟨u, hu, hpu⟩ := h.2 p hp
  obtain ⟨v, hv, huv⟩ := h'.2 _ (mem_of_lookup hu)
  exact ⟨v, hv, step p hp u v hpu huv⟩

theorem eqv_trans {t u v : FieldType} (h : t.eqv u = true) (h' : u.eqv v = true) :
    t.eqv v = true := by
  induction t using subfields_induction generalizing u v with
  | step t ih =>
    obtain ⟨htype, harray, hsome, hbelow⟩ := eqv_iff.mp h
    obtain ⟨htype', harray', hsome', hbelow'⟩ := eqv_iff.mp h'
    have hfields := eqvFields_trans_of (fun p hp u v => ih p hp) hbelow hbelow'
    exact eqv_iff.mpr ⟨htype.trans htype', harray.trans harray', hsome.trans hsome', hfields⟩

/-- **Equality of fields is transitive.** -/
theorem eqvFields_trans {ps qs rs : Fields} (h : eqvFields ps qs = true)
    (h' : eqvFields qs rs = true) : eqvFields ps rs = true :=
  eqvFields_trans_of (fun _ _ _ _ => eqv_trans) h h'

/-! ### Symmetry -/

/-- Equal keyed fields have the same names: there are as many on either side, so none is left over. -/
theorem names_perm_of_eqvFields {ps qs : Fields} (hp : (Fields.names ps).Nodup)
    (h : eqvFields ps qs = true) : (Fields.names ps).Perm (Fields.names qs) := by
  have hsub : Fields.names ps ⊆ Fields.names qs := by
    intro n hn
    obtain ⟨p, hp, rfl⟩ := List.mem_map.mp hn
    obtain ⟨q, hq, hname, -⟩ := exists_of_eqvFields h hp
    exact hname ▸ List.mem_map_of_mem hq
  have hlength := (eqvFields_iff.mp h).1
  refine (List.Nodup.subperm hp hsub).perm_of_length_le ?_
  simp [Fields.names, hlength]

/-- Keyed fields that others equal, when those below them do so. -/
theorem eqvFields_symm_of {ps qs : Fields} (hp : (Fields.names ps).Nodup)
    (hq : (Fields.names qs).Nodup)
    (step : ∀ p ∈ ps, ∀ q ∈ qs, p.2.eqv q.2 = true → q.2.eqv p.2 = true)
    (h : eqvFields ps qs = true) : eqvFields qs ps = true := by
  rw [eqvFields_iff]
  refine ⟨(eqvFields_iff.mp h).1.symm, fun q hmem => ?_⟩
  have hname : q.1 ∈ Fields.names ps :=
    (names_perm_of_eqvFields hp h).mem_iff.mpr (List.mem_map_of_mem hmem)
  obtain ⟨p, hpmem, hpq⟩ := List.mem_map.mp hname
  obtain ⟨u, hu, heq⟩ := (eqvFields_iff.mp h).2 p hpmem
  -- the only field of this name is `q`
  rw [hpq, Fields.lookup_of_mem hq hmem, Option.some.injEq] at hu
  subst hu
  exact ⟨p.2, hpq ▸ Fields.lookup_of_mem hp hpmem, step p hpmem q hmem heq⟩

theorem eqv_symm {t u : FieldType} (ht : t.Keyed) (hu : u.Keyed) (h : t.eqv u = true) :
    u.eqv t = true := by
  induction t using subfields_induction generalizing u with
  | step t ih =>
    obtain ⟨htype, harray, hsome, hbelow⟩ := eqv_iff.mp h
    have hfields : eqvFields u.subfields t.subfields = true := by
      refine eqvFields_symm_of ht.subfields.1 hu.subfields.1 (fun p hp q hq hpq => ?_) hbelow
      exact ih p hp (allKeyed_iff.mp ht.subfields.2 p hp) (allKeyed_iff.mp hu.subfields.2 q hq) hpq
    exact eqv_iff.mpr ⟨htype.symm, harray.symm, hsome.symm, hfields⟩

/-- **Equality of keyed fields is symmetric.** -/
theorem eqvFields_symm {ps qs : Fields} (hp : Fields.Keyed ps) (hq : Fields.Keyed qs)
    (h : eqvFields ps qs = true) : eqvFields qs ps = true := by
  refine eqvFields_symm_of hp.1 hq.1 (fun p hpmem q hqmem hpq => ?_) h
  exact eqv_symm (allKeyed_iff.mp hp.2 p hpmem) (allKeyed_iff.mp hq.2 q hqmem) hpq

end FieldType

end ScopedSearch
