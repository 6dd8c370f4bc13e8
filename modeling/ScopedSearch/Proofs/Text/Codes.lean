import Mathlib.Data.Set.Function

/-!
# Codes that can be read back

When a text tells the parts that it was put together from: a part ends where a character comes that it
cannot hold (`append_inj_of_stops`), and words of which none can be mistaken for the beginning of another
tell their sequence (`PrefixCode.flatMap_injOn`).
-/

namespace ScopedSearch

variable {α β : Type*}

/-- The list does not go on with a member of `p`. -/
def Stops (p : α → Bool) (l : List α) : Prop := ∀ a ∈ l.head?, p a = false

@[simp] theorem stops_cons (p : α → Bool) (a : α) (l : List α) : Stops p (a :: l) ↔ p a = false := by
  simp [Stops]

theorem stops_of_forall {p : α → Bool} {l : List α} (h : ∀ a ∈ l, p a = false) : Stops p l :=
  fun a ha => h a (List.mem_of_mem_head? ha)

/-- Members of `p` in front of a list that does not go on with one end where that list begins. -/
theorem append_inj_of_stops {p : α → Bool} {u v r s : List α} (hu : ∀ a ∈ u, p a) (hv : ∀ a ∈ v, p a)
    (hr : Stops p r) (hs : Stops p s) (h : u ++ r = v ++ s) : u = v ∧ r = s := by
  induction u generalizing v with
  | nil =>
    cases v with
    | nil => exact ⟨rfl, h⟩
    | cons b v =>
      have hb : p b = true := hv b List.mem_cons_self
      rw [List.nil_append] at h
      rw [h, List.cons_append, stops_cons, hb] at hr
      contradiction
  | cons a u ih =>
    cases v with
    | nil =>
      have ha : p a = true := hu a List.mem_cons_self
      rw [List.nil_append] at h
      rw [← h, List.cons_append, stops_cons, ha] at hs
      contradiction
    | cons b v =>
      rw [List.forall_mem_cons] at hu hv
      obtain ⟨hab, htail⟩ := List.cons.inj h
      obtain ⟨huv, hrs⟩ := ih hu.2 hv.2 htail
      rw [hab, huv]
      exact ⟨rfl, hrs⟩

/-- A code whose words can be read off whatever comes after them. -/
structure PrefixCode (code : α → List β) (S : Set α) : Prop where
  ne_nil : ∀ a ∈ S, code a ≠ []
  read : ∀ a ∈ S, ∀ b ∈ S, ∀ r s, code a ++ r = code b ++ s → a = b ∧ r = s

/-- A text over a prefix code tells its words. -/
theorem PrefixCode.flatMap_injOn {code : α → List β} {S : Set α} (h : PrefixCode code S) :
    Set.InjOn (List.flatMap code) {l | ∀ a ∈ l, a ∈ S} := by
  intro l hl m hm heq
  induction l generalizing m with
  | nil =>
    cases m with
    | nil => rfl
    | cons b m =>
      have hnil : code b = [] := (List.append_eq_nil_iff.mp heq.symm).1
      exact absurd hnil (h.ne_nil b (hm b List.mem_cons_self))
  | cons a l ih =>
    cases m with
    | nil =>
      have hnil : code a = [] := (List.append_eq_nil_iff.mp heq).1
      exact absurd hnil (h.ne_nil a (hl a List.mem_cons_self))
    | cons b m =>
      obtain ⟨rfl, htail⟩ := h.read a (hl a List.mem_cons_self) b (hm b List.mem_cons_self) _ _ heq
      rw [ih (fun c hc => hl c (List.mem_cons_of_mem _ hc))
        (fun c hc => hm c (List.mem_cons_of_mem _ hc)) htail]

theorem prefixCode_singleton {letter : α → β} {S : Set α} (h : Set.InjOn letter S) :
    PrefixCode (fun a => [letter a]) S where
  ne_nil _ _ := List.cons_ne_nil _ _
  read a ha b hb r s heq := by
    obtain ⟨hab, hrs⟩ := List.cons.inj heq
    exact ⟨h ha hb hab, hrs⟩

theorem map_injOn {f : α → β} {S : Set α} (h : Set.InjOn f S) :
    Set.InjOn (List.map f) {l | ∀ a ∈ l, a ∈ S} := by
  intro l hl m hm heq
  simp only [List.map_eq_flatMap] at heq
  exact (prefixCode_singleton h).flatMap_injOn hl hm heq

theorem intercalate_cons (sep l : List α) (ls : List (List α)) :
    sep.intercalate (l :: ls) = l ++ ls.flatMap (sep ++ ·) := by
  induction ls generalizing l with
  | nil => simp
  | cons m ls ih => rw [List.intercalate_cons_cons, ih, List.flatMap_cons, List.append_assoc, List.append_assoc]

theorem mem_of_mem_intercalate {sep : List α} {ls : List (List α)} {a : α} (h : a ∈ sep.intercalate ls) :
    a ∈ sep ∨ ∃ l ∈ ls, a ∈ l := by
  cases ls with
  | nil => simp at h
  | cons l ls =>
    simp only [intercalate_cons, List.mem_append, List.mem_flatMap] at h
    rcases h with h | ⟨m, hm, h | h⟩
    · exact .inr ⟨l, List.mem_cons_self, h⟩
    · exact .inl h
    · exact .inr ⟨m, List.mem_cons_of_mem _ hm, h⟩

end ScopedSearch
