import Mathlib
import ScopedSearch.Filter.Operator
import ScopedSearch.Proofs.Catalog.Equality

/-!
# The words of filters

Which keys spell a connective and which spell an operator, told apart from how keys are read.  A key is
read as the connective that it spells (`Connective.ofKey?_eq_some_iff`), and as the operator that it
spells (`Operator.ofSpelling?_eq_some_iff`).
-/

namespace ScopedSearch

/-! ### Connectives -/

namespace Connective

/-- A key spells a connective when it is its name, with each letter large or small. -/
def Spells (c : Connective) (key : String) : Prop :=
  List.Forall₂ (fun k w => k = w ∨ k = w.toUpper) key.toList c.word.toList

-- The lemmas on the case of ASCII letters come only with the whole of Mathlib.
theorem toLower_eq_iff {k w : Char} (hw : w.isLower = true) :
    k.toLower = w ↔ k = w ∨ k = w.toUpper := by
  constructor
  · rintro rfl
    by_cases hk : k.isUpper = true
    · right
      rw [Char.toUpper_toLower_eq_toUpper,
        Char.toUpper_eq_of_not_isLower (Char.not_isLower_of_isUpper hk)]
    · exact .inl (Char.toLower_eq_of_not_isUpper hk).symm
  · have hlow : w.toLower = w := Char.toLower_eq_of_not_isUpper (Char.not_isUpper_of_isLower hw)
    rintro (rfl | rfl)
    · exact hlow
    · rw [Char.toLower_toUpper_eq_toLower, hlow]

theorem map_toLower_eq_iff {ws : List Char} (hws : ∀ w ∈ ws, w.isLower = true) (ks : List Char) :
    ks.map Char.toLower = ws ↔ List.Forall₂ (fun k w => k = w ∨ k = w.toUpper) ks ws := by
  induction ws generalizing ks with
  | nil => simp
  | cons w ws ih =>
    obtain ⟨hw, hws⟩ := List.forall_mem_cons.mp hws
    cases ks with
    | nil => simp
    | cons k ks => simp [toLower_eq_iff hw, ih hws]

theorem isLower_of_mem_word {c : Connective} : ∀ w ∈ c.word.toList, w.isLower = true := by
  cases c <;> simp [word, Char.isLower]

theorem spells_iff {c : Connective} {key : String} : c.Spells key ↔ key.toLower = c.word := by
  rw [Spells, ← map_toLower_eq_iff isLower_of_mem_word, ← String.toList_inj, String.toLower,
    String.toList_map]

theorem ofWord?_eq_some_iff {c : Connective} {s : String} : ofWord? s = some c ↔ s = c.word := by
  refine ⟨fun h => ?_, fun h => h ▸ ofWord?_word c⟩
  unfold ofWord? at h
  split at h
  · rename_i hs
    cases h
    simpa [word] using hs
  · split at h
    · rename_i hs
      cases h
      simpa [word] using hs
    · cases h

theorem ofKey?_eq_some_iff {c : Connective} {key : String} : ofKey? key = some c ↔ c.Spells key := by
  rw [spells_iff, ofKey?, ofWord?_eq_some_iff]

theorem ofKey?_eq_none_iff {key : String} : ofKey? key = none ↔ ∀ c : Connective, ¬ c.Spells key := by
  simp only [← ofKey?_eq_some_iff, Option.eq_none_iff_forall_ne_some, ne_eq]

instance (c : Connective) (key : String) : Decidable (c.Spells key) :=
  decidable_of_iff _ spells_iff.symm

def spelled? (key : String) : Option Connective := [all, any].find? (·.Spells key)

theorem spelled?_eq_ofKey? (key : String) : spelled? key = ofKey? key := by
  have hand : all.Spells key ↔ key.toLower = "and" := spells_iff
  have hor : any.Spells key ↔ key.toLower = "or" := spells_iff
  by_cases hall : key.toLower = "and"
  · simp [spelled?, ofKey?, ofWord?, hand, hall]
  · by_cases hany : key.toLower = "or" <;>
      simp [spelled?, ofKey?, ofWord?, hand, hor, hall, hany]

end Connective

/-! ### Operators -/

namespace Operator

/-- The sign of an operator; membership has none. -/
def sign? : Operator → Option String
  | eq => some "="
  | member => none
  | bound .gt => some ">"
  | bound .gte => some ">="
  | bound .lt => some "<"
  | bound .lte => some "<="

/-- A key spells an operator when it is its name, in small letters or in capitals, or its sign. -/
def Spells (o : Operator) (key : String) : Prop :=
  key = o.word ∨ key = o.word.toUpper ∨ o.sign? = some key

instance (o : Operator) (key : String) : Decidable (o.Spells key) :=
  inferInstanceAs (Decidable (_ ∨ _))

theorem ofSpelling?_eq_some_iff {o : Operator} {key : String} :
    ofSpelling? key = some o ↔ o.Spells key := by
  constructor
  · intro h
    have hall : ∀ e ∈ spellings, e.2.Spells e.1 := by decide +kernel
    exact hall (key, o) (mem_of_lookup h)
  · have hname : ofSpelling? o.word.toUpper = some o := by
      rcases o with _ | _ | (_ | _ | _ | _) <;> decide +kernel
    rintro (rfl | rfl | hsign)
    · exact ofSpelling?_word o
    · exact hname
    · rcases o with _ | _ | (_ | _ | _ | _) <;> cases hsign <;> decide +kernel

end Operator

end ScopedSearch
