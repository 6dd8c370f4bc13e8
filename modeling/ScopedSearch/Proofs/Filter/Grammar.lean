import ScopedSearch.Proofs.Filter.Depth
import ScopedSearch.Proofs.Filter.Words

/-!
# The grammar of filters

Which values write a filter (`Value.WritesFilter`): nothing, a condition, or a group of such values that
there is room for.  Reading accepts exactly these and refuses all others as faults of the caller, and
what it gives has the conditions of the value and no more groups inside each other than there is room
for (`parse_outcome`).
-/

namespace ScopedSearch

/-! ### Groups of trees -/

namespace Expr

mutual

def nesting : Expr → ℕ
  | .leaf _ => 0
  | .group _ parts => 1 + nestingAll parts

def nestingAll : List Expr → ℕ
  | [] => 0
  | e :: es => max e.nesting (nestingAll es)

end

def nesting? : Option Expr → ℕ
  | none => 0
  | some e => e.nesting

@[simp] theorem nestingAll_consPresent (e : Option Expr) (es : List Expr) :
    nestingAll (consPresent e es) = max (nesting? e) (nestingAll es) := by
  cases e with
  | none => simp [consPresent, nesting?]
  | some e => rfl

end Expr

namespace Value

/-! ### Values that write filters -/

/-- The values that write a filter, with `depth` groups around them. -/
inductive WritesFilter : Int → Value → Prop where
  | null (depth : Int) : WritesFilter depth .null
  | empty (depth : Int) : WritesFilter depth (.obj [])
  | group {depth : Int} {key : String} {items : List Value} (c : Connective) (hkey : c.Spells key)
      (hdepth : depth < 64) (hitems : ∀ v ∈ items, WritesFilter (depth + 1) v) :
      WritesFilter depth (.obj [(key, .arr items)])
  | condition (depth : Int) {key : String} (field : String) (value : Value)
      (hkey : ∀ c : Connective, ¬ c.Spells key) :
      WritesFilter depth (.obj [(key, .obj [(field, value)])])

mutual

theorem writesFilter_of_parseFilter {depth : Int} {v : Value} {e : Option Expr}
    (h : v.parseFilter depth = .ok e) : v.WritesFilter depth := by
  rcases parseFilter_cases h with ⟨rfl | rfl, -⟩ | ⟨key, c, items, es, rfl, hc, hd, hes, -⟩ |
    ⟨key, field, value, rfl, hc, -⟩
  · exact .null depth
  · exact .empty depth
  · exact .group c (Connective.ofKey?_eq_some_iff.mp hc) hd (writesFilter_of_parseFilters hes)
  · exact .condition depth field value (Connective.ofKey?_eq_none_iff.mp hc)
termination_by sizeOf v

theorem writesFilter_of_parseFilters {depth : Int} {vs : List Value} {es : List Expr}
    (h : parseFilters depth vs = .ok es) : ∀ v ∈ vs, v.WritesFilter depth := by
  cases vs with
  | nil => simp
  | cons v vs =>
    obtain ⟨e, rest, he, hrest, -⟩ := parseFilters_cons h
    exact List.forall_mem_cons.mpr
      ⟨writesFilter_of_parseFilter he, writesFilter_of_parseFilters hrest⟩
termination_by sizeOf vs

end

theorem exists_parseFilters {depth : Int} {vs : List Value}
    (h : ∀ v ∈ vs, ∃ e, v.parseFilter depth = .ok e) : ∃ es, parseFilters depth vs = .ok es := by
  induction vs with
  | nil => exact ⟨[], by rw [parseFilters]⟩
  | cons v vs ih =>
    obtain ⟨⟨e, he⟩, hvs⟩ := List.forall_mem_cons.mp h
    obtain ⟨es, hes⟩ := ih hvs
    exact ⟨consPresent e es, by simp [parseFilters, he, hes, bind, Except.bind, pure, Except.pure]⟩

theorem exists_parseFilter {depth : Int} {v : Value} (h : v.WritesFilter depth) :
    ∃ e, v.parseFilter depth = .ok e := by
  induction h with
  | null depth => exact ⟨none, by rw [parseFilter]⟩
  | empty depth => exact ⟨none, by rw [parseFilter]⟩
  | @group depth key items c hkey hdepth _ ih =>
    obtain ⟨es, hes⟩ := exists_parseFilters ih
    have hroom : ¬ depthLimit ≤ depth := by
      rw [depthLimit]
      omega
    exact ⟨some (.group c es), by
      simp [parseFilter, Connective.ofKey?_eq_some_iff.mpr hkey, hroom, hes, Except.map]⟩
  | @condition depth key field value hkey =>
    exact ⟨some (.leaf ⟨key, field, value⟩), by
      simp [parseFilter, Connective.ofKey?_eq_none_iff.mpr hkey, toCondition]⟩

/-! ### What is refused -/

theorem kind_of_toCondition {key : String} {v : Value} {f : Failure}
    (h : toCondition key v = .error f) : f.kind = .input := by
  unfold toCondition at h
  split at h
  · cases h
  · cases h
    rfl

mutual

theorem kind_of_parseFilter {depth : Int} {v : Value} {f : Failure}
    (h : v.parseFilter depth = .error f) : f.kind = .input := by
  unfold parseFilter at h
  split at h
  · cases h
  · cases h
  · rename_i key operand
    split at h
    · split at h
      · cases h
        rfl
      · split at h
        · exact kind_of_parseFilters (map_error_iff.mp h)
        · cases h
          rfl
    · exact kind_of_toCondition h
  · cases h
    rfl
termination_by sizeOf v

theorem kind_of_parseFilters {depth : Int} {vs : List Value} {f : Failure}
    (h : parseFilters depth vs = .error f) : f.kind = .input := by
  cases vs with
  | nil => cases h
  | cons v vs =>
    rw [parseFilters] at h
    rcases bind_error_iff.mp h with h | ⟨e, -, h⟩
    · exact kind_of_parseFilter h
    · rcases bind_error_iff.mp h with h | ⟨es, -, h⟩
      · exact kind_of_parseFilters h
      · cases h
termination_by sizeOf vs

end

/-! ### What is read -/

theorem parseFilter_eq_none {depth : Int} {v : Value} {e : Option Expr}
    (h : v.parseFilter depth = .ok e) : e = none ↔ v = .null ∨ v = .obj [] := by
  rcases parseFilter_cases h with ⟨hv, rfl⟩ | ⟨key, c, items, es, rfl, -, -, -, rfl⟩ |
    ⟨key, field, value, rfl, -, rfl⟩
  · exact iff_of_true rfl hv
  · simp
  · simp

mutual

theorem nesting_of_parseFilter {depth : Int} {v : Value} {e : Option Expr}
    (h : v.parseFilter depth = .ok e) : Expr.nesting? e = v.nesting := by
  rcases parseFilter_cases h with ⟨rfl | rfl, rfl⟩ | ⟨key, c, items, es, rfl, hc, -, hes, rfl⟩ |
    ⟨key, field, value, rfl, hc, rfl⟩
  · simp [Expr.nesting?, nesting]
  · simp [Expr.nesting?, nesting]
  · rw [nesting_group hc, Expr.nesting?, Expr.nesting, nesting_of_parseFilters hes]
  · rw [nesting_leaf hc, Expr.nesting?, Expr.nesting]
termination_by sizeOf v

theorem nesting_of_parseFilters {depth : Int} {vs : List Value} {es : List Expr}
    (h : parseFilters depth vs = .ok es) : Expr.nestingAll es = nestingAll vs := by
  cases vs with
  | nil =>
    cases h
    rfl
  | cons v vs =>
    obtain ⟨e, rest, he, hrest, rfl⟩ := parseFilters_cons h
    rw [Expr.nestingAll_consPresent, nesting_of_parseFilter he, nesting_of_parseFilters hrest,
      nestingAll]
termination_by sizeOf vs

end

end Value

namespace Wire

variable {depth : Int} {v : Value} {e : Option Expr}

theorem nesting_le_of_parse (hdepth : depth ≤ 64) (h : (json v).parse depth = .ok e) :
    (Expr.nesting? e : Int) ≤ 64 - depth := by
  have hfits : Fits depth v.nesting := by simpa [nesting] using fits_of_parse h
  rw [parse] at h
  rw [Value.nesting_of_parseFilter h]
  unfold Fits depthLimit at hfits
  omega

/-- **Reading accepts exactly the values that write a filter**, at every depth that groups may have, and
it refuses all others as faults of the caller.  Only null and the empty object are read as no filter;
what is read has room for its groups, and the conditions of the value in their order. -/
theorem parse_outcome (v : Value) {depth : Int} (hdepth : depth ≤ 64) :
    ((∃ e, (json v).parse depth = .ok e) ↔ v.WritesFilter depth) ∧
    (¬ v.WritesFilter depth → ∃ f, (json v).parse depth = .error f ∧ f.kind = .input) ∧
    ∀ e, (json v).parse depth = .ok e →
      (e = none ↔ v = .null ∨ v = .obj []) ∧
      (Expr.nesting? e : Int) ≤ 64 - depth ∧
      Expr.conditions? e = v.conditions := by
  have haccepted : (∃ e, (json v).parse depth = .ok e) ↔ v.WritesFilter depth := by
    rw [parse]
    exact ⟨fun ⟨e, he⟩ => Value.writesFilter_of_parseFilter he, Value.exists_parseFilter⟩
  refine ⟨haccepted, ?_, ?_⟩
  · intro hv
    obtain ⟨f, hf⟩ := exists_error_iff.mpr (mt haccepted.mp hv)
    refine ⟨f, hf, ?_⟩
    rw [parse] at hf
    exact Value.kind_of_parseFilter hf
  · intro e h
    have hroom := nesting_le_of_parse hdepth h
    rw [parse] at h
    exact ⟨Value.parseFilter_eq_none h, hroom, Value.conditions_of_parseFilter h⟩

end Wire

/-- Two groups inside each other, with parts that do not count. -/
def Value.adultWoman : Value :=
  .obj [("AND", .arr [.null, .obj [("=", .obj [("gender", .str "f")])],
    .obj [("Or", .arr [.obj [], .obj [(">=", .obj [("age", .int 20)])]])]])]

def Expr.adultWoman : Expr :=
  .group .all [.leaf ⟨"=", "gender", .str "f"⟩, .group .any [.leaf ⟨">=", "age", .int 20⟩]]

namespace Wire

/-- There is room for the two groups inside 62 others, but not inside 63. -/
theorem parse_outcome_of_adultWoman :
    (62 : Int) ≤ 64 ∧ (json .adultWoman).parse 62 = .ok (some .adultWoman) ∧
    Value.adultWoman.WritesFilter 62 ∧
    (some Expr.adultWoman = none ↔ Value.adultWoman = .null ∨ Value.adultWoman = .obj []) ∧
    (Expr.nesting? (some .adultWoman) : Int) ≤ 64 - 62 ∧
    Expr.conditions? (some .adultWoman) = Value.adultWoman.conditions ∧
    (63 : Int) ≤ 64 ∧ ¬ Value.adultWoman.WritesFilter 63 ∧
    ∃ f, (json .adultWoman).parse 63 = .error f ∧ f.kind = .input := by
  have hread : (json .adultWoman).parse 62 = .ok (some .adultWoman) := by cbv
  have hrefused : (json .adultWoman).parse 63 = .error .filterTooDeep := by cbv
  obtain ⟨haccepted, -, htold⟩ := parse_outcome .adultWoman (by decide : (62 : Int) ≤ 64)
  obtain ⟨hroom, hinput, -⟩ := parse_outcome .adultWoman (by decide : (63 : Int) ≤ 64)
  have hover : ¬ Value.adultWoman.WritesFilter 63 := by
    rw [← hroom, hrefused]
    simp
  obtain ⟨habsent, hgroups, hconditions⟩ := htold _ hread
  exact ⟨by decide, hread, haccepted.mp ⟨_, hread⟩, habsent, hgroups, hconditions, by decide, hover,
    hinput hover⟩

end Wire

end ScopedSearch
