import ScopedSearch.Proofs.Query.Aggregation

/-!
# Well-formed queries

What a search cluster takes for a query on the fields of a lexicon (`Lexicon.Query`): objects with one
key, either a clause on a field that filters may speak of, or a group that holds at least one query.  An
empty group would match every document, so no compiled filter may have one, however its parts were
dropped or replaced.  The queries that filters compile to are well-formed at every depth, for filters of
documents and of aggregations alike, and every well-formed query is compiled from some filter
(`compiled_queries`).
-/

namespace ScopedSearch

namespace Lexicon

def HasClass (lex : Lexicon) (field : String) (k : FieldClass) : Prop :=
  ∃ t, lex.fields.lookup field = some t ∧ lex.tables.class? t.esType = some k

/-- The well-formed queries on the fields of a lexicon. -/
inductive Query (lex : Lexicon) : Value → Prop where
  | term (field : String) (k : FieldClass) (v : Value) (hfield : lex.HasClass field k) :
    Query lex (.obj [("term", .obj [(field, v)])])
  | terms (field : String) (k : FieldClass) (v : Value) (hfield : lex.HasClass field k) :
    Query lex (.obj [("terms", .obj [(field, v)])])
  | range (field bound : String) (v : Value) (hfield : lex.HasClass field .numeric)
    (hbound : bound ∈ ["gt", "gte", "lt", "lte"]) :
    Query lex (.obj [("range", .obj [(field, .obj [(bound, v)])])])
  | group (key : String) (parts : List Value) (hkey : key ∈ ["must", "should"]) (hne : parts ≠ [])
    (hparts : ∀ p ∈ parts, Query lex p) :
    Query lex (.obj [("bool", .obj [(key, .arr parts)])])

variable {lex : Lexicon}

/-! ### Single clauses and groups -/

theorem query_ofOperator {field : String} {k : FieldClass} {o : Operator} (v : Value)
    (hfield : lex.HasClass field k) (ho : k.allows o = true) :
    lex.Query (Fragment.ofOperator o field v).toValue := by
  cases o with
  | eq => exact .term field k v hfield
  | member => exact .terms field k v hfield
  | bound b =>
    -- a text class refuses every bound
    cases k with
    | text => simp [FieldClass.allows] at ho
    | numeric => exact .range field b.word v hfield (by cases b <;> simp [Bound.word])

theorem query_of_clause {l : Condition} {f : Fragment} (h : lex.clause l = .ok f) :
    lex.Query f.toValue := by
  obtain ⟨t, k, o, ht, hk, -, ho, rfl⟩ := clause_ok h
  exact query_ofOperator l.value ⟨t, ht, hk⟩ ho

theorem mem_toValues {v : Value} {fs : List Fragment} (h : v ∈ Fragment.toValues fs) :
    ∃ f ∈ fs, f.toValue = v := by
  induction fs with
  | nil => simp [Fragment.toValues] at h
  | cons g gs ih =>
    rw [Fragment.toValues] at h
    rcases List.mem_cons.mp h with rfl | h
    · exact ⟨g, List.mem_cons_self .., rfl⟩
    · obtain ⟨f, hf, rfl⟩ := ih h
      exact ⟨f, List.mem_cons_of_mem _ hf, rfl⟩

theorem query_bool {c : Connective} {fs : List Fragment} (hne : fs ≠ [])
    (hfs : ∀ f ∈ fs, lex.Query f.toValue) : lex.Query (Fragment.bool c fs).toValue := by
  refine .group c.keyword (Fragment.toValues fs) (by cases c <;> simp [Connective.keyword]) ?_ ?_
  · cases fs with
    | nil => exact absurd rfl hne
    | cons f fs => simp [Fragment.toValues]
  · intro v hv
    obtain ⟨f, hf, rfl⟩ := mem_toValues hv
    exact hfs f hf

/-! ### Trees -/

section Trees

variable {leaf : Condition → Except Failure (Option Fragment)}

mutual

theorem query_of_compileTree (hleaf : ∀ l f, leaf l = .ok (some f) → lex.Query f.toValue) :
    ∀ {e : Expr} {f : Fragment}, e.compile leaf = .ok (some f) → lex.Query f.toValue
  | .leaf l, f, h => by
    rw [Expr.compile] at h
    exact hleaf l f h
  | .group c parts, f, h => by
    rw [Expr.compile] at h
    obtain ⟨fs, hfs, hf⟩ := map_ok_iff.mp h
    obtain ⟨hne, rfl⟩ := joinParts_eq_some.mp hf
    exact query_bool hne (query_of_compileTrees hleaf hfs)

theorem query_of_compileTrees (hleaf : ∀ l f, leaf l = .ok (some f) → lex.Query f.toValue) :
    ∀ {es : List Expr} {fs : List Fragment}, Expr.compileAll leaf es = .ok fs →
      ∀ f ∈ fs, lex.Query f.toValue
  | [], fs, h => by cases h; simp
  | e :: es, fs, h => by
    obtain ⟨first, rest, hfirst, hrest, rfl⟩ := Expr.compileAll_cons h
    have hes := query_of_compileTrees hleaf hrest
    cases first with
    | none => exact hes
    | some g => exact List.forall_mem_cons.mpr ⟨query_of_compileTree hleaf hfirst, hes⟩

end

theorem query_of_compileExpr? (hleaf : ∀ l f, leaf l = .ok (some f) → lex.Query f.toValue)
    {e : Option Expr} {f : Fragment} (h : compileExpr? leaf e = .ok (some f)) :
    lex.Query f.toValue := by
  cases e with
  | none => cases h
  | some e => exact query_of_compileTree hleaf h

end Trees

/-! ### Filters -/

variable {filter auth : Wire} {f : Fragment}

theorem query_of_ownLeaf (l : Condition) (f : Fragment) (h : lex.ownLeaf l = .ok (some f)) :
    lex.Query f.toValue := by
  obtain ⟨g, hg, hf⟩ := map_ok_iff.mp h
  cases hf
  exact query_of_clause hg

theorem query_of_compile (h : lex.compile filter = .ok (some f)) : lex.Query f.toValue := by
  obtain ⟨e, -, he⟩ := bind_ok_iff.mp h
  exact query_of_compileExpr? query_of_ownLeaf he

/-- What takes the place of a condition is well-formed too: it is compiled from the authorization. -/
theorem query_of_leafExcept (excluded : Option String) (l : Condition) (f : Fragment)
    (h : lex.leafExcept excluded (lex.compile auth) l = .ok (some f)) : lex.Query f.toValue := by
  unfold leafExcept at h
  split at h
  · exact query_of_compile h
  · exact query_of_ownLeaf l f h

theorem query_of_compileFor {target : Option String} {filterSelf : Bool}
    (h : lex.compileFor filter target filterSelf auth = .ok (some f)) : lex.Query f.toValue := by
  obtain ⟨e, -, he⟩ := bind_ok_iff.mp h
  exact query_of_compileExpr? (query_of_leafExcept _) he

theorem query_of_joinScope {covered : Bool} {client scope : Option Fragment}
    (hclient : ∀ f, client = some f → lex.Query f.toValue)
    (hscope : ∀ f, scope = some f → lex.Query f.toValue)
    (h : joinScope covered client scope = some f) : lex.Query f.toValue := by
  cases scope with
  | none =>
    cases client with
    | none => cases h
    | some C => exact hclient f h
  | some A =>
    cases client with
    | none => exact hscope f h
    | some C =>
      rw [joinScope] at h
      split at h
      · exact hclient f h
      · obtain rfl := Option.some.inj h
        refine query_bool (by simp) ?_
        rintro g (_ | ⟨_, _ | ⟨_, hg⟩⟩)
        · exact hclient C rfl
        · exact hscope A rfl
        · cases hg

theorem query_of_compileAggregation {target : String} {filterSelf : Bool}
    (h : lex.compileAggregation filter target filterSelf auth = .ok (some f)) :
    lex.Query f.toValue := by
  obtain ⟨e, client, scope, -, hclient, hscope, hf⟩ := compileAggregation_ok h
  refine query_of_joinScope ?_ ?_ hf.symm
  · rintro g rfl
    exact query_of_compileExpr? (query_of_leafExcept _) hclient
  · rintro g rfl
    exact query_of_compile hscope

/-! ### Every well-formed query is compiled -/

theorem ownLeaf_eq {field key : String} {k : FieldClass} {o : Operator} (v : Value)
    (hfield : lex.HasClass field k) (hkey : Operator.ofSpelling? key = some o)
    (ho : k.allows o = true) :
    lex.ownLeaf ⟨key, field, v⟩ = .ok (some (.ofOperator o field v)) := by
  obtain ⟨t, ht, hk⟩ := hfield
  simp [ownLeaf, clause, ht, hk, FieldClass.clause, hkey, ho, Except.map]

/-- Some trees compile to the parts of a group, when each of the parts is compiled from a tree. -/
theorem exists_compileAll {parts : List Value}
    (h : ∀ p ∈ parts, ∃ (e : Expr) (f : Fragment), e.compile lex.ownLeaf = .ok (some f) ∧
      f.toValue = p) :
    ∃ es fs, Expr.compileAll lex.ownLeaf es = .ok fs ∧ Fragment.toValues fs = parts := by
  induction parts with
  | nil => exact ⟨[], [], by rw [Expr.compileAll], rfl⟩
  | cons p ps ih =>
    obtain ⟨⟨e, f, he, rfl⟩, hps⟩ := List.forall_mem_cons.mp h
    obtain ⟨es, fs, hes, rfl⟩ := ih hps
    refine ⟨e :: es, f :: fs, ?_, rfl⟩
    simp [Expr.compileAll, he, hes, bind, Except.bind, pure, Except.pure, consFragment]

theorem exists_compile_of_query {v : Value} (h : lex.Query v) :
    ∃ (e : Expr) (f : Fragment), e.compile lex.ownLeaf = .ok (some f) ∧ f.toValue = v := by
  induction h with
  | term field k v hfield =>
    exact ⟨.leaf ⟨"eq", field, v⟩, _, ownLeaf_eq v hfield (o := .eq) rfl (by cases k <;> rfl), rfl⟩
  | terms field k v hfield =>
    exact ⟨.leaf ⟨"in", field, v⟩, _, ownLeaf_eq v hfield (o := .member) rfl (by cases k <;> rfl), rfl⟩
  | range field bound v hfield hbound =>
    obtain ⟨b, rfl⟩ : ∃ b : Bound, b.word = bound := by
      simp only [List.mem_cons, List.not_mem_nil, or_false] at hbound
      rcases hbound with rfl | rfl | rfl | rfl
      exacts [⟨.gt, rfl⟩, ⟨.gte, rfl⟩, ⟨.lt, rfl⟩, ⟨.lte, rfl⟩]
    exact ⟨.leaf ⟨b.word, field, v⟩, _,
      ownLeaf_eq v hfield (Operator.ofSpelling?_word (.bound b)) rfl, rfl⟩
  | group key parts hkey hne _ ih =>
    obtain ⟨c, rfl⟩ : ∃ c : Connective, c.keyword = key := by
      simp only [List.mem_cons, List.not_mem_nil, or_false] at hkey
      rcases hkey with rfl | rfl
      exacts [⟨.all, rfl⟩, ⟨.any, rfl⟩]
    obtain ⟨es, fs, hes, rfl⟩ := exists_compileAll ih
    have hfs : fs ≠ [] := by
      rintro rfl
      exact hne rfl
    refine ⟨.group c es, .bool c fs, ?_, rfl⟩
    rw [Expr.compile, hes]
    exact congrArg Except.ok (joinParts_eq_some.mpr ⟨hfs, rfl⟩)

/-- **The queries of an index are the well-formed ones.**  Whatever a filter compiles to, for documents
or for an aggregation, is nothing or a well-formed query on the fields of the index; and there is no
more to say of all of them, since every well-formed query is compiled from some filter. -/
theorem compiled_queries (c : Catalog) (index : String) :
    (∀ (filter : Wire) (target : Option String) (filterSelf : Bool) (auth : Wire) (f : Fragment),
      (c.lexicon index).compileFor filter target filterSelf auth = .ok (some f) →
        (c.lexicon index).Query f.toValue) ∧
    (∀ (filter : Wire) (target : String) (filterSelf : Bool) (auth : Wire) (f : Fragment),
      (c.lexicon index).compileAggregation filter target filterSelf auth = .ok (some f) →
        (c.lexicon index).Query f.toValue) ∧
    ∀ v, (c.lexicon index).Query v →
      ∃ (filter : Wire) (f : Fragment), (c.lexicon index).compile filter = .ok (some f) ∧
        f.toValue = v := by
  refine ⟨?_, ?_, ?_⟩
  · intro filter target filterSelf auth f h
    exact query_of_compileFor h
  · intro filter target filterSelf auth f h
    exact query_of_compileAggregation h
  · intro v hv
    obtain ⟨e, f, he, hf⟩ := exists_compile_of_query hv
    exact ⟨.built e, f, he, hf⟩

/-- Parts of the first filter are dropped, and in the second the authorization takes the place of a
condition and is joined once more. -/
theorem compiled_queries_of_people :
    (Catalog.people.lexicon "people").compileFor Wire.femaleOfAge none true .absent =
      .ok (some (.bool .all [.term "gender" (.str "f"),
        .bool .any [.range .gte "age" (.int 20), .terms "age" (.arr [.int 3])]])) ∧
    (Catalog.people.lexicon "people").Query (Fragment.bool .all [.term "gender" (.str "f"),
      .bool .any [.range .gte "age" (.int 20), .terms "age" (.arr [.int 3])]]).toValue ∧
    (Catalog.people.lexicon "people").compileAggregation Wire.femaleOrAdult "gender" false
      Wire.ownResources =
      .ok (some (.bool .all [.bool .any [.terms "resource" (.arr [.str "/a", .str "/b"]),
        .range .gte "age" (.int 20)], .terms "resource" (.arr [.str "/a", .str "/b"])])) ∧
    (Catalog.people.lexicon "people").Query (Fragment.bool .all
      [.bool .any [.terms "resource" (.arr [.str "/a", .str "/b"]), .range .gte "age" (.int 20)],
        .terms "resource" (.arr [.str "/a", .str "/b"])]).toValue :=
  ⟨by cbv, (compiled_queries Catalog.people "people").1 Wire.femaleOfAge none true .absent _ (by cbv),
    by cbv, (compiled_queries Catalog.people "people").2.1 Wire.femaleOrAdult "gender" false
      Wire.ownResources _ (by cbv)⟩

end Lexicon

end ScopedSearch
