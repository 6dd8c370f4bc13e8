import Mathlib.Data.List.Induction
import ScopedSearch.Gateway.Basic
import ScopedSearch.Proofs.Outcome

/-!
# The schema is generated once

A gateway keeps the first schema that it generates, and its text once that is written, while the catalog
may change at any time.  What the catalog holds after some actions is told by the changes among them
alone (`Gateway.contents`), and from that, when a schema is first generated (`FirstGenerated`).  Until
then asking for the schema or its text reports what generating from the catalog gives at that moment;
from then on it gives that schema and that text; and filters and sorts are compiled over the catalog as it
is (`schema_memoised`).  The two caches are tied together by one invariant, that a text that is kept is
that of the schema that is kept (`Gateway.Consistent`), which every action preserves.
-/

namespace ScopedSearch

/-! ### Actions -/

/-- What is done to a gateway: its catalog is changed, its schema or the text of that is asked for, or
something is compiled on an index.  An index is given its fields, or a mapping to read them from. -/
inductive Action where
  | setIndex (index : String) (fields : Fields)
  | mapIndex (index : String) (arrays : List String) (properties : Value)
  | refresh
  | schema
  | text
  | filter (index : String) (filter : Wire) (target : Option String) (filterSelf : Bool) (auth : Wire)
  | aggregation (index : String) (filter : Wire) (target : String) (filterSelf : Bool) (auth : Wire)
  | sort (index : String) (sort : Value)

inductive Outcome where
  | changed (result : Except Failure Unit)
  | schema (result : Except Failure Schema)
  | text (result : Except Failure String)
  | fragment (result : Except Failure (Option Fragment))
  | order (result : Except Failure (Option SortOrder))

namespace Action

def changes : Action → Bool
  | setIndex _ _ => true
  | mapIndex _ _ _ => true
  | refresh => true
  | _ => false

def needsSchema : Action → Bool
  | schema => true
  | text => true
  | _ => false

/-- What compiling ends with over a catalog; nothing for an action that does not compile. -/
def compiled? (c : Catalog) : Action → Option Outcome
  | filter index w target filterSelf auth =>
    some (.fragment ((c.lexicon index).compileFor w target filterSelf auth))
  | aggregation index w target filterSelf auth =>
    some (.fragment ((c.lexicon index).compileAggregation w target filterSelf auth))
  | sort index v => some (.order ((c.lexicon index).compileSort v))
  | _ => none

end Action

namespace Gateway

def act (g : Gateway) : Action → Outcome × Gateway
  | .setIndex index fields =>
    (.changed (.ok ()), { g with catalog := g.catalog.setIndex index fields })
  | .mapIndex index arrays properties =>
    (.changed (g.setIndex index arrays properties).result,
      (g.setIndex index arrays properties).gateway)
  | .refresh => (.changed g.refresh.result, g.refresh.gateway)
  | .schema => (.schema g.buildSchema.result, g.buildSchema.gateway)
  | .text => (.text g.schemaText.result, g.schemaText.gateway)
  | .filter index w target filterSelf auth =>
    (.fragment ((g.lexicon index).compileFor w target filterSelf auth), g)
  | .aggregation index w target filterSelf auth =>
    (.fragment ((g.lexicon index).compileAggregation w target filterSelf auth), g)
  | .sort index v => (.order ((g.lexicon index).compileSort v), g)

def after (g : Gateway) (actions : List Action) : Gateway :=
  actions.foldl (fun g a => (g.act a).2) g

def outcome (g : Gateway) (before : List Action) (a : Action) : Outcome := ((g.after before).act a).1

/-! ### What a schema depends on -/

/-- The catalog after some actions, of which only the changes count. -/
def contents (g : Gateway) (actions : List Action) : Catalog :=
  (g.after (actions.filter Action.changes)).catalog

/-- What generating gives from the catalog after some actions. -/
def generated (g : Gateway) (actions : List Action) : Except Failure Schema :=
  Schema.generate .standard (g.contents actions) g.configs

/-- Generating failed whenever one of the actions needed the schema. -/
def Ungenerated (g : Gateway) (actions : List Action) : Prop :=
  ∀ before a after, actions = before ++ a :: after → a.needsSchema = true →
    ∃ f, g.generated before = .error f

/-- A schema is the first that could be generated when one of the actions needed it. -/
def FirstGenerated (g : Gateway) (actions : List Action) (s : Schema) : Prop :=
  ∃ before a after, actions = before ++ a :: after ∧ a.needsSchema = true ∧ g.Ungenerated before ∧
    g.generated before = .ok s

variable {g : Gateway} {actions before : List Action} {a : Action} {s : Schema}

@[simp] theorem after_snoc (g : Gateway) (actions : List Action) (a : Action) :
    g.after (actions ++ [a]) = ((g.after actions).act a).2 := by
  simp [after]

theorem ungenerated_nil (g : Gateway) : g.Ungenerated [] := by
  intro before a after h
  simp at h

/-- What can lie before an action in a list to which one is added. -/
theorem snoc_cases {b : Action} {left right : List Action} (h : actions ++ [a] = left ++ b :: right) :
    (left = actions ∧ b = a) ∨ ∃ rest, actions = left ++ b :: rest := by
  rcases List.append_eq_append_iff.mp h with ⟨between, rfl, hsingle⟩ | ⟨between, rfl, hsingle⟩
  · cases between with
    | nil => exact .inl ⟨by simp, (List.cons.inj hsingle).1.symm⟩
    | cons c cs => simp at hsingle
  · cases between with
    | nil => exact .inl ⟨by simp, (List.cons.inj hsingle).1⟩
    | cons c cs =>
      obtain ⟨rfl, -⟩ := List.cons.inj hsingle
      exact .inr ⟨cs, rfl⟩

theorem ungenerated_snoc_iff : g.Ungenerated (actions ++ [a]) ↔
    g.Ungenerated actions ∧ (a.needsSchema = true → ∃ f, g.generated actions = .error f) := by
  constructor
  · intro h
    exact ⟨fun left b right hsplit => h left b (right ++ [a]) (by simp [hsplit]), h actions a [] rfl⟩
  · rintro ⟨hbefore, hlast⟩ left b right hsplit hb
    obtain ⟨rfl, rfl⟩ | ⟨rest, rfl⟩ := snoc_cases hsplit
    · exact hlast hb
    · exact hbefore left b rest rfl hb

theorem firstGenerated_snoc_iff : g.FirstGenerated (actions ++ [a]) s ↔
    g.FirstGenerated actions s ∨
      (a.needsSchema = true ∧ g.Ungenerated actions ∧ g.generated actions = .ok s) := by
  constructor
  · rintro ⟨left, b, right, hsplit, hb, hnone, hs⟩
    obtain ⟨rfl, rfl⟩ | ⟨rest, rfl⟩ := snoc_cases hsplit
    · exact .inr ⟨hb, hnone, hs⟩
    · exact .inl ⟨left, b, rest, rfl, hb, hnone, hs⟩
  · rintro (⟨left, b, right, rfl, hb, hnone, hs⟩ | ⟨ha, hnone, hs⟩)
    · exact ⟨left, b, right ++ [a], by simp, hb, hnone, hs⟩
    · exact ⟨actions, a, [], rfl, ha, hnone, hs⟩

/-! ### One action -/

def keeping (g : Gateway) (schema : Option Schema) (sdl : Option String) : Gateway :=
  { g with schema, sdl }

/-- The schema that a gateway would give: the one that it keeps, or else the one of its catalog. -/
def current (g : Gateway) : Except Failure Schema :=
  match g.schema with
  | some s => .ok s
  | none => Schema.generate .standard g.catalog g.configs

/-- A text that is kept is that of the schema that is kept. -/
def Consistent (g : Gateway) : Prop := ∀ t, g.sdl = some t → ∃ s, g.schema = some s ∧ t = Sdl.render s

theorem current_of_some (h : g.schema = some s) : g.current = .ok s := by
  unfold current
  rw [h]

theorem current_of_none (h : g.schema = none) :
    g.current = Schema.generate .standard g.catalog g.configs := by
  unfold current
  rw [h]

theorem buildSchema_eq (g : Gateway) :
    g.buildSchema = .ofResult (g.keeping g.current.toOption g.sdl) g.current := by
  obtain ⟨configs, catalog, _, _, _, _, _, schema, _⟩ := g
  cases schema with
  | some s => rfl
  | none =>
    unfold buildSchema current
    dsimp only
    cases Schema.generate .standard catalog configs <;> rfl

theorem Consistent.schemaText_eq (h : g.Consistent) : g.schemaText =
    .ofResult (g.keeping g.current.toOption (g.current.toOption.map Sdl.render))
      (g.current.map Sdl.render) := by
  unfold schemaText
  cases hsdl : g.sdl with
  | some t =>
    obtain ⟨s, hs, rfl⟩ := h t hsdl
    have hg : g.keeping (some s) (some (Sdl.render s)) = g := by rw [← hs, ← hsdl]; rfl
    rw [current_of_some hs]
    exact congrArg (Step.ofResult · _) hg.symm
  | none =>
    rw [buildSchema_eq, hsdl]
    cases g.current <;> rfl

/-- A change of the catalog leaves the exposed indices and does the same whatever is kept of the schema,
which it leaves too. -/
theorem act_change (g : Gateway) (ha : a.changes = true) :
    (g.act a).2.configs = g.configs ∧
      ∀ schema sdl, ((g.keeping schema sdl).act a).2 = (g.act a).2.keeping schema sdl := by
  obtain ⟨_, _, backend, _, _, _, _, _, _⟩ := g
  cases a with
  | setIndex index fields => exact ⟨rfl, fun _ _ => rfl⟩
  | mapIndex index arrays properties =>
    simp only [act, setIndex]
    cases Mapping.fieldTypes arrays properties <;> exact ⟨rfl, fun _ _ => rfl⟩
  | refresh => cases backend <;> exact ⟨rfl, fun _ _ => rfl⟩
  | _ => cases ha

/-- Any other action changes at most what is kept of the schema. -/
theorem Consistent.act_eq_keeping (h : g.Consistent) (ha : a.changes = false) :
    ∃ schema sdl, (g.act a).2 = g.keeping schema sdl := by
  cases a with
  | schema => exact ⟨_, _, by rw [act, buildSchema_eq]; rfl⟩
  | text => exact ⟨_, _, by rw [act, h.schemaText_eq]; rfl⟩
  | filter | aggregation | sort => exact ⟨g.schema, g.sdl, rfl⟩
  | setIndex | mapIndex | refresh => cases ha

theorem Consistent.act_configs (h : g.Consistent) (a : Action) : (g.act a).2.configs = g.configs := by
  cases ha : a.changes with
  | true => exact (g.act_change ha).1
  | false =>
    obtain ⟨schema, sdl, hact⟩ := h.act_eq_keeping ha
    rw [hact]
    rfl

theorem act_kept (g : Gateway) (ha : a.needsSchema = false) :
    (g.act a).2.schema = g.schema ∧ (g.act a).2.sdl = g.sdl := by
  cases hchanges : a.changes with
  | true =>
    have h : (g.act a).2 = (g.act a).2.keeping g.schema g.sdl :=
      (g.act_change hchanges).2 g.schema g.sdl
    rw [h]
    exact ⟨rfl, rfl⟩
  | false =>
    cases a with
    | filter | aggregation | sort => exact ⟨rfl, rfl⟩
    | schema | text => cases ha
    | setIndex | mapIndex | refresh => cases hchanges

theorem Consistent.act_schema (h : g.Consistent) (ha : a.needsSchema = true) :
    (g.act a).2.schema = g.current.toOption := by
  cases a with
  | schema => rw [act, buildSchema_eq]; rfl
  | text => rw [act, h.schemaText_eq]; rfl
  | _ => cases ha

theorem Consistent.act (h : g.Consistent) (a : Action) : (g.act a).2.Consistent := by
  cases ha : a.needsSchema with
  | false =>
    unfold Consistent
    rw [(act_kept g ha).1, (act_kept g ha).2]
    exact h
  | true =>
    cases a with
    | schema =>
      intro t ht
      rw [Gateway.act, buildSchema_eq] at ht ⊢
      obtain ⟨s, hs, rfl⟩ := h t ht
      exact ⟨s, by simp [Step.ofResult, keeping, current_of_some hs, Except.toOption], rfl⟩
    | text =>
      intro t ht
      rw [Gateway.act, h.schemaText_eq] at ht ⊢
      obtain ⟨s, hs, rfl⟩ := Option.map_eq_some_iff.mp ht
      exact ⟨s, hs, rfl⟩
    | _ => cases ha

/-! ### A run -/

theorem Consistent.after (h : g.Consistent) (actions : List Action) : (g.after actions).Consistent := by
  induction actions using List.reverseRecOn with
  | nil => exact h
  | append_singleton actions a ih =>
    rw [after_snoc]
    exact ih.act a

/-- Only changes of the catalog count, but for what is kept of the schema. -/
theorem Consistent.after_eq_keeping (h : g.Consistent) (actions : List Action) :
    ∃ schema sdl, g.after actions = (g.after (actions.filter Action.changes)).keeping schema sdl := by
  induction actions using List.reverseRecOn with
  | nil => exact ⟨g.schema, g.sdl, rfl⟩
  | append_singleton actions a ih =>
    obtain ⟨schema, sdl, hrun⟩ := ih
    rw [after_snoc, List.filter_append]
    cases ha : a.changes with
    | true =>
      refine ⟨schema, sdl, ?_⟩
      rw [List.filter_cons_of_pos ha, List.filter_nil, after_snoc, hrun, (act_change _ ha).2]
    | false =>
      obtain ⟨schema', sdl', hlast⟩ := (h.after actions).act_eq_keeping ha
      refine ⟨schema', sdl', ?_⟩
      rw [List.filter_cons_of_neg (by simp [ha]), List.filter_nil, List.append_nil, hlast, hrun]
      rfl

theorem Consistent.after_catalog (h : g.Consistent) (actions : List Action) :
    (g.after actions).catalog = g.contents actions := by
  obtain ⟨schema, sdl, hrun⟩ := h.after_eq_keeping actions
  rw [hrun]
  rfl

theorem Consistent.after_configs (h : g.Consistent) (actions : List Action) :
    (g.after actions).configs = g.configs := by
  induction actions using List.reverseRecOn with
  | nil => rfl
  | append_singleton actions a ih => rw [after_snoc, (h.after actions).act_configs, ih]

theorem Consistent.current_after (h : g.Consistent) (hnone : (g.after actions).schema = none) :
    (g.after actions).current = g.generated actions := by
  rw [current_of_none hnone, h.after_catalog, h.after_configs]
  rfl

/-- What is kept of the schema after some actions: the first that could be generated, and nothing while
none could be. -/
theorem Consistent.schema_after_iff (h : g.Consistent) (hschema : g.schema = none) (actions : List Action) :
    (∀ s, (g.after actions).schema = some s ↔ g.FirstGenerated actions s) ∧
      ((g.after actions).schema = none ↔ g.Ungenerated actions) := by
  -- on the last action: whether it is the first to generate a schema depends on those before it
  induction actions using List.reverseRecOn with
  | nil =>
    change (∀ s, g.schema = some s ↔ _) ∧ (g.schema = none ↔ _)
    rw [hschema]
    exact ⟨fun s => ⟨nofun, fun ⟨_, _, _, hsplit, _⟩ => by simp at hsplit⟩,
      fun _ => g.ungenerated_nil, fun _ => rfl⟩
  | append_singleton actions a ih =>
    obtain ⟨hfirst, hnone⟩ := ih
    simp only [after_snoc, firstGenerated_snoc_iff, ungenerated_snoc_iff, ← hfirst, ← hnone]
    cases ha : a.needsSchema with
    | false => simp [(act_kept _ ha).1]
    | true =>
      rw [(h.after actions).act_schema ha]
      cases hkept : (g.after actions).schema with
      | none =>
        rw [h.current_after hkept]
        cases g.generated actions <;> simp [Except.toOption]
      | some s => simp [current_of_some hkept, Except.toOption]

/-- **The schema is generated once.**  Whatever was done to a gateway that started without a schema:
while none could be generated, asking for the schema or its text ends as generating from the catalog of
that moment does; once one could be, asking for the schema gives that one and asking for the text gives
its text, whichever was asked for first and however the catalog changed.  Meanwhile everything is compiled
over the catalog as the changes left it. -/
theorem schema_memoised (g : Gateway) (hschema : g.schema = none) (hsdl : g.sdl = none)
    (actions : List Action) :
    (g.Ungenerated actions →
      g.outcome actions .schema = .schema (g.generated actions) ∧
      g.outcome actions .text = .text ((g.generated actions).map Sdl.render)) ∧
    (∀ s, g.FirstGenerated actions s →
      g.outcome actions .schema = .schema (.ok s) ∧
      g.outcome actions .text = .text (.ok (Sdl.render s))) ∧
    (g.Ungenerated actions ∨ ∃ s, g.FirstGenerated actions s) ∧
    (∀ a o, a.compiled? (g.contents actions) = some o → g.outcome actions a = o) ∧
    (g.after actions).catalog = g.contents actions := by
  have h : g.Consistent := fun t ht => by simp [hsdl] at ht
  obtain ⟨hfirst, hnone⟩ := h.schema_after_iff hschema actions
  have hschemaOutcome : g.outcome actions .schema = .schema (g.after actions).current := by
    rw [outcome, act, buildSchema_eq]
    rfl
  have htextOutcome : g.outcome actions .text =
      .text ((g.after actions).current.map Sdl.render) := by
    rw [outcome, act, (h.after actions).schemaText_eq]
    rfl
  rw [hschemaOutcome, htextOutcome]
  refine ⟨?_, ?_, ?_, ?_, h.after_catalog actions⟩
  · intro hun
    rw [h.current_after (hnone.mpr hun)]
    exact ⟨rfl, rfl⟩
  · intro s hs
    rw [current_of_some ((hfirst s).mpr hs)]
    exact ⟨rfl, rfl⟩
  · cases hkept : (g.after actions).schema with
    | none => exact .inl (hnone.mp hkept)
    | some s => exact .inr ⟨s, (hfirst s).mp hkept⟩
  · intro a o ho
    rw [← h.after_catalog] at ho
    cases a with
    | filter | aggregation | sort => exact Option.some.inj ho
    | setIndex | mapIndex | refresh | schema | text => cases ho

/-- A gateway that knows no index yet, over a cluster whose first answer fails. -/
def waking : Gateway where
  configs := [⟨"people", "person"⟩]
  catalog := {}
  backend := .cluster {} { mappings := [.raises "down", .answer (.single "people" (.single "mappings"
    (.single "properties" (.single "gender" (.single "type" (.str "keyword"))))))] }

/-- The catalog is read with success only after the text was asked for, and changed once that is
generated. -/
def wakingActions : List Action := [
  .refresh, .text, .refresh, .text,
  .setIndex "people" [("age", .mk "integer" false none)]]

theorem schema_memoised_of_waking :
    waking.schema = none ∧ waking.sdl = none ∧
    waking.outcome [.refresh] .text = .text (.error (.unknownIndex "people")) ∧
    ∃ s, waking.FirstGenerated wakingActions s ∧
      waking.outcome wakingActions .schema = .schema (.ok s) ∧
      waking.outcome wakingActions .text = .text (.ok (Sdl.render s)) ∧
      waking.outcome wakingActions (.sort "people" (.single "gender" (.str "asc"))) =
        .order (.error .invalidSort) := by
  have hunread : waking.Ungenerated ([] ++ [.refresh]) :=
    ungenerated_snoc_iff.mpr ⟨waking.ungenerated_nil, nofun⟩
  have hfails : waking.generated [.refresh] = .error (.unknownIndex "people") := rfl
  have hasked : waking.Ungenerated ([.refresh] ++ [.text]) :=
    ungenerated_snoc_iff.mpr ⟨hunread, fun _ => ⟨_, hfails⟩⟩
  have hread : waking.Ungenerated ([.refresh, .text] ++ [.refresh]) :=
    ungenerated_snoc_iff.mpr ⟨hasked, nofun⟩
  obtain ⟨s, hs⟩ : ∃ s, waking.generated [.refresh, .text, .refresh] = .ok s :=
    isOk_iff.mp (by decide +kernel)
  have hfirst : waking.FirstGenerated wakingActions s :=
    ⟨[.refresh, .text, .refresh], .text, _, rfl, rfl, hread, hs⟩
  have hfailed := ((schema_memoised waking rfl rfl [.refresh]).1 hunread).2
  rw [hfails] at hfailed
  obtain ⟨-, hmemo, -, hcompiled, -⟩ := schema_memoised waking rfl rfl wakingActions
  obtain ⟨hschema, htext⟩ := hmemo s hfirst
  exact ⟨rfl, rfl, hfailed, s, hfirst, hschema, htext, hcompiled _ _ rfl⟩

end Gateway

end ScopedSearch
