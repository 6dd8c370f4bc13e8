import Mathlib.Data.List.Basic
import ScopedSearch.Proofs.Filter.Grammar

/-!
# Spellings of a filter

When two keys are spellings of one connective or of one operator (`SameKey`), and when two values are
one filter in different spellings (`Value.Respells`): keys are spelled anew, one after the other, at
the front of the filter or of any part of its groups.  In plain spelling (`Expr.plain`) every operator is
called by its name; two values that differ in their spellings alone are read to the same tree in plain
spelling, or refused with the same failure (`readPlain_of_respells`).
-/

namespace ScopedSearch

/-! ### Keys -/

namespace Operator

theorem ofKey?_eq_none {s : String} {o : Operator} (h : ofSpelling? s = some o) :
    Connective.ofKey? s = none := by
  have hall : ∀ e ∈ spellings, Connective.ofKey? e.1 = none := by decide +kernel
  exact hall (s, o) (mem_of_lookup h)

/-- The name of the operator that a key spells; any other key stays as it is. -/
def plain (key : String) : String := ((ofSpelling? key).map word).getD key

theorem plain_of_spells {o : Operator} {key : String} (h : o.Spells key) : plain key = o.word := by
  rw [plain, ofSpelling?_eq_some_iff.mpr h]
  rfl

@[simp] theorem ofSpelling?_plain (key : String) : ofSpelling? (plain key) = ofSpelling? key := by
  unfold plain
  cases h : ofSpelling? key with
  | none => exact h
  | some o => exact ofSpelling?_word o

end Operator

inductive SameKey (k k' : String) : Prop where
  | connective (c : Connective) (h : c.Spells k) (h' : c.Spells k')
  | operator (o : Operator) (h : o.Spells k) (h' : o.Spells k')

/-! ### Values -/

/-- Two values are one filter in different spellings: any number of keys is spelled anew, at the front
or in the parts of groups. -/
inductive Value.Respells : Value → Value → Prop where
  | refl (v : Value) : Respells v v
  | trans {u v w : Value} (huv : Respells u v) (hvw : Respells v w) : Respells u w
  | key {k k' : String} (h : SameKey k k') (before after : Entries) (v : Value) :
      Respells (.obj (before ++ (k, v) :: after)) (.obj (before ++ (k', v) :: after))
  | part {key : String} {c : Connective} (hkey : c.Spells key) {v v' : Value} (h : Respells v v')
      (before after : Entries) (left right : List Value) :
      Respells (.obj (before ++ (key, .arr (left ++ v :: right)) :: after))
        (.obj (before ++ (key, .arr (left ++ v' :: right)) :: after))

namespace Value.Respells

theorem parts {key : String} {c : Connective} (hkey : c.Spells key) {vs vs' : List Value}
    (h : List.Forall₂ Respells vs vs') (left : List Value) :
    Respells (.obj [(key, .arr (left ++ vs))]) (.obj [(key, .arr (left ++ vs'))]) := by
  induction h generalizing left with
  | nil => exact .refl _
  | @cons v v' vs vs' hv _ ih =>
    have hfirst : Respells (.obj [(key, .arr (left ++ v :: vs))]) (.obj [(key, .arr (left ++ v' :: vs))]) :=
      .part hkey hv [] [] left vs
    have hrest := ih (left ++ [v'])
    rw [List.append_assoc, List.append_assoc] at hrest
    exact hfirst.trans hrest

theorem group {k k' : String} {c : Connective} (hk : c.Spells k) (hk' : c.Spells k')
    {vs vs' : List Value} (h : List.Forall₂ Respells vs vs') :
    Respells (.obj [(k, .arr vs)]) (.obj [(k', .arr vs')]) :=
  (parts hk h []).trans (.key (.connective c hk hk') [] [] (.arr vs'))

theorem condition {k k' : String} {o : Operator} (hk : o.Spells k) (hk' : o.Spells k') (v : Value) :
    Respells (.obj [(k, v)]) (.obj [(k', v)]) :=
  .key (.operator o hk hk') [] [] v

end Value.Respells

/-! ### Trees -/

def Condition.plain (l : Condition) : Condition := { l with operator := Operator.plain l.operator }

namespace Expr

mutual

/-- A tree with all of its operators called by their names. -/
def plain : Expr → Expr
  | .leaf l => .leaf l.plain
  | .group c parts => .group c (plainAll parts)

def plainAll : List Expr → List Expr
  | [] => []
  | e :: es => e.plain :: plainAll es

end

theorem plainAll_consPresent (e : Option Expr) (es : List Expr) :
    plainAll (consPresent e es) = consPresent (e.map plain) (plainAll es) := by
  cases e <;> rfl

end Expr

/-! ### Reading -/

namespace Value

def readPlain (depth : Int) (v : Value) : Except Failure (Option Expr) :=
  (v.parseFilter depth).map (Option.map Expr.plain)

def readPlainAll (depth : Int) (vs : List Value) : Except Failure (List Expr) :=
  (parseFilters depth vs).map Expr.plainAll

variable {depth : Int}

theorem readPlainAll_cons (v : Value) (vs : List Value) :
    readPlainAll depth (v :: vs) = do
      let e ← readPlain depth v
      let es ← readPlainAll depth vs
      return consPresent e es := by
  rw [readPlainAll, parseFilters, readPlain, readPlainAll]
  cases v.parseFilter depth with
  | error f => rfl
  | ok e =>
    cases parseFilters depth vs with
    | error f => rfl
    | ok es =>
      show Except.ok (Expr.plainAll (consPresent e es)) = _
      rw [Expr.plainAll_consPresent]
      rfl

theorem readPlainAll_part {v v' : Value} (h : readPlain depth v = readPlain depth v')
    (left right : List Value) :
    readPlainAll depth (left ++ v :: right) = readPlainAll depth (left ++ v' :: right) := by
  induction left with
  | nil => rw [List.nil_append, List.nil_append, readPlainAll_cons, readPlainAll_cons, h]
  | cons u left ih => rw [List.cons_append, List.cons_append, readPlainAll_cons, readPlainAll_cons, ih]

/-- The groups of one connective are read alike, whatever spells it. -/
theorem readPlain_group {c : Connective} {key : String} (hkey : c.Spells key) (vs : List Value) :
    readPlain depth (.obj [(key, .arr vs)]) =
      if depthLimit ≤ depth then .error .filterTooDeep
      else (readPlainAll (depth + 1) vs).map fun es => some (.group c es) := by
  rw [readPlain, parseFilter, Connective.ofKey?_eq_some_iff.mpr hkey]
  by_cases hdepth : depthLimit ≤ depth
  · simp [hdepth, Except.map]
  · simp only [hdepth, if_false, readPlainAll]
    cases parseFilters (depth + 1) vs <;> rfl

theorem readPlain_condition {o : Operator} {key : String} (hkey : Operator.ofSpelling? key = some o)
    (v : Value) : readPlain depth (.obj [(key, v)]) = toCondition (Operator.plain key) v := by
  rw [readPlain, parseFilter, Operator.ofKey?_eq_none hkey]
  show (toCondition key v).map (Option.map Expr.plain) = _
  unfold toCondition
  split <;> rfl

theorem readPlain_many {es : Entries} (h : 2 ≤ es.length) :
    readPlain depth (.obj es) = .error .filterSyntax := by
  match es, h with
  | e :: e' :: es, _ => simp [readPlain, parseFilter, Except.map]

/-- An entry counts only when it is alone in its object. -/
theorem readPlain_entry {e e' : String × Value}
    (h : readPlain depth (.obj [e]) = readPlain depth (.obj [e'])) (before after : Entries) :
    readPlain depth (.obj (before ++ e :: after)) = readPlain depth (.obj (before ++ e' :: after)) := by
  by_cases halone : before = [] ∧ after = []
  · obtain ⟨rfl, rfl⟩ := halone
    exact h
  · have hmany : ∀ x : String × Value, 2 ≤ (before ++ x :: after).length := by
      intro x
      rw [List.length_append, List.length_cons]
      rcases not_and_or.mp halone with hbefore | hafter
      · have := List.length_pos_of_ne_nil hbefore
        omega
      · have := List.length_pos_of_ne_nil hafter
        omega
    rw [readPlain_many (hmany e), readPlain_many (hmany e')]

theorem readPlain_key {k k' : String} (h : SameKey k k') (v : Value) :
    readPlain depth (.obj [(k, v)]) = readPlain depth (.obj [(k', v)]) := by
  cases h with
  | connective c hk hk' =>
    rw [readPlain, readPlain, parseFilter, parseFilter, Connective.ofKey?_eq_some_iff.mpr hk,
      Connective.ofKey?_eq_some_iff.mpr hk']
  | operator o hk hk' =>
    rw [readPlain_condition (Operator.ofSpelling?_eq_some_iff.mpr hk),
      readPlain_condition (Operator.ofSpelling?_eq_some_iff.mpr hk'), Operator.plain_of_spells hk,
      Operator.plain_of_spells hk']

/-- **Spellings do not matter to reading.**  One filter in different spellings is read to one tree in plain
spelling, or refused with one failure. -/
theorem readPlain_of_respells {v v' : Value} (h : Respells v v') (depth : Int) :
    readPlain depth v = readPlain depth v' := by
  induction h generalizing depth with
  | refl v => rfl
  | trans _ _ ihuv ihvw => rw [ihuv, ihvw]
  | key h before after v => exact readPlain_entry (readPlain_key h v) before after
  | part hkey _ before after left right ih =>
    refine readPlain_entry ?_ before after
    rw [readPlain_group hkey, readPlain_group hkey, readPlainAll_part (ih (depth + 1))]

end Value

end ScopedSearch
