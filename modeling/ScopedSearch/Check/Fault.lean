import ScopedSearch.Value

/-!
# Faults

What is wrong with a value that is handed in: the kind of a fault, the place where it is, and what
stands there.  A check does not stop at a fault, so that all faults are found, in the order of the
parts.
-/

namespace ScopedSearch

inductive FaultKind where
  | missing
  | notText
  | notList
  | notMap
  /-- An entry of a list is not an object. -/
  | notEntry
  /-- The body of a request is not an object. -/
  | notBody
  /-- The body of a request is not JSON. -/
  | notJson
  | notChoice
  | notInteger
  /-- A text that ought to write an integer does not. -/
  | integerText
  | integerSize
  | fraction
  | notFinite
  | negative
deriving DecidableEq, Inhabited

namespace FaultKind

def word : FaultKind → String
  | missing => "missing"
  | notText => "string_type"
  | notList => "list_type"
  | notMap => "dict_type"
  | notEntry => "model_type"
  | notBody => "model_attributes_type"
  | notJson => "json_invalid"
  | notChoice => "enum"
  | notInteger => "int_type"
  | integerText => "int_parsing"
  | integerSize => "int_parsing_size"
  | fraction => "int_from_float"
  | notFinite => "finite_number"
  | negative => "greater_than_equal"

end FaultKind

/-- One step of the way to a part of a value. -/
inductive PathStep where
  | key (name : String)
  | index (n : Nat)
deriving DecidableEq, Inhabited

namespace PathStep

def toValue : PathStep → Value
  | key name => .str name
  | index n => .int n

end PathStep

structure Fault where
  place : List PathStep
  kind : FaultKind
  /-- The value at fault; where a part is missing, the value that lacks it. -/
  value : Value
deriving Inhabited

namespace Fault

def toValue (f : Fault) : Value := .arr [.arr (f.place.map PathStep.toValue), .str f.kind.word]

def listValue (fs : List Fault) : Value := .arr (fs.map toValue)

end Fault

/-! ### Checks -/

/-- A checked value, or all that is wrong with it. -/
inductive Checked (α : Type) where
  | ok (a : α)
  | faulty (faults : List Fault)

namespace Checked

/-- One fault of a value at a place. -/
def fault {α : Type} (place : List PathStep) (kind : FaultKind) (v : Value) : Checked α :=
  faulty [⟨place, kind, v⟩]

def map {α β : Type} (f : α → β) : Checked α → Checked β
  | ok a => ok (f a)
  | faulty fs => faulty fs

/-- Both parts are checked, whatever comes of the first. -/
def seq {α β : Type} : Checked (α → β) → Checked α → Checked β
  | ok f, ok a => ok (f a)
  | ok _, faulty fs => faulty fs
  | faulty fs, ok _ => faulty fs
  | faulty fs, faulty gs => faulty (fs ++ gs)

instance : Applicative Checked where
  pure := ok
  map := map
  seq f a := seq f (a ())

/-- A further check of a value that has passed. -/
def andThen {α β : Type} (next : α → Checked β) : Checked α → Checked β
  | ok a => next a
  | faulty fs => faulty fs

def toExcept {α : Type} : Checked α → Except (List Fault) α
  | ok a => .ok a
  | faulty fs => .error fs

end Checked

/-- A check of the value at a place. -/
abbrev Check (α : Type) := List PathStep → Value → Checked α

namespace Check

def anything : Check Value := fun _ v => .ok v

def text : Check String
  | _, .str s => .ok s
  | place, v => .fault place .notText v

/-- A check that `null` passes. -/
def optional {α : Type} (c : Check α) : Check (Option α)
  | _, .null => .ok none
  | place, v => (c place v).map some

/-- The items of a list from position `n` on. -/
def items {α : Type} (c : Check α) (place : List PathStep) : Nat → List Value → Checked (List α)
  | _, [] => .ok []
  | n, v :: vs => List.cons <$> c (place ++ [.index n]) v <*> items c place (n + 1) vs

def list {α : Type} (c : Check α) : Check (List α)
  | place, .arr vs => items c place 0 vs
  | place, v => .fault place .notList v

def entries {α : Type} (c : Check α) (place : List PathStep) :
    Entries → Checked (List (String × α))
  | [] => .ok []
  | (k, v) :: es =>
    (fun a more => (k, a) :: more) <$> c (place ++ [.key k]) v <*> entries c place es

def map {α : Type} (c : Check α) : Check (List (String × α))
  | place, .obj es => entries c place es
  | place, v => .fault place .notMap v

def object : Check Value
  | _, .obj es => .ok (.obj es)
  | place, v => .fault place .notMap v

def required {α : Type} (c : Check α) (place : List PathStep) (k : String) (es : Entries) :
    Checked α :=
  match es.lookup k with
  | some v => c (place ++ [.key k]) v
  | none => .fault (place ++ [.key k]) .missing (.obj es)

/-- The value of a key, or else a default that is not checked. -/
def defaulted {α : Type} (c : Check α) (default : α) (place : List PathStep) (k : String)
    (es : Entries) : Checked α :=
  match es.lookup k with
  | some v => c (place ++ [.key k]) v
  | none => .ok default

end Check

end ScopedSearch
