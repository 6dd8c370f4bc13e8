import ScopedSearch.Double.Basic

/-!
# Values

The values of documents, filters and messages: null, booleans, integers without bound, binary
floating-point numbers, texts, lists, and objects as lists of entries in the order of writing.
Two readings of a value matter everywhere: whether it is empty, and when two values are equal.
-/

namespace ScopedSearch

inductive Value where
  | null
  | bool (b : Bool)
  | int (n : Int)
  | double (x : Double)
  | str (s : String)
  | arr (items : List Value)
  | obj (entries : List (String × Value))
deriving Inhabited

/-- Named values in order. -/
abbrev Entries := List (String × Value)

namespace Value

/-! ### Looking into a value -/

/-- The value of a key of an object; nothing for any other value. -/
def get? : Value → String → Option Value
  | .obj es, k => es.lookup k
  | _, _ => none

def single (k : String) (v : Value) : Value := .obj [(k, v)]

/-- An entry that is written only when it has a value. -/
def entry? (k : String) : Option Value → Entries
  | none => []
  | some v => [(k, v)]

def texts (ss : List String) : Value := .arr (ss.map .str)

/-- `null` for what is absent. -/
def ofOption : Option Value → Value
  | none => .null
  | some v => v

/-! ### Building objects -/

/-- An entry put into an object: a key that is there keeps its place and takes the new value. -/
def putEntry (k : String) (v : Value) : Entries → Entries
  | [] => [(k, v)]
  | (k', v') :: es => if k' == k then (k, v) :: es else (k', v') :: putEntry k v es

/-- Entries in the order of writing as an object. -/
def collect (es : Entries) : Entries := es.foldl (fun acc e => putEntry e.1 e.2 acc) []

/-! ### Emptiness -/

/-- A value that counts as given: not null, not false, not zero, and not an empty text, list or
object. -/
def truthy : Value → Bool
  | .null => false
  | .bool b => b
  | .int n => n != 0
  | .double x => !x.isZero
  | .str s => s != ""
  | .arr items => !items.isEmpty
  | .obj es => !es.isEmpty

/-! ### Equality -/

/-- The integer that a boolean counts as. -/
def ofBool (b : Bool) : Int := if b then 1 else 0

/-- Equality of two numbers by value, whatever their kinds; a boolean counts as 0 or 1. -/
def numberEqv : Value → Value → Bool
  | .bool a, .bool b => a == b
  | .bool a, .int b => ofBool a == b
  | .bool a, .double y => y.sameInt (ofBool a)
  | .int a, .bool b => a == ofBool b
  | .int a, .int b => a == b
  | .int a, .double y => y.sameInt a
  | .double x, .bool b => x.sameInt (ofBool b)
  | .double x, .int b => x.sameInt b
  | .double x, .double y => x.same y
  | _, _ => false

mutual

/-- Equality of values: numbers by value, texts by characters, lists in order, and objects without
regard to the order of their entries. -/
def eqv : Value → Value → Bool
  | .null, .null => true
  | .str a, .str b => a == b
  | .arr xs, .arr ys => eqvList xs ys
  | .obj xs, .obj ys => xs.length == ys.length && eqvIn xs ys
  | v, w => numberEqv v w

def eqvList : List Value → List Value → Bool
  | [], [] => true
  | x :: xs, y :: ys => x.eqv y && eqvList xs ys
  | _, _ => false

/-- Whether every entry of the first list has its key in the second, with an equal value. -/
def eqvIn : Entries → Entries → Bool
  | [], _ => true
  | (k, v) :: xs, ys =>
    (match ys.lookup k with
     | some w => v.eqv w
     | none => false) && eqvIn xs ys

end

def isIn (v : Value) (vs : List Value) : Bool := vs.any (v.eqv ·)

/-! ### Numbers that cannot be sent -/

mutual

/-- Whether every number in a value is finite.  Only such values can be sent as JSON. -/
def isFinite : Value → Bool
  | .double x => x.isFinite
  | .arr items => isFiniteList items
  | .obj es => isFiniteEntries es
  | _ => true

def isFiniteList : List Value → Bool
  | [] => true
  | v :: vs => v.isFinite && isFiniteList vs

def isFiniteEntries : List (String × Value) → Bool
  | [] => true
  | (_, v) :: es => v.isFinite && isFiniteEntries es

end

/-! ### Sets -/

/-- The values that can be told apart by a set: all but lists and objects. -/
def isScalar : Value → Bool
  | .arr _ => false
  | .obj _ => false
  | _ => true

end Value

end ScopedSearch
