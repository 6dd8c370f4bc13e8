/-!
# Operators and connectives

What one condition of a filter asks of a field, and how conditions are joined.  An operator has
several spellings; a connective may be written in any letter case.
-/

namespace ScopedSearch

inductive Bound where
  | gt
  | gte
  | lt
  | lte
deriving DecidableEq, Inhabited

/-- What a condition asks of the value of a field. -/
inductive Operator where
  | eq
  | member
  | bound (b : Bound)
deriving DecidableEq, Inhabited

inductive Connective where
  | all
  | any
deriving DecidableEq, Inhabited

namespace Bound

def word : Bound → String
  | gt => "gt"
  | gte => "gte"
  | lt => "lt"
  | lte => "lte"

end Bound

namespace Operator

def spellings : List (String × Operator) := [
  ("=", eq), ("eq", eq), ("EQ", eq),
  ("in", member), ("IN", member),
  (">", bound .gt), ("gt", bound .gt), ("GT", bound .gt),
  (">=", bound .gte), ("gte", bound .gte), ("GTE", bound .gte),
  ("<", bound .lt), ("lt", bound .lt), ("LT", bound .lt),
  ("<=", bound .lte), ("lte", bound .lte), ("LTE", bound .lte)]

def ofSpelling? (s : String) : Option Operator := spellings.lookup s

def word : Operator → String
  | eq => "eq"
  | member => "in"
  | bound b => b.word

theorem ofSpelling?_word (o : Operator) : ofSpelling? o.word = some o := by
  cases o with
  | eq => rfl
  | member => rfl
  | bound b => cases b <;> rfl

end Operator

namespace Connective

def word : Connective → String
  | all => "and"
  | any => "or"

/-- The key of a compiled group that holds its parts. -/
def keyword : Connective → String
  | all => "must"
  | any => "should"

def ofWord? (s : String) : Option Connective :=
  if s == "and" then some all else if s == "or" then some any else none

/-- The connective that a key stands for, in any letter case. -/
def ofKey? (key : String) : Option Connective := ofWord? key.toLower

theorem ofWord?_word (c : Connective) : ofWord? c.word = some c := by cases c <;> rfl

end Connective

end ScopedSearch
