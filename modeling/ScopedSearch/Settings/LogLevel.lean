import ScopedSearch.Failure
import ScopedSearch.Value
import ScopedSearch.Text.UpperCase

/-!
# Log levels

From which level on messages are logged.  A level may be named in any letter case; a name that is
not known, and no name at all, mean the level of information.
-/

namespace ScopedSearch

inductive LogLevel where
  | notSet
  | debug
  | info
  | warning
  | error
  | critical
deriving DecidableEq, Inhabited

namespace LogLevel

def number : LogLevel → Nat
  | notSet => 0
  | debug => 10
  | info => 20
  | warning => 30
  | error => 40
  | critical => 50

/-- The names of the levels; two levels have two names. -/
def names : List (String × LogLevel) := [
  ("NOTSET", notSet), ("DEBUG", debug), ("INFO", info), ("WARN", warning), ("WARNING", warning),
  ("ERROR", error), ("CRITICAL", critical), ("FATAL", critical)]

/-- Names that are taken by something that is no level: the text of a message layout, and the table
of layout styles. -/
def reserved : List (String × Failure) := [
  ("BASIC_FORMAT", .unknownLevel "'%(levelname)s:%(name)s:%(message)s'"), ("_STYLES", .wrongShape)]

def ofName (name : Option String) : Except Failure LogLevel :=
  let key := Text.upper (name.getD "")
  match reserved.lookup key with
  | some f => .error f
  | none => .ok ((names.lookup key).getD info)

/-- How a logger stands once it is set to a level: it has one handler, and hands nothing on. -/
def loggerValue (l : LogLevel) : Value := .obj [
  ("level", .int l.number), ("handlers", .int 1), ("propagate", .bool false)]

end LogLevel

end ScopedSearch
