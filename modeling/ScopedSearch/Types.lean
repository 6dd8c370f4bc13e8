import ScopedSearch.Failure

/-!
# Type tables

What the types of the index mean to the caller: the type under which a field is exposed, the class
that says which operators a filter may use on it, and the histogram that an aggregation gives.
The three tables agree when every type that is not an object is both filterable and aggregatable.
-/

namespace ScopedSearch

/-- Which operators a field admits. -/
inductive FieldClass where
  | text
  | numeric
deriving DecidableEq, Inhabited

structure TypeTables where
  /-- The client type of an index type. -/
  clientTypes : List (String × String)
  /-- The class of an index type that can be filtered. -/
  classes : List (String × FieldClass)
  /-- The histogram of a client type that can be aggregated. -/
  histograms : List (String × String)
deriving Inhabited

namespace FieldClass

def word : FieldClass → String
  | text => "text"
  | numeric => "numeric"

def ofWord? (s : String) : Option FieldClass :=
  if s == "text" then some text else if s == "numeric" then some numeric else none

end FieldClass

namespace TypeTables

/-- The client type of what is neither filtered nor aggregated. -/
def objectType : String := "Object"

def stringHistogram : String := "HistogramForString"

def numberHistogram : String := "HistogramForNumber"

/-- The tables in use unless others are given. -/
def standard : TypeTables where
  clientTypes := [
    ("text", "String"), ("keyword", "String"), ("integer", "Int"), ("long", "Float"),
    ("short", "Int"), ("byte", "Int"), ("double", "Float"), ("float", "Float"),
    ("half_float", "Float"), ("scaled_float", "Float"), ("array", objectType),
    ("object", objectType), ("nested", objectType)]
  classes := [
    ("text", .text), ("keyword", .text), ("integer", .numeric), ("long", .numeric),
    ("short", .numeric), ("byte", .numeric), ("double", .numeric), ("float", .numeric),
    ("half_float", .numeric), ("scaled_float", .numeric)]
  histograms := [
    ("String", stringHistogram), ("Int", numberHistogram), ("Float", numberHistogram),
    ("[String]", stringHistogram), ("[Int]", numberHistogram), ("[Float]", numberHistogram)]

def clientType? (t : TypeTables) (esType : String) : Option String := t.clientTypes.lookup esType

def class? (t : TypeTables) (esType : String) : Option FieldClass := t.classes.lookup esType

def histogram? (t : TypeTables) (clientType : String) : Option String :=
  t.histograms.lookup clientType

/-! ### Agreement -/

/-- What is missing for one entry of the table of client types. -/
def clientGap (t : TypeTables) (entry : String × String) : Option TableGap :=
  if entry.2 == objectType then none
  else if (t.class? entry.1).isNone then some (.unclassified entry.1)
  else if (t.histogram? entry.2).isNone then some (.withoutHistogram entry.2)
  else none

/-- What is missing for one entry of the table of classes. -/
def classGap (t : TypeTables) (entry : String × FieldClass) : Option TableGap :=
  if (t.clientType? entry.1).isNone then some (.withoutClientType entry.1) else none

/-- The first place where the tables disagree, if there is one. -/
def firstGap (t : TypeTables) : Option TableGap :=
  (t.clientTypes.findSome? t.clientGap).or (t.classes.findSome? t.classGap)

end TypeTables

end ScopedSearch
