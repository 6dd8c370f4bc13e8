import ScopedSearch.Catalog.Basic
import ScopedSearch.Types
import ScopedSearch.Text.UpperCase
import ScopedSearch.Schema.Basic
import ScopedSearch.Schema.Nested

/-!
# Generating schemas

The client schema of some indices of a catalog: the entry points, a type for every index and every
nested field, a type for the aggregations of every index, and the types that every schema has.
One field whose type has no client type refuses it all.
-/

namespace ScopedSearch

/-- An index that is exposed to clients under a type name. -/
structure IndexConfig where
  index : String
  type : String
deriving DecidableEq, Inhabited

/-! ### The types that every schema has -/

namespace FieldDef

def plain (name type : String) : FieldDef := { name, type }

end FieldDef

namespace Schema

def entryArguments : List Argument := [
  { name := "offset", type := "Int" },
  { name := "first", type := "Int" },
  { name := "filter", type := "JSON" },
  { name := "sort", type := "JSON" },
  { name := "accessibility", type := "Accessibility", default := some "all" }]

def aggregationArguments : List Argument := [
  { name := "filter", type := "JSON" },
  { name := "filterSelf", type := "Boolean", default := some "true" },
  { name := "nestedAggFields", type := "JSON" },
  { name := "accessibility", type := "Accessibility", default := some "all" }]

def accessibilityEnum : EnumType := ⟨"Accessibility", ["all", "accessible", "unaccessible"]⟩

def matchedItemType : ObjectType :=
  ⟨"MatchedItem", [.plain "field" "String", .plain "highlights" "[String]"]⟩

/-- The types of histograms. -/
def histogramTypes : List ObjectType := [
  ⟨TypeTables.stringHistogram, [.plain "histogram" "[BucketsForNestedStringAgg]"]⟩,
  ⟨TypeTables.numberHistogram, [
    { name := "histogram", type := "[BucketsForNestedNumberAgg]",
      arguments := [
        { name := "rangeStart", type := "Int" }, { name := "rangeEnd", type := "Int" },
        { name := "rangeStep", type := "Int" }, { name := "binCount", type := "Int" }] },
    .plain "asTextHistogram" "[BucketsForNestedStringAgg]"]⟩]

/-- The types of the buckets of histograms. -/
def bucketTypes : List ObjectType := [
  ⟨"BucketsForNestedStringAgg", [
    .plain "key" "String", .plain "count" "Int",
    .plain "missingFields" "[BucketsForNestedMissingFields]",
    .plain "termsFields" "[BucketsForNestedTermsFields]"]⟩,
  ⟨"BucketsForNestedMissingFields", [.plain "field" "String", .plain "count" "Int"]⟩,
  ⟨"BucketsForNestedTermsFields", [.plain "field" "String", .plain "terms" "[BucketsForString]"]⟩,
  ⟨"BucketsForString", [.plain "key" "String", .plain "count" "Int"]⟩,
  ⟨"BucketsForNestedNumberAgg", [
    { name := "key", type := "[Float]",
      description := some "Lower and higher bounds for this bucket" },
    .plain "min" "Float", .plain "max" "Float", .plain "avg" "Float", .plain "sum" "Float",
    .plain "count" "Int",
    .plain "missingFields" "[BucketsForNestedMissingFields]",
    .plain "termsFields" "[BucketsForNestedTermsFields]"]⟩]

/-! ### The fields of an index -/

def listOf (type : String) : String := "[" ++ type ++ "]"

/-- The type under which a field is exposed: a nested field by its own type, any other by the
client type, and a list of it for a field that holds lists. -/
def fieldTypeName (tables : TypeTables) (index name : String) (t : FieldType) :
    Except Failure String :=
  match tables.clientType? t.esType with
  | none => .error (.unmappedType t.esType name index)
  | some client =>
    .ok (if t.isNested then listOf (Text.capitalize name)
      else if t.isArray then listOf client else client)

def fieldDefs (tables : TypeTables) (index : String) : Fields → Except Failure (List FieldDef)
  | [] => .ok []
  | (name, t) :: rest => do
    let type ← fieldTypeName tables index name t
    let defs ← fieldDefs tables index rest
    return .plain name type :: defs

def entryPoint (name : String) : FieldDef :=
  { name, type := listOf (Text.capitalize name), arguments := entryArguments }

/-- The entry points of an index: one for itself and one for each nested field. -/
def entryPoints (config : IndexConfig) (nested : List NestedType) : List FieldDef :=
  entryPoint config.type :: nested.map fun field => entryPoint field.1

def nestedTypes (tables : TypeTables) (index : String) :
    List NestedType → Except Failure (List ObjectType)
  | [] => .ok []
  | (name, fields) :: rest => do
    let defs ← fieldDefs tables index fields
    let types ← nestedTypes tables index rest
    return ⟨Text.capitalize name, defs⟩ :: types

/-- The type of an index, given the definitions of its fields. -/
def indexType (config : IndexConfig) (defs : List FieldDef) : ObjectType :=
  ⟨Text.capitalize config.type, defs ++ [.plain "_matched" "[MatchedItem]"]⟩

def aggregationName (type : String) : String := Text.capitalize type ++ "Aggregation"

/-- The histogram of a field, if its type can be aggregated. -/
def histogramField? (tables : TypeTables) (f : FieldDef) : Option FieldDef :=
  match tables.histogram? f.type with
  | none => none
  | some h => if h == "" then none else some (.plain f.name h)

/-- The type for the aggregations of an index: the number of documents, and the histogram of every
field that has one. -/
def aggregationType (tables : TypeTables) (config : IndexConfig) (defs : List FieldDef) :
    ObjectType :=
  ⟨aggregationName config.type,
    .plain "_totalCount" "Int" :: defs.filterMap (histogramField? tables)⟩

/-! ### All indices -/

/-- What some indices contribute to a schema. -/
structure Contribution where
  entries : List FieldDef := []
  types : List ObjectType := []
  aggregations : List ObjectType := []
deriving Inhabited

/-- What one index contributes, and the claims on nested fields after it. -/
def contribution (tables : TypeTables) (catalog : Catalog) (config : IndexConfig)
    (claims : List Claim) : Except Failure (Contribution × List Claim) := do
  let fields ← catalog.fields config.index
  let (nested, claims) ← Nested.discover config.index fields claims
  let defs ← fieldDefs tables config.index fields
  let types ← nestedTypes tables config.index nested
  return (⟨entryPoints config nested, indexType config defs :: types,
    [aggregationType tables config defs]⟩, claims)

/-- What all indices contribute, in order. -/
def contributions (tables : TypeTables) (catalog : Catalog) :
    List IndexConfig → List Claim → Except Failure Contribution
  | [], _ => .ok {}
  | config :: rest, claims => do
    let (one, claims) ← contribution tables catalog config claims
    let others ← contributions tables catalog rest claims
    return ⟨one.entries ++ others.entries, one.types ++ others.types,
      one.aggregations ++ others.aggregations⟩

/-- The type with the entry points of all aggregations. -/
def aggregationRoot (configs : List IndexConfig) : ObjectType :=
  ⟨"Aggregation", configs.map fun c =>
    { name := c.type, type := aggregationName c.type, arguments := aggregationArguments }⟩

def mappingType (configs : List IndexConfig) : ObjectType :=
  ⟨"Mapping", configs.map fun c => .plain c.type "[String]"⟩

def queryType (entries : List FieldDef) : ObjectType :=
  ⟨"Query", entries ++ [.plain "_aggregation" "Aggregation", .plain "_mapping" "Mapping"]⟩

def assemble (configs : List IndexConfig) (c : Contribution) : Schema where
  scalars := ["JSON", TypeTables.objectType]
  enums := [accessibilityEnum]
  types := [matchedItemType, queryType c.entries] ++ c.types
    ++ aggregationRoot configs :: c.aggregations ++ histogramTypes ++ bucketTypes
    ++ [mappingType configs]

/-- The schema of some indices of a catalog. -/
def generate (tables : TypeTables) (catalog : Catalog) (configs : List IndexConfig) :
    Except Failure Schema :=
  match tables.firstGap with
  | some gap => .error (.inconsistentTables gap)
  | none => (contributions tables catalog configs []).map (assemble configs)

end Schema

end ScopedSearch
