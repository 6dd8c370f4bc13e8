/-!
# Failures

Everything that can go wrong, by cause.  A failure has a kind, which says whose fault it is, and a
message; the failures of the caller and of the catalog also have a status.
-/

namespace ScopedSearch

inductive TableGap where
  | unclassified (esType : String)
  | withoutHistogram (clientType : String)
  | withoutClientType (esType : String)
deriving DecidableEq, Inhabited

inductive Failure where
  /-- A filter that is not of the grammar. -/
  | filterSyntax
  /-- A filter with too many groups inside each other. -/
  | filterTooDeep
  | unknownField (field : String)
  | illegalOperator (operator : String)
  | illegalNumericOperator (operator field : String)
  /-- A field whose type is in no filter class. -/
  | unclassifiedType (esType : String)
  | invalidSort
  | pageTooLarge (ceiling offset size : Int)
  | invalidAccessibility (shown : String)
  /-- The complement of some resources is asked for, and the whole is not given. -/
  | missingResources
  | unknownIndex (index : String)
  | unknownType (type : String)
  | inconsistentTables (gap : TableGap)
  /-- A field whose type has no client type. -/
  | unmappedType (esType field index : String)
  /-- Two indices define a nested field differently. -/
  | nestedConflict (field index owner : String)
  /-- The search cluster reported an error. -/
  | backend (text : String)
  /-- A key that must be there is missing. -/
  | missingKey
  /-- A value does not have the parts that are asked for. -/
  | wrongShape
  /-- A value is not an object. -/
  | notAnObject
  /-- The type of a field is not a text. -/
  | typeNotText
  | invalidSettings
  /-- A variable that may not be set because there is an equals sign in its name. -/
  | illegalVariable
  /-- A variable that may not be set because there is a null character in it. -/
  | embeddedNull
  /-- A name for a log level that is taken by something else. -/
  | unknownLevel (shown : String)
  /-- An integer in JSON with more digits than are read. -/
  | longInteger (limit digits : Nat)
  /-- JSON with too many lists and objects inside each other. -/
  | tooDeep
  /-- A text that is no address. -/
  | badAddress
  /-- A header with characters that no header has. -/
  | badHeader
deriving DecidableEq, Inhabited

namespace TableGap

def message : TableGap → String
  | unclassified t => s!"ES type {t} has no filter classification"
  | withoutHistogram t => s!"Client type {t} has no histogram type"
  | withoutClientType t => s!"ES type {t} has no client type"

end TableGap

namespace Failure

/-- Whose fault a failure is. -/
inductive Kind where
  | input
  | internal
  | schema
  | backend
  | missingKey
  | wrongShape
  | notAnObject
  | typeNotText
  | settings
  /-- A value that is refused with a message of its own. -/
  | value
  | nesting
  | address
  | header
deriving DecidableEq, Inhabited

def kind : Failure → Kind
  | filterSyntax => .input
  | filterTooDeep => .input
  | unknownField _ => .input
  | illegalOperator _ => .input
  | illegalNumericOperator _ _ => .input
  | unclassifiedType _ => .internal
  | invalidSort => .input
  | pageTooLarge _ _ _ => .input
  | invalidAccessibility _ => .input
  | missingResources => .input
  | unknownIndex _ => .input
  | unknownType _ => .input
  | inconsistentTables _ => .schema
  | unmappedType _ _ _ => .schema
  | nestedConflict _ _ _ => .schema
  | backend _ => .backend
  | missingKey => .missingKey
  | wrongShape => .wrongShape
  | notAnObject => .notAnObject
  | typeNotText => .typeNotText
  | invalidSettings => .settings
  | illegalVariable => .value
  | embeddedNull => .value
  | unknownLevel _ => .value
  | longInteger _ _ => .value
  | tooDeep => .nesting
  | badAddress => .address
  | badHeader => .header

/-- The status of a failure that is reported to the caller as it is: 400 for the caller's faults,
500 for the catalog's. -/
def Kind.status? : Kind → Option Nat
  | input => some 400
  | internal => some 500
  | schema => some 500
  | _ => none

def Kind.hasMessage : Kind → Bool
  | input => true
  | internal => true
  | schema => true
  | backend => true
  | value => true
  | _ => false

/-- What every message about a malformed filter begins with. -/
def filterSyntaxText : String := "Please check your syntax for input \"filter\" argument"

/-- The message of a failure; the failures that are not reported as they are have none. -/
def message : Failure → String
  | filterSyntax => filterSyntaxText
  | filterTooDeep => filterSyntaxText ++ ": nested deeper than 64 levels"
  | unknownField f => filterSyntaxText ++ s!": unknown field \"{f}\""
  | illegalOperator op => s!"Invalid operation \"{op}\" in filter argument."
  | illegalNumericOperator op f =>
    s!"Invalid numeric operation \"{op}\" for field \"{f}\" in filter argument"
  | unclassifiedType t => s!"ES type {t} not supported."
  | invalidSort => "Invalid sort argument"
  | pageTooLarge ceiling offset size =>
    s!"Large graphql query forbidden for offset + size > {ceiling}, " ++
      s!"offset = {offset} and size = {size}, " ++
      "please use download endpoint for large data queries instead."
  | invalidAccessibility shown => s!"Invalid accessibility \"{shown}\""
  | missingResources => "All resource paths are required for an unaccessible filter"
  | unknownIndex index => s!"Unknown index {index}"
  | unknownType type => s!"Unknown type {type}"
  | inconsistentTables gap => gap.message
  | unmappedType t field index => s!"Invalid type {t} for field {field} in index {index}"
  | nestedConflict field index owner =>
    s!"Nested field {field} in index {index} conflicts with nested field {field} in index {owner}"
  | backend text => text
  | illegalVariable => "illegal environment variable name"
  | embeddedNull => "embedded null byte"
  | unknownLevel shown => s!"Unknown level: {shown}"
  | longInteger limit digits =>
    s!"Exceeds the limit ({limit} digits) for integer string conversion: " ++
      s!"value has {digits} digits; use sys.set_int_max_str_digits() to increase the limit"
  | _ => ""

end Failure

end ScopedSearch
