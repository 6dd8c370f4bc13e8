import ScopedSearch.Catalog.Basic
import ScopedSearch.Check.Integer
import ScopedSearch.Json.Reader
import ScopedSearch.Schema.Generate
import ScopedSearch.Settings.EnvFile

/-!
# Settings

The settings of a gateway, read from its environment.  A variable that is empty counts as not set.
The indices and the array fields are written in JSON; when one of them is not JSON at all, nothing
else is looked at.
-/

namespace ScopedSearch

structure Settings where
  host : String := "http://localhost:9200"
  indices : List IndexConfig := []
  arrays : Catalog.ArrayFields := []
  /-- The address of the authority; without one there is no authorization. -/
  authority : Option String := none
  authField : String := "auth_resource_path"
  /-- The position at which a page must end at the latest. -/
  ceiling : Int := 10000
  /-- How many documents a stream fetches at a time. -/
  batchSize : Int := 1000
  logLevel : String := "INFO"
  apiHost : String := "0.0.0.0"
  apiPort : Int := 8000
deriving Inhabited

/-- Why an environment gives no settings. -/
inductive SettingsFailure where
  | notJson (name : String)
  /-- A variable may not be set, or it is written in JSON and over a limit. -/
  | refused (f : Failure)
  | faults (fs : List Fault)
deriving Inhabited

namespace SettingsFailure

def message : SettingsFailure → String
  | notJson name => name ++ " is not valid JSON"
  | refused f => f.message
  | faults _ => "Invalid gateway configuration"

/-- The faults of single settings; none when the settings were not looked at. -/
def details? : SettingsFailure → Option (List Fault)
  | faults fs => some fs
  | _ => none

/-- The failure of whatever needs the settings. -/
def toFailure : SettingsFailure → Failure
  | refused f => f
  | _ => .invalidSettings

end SettingsFailure

namespace Settings

/-! ### Single settings -/

/-- The value of a variable that is set and not empty. -/
def given? (env : Environment) (name : String) : Option String :=
  (env.lookup name).filter (· != "")

/-- A variable that is written in JSON; nothing when it is not set. -/
def jsonVariable (env : Environment) (name : String) : Except SettingsFailure (Option Value) :=
  match given? env name with
  | none => .ok none
  | some text =>
    match Json.readOutside text with
    | .ok v => .ok (some v)
    | .error .malformed => .error (.notJson name)
    | .error (.refused f) => .error (.refused f)

/-- A setting that is checked if it is given. -/
def setting {α : Type} (c : Check α) (name : String) (default : α) : Option Value → Checked α
  | none => .ok default
  | some v => c [.key name] v

def indexConfig : Check IndexConfig
  | place, .obj es =>
    IndexConfig.mk <$> Check.text.required place "index" es <*> Check.text.required place "type" es
  | place, v => .fault place .notEntry v

def integer (env : Environment) (source name : String) (default : Int) : Checked Int :=
  setting Check.integer name default ((given? env source).map .str)

/-! ### All settings -/

/-- The settings of an environment, given the indices and the array fields as values. -/
def check (env : Environment) (indices arrays : Option Value) : Checked Settings :=
  let text (source default : String) : String := (given? env source).getD default
  let make (indices : List IndexConfig) (arrays : Catalog.ArrayFields)
      (ceiling batchSize apiPort : Int) : Settings :=
    { host := text "ES_HOST" "http://localhost:9200"
      indices, arrays
      authority := given? env "ARBORIST_ENDPOINT"
      authField := text "AUTH_FILTER_FIELD" "auth_resource_path"
      ceiling, batchSize
      logLevel := text "LOG_LEVEL" "INFO"
      apiHost := text "API_HOST" "0.0.0.0"
      apiPort }
  make <$> setting (Check.list indexConfig) "indices" [] indices
    <*> setting (Check.map (Check.list Check.text)) "array_fields" [] arrays
    <*> integer env "SCROLL_PAGE_SIZE" "scroll_page_size" 10000
    <*> integer env "SCROLL_BATCH_SIZE" "scroll_batch_size" 1000
    <*> integer env "API_PORT" "api_port" 8000

def ofEnvironment (env : Environment) : Except SettingsFailure Settings := do
  let indices ← jsonVariable env "ES_INDICES"
  let arrays ← jsonVariable env "ES_ARRAY_CONFIG"
  (check env indices arrays).toExcept.mapError .faults

/-- The settings of an environment and the text of an environment file. -/
def load (env : Environment) (file : String) : Except SettingsFailure Settings := do
  ofEnvironment (← (EnvFile.load env file).mapError .refused)

def toValue (s : Settings) : Value := .obj [
  ("es_host", .str s.host),
  ("indices", .arr (s.indices.map fun c =>
    .obj [("index", .str c.index), ("type", .str c.type)])),
  ("array_fields", .obj (s.arrays.map fun (index, names) => (index, .texts names))),
  ("arborist_endpoint", Value.ofOption (s.authority.map .str)),
  ("auth_filter_field", .str s.authField),
  ("scroll_page_size", .int s.ceiling),
  ("scroll_batch_size", .int s.batchSize),
  ("log_level", .str s.logLevel),
  ("api_host", .str s.apiHost),
  ("api_port", .int s.apiPort)]

end Settings

end ScopedSearch
