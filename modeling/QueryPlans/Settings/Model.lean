import QueryPlans.Settings.Source
import QueryPlans.Text.Search
import QueryPlans.Validation.Reader

/-!
# Settings of the model

* `ProviderName` — who offers models.
* `ModelSettings` — which model writes plans, with the keys to it, and how it samples.
* `ModelSettings.read` — the settings of a source; a key has a shape.
-/

namespace QueryPlans

/-- Who offers models. -/
inductive ProviderName where
  | openai
  | anthropic
  /-- A server nearby. -/
  | nearby
  deriving DecidableEq, Repr, Inhabited

namespace ProviderName

def name : ProviderName → String
  | openai => "openai"
  | anthropic => "anthropic"
  | nearby => "local"

def all : List ProviderName := [openai, anthropic, nearby]

def options : List (String × ProviderName) := all.map fun p => (p.name, p)

def ofName? (word : String) : Option ProviderName := options.lookup word

end ProviderName

/-- Which model writes plans, and how it samples. -/
structure ModelSettings where
  defaultProvider : ProviderName := .openai
  openaiApiKey : Option String := none
  openaiModel : String := "gpt-4o"
  anthropicApiKey : Option String := none
  anthropicModel : String := "claude-3-5-sonnet-20241022"
  localBaseUrl : String := "http://localhost:11434"
  localModel : String := "llama3.1:8b"
  temperature : Double := Double.zero
  maxTokens : Int := 2000
  timeout : Int := 60
  deriving Repr, Inhabited

namespace ModelSettings

/-- The least number of characters of a key. -/
def leastKeyLength : Nat := 20

/-- A key, or null: long enough, and, unless it is empty, with the start that its provider's keys
have. -/
def readKey (provider start : String) : Reader (Option String) := fun v =>
  (Reader.nullable (Reader.textOfAtLeast leastKeyLength) v).andThen fun
    | none => .valid none
    | some key =>
      if key = "" || Text.startsWith key start then .valid (some key)
      else .issue (.refused (provider ++ " API key must start with '" ++ start ++ "'"))

/-- A temperature from zero to two. -/
def readTemperature : Reader Double := fun v =>
  (Reader.number v).andThen fun x =>
    if !x.isAtMost 2 then .issue (.greaterThan 2)
    else if x.isBelowZero then .issue (.lessThan 0)
    else .valid x

def names : List String :=
  ["default_provider", "openai_api_key", "openai_model", "anthropic_api_key", "anthropic_model",
    "local_base_url", "local_model", "temperature", "max_tokens", "timeout"]

def ofFields (fields : Json.Fields) : Checked ModelSettings :=
  let default : ModelSettings := {}
  let text (name value : String) := Reader.optional fields name value Reader.text
  let count (name : String) (value : Int) (read : Reader Int) :=
    Reader.optional fields name value read
  ModelSettings.mk
    <$> Reader.optional fields "default_provider" default.defaultProvider
      (Reader.oneOf ProviderName.options)
    <*> Reader.optional fields "openai_api_key" none (readKey "openai" "sk-")
    <*> text "openai_model" default.openaiModel
    <*> Reader.optional fields "anthropic_api_key" none (readKey "anthropic" "sk-ant-")
    <*> text "anthropic_model" default.anthropicModel
    <*> text "local_base_url" default.localBaseUrl
    <*> text "local_model" default.localModel
    <*> Reader.optional fields "temperature" default.temperature readTemperature
    <*> count "max_tokens" default.maxTokens (Reader.above 0 (Reader.atMost 16000 Reader.integer))
    <*> count "timeout" default.timeout (Reader.above 0 Reader.integer)

/-- The settings of a source, behind the given ones. -/
def read (s : Source) (given : Json.Fields) : Checked ModelSettings :=
  ofFields (s.fields given "llm_" names)

def apiKey? (s : ModelSettings) : ProviderName → Option String
  | .openai => s.openaiApiKey
  | .anthropic => s.anthropicApiKey
  | .nearby => none

def model (s : ModelSettings) : ProviderName → String
  | .openai => s.openaiModel
  | .anthropic => s.anthropicModel
  | .nearby => s.localModel

end ModelSettings

end QueryPlans
