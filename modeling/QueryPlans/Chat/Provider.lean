import QueryPlans.Host
import QueryPlans.Settings.Model

/-!
# Providers of models

* `Provider` — a model of a provider, with the key to it and how it samples.
* `Provider.create` — the provider of a word, as the settings have it; one that needs a key has to
  have one.
-/

namespace QueryPlans

/-- A model of a provider, and how it samples. -/
structure Provider where
  name : ProviderName
  model : String
  temperature : Double := Double.zero
  maxTokens : Int := 2000
  /-- Seconds that a request may take. -/
  timeout : Int := 60
  /-- Where a server nearby listens. -/
  baseUrl : Option String := none
  apiKey : Option String := none
  reports : Reports := default
  deriving Repr, Inhabited

/-- Why there is no provider. -/
inductive ProviderError where
  | unknown (word : String)
  | keyMissing (provider : ProviderName)
  deriving DecidableEq, Repr

def ProviderError.message : ProviderError → String
  | unknown word =>
    "Unknown provider type: " ++ word ++ ". Available providers: [" ++
      Text.joined ", " (ProviderName.all.map fun p => Text.quote p.name) ++ "]"
  | keyMissing provider =>
    provider.name ++ " API key is required. Set LLM_" ++ Text.upper provider.name ++ "_API_KEY"

namespace Provider

/-- A URL without slashes at its end. -/
def trimUrl (url : String) : String :=
  String.ofList (Text.trimEnd (· == '/') url.toList)

/-- The provider as the settings have it. -/
def ofSettings (name : ProviderName) (s : ModelSettings) : Except ProviderError Provider :=
  let base : Provider :=
    { name, model := s.model name, temperature := s.temperature, maxTokens := s.maxTokens,
      timeout := s.timeout }
  if name = .nearby then .ok { base with baseUrl := some (trimUrl s.localBaseUrl) }
  else match s.apiKey? name with
    | none => .error (.keyMissing name)
    | some key => .ok { base with apiKey := some key }

def create (word : String) (s : ModelSettings) : Except ProviderError Provider :=
  match ProviderName.ofName? word with
  | none => .error (.unknown word)
  | some name => ofSettings name s

/-- The provider that the settings prefer. -/
def createDefault (s : ModelSettings) : Except ProviderError Provider :=
  ofSettings s.defaultProvider s

end Provider

end QueryPlans
