import QueryPlans.Service.Nearby

/-!
# Models by their services

* `Provider.generate` — the response to a request, by the service of the provider.
* `Provider.answer` — the answer to a call on a model.
-/

namespace QueryPlans.Provider

def generate (p : Provider) (r : Chat.Request) : ServiceProgram (Except Fault Chat.Response) :=
  match p.name with
  | .openai => Service.complete p r
  | .anthropic => Service.converse p r
  | .nearby => Service.askNearby p r

/-- The answer to a call on a model. -/
def answer (p : Provider) : (c : Chat.Call) → ServiceProgram (Except Fault c.Value)
  | .generate r => p.generate r
  | .close => Service.call .close

end QueryPlans.Provider
