import AgentLedger.Duration
import AgentLedger.Environment
import AgentLedger.Text.Number
/-!
# Configuration of a client

Where the service is, and how long a request may take.
-/

namespace AgentLedger.Client

structure Config where
  baseUrl : String := "http://localhost:3000/api/v1"
  timeout : Duration := .ofSeconds 30
deriving DecidableEq

namespace Config

/-- A number of seconds, not zero, between blanks. -/
def readTimeout (raw : String) : Option Duration :=
  match Text.readUInt64 (Text.trim raw) with
  | .ok seconds => if seconds = 0 then none else some (.ofSeconds seconds.toNat)
  | .error _ => none

/-- A timeout that cannot be read counts as absent. -/
def ofEnvironment (env : Environment) : Config :=
  let dflt : Config := {}
  { baseUrl := (env.get? "AGENT_WALLET_API_URL").getD dflt.baseUrl
    timeout := ((env.get? "AGENT_WALLET_API_TIMEOUT_SECS").bind readTimeout).getD dflt.timeout }

end Config

end AgentLedger.Client
