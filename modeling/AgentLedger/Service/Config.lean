import AgentLedger.Environment
import AgentLedger.Ledger.Rules
/-!
# Configuration of the service

The ledger's settings, and where the service listens. The first variable that
holds no number where one is needed is reported.
-/

namespace AgentLedger.Service

open Text (NumberFault)

structure Config where
  settings : Settings
  host : String
  port : UInt16
deriving DecidableEq

namespace Config

structure Fault where
  name : String
  reason : NumberFault
deriving DecidableEq

def Fault.message (f : Fault) : String :=
  "Failed to load configuration: Invalid " ++ f.name ++ ": " ++ f.reason.message

/-- A variable's number, or `absent` if there is no such variable. -/
def number (env : Environment) (name : String) (absent : α) (read : String → Except NumberFault α) :
    Except Fault α :=
  match env.get? name with
  | none => .ok absent
  | some raw => (read raw).mapError (⟨name, ·⟩)

/-- Without a seed that is not empty no wallet can be created. -/
def ofEnvironment (env : Environment) : Except Fault Config := do
  let dflt : Settings := {}
  let rateLimit ← number env "RATE_LIMIT" none fun raw => (Text.readUInt64 raw).map some
  let retryAfterSecs ← number env "RETRY_AFTER_SECS" dflt.retryAfterSecs Text.readUInt64
  let activationPolls ← number env "ACTIVATION_POLLS" dflt.activationPolls Text.readUInt32
  let port ← number env "SERVER_PORT" 3000 Text.readUInt16
  return {
    settings := {
      masterSeed := (env.get? "MASTER_SEED").filter (· != "")
      rateLimit, retryAfterSecs, activationPolls }
    host := (env.get? "SERVER_HOST").getD "0.0.0.0"
    port }

end Config

end AgentLedger.Service
