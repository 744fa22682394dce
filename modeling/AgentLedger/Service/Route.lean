import AgentLedger.Http.Message
import AgentLedger.Text.Percent
import AgentLedger.Text.Split
/-!
# Routes

The paths of the service. A parameter is one segment of the path as it was
sent; it may be empty unless it comes last. Each route answers to one method,
those that only read to `HEAD` too.
-/

namespace AgentLedger.Service

inductive Route where
  | health
  | credit (agent : String)
  | wallets
  | wallet (agent : String)
  | balances (agent : String)
  | balance (agent chain token : String)
  | channelsOf (agent : String)
  | channels
  | channel (id : String)
  | payments (id : String)
deriving DecidableEq, Repr

namespace Route

/-- A route of the API, under its common path. -/
def ofApiSegments? : List String → Option Route
  | ["wallets"] => some .wallets
  | ["wallets", agent] => if agent = "" then none else some (.wallet agent)
  | ["wallets", agent, "balances"] => some (.balances agent)
  | ["wallets", agent, "balances", chain, token] => if token = "" then none else some (.balance agent chain token)
  | ["wallets", agent, "channels"] => some (.channelsOf agent)
  | ["channels"] => some .channels
  | ["channels", id] => if id = "" then none else some (.channel id)
  | ["channels", id, "payments"] => some (.payments id)
  | _ => none

def ofSegments? : List String → Option Route
  | ["", "health"] => some .health
  | ["", "dev", "wallets", agent, "credit"] => some (.credit agent)
  | "" :: "api" :: "v1" :: segments => ofApiSegments? segments
  | _ => none

/-- The route of a target; its query does not matter. -/
def ofTarget? (target : String) : Option Route :=
  let path := target.toList.takeWhile fun c => c ≠ '?' ∧ c ≠ '#'
  ofSegments? ((Text.split '/' path).map String.ofList)

/-- Requests to the API count towards the limit. -/
def isCounted : Route → Bool
  | .health | .credit _ => false
  | _ => true

def method : Route → Http.Method
  | .health | .wallet _ | .balances _ | .balance .. | .channelsOf _ => .get
  | .credit _ | .wallets | .channels | .payments _ => .post
  | .channel _ => .delete

/-- The methods that a wrong one is answered with. -/
def allow (r : Route) : String := if r.method = .get then "GET,HEAD" else r.method.name

def serves (r : Route) (m : Http.Method) : Bool := m == r.method || (m == .head && r.method == .get)

/-! ## Parameters -/

/-- A parameter's text, or the parameter's name if its bytes are no text. -/
def parameter (name raw : String) : Except String String :=
  match (Text.decode (Text.percentDecoded raw.toList)).strict? with
  | some cs => .ok (String.ofList cs)
  | none => .error name

/-- The route with its parameters decoded, or the name of the first one that cannot be. -/
def decode : Route → Except String Route
  | .health => .ok .health
  | .credit agent => .credit <$> parameter "agent_id" agent
  | .wallets => .ok .wallets
  | .wallet agent => .wallet <$> parameter "agent_id" agent
  | .balances agent => .balances <$> parameter "agent_id" agent
  | .balance agent chain token =>
    .balance <$> parameter "agent_id" agent <*> parameter "chain" chain <*> parameter "token" token
  | .channelsOf agent => .channelsOf <$> parameter "agent_id" agent
  | .channels => .ok .channels
  | .channel id => .channel <$> parameter "channel_id" id
  | .payments id => .payments <$> parameter "channel_id" id

end Route

end AgentLedger.Service
