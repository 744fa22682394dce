import AgentLedger.Http.MediaType
import AgentLedger.Ledger.Run
import AgentLedger.Service.Route
import AgentLedger.Wire
/-!
# The service

From a request to a response and the ledger behind it. A request is counted
before anything else of it is looked at; then its method, its parameters and
its body are checked, in this order, and only then the ledger is asked. Bodies
are taken to stay within the two megabytes that the framework lets a body have
by default; what it answers to longer ones (413) is not modelled.
-/

namespace AgentLedger.Service

open Http (Header Request Response)

/-! ## Responses -/

def empty (status : Nat) : Response := ⟨status, [], []⟩

def plain (status : Nat) (text : String) : Response :=
  ⟨status, [⟨"content-type", "text/plain; charset=utf-8"⟩], Text.utf8 text.toList⟩

def json (status : Nat) (v : Json.Value) : Response :=
  ⟨status, [⟨"content-type", "application/json"⟩], Text.utf8 v.chars⟩

def withHeader (name value : String) (r : Response) : Response :=
  { r with headers := ⟨name, value⟩ :: r.headers }

/-- The status of a refusal, and its code. -/
def verdict : Refusal → Nat × String
  | .walletExists _ | .channelClosed _ => (409, "CONFLICT")
  | .walletNotFound _ | .channelNotFound _ | .balanceNotFound _ => (404, "NOT_FOUND")
  | .invalid _ => (400, "VALIDATION_ERROR")
  | .insufficientFunds _ => (400, "INSUFFICIENT_FUNDS")
  | .notOwner .. => (403, "FORBIDDEN")
  | .missingMasterSeed => (500, "INTERNAL_ERROR")
  | .rateLimited _ => (429, "RATE_LIMITED")

def refusal (e : Refusal) : Response :=
  let (status, code) := verdict e
  match e with
  | .rateLimited s =>
    withHeader "retry-after" (Text.decimal s.toNat) (json status (Wire.refused e.message code (some s)))
  | _ => json status (Wire.refused e.message code none)

/-- What the ledger's answer to a route is told as. -/
def told : Route → Answer → Response
  | .wallets, .wallet w => json 201 (w.json .millis)
  | .channels, .opened id => json 201 (Wire.opened id)
  | .payments id, .channel _ | .channel id, .channel _ => json 200 (Wire.done id)
  | _, .wallet w => json 200 (w.json .millis)
  | _, .balances bs => json 200 (Wire.balances bs)
  | _, .amount a => json 200 (Wire.balance a)
  | _, .opened id => json 200 (Wire.opened id)
  | _, .channel c => json 200 c.json
  | _, .channels cs => json 200 (Wire.channels cs)
  | _, .found c => json 200 ((c.map (·.json)).getD .null)
  | _, .done => empty 200

/-! ## Requests -/

def isJson (hs : List Header) : Bool :=
  match (Http.header? "content-type" hs).bind Http.MediaType.read? with
  | some m => m.isJson
  | none => false

/-- What the body of a request says. Text behind the document does not count. -/
def readBody (read : Json.Reads α) (r : Request) : Except Response α :=
  if !isJson r.headers then .error (plain 415 "Expected request with \x60Content-Type: application/json\x60")
  else
    match Json.readFirst read (Text.decode r.body) with
    | .ok a => .ok a
    | .error (.broken _) => .error (plain 400 "Failed to parse the request body as JSON")
    | .error f =>
      .error (plain 422 ("Failed to deserialize the JSON body into the target type: " ++ f.locatedText))

/-- What a request asks of the ledger; nothing, if it asks for the service's health. -/
def operation? (r : Request) : Route → Except Response (Option Operation)
  | .health => .ok none
  | .credit agent => do
    let (asset, amount) ← readBody Wire.readCredit r
    return some (.credit agent asset amount)
  | .wallets => do
    let agent ← readBody Wire.readCreation r
    return some (.addWallet agent)
  | .wallet agent => .ok (some (.readWallet agent))
  | .balances agent => .ok (some (.balances agent))
  | .balance agent chain token => .ok (some (.balance agent ⟨chain, token⟩))
  | .channelsOf agent => .ok (some (.channelsOf agent))
  | .channels => do
    let terms ← readBody Wire.readOpening r
    return some (.openChannel terms)
  | .channel id => do
    let agent ← readBody Wire.readClosing r
    return some (.closeChannel id agent)
  | .payments id => do
    let (agent, amount) ← readBody Wire.readPayment r
    return some (.pay id agent amount)

/-- Serves a request whose method is right. -/
def serve (s : Settings) (o : Occasion) (route : Route) (r : Request) (l : Ledger) : Response × Ledger :=
  match route.decode with
  | .error name => (plain 400 ("Invalid URL: Invalid UTF-8 in \x60" ++ name ++ "\x60"), l)
  | .ok route =>
    match operation? r route with
    | .error response => (response, l)
    | .ok none => (plain 200 "OK", l)
    | .ok (some op) =>
      match l.perform s o op with
      | (.error e, l) => (refusal e, l)
      | (.ok a, l) => (told route a, l)

def countRequest (s : Settings) (route : Route) (l : Ledger) : Except Refusal Unit × Ledger :=
  if route.isCounted then l.countRequest s else (.ok (), l)

/-- Serves a request on a route. A wrong method is told the right ones. -/
def onRoute (s : Settings) (o : Occasion) (route : Route) (r : Request) (l : Ledger) : Response × Ledger :=
  let right := route.serves r.method
  let hint := if right then id else withHeader "allow" route.allow
  match countRequest s route l with
  | (.error e, l) => (hint (refusal e), l)
  | (.ok (), l) => if right then serve s o route r l else (hint (empty 405), l)

/-! ## Sharing with other origins -/

/-- Headers that let pages of any origin read the response. -/
def shared (r : Response) : Response :=
  { r with headers := r.headers ++ [⟨"access-control-allow-origin", "*"⟩,
      ⟨"vary", "origin, access-control-request-method, access-control-request-headers"⟩] }

/-- The answer to `OPTIONS` on any path. -/
def options (route : Option Route) : Response :=
  let grant : Response :=
    ⟨200, [⟨"access-control-allow-methods", "*"⟩, ⟨"access-control-allow-headers", "*"⟩], []⟩
  match route with
  | some route => withHeader "allow" route.allow grant
  | none => grant

/-- The response to a request, and the ledger behind it. A route that serves `HEAD` answers it without a body. -/
def respond (s : Settings) (o : Occasion) (r : Request) (l : Ledger) : Response × Ledger :=
  if r.method = .options then (shared (options (Route.ofTarget? r.target)), l)
  else
    match Route.ofTarget? r.target with
    | none => (shared (empty 404), l)
    | some route =>
      let (response, l) := onRoute s o route r l
      (shared (if r.method = .head ∧ route.serves .head then { response with body := [] } else response), l)

end AgentLedger.Service
