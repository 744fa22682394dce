import AgentLedger.Client.Config
import AgentLedger.Client.Conversation
import AgentLedger.Failure
import AgentLedger.Http.Charset
import AgentLedger.Url.Reader
import AgentLedger.Wire
/-!
# The client

One request for each call, redirects aside; the calls at the end are made of
others. Nothing is ever repeated on a failure.
-/

namespace AgentLedger

open Client (Conversation Outcome Request)

structure Client where
  base : Url
  timeout : Duration

namespace Client

/-- A client for a base URL of `http` or `https`. -/
def ofConfig (c : Config) : Except Failure Client :=
  match Url.read c.baseUrl with
  | .error f => .error (.configuration ("invalid base URL '" ++ c.baseUrl ++ "': " ++ f.message))
  | .ok none => .error (.configuration ("base URL must be an http(s) URL, got '" ++ c.baseUrl ++ "'"))
  | .ok (some base) => .ok ⟨base, c.timeout⟩

/-! ## Requests -/

def endpoint (c : Client) (segments : List String) : Url := c.base.extend segments

def get (c : Client) (segments : List String) : Request := ⟨.get, c.endpoint segments, none⟩

def post (c : Client) (segments : List String) (v : Json.Value) : Request :=
  ⟨.post, c.endpoint segments, some v.text⟩

def delete (c : Client) (segments : List String) (v : Json.Value) : Request :=
  ⟨.delete, c.endpoint segments, some v.text⟩

/-- The request that a status and a new place make of `r`; some statuses turn it into a reading one. -/
def redirected (status : Nat) (url : Url) (r : Request) : Request :=
  if status = 307 ∨ status = 308 then { r with url := url } else ⟨.get, url, none⟩

/-- Where a response sends the client, if it does. -/
def location? (r : Request) (response : Http.Response) : Option (Option Url) :=
  if [301, 302, 303, 307, 308].contains response.status then
    (Http.header? "location" response.headers).bind fun place => (r.url.resolve place).toOption
  else none

/-- What a client makes of what comes of a request; `again` sends the request that a redirect makes of it, if one may
be sent. -/
def onOutcome (c : Client) (r : Request) (again : Option (Request → Conversation (Except Failure (Http.Response × Arrival)))) :
    Outcome → Conversation (Except Failure (Http.Response × Arrival))
  | .lost => .done (.error (.transport "connection failed"))
  | .late => .done (.error (.timeout c.timeout))
  | .reply response body =>
    match location? r response, again with
    | none, _ => .done (.ok (response, body))
    | some none, _ => .done (.error (.transport "redirect to a place outside the web"))
    | some (some _), none => .done (.error (.transport "too many redirects"))
    | some (some url), some again => again (redirected response.status url r)

/-- Sends a request and follows at most `redirects` redirects. -/
def send (c : Client) : Nat → Request → Conversation (Except Failure (Http.Response × Arrival))
  | 0, r => .ask r (c.onOutcome r none)
  | redirects + 1, r => .ask r (c.onOutcome r (some (c.send redirects)))

def maxRedirects : Nat := 9

/-- A header's text, if it is in ASCII. -/
def visible? (s : String) : Option String :=
  if s.toList.all fun c => c == '\t' || (0x20 ≤ c.toNat && c.toNat < 0x7F) then some s else none

/-- The text that a response gives, or the failure that it stands for. -/
def outcome (c : Client) (response : Http.Response) : Arrival → Except Failure String
  | .broken => .error (.transport "connection closed within the body")
  | .stalled => .error (.timeout c.timeout)
  | .complete =>
    if Http.isSuccess response.status then .ok response.text
    else
      let retryAfter := (Http.header? "retry-after" response.headers).bind visible?
      .error (.ofAnswer response.status retryAfter response.text)

def execute (c : Client) (r : Request) : Conversation (Except Failure String) := do
  match ← c.send maxRedirects r with
  | .error f => return .error f
  | .ok (response, body) => return c.outcome response body

def decode (call : Call) (read : Json.Reads α) (body : String) : Except Failure α :=
  match Json.readAll read (Text.whole body) with
  | .ok a => .ok a
  | .error f => .error (.undecodable call f)

def ask (c : Client) (call : Call) (read : Json.Reads α) (r : Request) : Conversation (Except Failure α) := do
  match ← c.execute r with
  | .error f => return .error f
  | .ok body => return decode call read body

/-- Sends a request whose answer's body does not matter. -/
def tell (c : Client) (r : Request) : Conversation (Except Failure Unit) := do
  match ← c.execute r with
  | .error f => return .error f
  | .ok _ => return .ok ()

/-! ## Wallets -/

def addWallet (c : Client) (agent : String) : Conversation (Except Failure Report.Wallet) :=
  c.ask .addWallet Wire.readWallet (c.post ["wallets"] (Wire.creation agent))

def readWallet (c : Client) (agent : String) : Conversation (Except Failure (Option Report.Wallet)) := do
  match ← c.ask .readWallet Wire.readWallet (c.get ["wallets", agent]) with
  | .ok w => return .ok (some w)
  | .error f => return if f.isNotFound then .ok none else .error f

/-- Creates a wallet, or gets it if there is one. -/
def ensureWallet (c : Client) (agent : String) : Conversation (Except Failure Report.Wallet) := do
  match ← c.addWallet agent with
  | .ok w => return .ok w
  | .error f =>
    if f.isConflict then
      match ← c.readWallet agent with
      | .ok (some w) => return .ok w
      | .ok none => return .error (.notFound ("wallet for " ++ agent ++ " reported as existing but not found"))
      | .error f => return .error f
    else return .error f

structure Batch where
  created : List Report.Wallet := []
  /-- Agents that had a wallet. -/
  skipped : List String := []
deriving DecidableEq

/-- Creates wallets one after the other. Agents that have one are skipped; any
other failure ends the batch. -/
def addWallets (c : Client) : List String → Conversation (Except Failure Batch)
  | [] => return .ok {}
  | agent :: agents => do
    match ← c.addWallet agent with
    | .ok w => return (← c.addWallets agents).map fun b => { b with created := w :: b.created }
    | .error f =>
      if f.isConflict then
        return (← c.addWallets agents).map fun b => { b with skipped := agent :: b.skipped }
      else return .error f

/-- Reads a wallet up to `left` times until it is active. -/
def poll (c : Client) (agent : String) (attempts : UInt32) : Nat → Conversation (Except Failure Report.Wallet)
  | 0 => return .error (.notActivated agent attempts)
  | left + 1 => do
    match ← c.readWallet agent with
    | .error f => return .error f
    | .ok none => return .error (.notFound ("wallet for " ++ agent ++ " not found"))
    | .ok (some w) => if w.isActive then return .ok w else c.poll agent attempts left

def awaitActive (c : Client) (agent : String) (attempts : UInt32) : Conversation (Except Failure Report.Wallet) :=
  c.poll agent attempts attempts.toNat

/-! ## Balances -/

def readBalances (c : Client) (agent : String) : Conversation (Except Failure (List Report.Balance)) :=
  c.ask .readBalances Wire.readBalances (c.get ["wallets", agent, "balances"])

def readBalance (c : Client) (agent : String) (a : Asset) : Conversation (Except Failure Amount) :=
  c.ask .readBalance Wire.readBalance (c.get ["wallets", agent, "balances", a.chain, a.token])

/-! ## Channels -/

def openChannel (c : Client) (agent peer : String) (asset : Asset) (amount : Amount) :
    Conversation (Except Failure String) :=
  c.ask .openChannel Wire.readOpened
    (c.post ["channels"] (Wire.opening ⟨agent, peer, asset, amount.text⟩))

def pay (c : Client) (agent channel : String) (amount : Amount) : Conversation (Except Failure Unit) :=
  c.tell (c.post ["channels", channel, "payments"] (Wire.payment agent amount.text))

def closeChannel (c : Client) (agent channel : String) : Conversation (Except Failure Unit) :=
  c.tell (c.delete ["channels", channel] (Wire.closing agent))

def readChannels (c : Client) (agent : String) : Conversation (Except Failure (List Report.Channel)) :=
  c.ask .readChannels Wire.readChannels (c.get ["wallets", agent, "channels"])

def readChannel (c : Client) (agent channel : String) : Conversation (Except Failure (Option Report.Channel)) := do
  return (← c.readChannels agent).map (·.find? (·.id == channel))

end Client

end AgentLedger
