import AgentLedger.Duration
import AgentLedger.Http.Status
import AgentLedger.Json.Record
/-!
# Failures of a client's calls

Every way in which a call can fail, what callers may ask of a failure, and the
classification of an answer whose status is no success.
-/

namespace AgentLedger

/-- The calls whose answers have a body to be read. -/
inductive Call where
  | addWallet
  | readWallet
  | readBalances
  | readBalance
  | openChannel
  | readChannels
deriving DecidableEq, Repr

def Call.name : Call → String
  | .addWallet => "create_wallet"
  | .readWallet => "get_wallet"
  | .readBalances => "get_all_balances"
  | .readBalance => "get_balance"
  | .openChannel => "open_channel"
  | .readChannels => "get_agent_channels"

inductive Failure where
  | notFound (message : String)
  | conflict (message : String)
  | rateLimited (retryAfter : Option Duration) (message : String)
  /-- The amount exceeds what a wallet or a channel holds. -/
  | insufficientFunds (message : String)
  | validation (status : Nat) (message : String)
  | serverFault (status : Nat) (message : String)
  | unexpectedStatus (status : Nat) (message : String)
  /-- No answer within the limit. -/
  | timeout (limit : Duration)
  /-- The connection failed. -/
  | transport (detail : String)
  /-- A success whose body is not what the call expects. -/
  | undecodable (call : Call) (fault : Json.Fault)
  /-- A text that is no amount; nothing was sent. -/
  | invalidAmount (detail : String)
  | configuration (detail : String)
  /-- The wallet stayed pending for every poll. -/
  | notActivated (agent : String) (attempts : UInt32)

def Amount.parse (raw : String) : Except Failure Amount :=
  match Amount.read raw with
  | .ok a => .ok a
  | .error f => .error (.invalidAmount (f.text raw))

namespace Failure

def durationText : Option Duration → String
  | some d => "Some(" ++ d.text ++ ")"
  | none => "None"

def message : Failure → String
  | .notFound m => "Not found: " ++ m
  | .conflict m => "Conflict: " ++ m
  | .rateLimited after m => "Rate limited (retry after " ++ durationText after ++ "): " ++ m
  | .insufficientFunds m => "Insufficient funds: " ++ m
  | .validation status m => "Validation failed (" ++ Text.decimal status ++ "): " ++ m
  | .serverFault status m => "Server fault (" ++ Text.decimal status ++ "): " ++ m
  | .unexpectedStatus status m => "Unexpected HTTP status " ++ Text.decimal status ++ ": " ++ m
  | .timeout limit => "Request timed out after " ++ limit.text
  | .transport detail => "Transport error: " ++ detail
  | .undecodable call (.broken _) => "Invalid response body for " ++ call.name
  | .undecodable call fault => "Invalid response body for " ++ call.name ++ ": " ++ fault.text
  | .invalidAmount detail => "Invalid amount: " ++ detail
  | .configuration detail => "Configuration error: " ++ detail
  | .notActivated agent attempts =>
    "Wallet " ++ agent ++ " not active after " ++ Text.decimal attempts.toNat ++ " attempts"

/-- The status of the answer, where the failure keeps it. -/
def status? : Failure → Option Nat
  | .notFound _ => some 404
  | .conflict _ => some 409
  | .rateLimited .. => some 429
  | .validation status _ | .serverFault status _ | .unexpectedStatus status _ => some status
  | _ => none

def serverMessage? : Failure → Option String
  | .notFound m | .conflict m | .insufficientFunds m | .rateLimited _ m | .validation _ m | .serverFault _ m
  | .unexpectedStatus _ m => some m
  | _ => none

def retryAfter? : Failure → Option Duration
  | .rateLimited after _ => after
  | _ => none

/-- The same call may succeed later. Faults of the service usually need somebody to look after it. -/
def isRetryable : Failure → Bool
  | .rateLimited .. | .timeout _ | .transport _ => true
  | _ => false

def isConflict : Failure → Bool
  | .conflict _ => true
  | _ => false

def isNotFound : Failure → Bool
  | .notFound _ => true
  | _ => false

/-- Whether `needle` stands somewhere in a text. -/
def occursIn (needle : List Char) : List Char → Bool
  | [] => needle.isEmpty
  | c :: cs => needle.isPrefixOf (c :: cs) || occursIn needle cs

/-- The service has no seed to derive wallets from. -/
def isSeedMissing : Failure → Bool
  | .serverFault _ m => occursIn "master-seed not found".toList m.toList
  | _ => false

/-! ## Answers -/

/-- The body of an answer that is no success. -/
structure Diagnosis where
  error : Option String := none
  message : Option String := none
  code : Option String := none
  retryAfter : Option UInt64 := none
deriving DecidableEq

namespace Diagnosis

def members : Json.Members Diagnosis :=
  Diagnosis.mk <$> .optional "error" Json.readAnyText <*> .optional "message" Json.readAnyText <*>
    .optional "code" Json.readAnyText <*> .optional "retryAfter" Json.readUInt64

/-- What a body says; a body of any other form says nothing. -/
def ofBody (body : String) : Diagnosis :=
  match Json.readAll (members.read "ErrorBody") (Text.whole body) with
  | .ok d => d
  | .error _ => {}

end Diagnosis

/-- The code that flags an overdrawn wallet or channel. -/
def insufficientFundsCode : String := "INSUFFICIENT_FUNDS"

/-- The error text of a body, or else the body itself, or else the reason of the status. -/
def diagnostic (d : Diagnosis) (status : Nat) (body : String) : String :=
  match (d.error <|> d.message).filter (· != "") with
  | some m => m
  | none =>
    let plain := Text.trim body
    if plain = "" then (Http.reason? status).getD "no response body" else plain

/-- The failure that an answer without success stands for. -/
def ofAnswer (status : Nat) (retryAfter : Option String) (body : String) : Failure :=
  let d := Diagnosis.ofBody body
  let message := diagnostic d status body
  if status = 404 then .notFound message
  else if status = 409 then .conflict message
  else if status = 429 then
    let seconds := (retryAfter.bind fun v => (Text.readUInt64 (Text.trim v)).toOption) <|> d.retryAfter
    .rateLimited (seconds.map fun s => .ofSeconds s.toNat) message
  else if status = 402 then .insufficientFunds message
  else if Http.isClientError status then
    if d.code = some insufficientFundsCode then .insufficientFunds message else .validation status message
  else if Http.isServerError status then .serverFault status message
  else .unexpectedStatus status message

end Failure

end AgentLedger
