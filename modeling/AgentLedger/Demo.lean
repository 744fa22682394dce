import AgentLedger.Client
import AgentLedger.Text.Upper
/-!
# The life of an agent

A demonstration of a client: a wallet is created and read until it is active,
balances are shown, ten payments go through a channel that is closed then, a
failure is handled, and three wallets are created at once. The first failure
ends it; what was printed before stays.
-/

namespace AgentLedger

/-- A part of a demonstration: the lines it prints, and its value or what went wrong. -/
structure Scene (α : Type) where
  conversation : Client.Conversation (List String × Except String α)

namespace Scene

def bind (x : Scene α) (f : α → Scene β) : Scene β where
  conversation := do
    match ← x.conversation with
    | (lines, .error e) => return (lines, .error e)
    | (lines, .ok a) =>
      let (more, r) ← (f a).conversation
      return (lines ++ more, r)

instance : Monad Scene where
  pure a := ⟨.done ([], .ok a)⟩
  bind := Scene.bind

def say (lines : List String) : Scene Unit := ⟨.done (lines, .ok ())⟩

def stop (reason : String) : Scene α := ⟨.done ([], .error reason)⟩

def attempt (x : Client.Conversation (Except Failure α)) : Scene (Except Failure α) where
  conversation := do return ([], .ok (← x))

/-- A call whose failure ends the demonstration. -/
def call (x : Client.Conversation (Except Failure α)) : Scene α := do
  match ← attempt x with
  | .ok a => return a
  | .error f => stop f.message

end Scene

namespace Demo

open Scene (say stop attempt call)

def agentId : String := "agent-example-001"
def peerId : String := "agent-example-002"
def strangerId : String := "agent-error-001"
def batchIds : List String := ["agent-batch-001", "agent-batch-002", "agent-batch-003"]

def usdc : Asset := ⟨"evm", "USDC"⟩
def funds : Amount := ⟨1000000000, by decide⟩
def payment : Amount := ⟨10000000, by decide⟩

def rule : String := String.ofList (List.replicate 60 '=')

def prepareWallet (c : Client) : Scene Report.Wallet := do
  say ["=== Example 1: Create Agent Wallet ==="]
  let w ← call (c.ensureWallet agentId)
  say ["Agent wallet ready:", "  Agent ID: " ++ w.agentId, "  EVM Address: " ++ w.evmAddress,
    "  XRP Address: " ++ w.xrpAddress, "  Status: " ++ w.status.title]
  if w.isActive then return w
  say ["Waiting for wallet activation..."]
  let w ← call (c.awaitActive agentId 24)
  say ["Wallet is now active!"]
  return w

def balanceLines (b : Report.Balance) : List String :=
  ["  " ++ Text.upperCase b.chain ++ " " ++ b.token ++ ": " ++ b.formatted,
    "    Raw: " ++ b.balance.text ++ " (decimals: " ++ Text.decimal b.decimals.toNat ++ ")"]

def showBalances (c : Client) (agent : String) : Scene Unit := do
  say ["", "=== Example 2: Check Balances for " ++ agent ++ " ==="]
  let bs ← call (c.readBalances agent)
  say (("Agent has " ++ Text.decimal bs.length ++ " balances:") :: bs.flatMap balanceLines)

/-- Payments `done + 1` up to `done + left` of ten. -/
def payRest (c : Client) (agent channel : String) (sent : Nat) : Nat → Scene Unit
  | 0 => return ()
  | left + 1 => do
    call (c.pay agent channel payment)
    say ["Payment " ++ Text.decimal (sent + 1) ++ "/10 sent: 10 USDC"]
    payRest c agent channel (sent + 1) left

def payThroughChannel (c : Client) (agent peer : String) : Scene Unit := do
  say ["", "=== Example 3: Payment Channel ==="]
  let _ ← call (c.ensureWallet peer)
  say ["Opening payment channel from " ++ agent ++ " to " ++ peer]
  let id ← call (c.openChannel agent peer usdc funds)
  say ["Payment channel opened: " ++ id]
  payRest c agent id 0 10
  match ← call (c.readChannel agent id) with
  | some ch =>
    say ["", "Channel status:", "  Channel ID: " ++ ch.id,
      "  Remaining balance: " ++ ch.balance.format 6 ++ " USDC",
      "  Payments sent: " ++ Text.decimal ch.paymentsCount.toNat]
  | none => pure ()
  say ["", "Closing payment channel..."]
  call (c.closeChannel agent id)
  say ["Channel closed and settled"]

def handleFailure (c : Client) (agent : String) : Scene Unit := do
  say ["", "=== Example 4: Error Handling ==="]
  match ← attempt (c.addWallet agent) with
  | .ok _ => say ["Wallet created: " ++ agent]
  | .error f =>
    if f.isConflict then
      say ["Wallet already exists, retrieving existing wallet"]
      let _ ← call (c.readWallet agent)
    else
      match f with
      | .rateLimited after _ =>
        say ["Rate limit exceeded, retry in " ++ (after.getD (.ofSeconds 60)).text]
        stop "rate limited"
      | f =>
        if f.isSeedMissing then
          say ["Master seed not initialized - contact administrator"]
          stop "System configuration error"
        else
          say ["Unknown error: " ++ f.message]
          stop f.message

def createBatch (c : Client) : Scene Unit := do
  say ["", "=== Example 5: Batch Wallet Creation ===",
    "Creating " ++ Text.decimal batchIds.length ++ " wallets..."]
  let b ← call (c.addWallets batchIds)
  say (b.created.map ("  Created: " ++ ·.agentId))
  say (b.skipped.map ("  Skipped (already exists): " ++ ·))
  say ["", "Batch creation complete: " ++ Text.decimal b.created.length ++ " wallets created"]

def story (c : Client) : Scene Unit := do
  say [rule, "=== COMPLETE AGENT LIFECYCLE EXAMPLE ===", rule]
  let w ← prepareWallet c
  showBalances c w.agentId
  payThroughChannel c w.agentId peerId
  handleFailure c strangerId
  createBatch c
  say ["", rule, "=== COMPLETE LIFECYCLE EXAMPLE FINISHED SUCCESSFULLY ===", rule]

structure Transcript where
  exit : UInt32
  stdout : String
  stderr : String
deriving DecidableEq

def printed (lines : List String) : String := String.join (lines.map (· ++ "\n"))

def transcript : List String × Except String Unit → Transcript
  | (lines, .ok ()) => ⟨0, printed lines, ""⟩
  | (lines, .error e) => ⟨1, printed lines, "Error: " ++ e ++ "\n"⟩

def run (c : Client) : Client.Conversation Transcript := do return transcript (← (story c).conversation)

end Demo

end AgentLedger
