import AgentLedger.Client
/-!
# Tasks

All calls of a client under one type. Amounts are given as text; one that
cannot be read fails before anything is sent.
-/

namespace AgentLedger.Client

inductive Task where
  | addWallet (agent : String)
  | readWallet (agent : String)
  | ensureWallet (agent : String)
  | addWallets (agents : List String)
  | awaitActive (agent : String) (attempts : UInt32)
  | readBalances (agent : String)
  | readBalance (agent : String) (asset : Asset)
  | openChannel (terms : Terms)
  | pay (agent channel amount : String)
  | closeChannel (agent channel : String)
  | readChannels (agent : String)
  | readChannel (agent channel : String)
deriving DecidableEq

inductive Result where
  | done
  | wallet (w : Report.Wallet)
  | foundWallet (w : Option Report.Wallet)
  | batch (b : Batch)
  | balances (bs : List Report.Balance)
  | amount (a : Amount)
  | opened (id : String)
  | channels (cs : List Report.Channel)
  | foundChannel (c : Option Report.Channel)
deriving DecidableEq

/-- Goes on with an amount read from a text. -/
def withAmount (raw : String) (f : Amount → Conversation (Except Failure α)) : Conversation (Except Failure α) :=
  match Amount.parse raw with
  | .ok a => f a
  | .error e => return .error e

def perform (c : Client) : Task → Conversation (Except Failure Result)
  | .addWallet agent => return (← c.addWallet agent).map .wallet
  | .readWallet agent => return (← c.readWallet agent).map .foundWallet
  | .ensureWallet agent => return (← c.ensureWallet agent).map .wallet
  | .addWallets agents => return (← c.addWallets agents).map .batch
  | .awaitActive agent attempts => return (← c.awaitActive agent attempts).map .wallet
  | .readBalances agent => return (← c.readBalances agent).map .balances
  | .readBalance agent asset => return (← c.readBalance agent asset).map .amount
  | .openChannel t => withAmount t.amount fun a =>
    return (← c.openChannel t.owner t.peer t.asset a).map .opened
  | .pay agent channel raw => withAmount raw fun a =>
    return (← c.pay agent channel a).map fun _ => .done
  | .closeChannel agent channel => return (← c.closeChannel agent channel).map fun _ => .done
  | .readChannels agent => return (← c.readChannels agent).map .channels
  | .readChannel agent channel => return (← c.readChannel agent channel).map .foundChannel

end AgentLedger.Client
