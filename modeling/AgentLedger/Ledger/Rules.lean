import AgentLedger.Ledger.Refusal
/-!
# Operations on the ledger

An operation that may write gives its answer, or why it is refused, and the
ledger behind it with whatever was written up to then. Checks and writes stand
in the order in which they are made. Time and an unused channel id come from
outside.
-/

namespace AgentLedger

structure Settings where
  /-- Addresses are derived from it; without it no wallet is created. -/
  masterSeed : Option String := some "wallet-mock-master-seed"
  /-- How many requests are served before all are refused. -/
  rateLimit : Option UInt64 := none
  retryAfterSecs : UInt64 := 60
  /-- Reads before a new wallet turns active. -/
  activationPolls : UInt32 := 0
deriving DecidableEq

/-- What an operation draws from outside. -/
structure Occasion where
  now : Timestamp
  freshId : String

/-- Who opens a channel, to whom, and with how much of what. -/
structure Terms where
  owner : String
  peer : String
  asset : Asset
  amount : String
deriving DecidableEq

namespace Ledger

def readAmount (raw : String) : Except Refusal Amount :=
  match Amount.read raw with
  | .ok a => .ok a
  | .error .notDigits =>
    .error (.invalid ("amount must be a non-negative integer string, got '" ++ raw ++ "'"))
  | .error .tooLarge =>
    .error (.invalid ("amount '" ++ raw ++ "': the value is too large to fit the target type"))

def readPositive (raw : String) : Except Refusal Amount :=
  match readAmount raw with
  | .error e => .error e
  | .ok a => if a.units = 0 then .error (.invalid "amount must be greater than zero") else .ok a

def findWallet (l : Ledger) (agent : String) : Except Refusal Wallet :=
  match l.wallet? agent with
  | some w => .ok w
  | none => .error (.walletNotFound agent)

def findHolding (l : Ledger) (agent : String) (asset : Asset) : Except Refusal Holding :=
  match l.findWallet agent with
  | .error e => .error e
  | .ok w =>
    match w.holding? asset with
    | some h => .ok h
    | none => .error (.balanceNotFound asset)

/-- An open channel of `agent`. -/
def findOwned (l : Ledger) (id agent : String) : Except Refusal Channel :=
  match l.channel? id with
  | none => .error (.channelNotFound id)
  | some c =>
    if c.owner ≠ agent then .error (.notOwner agent id)
    else if c.closed then .error (.channelClosed id)
    else .ok c

/-- Counts a request, also one that the limit refuses. -/
def countRequest (s : Settings) (l : Ledger) : Except Refusal Unit × Ledger :=
  let l := { l with served := l.served + 1 }
  match s.rateLimit with
  | some limit => if limit < l.served then (.error (.rateLimited s.retryAfterSecs), l) else (.ok (), l)
  | none => (.ok (), l)

/-! ## Wallets -/

def addWallet (s : Settings) (now : Timestamp) (agent : String) (l : Ledger) : Except Refusal Report.Wallet × Ledger :=
  if Text.isAllBlank agent then (.error (.invalid "agentId must not be empty"), l)
  else
    match s.masterSeed with
    | none => (.error .missingMasterSeed, l)
    | some seed =>
      if (l.wallet? agent).isSome then (.error (.walletExists agent), l)
      else
        let w := Wallet.fresh seed agent l.nextIndex s.activationPolls now
        let l := { l with files := l.files ++ [(agent, w)] }
        (.ok w.report, { l with nextIndex := l.nextIndex + 1 })

/-- Reads a wallet; a read counts towards its activation. -/
def readWallet (agent : String) (l : Ledger) : Except Refusal Report.Wallet × Ledger :=
  match l.findWallet agent with
  | .error e => (.error e, l)
  | .ok w => (.ok w.countRead.report, l.updateWallet agent Wallet.countRead)

def balances (agent : String) (l : Ledger) : Except Refusal (List Report.Balance) :=
  match l.findWallet agent with
  | .error e => .error e
  | .ok w => .ok (w.holdings.map (·.report w.agent))

def balance (agent : String) (asset : Asset) (l : Ledger) : Except Refusal Amount :=
  match l.findHolding agent asset with
  | .error e => .error e
  | .ok h => .ok h.amount

/-- Puts money into a wallet from outside; the answer is the new balance. -/
def credit (now : Timestamp) (agent : String) (asset : Asset) (amount : Amount) (l : Ledger) :
    Except Refusal Amount × Ledger :=
  match l.findHolding agent asset with
  | .error e => (.error e, l)
  | .ok h =>
    match h.amount.add? amount with
    | none => (.error (.invalid "balance overflow"), l)
    | some total => (.ok total, l.updateWallet agent (·.updateHolding asset (Holding.setAmount now total)))

/-! ## Channels -/

def openChannel (o : Occasion) (t : Terms) (l : Ledger) : Except Refusal String × Ledger :=
  if Text.isAllBlank t.owner || Text.isAllBlank t.peer then
    (.error (.invalid "agentId and peerId must not be empty"), l)
  else if t.owner = t.peer then (.error (.invalid "cannot open a channel to self"), l)
  else
    match readPositive t.amount with
    | .error e => (.error e, l)
    | .ok amount =>
      match l.findHolding t.owner t.asset with
      | .error e => (.error e, l)
      | .ok h =>
        if h.amount < amount then
          (.error (.insufficientFunds ("wallet holds " ++ h.amount.text ++ " " ++ t.asset.token ++
            ", channel needs " ++ amount.text)), l)
        else
          let l := l.updateWallet t.owner (·.updateHolding t.asset (Holding.spend o.now amount))
          let c : Channel := ⟨o.freshId, t.owner, t.peer, t.asset, amount, amount, 0, false⟩
          (.ok o.freshId, { l with channels := l.channels ++ [c] })

def pay (id agent raw : String) (l : Ledger) : Except Refusal Report.Channel × Ledger :=
  match l.findOwned id agent with
  | .error e => (.error e, l)
  | .ok c =>
    match readPositive raw with
    | .error e => (.error e, l)
    | .ok amount =>
      if c.balance < amount then
        (.error (.insufficientFunds ("channel " ++ id ++ " has " ++ c.balance.text ++
          " remaining, payment is " ++ amount.text)), l)
      else (.ok (c.paid amount).report, l.updateChannel id (Channel.paid amount))

/-- Closes a channel: what is left goes back to the owner, what was spent to
the peer, if the peer has a wallet. -/
def closeChannel (now : Timestamp) (id agent : String) (l : Ledger) : Except Refusal Report.Channel × Ledger :=
  match l.findOwned id agent with
  | .error e => (.error e, l)
  | .ok c =>
    let l := l.updateChannel id Channel.ended
    let decimals := ((l.wallet? agent).bind (·.holding? c.asset)).map (·.decimals)
    let l := l.updateWallet agent (·.updateHolding c.asset (Holding.receive now c.balance))
    let l := l.updateWallet c.peer (Wallet.receive now c.asset c.spent (decimals.getD 0))
    (.ok c.ended.report, l)

def channelsOf (agent : String) (l : Ledger) : Except Refusal (List Report.Channel) :=
  match l.findWallet agent with
  | .error e => .error e
  | .ok _ => .ok ((l.channels.filter (·.owner == agent)).map (·.report))

def channel (id : String) (l : Ledger) : Option Report.Channel := (l.channel? id).map (·.report)

end Ledger

end AgentLedger
