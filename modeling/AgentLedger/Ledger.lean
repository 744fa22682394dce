import AgentLedger.Digest
import AgentLedger.Report
import AgentLedger.Text.Utf8
/-!
# The ledger

Wallets under the names of agents, in the order of their creation, and channels
in the order of their opening. A wallet holds its assets in a fixed order; a
channel holds what its owner put into it until it is closed.
-/

namespace AgentLedger

structure Asset where
  chain : String
  token : String
deriving DecidableEq, Repr

structure Holding where
  asset : Asset
  amount : Amount
  decimals : UInt8
  updated : Timestamp
deriving DecidableEq

structure Wallet where
  agent : String
  evmAddress : String
  xrpAddress : String
  index : UInt32
  created : Timestamp
  /-- Reads that still report the wallet as pending. -/
  pending : UInt32
  holdings : List Holding
deriving DecidableEq

structure Channel where
  id : String
  owner : String
  peer : String
  asset : Asset
  /-- What the owner put in. -/
  deposit : Amount
  /-- What is left of it. -/
  balance : Amount
  payments : UInt64
  closed : Bool
deriving DecidableEq

structure Ledger where
  /-- The wallets, each under the name that it is looked up by. -/
  files : List (String × Wallet)
  channels : List Channel
  nextIndex : UInt32
  /-- Requests counted so far. -/
  served : UInt64
deriving DecidableEq

/-! ## Lists of records -/

def updateFirst (p : α → Bool) (f : α → α) : List α → List α
  | [] => []
  | a :: as => if p a then f a :: as else a :: updateFirst p f as

/-! ## Wallets -/

namespace Holding

def report (agent : String) (h : Holding) : Report.Balance where
  agentId := agent
  chain := h.asset.chain
  token := h.asset.token
  balance := h.amount
  decimals := h.decimals
  lastUpdated := h.updated.toMillis

def setAmount (now : Timestamp) (a : Amount) (h : Holding) : Holding := { h with amount := a, updated := now }

/-- Adds an amount; the sum stops at the largest one. -/
def receive (now : Timestamp) (a : Amount) (h : Holding) : Holding := h.setAmount now (h.amount.addCapped a)

def spend (now : Timestamp) (a : Amount) (h : Holding) : Holding := h.setAmount now (h.amount.sub a)

end Holding

namespace Wallet

def status (w : Wallet) : Report.WalletStatus := if 0 < w.pending then .pending else .active

def report (w : Wallet) : Report.Wallet where
  agentId := w.agent
  evmAddress := w.evmAddress
  xrpAddress := w.xrpAddress
  derivationIndex := w.index
  createdAt := w.created.toMillis
  status := w.status

def holding? (w : Wallet) (a : Asset) : Option Holding := w.holdings.find? (·.asset == a)

def updateHolding (w : Wallet) (a : Asset) (f : Holding → Holding) : Wallet :=
  { w with holdings := updateFirst (·.asset == a) f w.holdings }

/-- Pays an amount in; an asset that the wallet does not hold is added. -/
def receive (now : Timestamp) (asset : Asset) (a : Amount) (decimals : UInt8) (w : Wallet) : Wallet :=
  match w.holding? asset with
  | some _ => w.updateHolding asset (Holding.receive now a)
  | none => { w with holdings := w.holdings ++ [⟨asset, a, decimals, now⟩] }

def countRead (w : Wallet) : Wallet := if 0 < w.pending then { w with pending := w.pending - 1 } else w

/-- What every new wallet holds none of, and the places of each token. -/
def startingAssets : List (Asset × UInt8) :=
  [(⟨"evm", "ETH"⟩, 18), (⟨"evm", "USDC"⟩, 6), (⟨"xrp", "XRP"⟩, 6)]

/-- The digest of the seed and the index that both addresses are taken from. -/
def keyDigest (seed : String) (index : UInt32) : List UInt8 :=
  Digest.sha256 (Text.utf8 seed.toList ++ Digest.bigEndian 4 index.toNat)

/-- Twenty bytes from the front of the digest. -/
def evmAddressOf (seed : String) (index : UInt32) : String :=
  String.ofList ('0' :: 'x' :: Text.hex ((keyDigest seed index).take 20))

/-- Twenty bytes from the end of the digest. -/
def xrpAddressOf (seed : String) (index : UInt32) : String :=
  String.ofList ('r' :: Text.hex ((keyDigest seed index).drop 12))

def fresh (seed agent : String) (index pending : UInt32) (now : Timestamp) : Wallet where
  agent := agent
  evmAddress := evmAddressOf seed index
  xrpAddress := xrpAddressOf seed index
  index := index
  created := now
  pending := pending
  holdings := startingAssets.map fun (a, d) => ⟨a, .zero, d, now⟩

end Wallet

/-! ## Channels -/

namespace Channel

def report (c : Channel) : Report.Channel where
  id := c.id
  agentId := c.owner
  peerId := c.peer
  chain := c.asset.chain
  token := c.asset.token
  balance := c.balance
  initialAmount := c.deposit
  paymentsCount := c.payments
  status := if c.closed then .closed else .opened

def spent (c : Channel) : Amount := c.deposit.sub c.balance

def paid (a : Amount) (c : Channel) : Channel := { c with balance := c.balance.sub a, payments := c.payments + 1 }

def ended (c : Channel) : Channel := { c with closed := true }

end Channel

/-! ## Look-up and change -/

namespace Ledger

def empty : Ledger := ⟨[], [], 0, 0⟩

def wallets (l : Ledger) : List Wallet := l.files.map (·.2)

def wallet? (l : Ledger) (agent : String) : Option Wallet := (l.files.find? (·.1 == agent)).map (·.2)

def channel? (l : Ledger) (id : String) : Option Channel := l.channels.find? (·.id == id)

def updateWallet (l : Ledger) (agent : String) (f : Wallet → Wallet) : Ledger :=
  { l with files := updateFirst (·.1 == agent) (Prod.map id f) l.files }

def updateChannel (l : Ledger) (id : String) (f : Channel → Channel) : Ledger :=
  { l with channels := updateFirst (·.id == id) f l.channels }

end Ledger

end AgentLedger
