import AgentLedger.Json.Record
import AgentLedger.Timestamp.Reader
/-!
# Reports

What the service tells about wallets, balances and channels, as records with a
JSON form. Writers give every member in the order of declaration; readers take
the members in any order. Statuses that have no name here are kept as unknown.
-/

namespace AgentLedger.Report

open Json (Members Reads Value readAnyText)

def readTimestamp : Reads Timestamp := fun d =>
  match Json.readText .timestamp d with
  | .error f => .error f
  | .ok s =>
    match Timestamp.read? s with
    | some t => .ok t
    | none => .error (.ofMisfit .invalidTimestamp)

/-! ## Wallets -/

inductive WalletStatus where
  | pending
  | active
  | unknown
deriving DecidableEq, Repr

namespace WalletStatus

def text : WalletStatus → String
  | .pending => "pending"
  | .active => "active"
  | .unknown => "unknown"

def title : WalletStatus → String
  | .pending => "Pending"
  | .active => "Active"
  | .unknown => "Unknown"

def read : Reads WalletStatus := Json.readName [("pending", .pending), ("active", .active)] .unknown

end WalletStatus

structure Wallet where
  agentId : String
  evmAddress : String
  xrpAddress : String
  derivationIndex : UInt32
  createdAt : Timestamp
  status : WalletStatus
deriving DecidableEq

namespace Wallet

def isActive (w : Wallet) : Bool := w.status == .active

def members : Members Wallet :=
  Wallet.mk <$> .required "agentId" readAnyText <*> .required "evmAddress" readAnyText <*>
    .required "xrpAddress" readAnyText <*> .required "derivationIndex" Json.readUInt32 <*>
    .required "createdAt" readTimestamp <*> .required "status" WalletStatus.read

def read : Reads Wallet := members.read "Wallet"

def json (p : Timestamp.Precision) (w : Wallet) : Value :=
  .object [("agentId", .string w.agentId), ("evmAddress", .string w.evmAddress),
    ("xrpAddress", .string w.xrpAddress), ("derivationIndex", .ofNat w.derivationIndex.toNat),
    ("createdAt", .string (w.createdAt.text p)), ("status", .string w.status.text)]

end Wallet

/-! ## Balances -/

structure Balance where
  agentId : String
  chain : String
  token : String
  balance : Amount
  decimals : UInt8
  lastUpdated : Timestamp
deriving DecidableEq

namespace Balance

def formatted (b : Balance) : String := b.balance.format b.decimals

/-- `room` is left for lists and objects where the amount is read. -/
def members (room : Nat) : Members Balance :=
  Balance.mk <$> .required "agentId" readAnyText <*> .required "chain" readAnyText <*>
    .required "token" readAnyText <*> .required "balance" (Json.readAmount room) <*>
    .required "decimals" Json.readUInt8 <*> .required "lastUpdated" readTimestamp

def read (room : Nat) : Reads Balance := (members room).read "Balance"

def json (p : Timestamp.Precision) (b : Balance) : Value :=
  .object [("agentId", .string b.agentId), ("chain", .string b.chain), ("token", .string b.token),
    ("balance", .string b.balance.text), ("decimals", .ofNat b.decimals.toNat),
    ("lastUpdated", .string (b.lastUpdated.text p))]

end Balance

/-! ## Channels -/

inductive ChannelStatus where
  | opened
  | closed
  | unknown
deriving DecidableEq, Repr

namespace ChannelStatus

def text : ChannelStatus → String
  | .opened => "open"
  | .closed => "closed"
  | .unknown => "unknown"

def read : Reads ChannelStatus := Json.readName [("open", .opened), ("closed", .closed)] .unknown

end ChannelStatus

/-- A payment channel of `agentId` that pays `peerId`. -/
structure Channel where
  id : String
  agentId : String
  peerId : String
  chain : String
  token : String
  balance : Amount
  initialAmount : Amount
  paymentsCount : UInt64
  status : ChannelStatus
deriving DecidableEq

namespace Channel

def isOpen (c : Channel) : Bool := c.status == .opened

def amountSpent (c : Channel) : Amount := c.initialAmount.monus c.balance

def members (room : Nat) : Members Channel :=
  Channel.mk <$> .required "id" readAnyText <*> .required "agentId" readAnyText <*>
    .required "peerId" readAnyText <*> .required "chain" readAnyText <*>
    .required "token" readAnyText <*> .required "balance" (Json.readAmount room) <*>
    .required "initialAmount" (Json.readAmount room) <*>
    .required "paymentsCount" Json.readUInt64 <*> .required "status" ChannelStatus.read

def read (room : Nat) : Reads Channel := (members room).read "Channel"

def json (c : Channel) : Value :=
  .object [("id", .string c.id), ("agentId", .string c.agentId), ("peerId", .string c.peerId),
    ("chain", .string c.chain), ("token", .string c.token), ("balance", .string c.balance.text),
    ("initialAmount", .string c.initialAmount.text),
    ("paymentsCount", .ofNat c.paymentsCount.toNat), ("status", .string c.status.text)]

end Channel

/-! ## A lone amount -/

structure Holder where
  amount : Amount
deriving DecidableEq

namespace Holder

def members (room : Nat) : Members Holder :=
  Holder.mk <$> .required "amount" (Json.readAmount room)

def read (room : Nat) : Reads Holder := (members room).read "Holder"

def json (h : Holder) : Value := .object [("amount", .string h.amount.text)]

end Holder

/-- How many lists and objects may stand inside each other in a text, from the
outermost on. -/
def nesting : Nat := 127

end AgentLedger.Report
