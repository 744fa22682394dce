import AgentLedger.Proofs.Json.Variants
import AgentLedger.Report
/-!
# Reports of a service that has changed

A later service may write the members of a report in another order, write
members that have no name here, and know statuses that have none here. None of
this changes what is read, a new status apart.
-/

namespace AgentLedger.Report

open Json (Follows Members Tolerates)

/-! ## Statuses -/

def WalletStatus.named (s : String) : WalletStatus :=
  if s = "pending" then .pending else if s = "active" then .active else .unknown

def ChannelStatus.named (s : String) : ChannelStatus :=
  if s = "open" then .opened else if s = "closed" then .closed else .unknown

theorem WalletStatus.read_string (s : String) : read (.string s) = .ok (named s) := by
  unfold read Json.readName named
  by_cases pending : s = "pending"
  · subst pending
    rfl
  by_cases active : s = "active"
  · subst active
    rfl
  simp [List.lookup_cons, beq_false_of_ne pending, beq_false_of_ne active, pending, active]

theorem ChannelStatus.read_string (s : String) : read (.string s) = .ok (named s) := by
  unfold read Json.readName named
  by_cases opened : s = "open"
  · subst opened
    rfl
  by_cases closed : s = "closed"
  · subst closed
    rfl
  simp [List.lookup_cons, beq_false_of_ne opened, beq_false_of_ne closed, opened, closed]

/-! ## Records -/

def Wallet.names : List String := ["agentId", "evmAddress", "xrpAddress", "derivationIndex", "createdAt", "status"]

def Balance.names : List String := ["agentId", "chain", "token", "balance", "decimals", "lastUpdated"]

def Channel.names : List String :=
  ["id", "agentId", "peerId", "chain", "token", "balance", "initialAmount", "paymentsCount", "status"]

theorem Wallet.evolves :
    Tolerates read names ∧ Follows read names "status" fun s w => { w with status := .named s } := by
  have text (name : String) := Members.IsPlain.required name Json.readAnyText
  have index := Members.IsPlain.required "derivationIndex" Json.readUInt32
  have time := Members.IsPlain.required "createdAt" readTimestamp
  have status := Members.IsPlain.required "status" WalletStatus.read
  have front := (((((text "agentId").map Wallet.mk).seq (text "evmAddress")).seq (text "xrpAddress")).seq index).seq time
  have fresh : "status" ∉ Wallet.names.dropLast := by decide
  refine ⟨(front.seq status).tolerates "Wallet", front.follows "status" WalletStatus.read "Wallet" fresh ?_⟩
  intro s
  refine ⟨_, WalletStatus.read_string s, ?_⟩
  intro values f built y
  simp only [Members.build_seq, Members.build_map] at built
  obtain ⟨_, _, ⟨_, _, ⟨_, _, ⟨_, _, ⟨_, _, rfl⟩, _, rfl⟩, _, rfl⟩, _, rfl⟩, _, rfl⟩ := built
  rfl

theorem Balance.evolves (room : Nat) : Tolerates (read room) names := by
  have text (name : String) := Members.IsPlain.required name Json.readAnyText
  have balance := Members.IsPlain.required "balance" (Json.readAmount room)
  have decimals := Members.IsPlain.required "decimals" Json.readUInt8
  have time := Members.IsPlain.required "lastUpdated" readTimestamp
  have all := (((((text "agentId").map Balance.mk).seq (text "chain")).seq (text "token")).seq balance).seq decimals
  exact (all.seq time).tolerates "Balance"

theorem Channel.evolves (room : Nat) :
    Tolerates (read room) names ∧ Follows (read room) names "status" fun s c => { c with status := .named s } := by
  have text (name : String) := Members.IsPlain.required name Json.readAnyText
  have amount (name : String) := Members.IsPlain.required name (Json.readAmount room)
  have payments := Members.IsPlain.required "paymentsCount" Json.readUInt64
  have status := Members.IsPlain.required "status" ChannelStatus.read
  have parties := (((((text "id").map Channel.mk).seq (text "agentId")).seq (text "peerId")).seq (text "chain")).seq
    (text "token")
  have front := ((parties.seq (amount "balance")).seq (amount "initialAmount")).seq payments
  have fresh : "status" ∉ Channel.names.dropLast := by decide
  refine ⟨(front.seq status).tolerates "Channel", front.follows "status" ChannelStatus.read "Channel" fresh ?_⟩
  intro s
  refine ⟨_, ChannelStatus.read_string s, ?_⟩
  intro values f built y
  simp only [Members.build_seq, Members.build_map] at built
  obtain ⟨_, _, ⟨_, _, ⟨_, _, ⟨_, _, ⟨_, _, ⟨_, _, ⟨_, _, ⟨_, _, rfl⟩, _, rfl⟩, _, rfl⟩, _, rfl⟩, _, rfl⟩, _, rfl⟩,
    _, rfl⟩, _, rfl⟩ := built
  rfl

/-- A report is read from whatever object text has its members: in any order, among any others, and with any status,
which is then the only thing that differs. -/
theorem reports_evolve (room : Nat) :
    (Tolerates Wallet.read Wallet.names ∧
        Follows Wallet.read Wallet.names "status" fun s w => { w with status := .named s }) ∧
      Tolerates (Balance.read room) Balance.names ∧
        Tolerates (Channel.read room) Channel.names ∧
          Follows (Channel.read room) Channel.names "status" fun s c => { c with status := .named s } :=
  ⟨Wallet.evolves, Balance.evolves room, Channel.evolves room⟩

end AgentLedger.Report
