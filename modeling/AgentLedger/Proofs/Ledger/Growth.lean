import AgentLedger.Proofs.Ledger.Soundness
/-!
# Wallets stay

No wallet is ever removed or replaced: new ones come behind the others, for
agents that had none, and what tells a wallet from others never changes.
-/

namespace AgentLedger

structure Report.Identity where
  agentId : String
  evmAddress : String
  xrpAddress : String
  derivationIndex : UInt32
  createdAt : Timestamp
deriving DecidableEq

def Report.Wallet.identity (w : Report.Wallet) : Report.Identity :=
  ⟨w.agentId, w.evmAddress, w.xrpAddress, w.derivationIndex, w.createdAt⟩

namespace Wallet

theorem identity_countRead (w : Wallet) : w.countRead.report.identity = w.report.identity := by
  unfold countRead
  split <;> rfl

theorem identity_receive (now : Timestamp) (a : Asset) (x : Amount) (d : UInt8) (w : Wallet) :
    (w.receive now a x d).report.identity = w.report.identity := by
  unfold receive
  split <;> rfl

end Wallet

namespace Ledger

def identity? (l : Ledger) (agent : String) : Option Report.Identity := (l.wallet? agent).map (·.report.identity)

theorem identity?_eq_some {l : Ledger} {agent : String} {w : Wallet} (h : l.wallet? agent = some w) :
    l.identity? agent = some w.report.identity := by
  rw [identity?, h]
  rfl

theorem identity?_updateWallet (l : Ledger) (b : String) {f : Wallet → Wallet}
    (hf : ∀ w, (f w).report.identity = w.report.identity) (agent : String) :
    (l.updateWallet b f).identity? agent = l.identity? agent := by
  unfold identity?
  rw [wallet?_updateWallet]
  split
  · rw [Option.map_map]
    exact Option.map_congr fun w _ => hf w
  · rfl

theorem Filed.agent_of_identity? {l : Ledger} (filed : l.Filed) {agent : String} {who : Report.Identity}
    (h : l.identity? agent = some who) : who.agentId = agent := by
  obtain ⟨w, found, rfl⟩ := Option.map_eq_some_iff.mp h
  exact filed.agent_of_wallet? found

theorem wallet?_append (l : Ledger) (b : String) (w : Wallet) (i : UInt32) (agent : String) :
    Ledger.wallet? { l with files := l.files ++ [(b, w)], nextIndex := i } agent =
      (l.wallet? agent).or (if b = agent then some w else none) := by
  unfold wallet?
  rw [List.find?_append]
  by_cases h : b = agent <;> cases l.files.find? (·.1 == agent) <;> simp [h]

structure Grows (l l' : Ledger) : Prop where
  identity : ∀ agent who, l.identity? agent = some who → l'.identity? agent = some who
  agents : ∃ new, l'.agents = l.agents ++ new ∧ new.Nodup ∧ ∀ a ∈ new, a ∉ l.agents
  filed : l.Filed → l'.Filed

namespace Grows
variable {l l' : Ledger}

theorem of_same (agents : l'.agents = l.agents) (identity : ∀ agent, l'.identity? agent = l.identity? agent)
    (filed : l.Filed → l'.Filed) : l.Grows l' where
  identity agent who h := by rw [identity, h]
  agents := ⟨[], by rw [agents, List.append_nil], List.nodup_nil, by simp⟩
  filed := filed

theorem of_files (files : l'.files = l.files) : l.Grows l' := by
  refine of_same ?_ (fun agent => ?_) fun filed p hp => filed p (files ▸ hp)
  · rw [Ledger.agents, files, Ledger.agents]
  · rw [identity?, wallet?, files, identity?, wallet?]

theorem refl (l : Ledger) : l.Grows l := of_files rfl

theorem trans {l'' : Ledger} (h : l.Grows l') (h' : l'.Grows l'') : l.Grows l'' := by
  obtain ⟨new, all, nodup, apart⟩ := h.agents
  obtain ⟨new', all', nodup', apart'⟩ := h'.agents
  rw [all] at apart'
  refine ⟨fun agent who known => h'.identity agent who (h.identity agent who known), ⟨new ++ new', ?_, ?_, ?_⟩,
    h'.filed ∘ h.filed⟩
  · rw [all', all, List.append_assoc]
  · refine List.nodup_append.mpr ⟨nodup, nodup', ?_⟩
    rintro a old b fresh rfl
    exact apart' a fresh (List.mem_append_right _ old)
  · intro a ha
    rcases List.mem_append.mp ha with ha | ha
    · exact apart a ha
    · exact fun old => apart' a ha (List.mem_append_left _ old)

theorem updateWallet (l : Ledger) (b : String) {f : Wallet → Wallet}
    (hf : ∀ w, (f w).report.identity = w.report.identity) : l.Grows (l.updateWallet b f) :=
  of_same (agents_updateWallet l b f) (identity?_updateWallet l b hf) fun filed =>
    filed.updateWallet b fun w => congrArg Report.Identity.agentId (hf w)

theorem append_wallet (l : Ledger) {b : String} (fresh : l.wallet? b = none) {w : Wallet} (named : w.agent = b)
    (i : UInt32) :
    l.Grows { l with files := l.files ++ [(b, w)], nextIndex := i } where
  identity agent who h := by
    obtain ⟨v, found, rfl⟩ := Option.map_eq_some_iff.mp h
    refine identity?_eq_some ?_
    rw [wallet?_append, found, Option.some_or]
  agents := by
    have absent : b ∉ l.agents := by
      rw [← wallet?_isSome, fresh]
      simp
    exact ⟨[b], by simp [Ledger.agents], by simp, by simpa using absent⟩
  filed h := h.append_wallet named i

theorem withClosed (l : Ledger) (now : Timestamp) (c : Channel) : l.Grows (l.withClosed now c) := by
  have refund := updateWallet (l.updateChannel c.id Channel.ended) c.owner
    (f := (·.updateHolding c.asset (Holding.receive now c.balance))) fun _ => rfl
  have payment := updateWallet (l.withRefund now c) c.peer
    (f := Wallet.receive now c.asset c.spent (l.settledDecimals c)) fun w => w.identity_receive now c.asset c.spent _
  have ended : l.Grows (l.updateChannel c.id Channel.ended) := of_files rfl
  exact (ended.trans refund).trans payment

theorem effect {s : Settings} {o : Occasion} {op : Operation} {a : Answer} (e : Effect s o l op a l') : l.Grows l' := by
  cases e with
  | added seed agent _ _ absent => exact append_wallet l absent rfl _
  | read agent w _ => exact updateWallet l agent Wallet.identity_countRead
  | credited agent a => exact updateWallet l agent fun _ => rfl
  | opened t x =>
    have spent := updateWallet l t.owner (f := (·.updateHolding t.asset (Holding.spend o.now x))) fun _ => rfl
    exact spent.trans (of_files rfl)
  | closed id agent c => exact withClosed l o.now c
  | counted | paid | balances | balance | channelsOf | channel => exact of_files rfl

theorem perform (s : Settings) (o : Occasion) (op : Operation) (l : Ledger) : l.Grows (l.perform s o op).2 := by
  cases h : (l.perform s o op).1 with
  | ok a => exact effect (perform_effect h)
  | error e =>
    rcases perform_refused h with same | ⟨-, same⟩ <;> rw [same]
    · exact refl l
    · exact of_files rfl

end Grows

/-- An agent with a name and no wallet gets one, behind all others. -/
theorem addWallet_ok {s : Settings} {seed : String} (seeded : s.masterSeed = some seed) {agent : String}
    (named : Text.isAllBlank agent = false) (now : Timestamp) {l : Ledger} (absent : l.wallet? agent = none) :
    ∃ w l', addWallet s now agent l = (.ok w.report, l') ∧ w.agent = agent ∧ l'.files = l.files ++ [(agent, w)] ∧
      l'.wallet? agent = some w := by
  refine ⟨.fresh seed agent l.nextIndex s.activationPolls now,
    { l with files := l.files ++ [(agent, _)], nextIndex := l.nextIndex + 1 }, ?_, rfl, rfl, ?_⟩
  · rw [addWallet, named, seeded, absent]
    rfl
  · rw [wallet?_append, absent, Option.none_or]
    exact if_pos rfl

theorem addWallet_exists {s : Settings} {seed : String} (seeded : s.masterSeed = some seed) {agent : String}
    (named : Text.isAllBlank agent = false) (now : Timestamp) {l : Ledger} {w : Wallet} (found : l.wallet? agent = some w) :
    addWallet s now agent l = (.error (.walletExists agent), l) := by
  rw [addWallet, named, seeded, found]
  rfl

/-- An agent with a name gets a wallet, or has one. -/
theorem addWallet_cases {s : Settings} {seed : String} (seeded : s.masterSeed = some seed) {agent : String}
    (named : Text.isAllBlank agent = false) (now : Timestamp) (l : Ledger) :
    (∃ w, l.wallet? agent = some w ∧ addWallet s now agent l = (.error (.walletExists agent), l)) ∨
      ∃ w l', addWallet s now agent l = (.ok w.report, l') ∧ l'.wallet? agent = some w := by
  cases found : l.wallet? agent with
  | some w => exact .inl ⟨w, rfl, addWallet_exists seeded named now found⟩
  | none =>
    obtain ⟨w, l', added, -, -, found'⟩ := addWallet_ok seeded named now found
    exact .inr ⟨w, l', added, found'⟩

end Ledger

end AgentLedger
