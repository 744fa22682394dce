import AgentLedger.Proofs.Ledger.Effects
/-!
# Sound ledgers

What every ledger that a run reaches has in common: no two wallets of one
agent, each under its agent's name, in each wallet the starting assets and no
others, and channels whose owner has a wallet and whose balance is a part of a
deposit.
-/

namespace AgentLedger

/-! ## The assets of a wallet -/

namespace Holding

end Holding

namespace Wallet

def assets (w : Wallet) : List (Asset × UInt8) := w.holdings.map fun h => (h.asset, h.decimals)

def IsStocked (w : Wallet) : Prop := w.assets = startingAssets

theorem fresh_isStocked (seed agent : String) (index pending : UInt32) (now : Timestamp) :
    (fresh seed agent index pending now).IsStocked := rfl

theorem countRead_isStocked {w : Wallet} (h : w.IsStocked) : w.countRead.IsStocked := by
  unfold IsStocked assets at *
  rwa [countRead_holdings]

/-- Only amounts and times of holdings are ever written. -/
theorem updateHolding_isStocked {w : Wallet} (h : w.IsStocked) (a : Asset) {f : Holding → Holding}
    (hf : ∀ h, (f h).asset = h.asset ∧ (f h).decimals = h.decimals) : (w.updateHolding a f).IsStocked := by
  have same : (w.updateHolding a f).assets = w.assets := map_updateFirst fun h _ => by rw [(hf h).1, (hf h).2]
  rwa [IsStocked, same]

theorem IsStocked.holding? {w : Wallet} (h : w.IsStocked) {a : Asset} (ha : a ∈ startingAssets.map Prod.fst) :
    ∃ x, w.holding? a = some x := by
  have mem : a ∈ w.holdings.map (·.asset) := by
    have : w.holdings.map (·.asset) = w.assets.map Prod.fst := by simp [assets]
    rw [this, show w.assets = startingAssets from h]
    exact ha
  obtain ⟨x, hx, rfl⟩ := List.mem_map.mp mem
  exact Option.isSome_iff_exists.mp (List.find?_isSome.mpr ⟨x, hx, by simp⟩)

theorem IsStocked.asset_mem {w : Wallet} (h : w.IsStocked) {a : Asset} {x : Holding} (hx : w.holding? a = some x) :
    a ∈ startingAssets.map Prod.fst := by
  rw [← show w.assets = startingAssets from h, assets, List.map_map]
  exact List.mem_map.mpr ⟨x, List.mem_of_find?_eq_some hx, asset_of_holding? hx⟩

theorem IsStocked.assets_nodup {w : Wallet} (h : w.IsStocked) : (w.holdings.map (·.asset)).Nodup := by
  have same : w.holdings.map (·.asset) = startingAssets.map Prod.fst := by
    rw [← show w.assets = startingAssets from h, assets, List.map_map]
    rfl
  rw [same]
  decide

theorem receive_isStocked {w : Wallet} (h : w.IsStocked) {a : Asset} (ha : a ∈ startingAssets.map Prod.fst)
    (now : Timestamp) (x : Amount) (d : UInt8) : (w.receive now a x d).IsStocked := by
  obtain ⟨y, hy⟩ := h.holding? ha
  rw [receive_of_holding? hy]
  exact updateHolding_isStocked h a fun _ => ⟨rfl, rfl⟩

end Wallet

/-! ## The invariant -/

namespace Ledger

def agents (l : Ledger) : List String := l.files.map (·.1)

theorem wallet?_isSome {l : Ledger} {agent : String} : (l.wallet? agent).isSome = true ↔ agent ∈ l.agents := by
  simp [wallet?, agents, List.find?_isSome]

@[simp] theorem agents_updateWallet (l : Ledger) (agent : String) (f : Wallet → Wallet) :
    (l.updateWallet agent f).agents = l.agents := map_updateFirst fun _ _ => rfl

@[simp] theorem wallets_append (files : List (String × Wallet)) (agent : String) (w : Wallet) (cs : List Channel)
    (i : UInt32) (n : UInt64) : wallets ⟨files ++ [(agent, w)], cs, i, n⟩ = files.map (·.2) ++ [w] := by
  simp [wallets]

def Filed (l : Ledger) : Prop := ∀ p ∈ l.files, p.2.agent = p.1

namespace Filed
variable {l : Ledger} (h : l.Filed)
include h

theorem agent_of_wallet? {agent : String} {w : Wallet} (found : l.wallet? agent = some w) : w.agent = agent :=
  h _ (mem_files_of_wallet? found)

theorem updateWallet (agent : String) {f : Wallet → Wallet} (hf : ∀ w, (f w).agent = w.agent) :
    (l.updateWallet agent f).Filed := by
  refine forall_updateFirst h fun p hp => ?_
  exact (hf p.2).trans (h p (List.mem_of_find?_eq_some hp))

theorem append_wallet {agent : String} {w : Wallet} (named : w.agent = agent) (i : UInt32) :
    Filed { l with files := l.files ++ [(agent, w)], nextIndex := i } := by
  intro p hp
  rcases List.mem_append.mp hp with hp | hp
  · exact h p hp
  · rw [List.mem_singleton.mp hp]
    exact named

end Filed

structure Backs (l : Ledger) (c : Channel) : Prop where
  owner_mem : c.owner ∈ l.agents
  owner_ne_peer : c.owner ≠ c.peer
  asset_mem : c.asset ∈ Wallet.startingAssets.map Prod.fst
  deposit_pos : 0 < c.deposit.units
  balance_le : c.balance ≤ c.deposit

structure Sound (l : Ledger) : Prop where
  agents_nodup : l.agents.Nodup
  filed : l.Filed
  stocked : ∀ w ∈ l.wallets, w.IsStocked
  backs : ∀ c ∈ l.channels, l.Backs c

theorem sound_empty : empty.Sound := ⟨List.nodup_nil, by simp [Filed, empty], by simp [empty, wallets], by simp [empty]⟩

theorem Backs.mono {l l' : Ledger} {c : Channel} (h : l.Backs c) (hl : ∀ a ∈ l.agents, a ∈ l'.agents) : l'.Backs c :=
  { h with owner_mem := hl _ h.owner_mem }

namespace Sound
variable {l : Ledger} (hl : l.Sound)
include hl

theorem updateWallet (agent : String) {f : Wallet → Wallet} (hf : ∀ w, (f w).agent = w.agent)
    (hs : ∀ w, w.IsStocked → (f w).IsStocked) : (l.updateWallet agent f).Sound := by
  have ha := agents_updateWallet l agent f
  refine ⟨ha ▸ hl.agents_nodup, hl.filed.updateWallet agent hf, ?_, fun c hc => (hl.backs c hc).mono fun a h => ha ▸ h⟩
  rw [wallets, List.forall_mem_map]
  refine forall_updateFirst (fun p hp => hl.stocked p.2 (List.mem_map_of_mem hp)) fun p hp => hs _ ?_
  exact hl.stocked p.2 (List.mem_map_of_mem (List.mem_of_find?_eq_some hp))

theorem updateChannel (id : String) {f : Channel → Channel}
    (hf : ∀ c, l.channel? id = some c → l.Backs c → l.Backs (f c)) : (l.updateChannel id f).Sound := by
  refine ⟨hl.agents_nodup, hl.filed, hl.stocked, ?_⟩
  have := forall_updateFirst (P := l.Backs) hl.backs fun c hc => hf c hc (hl.backs c (List.mem_of_find?_eq_some hc))
  exact fun c hc => (this c hc).mono fun _ h => h

theorem append_channel {c : Channel} (hc : l.Backs c) : Sound { l with channels := l.channels ++ [c] } := by
  refine ⟨hl.agents_nodup, hl.filed, hl.stocked, fun d hd => ?_⟩
  rcases List.mem_append.mp hd with hd | hd
  · exact (hl.backs d hd).mono fun _ h => h
  · rw [List.mem_singleton.mp hd]; exact hc.mono fun _ h => h

theorem append_wallet {w : Wallet} (hw : w.IsStocked) {agent : String} (named : w.agent = agent)
    (fresh : l.wallet? agent = none) (i : UInt32) :
    Sound { l with files := l.files ++ [(agent, w)], nextIndex := i } := by
  have hn : agent ∉ l.agents := by rw [← wallet?_isSome, fresh]; simp
  refine ⟨?_, hl.filed.append_wallet named i, fun v hv => ?_, fun c hc => (hl.backs c hc).mono fun a h => ?_⟩
  · simp only [agents, List.map_append, List.map_cons, List.map_nil]
    refine List.nodup_append.mpr ⟨hl.agents_nodup, by simp, fun a ha b hb => ?_⟩
    rw [List.mem_singleton.mp hb]
    rintro rfl
    exact hn ha
  · rw [wallets_append] at hv
    rcases List.mem_append.mp hv with hv | hv
    · exact hl.stocked v hv
    · rw [List.mem_singleton.mp hv]; exact hw
  · simp only [agents, List.map_append]
    exact List.mem_append_left _ h

theorem backs_of_channel? {id : String} {c : Channel} (hc : l.channel? id = some c) : l.Backs c :=
  hl.backs c (mem_of_channel? hc)

/-- The owner's holding that a channel was paid from is always there. -/
theorem owner_holding {id : String} {c : Channel} (hc : l.channel? id = some c) :
    ∃ w h, l.wallet? c.owner = some w ∧ w.holding? c.asset = some h := by
  have b := hl.backs_of_channel? hc
  obtain ⟨w, hw⟩ := Option.isSome_iff_exists.mp (wallet?_isSome.mpr b.owner_mem)
  obtain ⟨h, hh⟩ := (hl.stocked w (mem_of_wallet? hw)).holding? b.asset_mem
  exact ⟨w, h, hw, hh⟩

/-- So is the peer's, where the peer has a wallet. -/
theorem peer_holding {id : String} {c : Channel} (hc : l.channel? id = some c) {w : Wallet}
    (hw : l.wallet? c.peer = some w) : ∃ h, w.holding? c.asset = some h :=
  (hl.stocked w (mem_of_wallet? hw)).holding? (hl.backs_of_channel? hc).asset_mem

theorem withClosed {id : String} {c : Channel} (hc : l.channel? id = some c) (now : Timestamp) :
    (l.withClosed now c).Sound := by
  have ha := (hl.backs_of_channel? hc).asset_mem
  have h1 : (l.updateChannel c.id Channel.ended).Sound :=
    hl.updateChannel _ fun _ _ b => ⟨b.owner_mem, b.owner_ne_peer, b.asset_mem, b.deposit_pos, b.balance_le⟩
  have h2 := h1.updateWallet c.owner (f := (·.updateHolding c.asset (Holding.receive now c.balance))) (fun _ => rfl)
    fun w hw => Wallet.updateHolding_isStocked hw c.asset fun _ => ⟨rfl, rfl⟩
  exact h2.updateWallet c.peer (Wallet.receive_agent now c.asset c.spent _)
    fun w hw => Wallet.receive_isStocked hw ha now c.spent _

theorem effect {s : Settings} {o : Occasion} {op : Operation} {a : Answer} {l' : Ledger} (e : Effect s o l op a l') :
    l'.Sound := by
  cases e with
  | counted => exact ⟨hl.agents_nodup, hl.filed, hl.stocked, fun c hc => (hl.backs c hc).mono fun _ h => h⟩
  | added seed agent _ _ absent => exact hl.append_wallet (Wallet.fresh_isStocked ..) rfl absent _
  | read agent w found => exact hl.updateWallet agent Wallet.countRead_agent fun _ h => Wallet.countRead_isStocked h
  | credited agent asset raw x total w h amount found held sum =>
    exact hl.updateWallet agent (fun _ => rfl) fun w hw => Wallet.updateHolding_isStocked hw asset fun _ => ⟨rfl, rfl⟩
  | opened t x w h _ _ other amount positive found held enough =>
    have b : l.Backs (t.channel o.freshId x) :=
      ⟨wallet?_isSome.mp (Option.isSome_iff_exists.mpr ⟨w, found⟩), other,
        (hl.stocked w (mem_of_wallet? found)).asset_mem held, positive, Nat.le_refl _⟩
    let f : Wallet → Wallet := (·.updateHolding t.asset (Holding.spend o.now x))
    have h1 := hl.updateWallet t.owner (f := f) (fun _ => rfl)
      fun w hw => Wallet.updateHolding_isStocked hw t.asset fun _ => ⟨rfl, rfl⟩
    exact h1.append_channel (b.mono fun a ha => (agents_updateWallet l t.owner f).symm ▸ ha)
  | paid id agent raw x c found own unclosed amount positive enough =>
    refine hl.updateChannel id fun d hd b => ⟨b.owner_mem, b.owner_ne_peer, b.asset_mem, b.deposit_pos, ?_⟩
    rw [found] at hd
    cases hd
    have hle := b.balance_le
    rw [Amount.le_def] at hle ⊢
    simp only [Channel.paid, Amount.sub_units enough]
    omega
  | closed id agent c found own unclosed => exact hl.withClosed found o.now
  | balances | balance | channelsOf | channel => exact hl

theorem perform (s : Settings) (o : Occasion) (op : Operation) : (Ledger.perform s o op l).2.Sound := by
  cases h : (Ledger.perform s o op l).1 with
  | ok a => exact hl.effect (perform_effect h)
  | error e =>
    rcases perform_refused h with he | ⟨-, he⟩ <;> rw [he]
    · exact hl
    · exact ⟨hl.agents_nodup, hl.filed, hl.stocked, fun c hc => (hl.backs c hc).mono fun _ h => h⟩

end Sound

end Ledger

end AgentLedger
