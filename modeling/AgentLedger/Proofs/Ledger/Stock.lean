import AgentLedger.Proofs.Ledger.Footprint
import AgentLedger.Proofs.Ledger.Funds
import AgentLedger.Proofs.Ledger.Independence
/-!
# Settlement adds no asset

Wallets hold the starting assets and no others, and a channel is one in such an
asset between two agents of whom the owner has a wallet. So whatever a closing
looks up is there, and it pays onto holdings that both sides had before.
-/

namespace AgentLedger

namespace Ledger

/-- The wallet under `name` is that agent's own, and it holds each of the starting assets once, in their order and
with their places. -/
structure Files (l : Ledger) (name : String) (w : Wallet) : Prop where
  own : w.agent = name
  found : l.wallet? name = some w
  assets : w.assets = Wallet.startingAssets
  once : (w.holdings.map (·.asset)).Nodup

structure Carries (l : Ledger) (c : Channel) : Prop where
  owner : ∃ w, l.wallet? c.owner = some w ∧ w.agent = c.owner
  other : c.owner ≠ c.peer
  asset : c.asset ∈ Wallet.startingAssets.map Prod.fst

/-- The closing of `c` finds all that it writes to, and leaves `l'`. -/
structure SettlesOnto (l : Ledger) (now : Timestamp) (c : Channel) (l' : Ledger) : Prop where
  owner : ∃ w h, l.wallet? c.owner = some w ∧ w.holding? c.asset = some h ∧ l.settledDecimals c = h.decimals ∧
    (c.asset, h.decimals) ∈ Wallet.startingAssets
  peer : ∀ w, (l.withRefund now c).wallet? c.peer = some w → ∃ h, w.holding? c.asset = some h
  paid : l' = ((l.updateChannel c.id Channel.ended).payOut now ⟨c.owner, c.asset, c.balance⟩).payOut now
    ⟨c.peer, c.asset, c.spent⟩
  assets : l'.wallets.map (·.assets) = l.wallets.map (·.assets)

section
variable {l : Ledger} (hl : l.Sound)
include hl

theorem Sound.wallet?_of_mem {name : String} {w : Wallet} (hw : (name, w) ∈ l.files) : l.wallet? name = some w := by
  have known : name ∈ l.agents := List.mem_map_of_mem hw
  obtain ⟨v, found⟩ := Option.isSome_iff_exists.mp (wallet?_isSome.mpr known)
  have same : (name, v) = (name, w) :=
    List.inj_on_of_nodup_map hl.agents_nodup (mem_files_of_wallet? found) hw rfl
  cases same
  exact found

theorem Sound.files {name : String} {w : Wallet} (hw : (name, w) ∈ l.files) : l.Files name w := by
  have stocked := hl.stocked w (List.mem_map_of_mem hw)
  exact ⟨hl.filed _ hw, hl.wallet?_of_mem hw, stocked, stocked.assets_nodup⟩

theorem Sound.carries {c : Channel} (hc : c ∈ l.channels) : l.Carries c where
  owner := by
    obtain ⟨w, found⟩ := Option.isSome_iff_exists.mp (wallet?_isSome.mpr (hl.backs c hc).owner_mem)
    exact ⟨w, found, hl.filed.agent_of_wallet? found⟩
  other := (hl.backs c hc).owner_ne_peer
  asset := (hl.backs c hc).asset_mem

end

theorem assets_payOut (l : Ledger) (now : Timestamp) (p : Payout) :
    (l.payOut now p).wallets.map (·.assets) = l.wallets.map (·.assets) :=
  map_updateWallet fun _ => map_updateFirst fun _ _ => rfl

theorem Sound.settlesOnto {l : Ledger} (hl : l.Sound) {id : String} {c : Channel} (found : l.channel? id = some c)
    (now : Timestamp) : l.SettlesOnto now c (l.withClosed now c) := by
  obtain rfl := id_of_channel? found
  have paid := withClosed_eq_withDeed hl found now (.ok .done)
  obtain ⟨w, h, hw, hh⟩ := hl.owner_holding found
  refine ⟨⟨w, h, hw, hh, ?_, ?_⟩, ?_, paid, ?_⟩
  · rw [settledDecimals, hw, Option.bind_some, hh]
    rfl
  · rw [← show w.assets = _ from hl.stocked w (mem_of_wallet? hw), Wallet.assets, ← Wallet.asset_of_holding? hh]
    exact List.mem_map_of_mem (List.mem_of_find?_eq_some hh)
  · intro v hv
    rw [wallet?_withRefund, if_neg (Ne.symm (hl.backs_of_channel? found).owner_ne_peer)] at hv
    exact hl.peer_holding found hv
  · rw [paid]
    exact (assets_payOut _ now _).trans (assets_payOut _ now _)

/-- After every run wallets and channels are in stock, and each closing that gets past its checks is settled onto
holdings that are there. -/
theorem closing_adds_no_asset (s : Settings) (ops : List (Occasion × Operation)) :
    (∀ name w, (name, w) ∈ (behind s ops).files → (behind s ops).Files name w) ∧
      (∀ c ∈ (behind s ops).channels, (behind s ops).Carries c) ∧
      ∀ now id agent c, (behind s ops).findOwned id agent = .ok c →
        ∃ l', closeChannel now id agent (behind s ops) = (.ok c.ended.report, l') ∧ c.owner = agent ∧
          (behind s ops).SettlesOnto now c l' := by
  have sound := behind_sound s ops
  refine ⟨fun _ _ => sound.files, fun _ => sound.carries, ?_⟩
  intro now id agent c owned
  obtain ⟨found, own, unclosed⟩ := findOwned_eq_ok.mp owned
  exact ⟨_, closeChannel_ok now found own unclosed, own, sound.settlesOnto found now⟩

/-- Bob, who was paid two, is paid onto the holding of nothing that he got with his wallet. -/
theorem alice_adds_no_asset :
    let l := behind {} alicePays
    let c : Channel := ⟨"ch_0", "alice", "bob", ⟨"evm", "USDC"⟩, ⟨5, by decide⟩, ⟨3, by decide⟩, 1, false⟩
    l.findOwned "ch_0" "alice" = .ok c ∧ l.Carries c ∧
      (∃ w, l.wallet? "bob" = some w ∧ l.Files "bob" w) ∧
      ∃ l', closeChannel .epoch "ch_0" "alice" l = (.ok c.ended.report, l') ∧ l.SettlesOnto .epoch c l' := by
  intro l c
  have owned : l.findOwned "ch_0" "alice" = .ok c := by decide +kernel
  have known : (l.wallet? "bob").isSome = true := by decide +kernel
  obtain ⟨files, carries, settles⟩ := closing_adds_no_asset {} alicePays
  obtain ⟨w, bob⟩ := Option.isSome_iff_exists.mp known
  obtain ⟨l', closed, -, onto⟩ := settles .epoch "ch_0" "alice" c owned
  have opened : c ∈ l.channels := mem_of_channel? (findOwned_eq_ok.mp owned).1
  exact ⟨owned, carries c opened, ⟨w, bob, files "bob" w (mem_files_of_wallet? bob)⟩, l', closed, onto⟩

end Ledger

end AgentLedger
