import AgentLedger.Ledger.Draw
import AgentLedger.Proofs.Ledger.History
/-!
# Settlement

A closing pays the rest of the deposit to the owner and what was spent to the
peer. Both sums are capped: where one does not fit into an amount, the closing
is accepted all the same and what is above the largest amount is gone. A credit
is refused there.
-/

namespace AgentLedger

/-- What a balance `before` is after `extra` was paid onto it: the sum exactly where that is an amount, and the
largest amount elsewhere. -/
structure Amount.PaidOnto (extra : Nat) (before after : Amount) : Prop where
  exact_iff : after.units = before.units + extra ↔ before.units + extra < limit
  capped : limit ≤ before.units + extra → after = largest

theorem Amount.addCapped_paidOnto (a b : Amount) : PaidOnto b.units a (a.addCapped b) where
  exact_iff := addCapped_exact_iff a b
  capped h := by
    apply Amount.ext
    rw [addCapped_units, largest_units]
    omega

namespace Ledger
variable {l : Ledger} {c : Channel}

theorem balance_withClosed_owner (now : Timestamp) (other : c.owner ≠ c.peer) {w : Wallet} {h : Holding}
    (hw : l.wallet? c.owner = some w) (hh : w.holding? c.asset = some h) :
    balance c.owner c.asset (l.withClosed now c) = .ok (h.amount.addCapped c.balance) := by
  refine balance_eq_ok.mpr ⟨w.updateHolding c.asset (Holding.receive now c.balance), h.receive now c.balance, ?_, ?_, rfl⟩
  · rw [withClosed, wallet?_updateWallet, if_neg other, wallet?_withRefund, if_pos rfl, hw]
    rfl
  · rw [Wallet.holding?_updateHolding w (f := Holding.receive now c.balance) fun _ => rfl, if_pos rfl, hh]
    rfl

theorem balance_withClosed_peer (now : Timestamp) (other : c.owner ≠ c.peer) {w : Wallet} {h : Holding}
    (hw : l.wallet? c.peer = some w) (hh : w.holding? c.asset = some h) :
    balance c.peer c.asset (l.withClosed now c) = .ok (h.amount.addCapped c.spent) := by
  refine balance_eq_ok.mpr ⟨w.updateHolding c.asset (Holding.receive now c.spent), h.receive now c.spent, ?_, ?_, rfl⟩
  · rw [withClosed_of_peer_some now other hw hh, wallet?_updateWallet, if_pos rfl, wallet?_withRefund, if_neg (Ne.symm other), hw]
    rfl
  · rw [Wallet.holding?_updateHolding w (f := Holding.receive now c.spent) fun _ => rfl, if_pos rfl, hh]
    rfl

/-- After every run, an accepted closing pays the balance onto the owner's holding and the rest of the deposit onto
the peer's. Each of them rises by all of it exactly where the sum is an amount. -/
theorem settled_iff_fits (s : Settings) (ops : List (Occasion × Operation)) (o : Occasion) (id agent : String)
    {a : Answer} (accepted : (perform s o (.closeChannel id agent) (behind s ops)).1 = .ok a) :
    ∃ c, (behind s ops).channel? id = some c ∧ c.owner = agent ∧ c.balance ≤ c.deposit ∧
      (∃ before after, balance c.owner c.asset (behind s ops) = .ok before ∧
        balance c.owner c.asset (perform s o (.closeChannel id agent) (behind s ops)).2 = .ok after ∧
        Amount.PaidOnto c.balance.units before after) ∧
      ((behind s ops).wallet? c.peer ≠ none →
        ∃ before after, balance c.peer c.asset (behind s ops) = .ok before ∧
          balance c.peer c.asset (perform s o (.closeChannel id agent) (behind s ops)).2 = .ok after ∧
          Amount.PaidOnto (c.deposit.units - c.balance.units) before after) := by
  have sound := behind_sound s ops
  have e := perform_effect accepted
  generalize behind s ops = l at *
  generalize (perform s o (.closeChannel id agent) l).2 = l' at *
  cases e with
  | closed _ _ c found own =>
    have b := sound.backs_of_channel? found
    obtain ⟨w, h, hw, hh⟩ := sound.owner_holding found
    refine ⟨c, found, own, b.balance_le, ?_, fun known => ?_⟩
    · exact ⟨_, _, balance_eq_ok.mpr ⟨w, h, hw, hh, rfl⟩, balance_withClosed_owner o.now b.owner_ne_peer hw hh,
        Amount.addCapped_paidOnto h.amount c.balance⟩
    · obtain ⟨v, hv⟩ := Option.ne_none_iff_exists'.mp known
      obtain ⟨k, hk⟩ := sound.peer_holding found hv
      refine ⟨_, _, balance_eq_ok.mpr ⟨v, k, hv, hk, rfl⟩, balance_withClosed_peer o.now b.owner_ne_peer hv hk, ?_⟩
      rw [← Amount.sub_units b.balance_le]
      exact Amount.addCapped_paidOnto k.amount c.spent

def aliceFills : List (Occasion × Operation) :=
  [(⟨.epoch, ""⟩, .addWallet "alice"), (⟨.epoch, ""⟩, .addWallet "bob"),
    (⟨.epoch, ""⟩, .credit "alice" ⟨"evm", "USDC"⟩ Amount.largest.text),
    (⟨.epoch, "ch_0"⟩, .openChannel ⟨"alice", "bob", ⟨"evm", "USDC"⟩, "1"⟩),
    (⟨.epoch, ""⟩, .credit "alice" ⟨"evm", "USDC"⟩ "1")]

/-- The closing then gives nothing back and says nothing of it, where a credit of as much is refused. -/
theorem full_wallet_loses_refund :
    balance "alice" ⟨"evm", "USDC"⟩ (behind {} aliceFills) = .ok .largest ∧
      ((behind {} aliceFills).channel? "ch_0").map (·.balance.units) = some 1 ∧
      (perform {} ⟨.epoch, ""⟩ (.closeChannel "ch_0" "alice") (behind {} aliceFills)).1.toOption.isSome = true ∧
      balance "alice" ⟨"evm", "USDC"⟩
          (perform {} ⟨.epoch, ""⟩ (.closeChannel "ch_0" "alice") (behind {} aliceFills)).2 = .ok .largest ∧
      (perform {} ⟨.epoch, ""⟩ (.credit "alice" ⟨"evm", "USDC"⟩ "1") (behind {} aliceFills)).1 =
        .error (.invalid "balance overflow") := by
  decide +kernel

/-- Bob, who was paid nothing, keeps what he had. -/
theorem full_wallet_settled :
    (perform {} ⟨.epoch, ""⟩ (.closeChannel "ch_0" "alice") (behind {} aliceFills)).1.toOption.isSome = true ∧
      ∃ c, (behind {} aliceFills).channel? "ch_0" = some c ∧
        ∃ before after, balance c.peer c.asset (behind {} aliceFills) = .ok before ∧
          balance c.peer c.asset (perform {} ⟨.epoch, ""⟩ (.closeChannel "ch_0" "alice") (behind {} aliceFills)).2 =
            .ok after ∧
          Amount.PaidOnto (c.deposit.units - c.balance.units) before after := by
  have accepted : (perform {} ⟨.epoch, ""⟩ (.closeChannel "ch_0" "alice") (behind {} aliceFills)).1.toOption.isSome =
      true := by decide +kernel
  cases h : (perform {} ⟨.epoch, ""⟩ (.closeChannel "ch_0" "alice") (behind {} aliceFills)).1 with
  | error e => rw [h] at accepted; cases accepted
  | ok a =>
    obtain ⟨c, found, -, -, -, peer⟩ := settled_iff_fits {} aliceFills ⟨.epoch, ""⟩ "ch_0" "alice" h
    refine ⟨rfl, c, found, peer ?_⟩
    have : ∀ d, (behind {} aliceFills).channel? "ch_0" = some d → (behind {} aliceFills).wallet? d.peer ≠ none := by
      decide +kernel
    exact this c found

end Ledger

end AgentLedger
