import AgentLedger.Ledger.Draw
import AgentLedger.Proofs.Ledger.Growth
import AgentLedger.Proofs.Ledger.History
/-!
# Only the owner spends

What an agent holds is lowered by its own openings alone, and its channels are
written by its own payments and closings alone. Others may pay the agent, and
they may name its channels, but what it holds only grows and its channels stay
as they are.
-/

namespace AgentLedger

/-- The agent for whom an operation spends. -/
def Operation.spender? : Operation → Option String
  | .openChannel t => some t.owner
  | .pay _ agent _ | .closeChannel _ agent => some agent
  | _ => none

theorem Amount.le_addCapped (a b : Amount) : a ≤ a.addCapped b := by
  have := a.units_lt
  rw [le_def, addCapped_units]
  omega

namespace Wallet

def Covers (w w' : Wallet) : Prop :=
  ∀ x h, w.holding? x = some h → ∃ h', w'.holding? x = some h' ∧ h.amount ≤ h'.amount

theorem covers_updateHolding (w : Wallet) (a : Asset) {f : Holding → Holding} (hf : ∀ h, (f h).asset = h.asset)
    (up : ∀ h, w.holding? a = some h → h.amount ≤ (f h).amount) : w.Covers (w.updateHolding a f) := by
  intro x h hx
  rw [holding?_updateHolding w hf]
  by_cases same : x = a
  · subst same
    rw [if_pos rfl, hx]
    exact ⟨f h, rfl, up h hx⟩
  · rw [if_neg same, hx]
    exact ⟨h, rfl, Nat.le_refl _⟩

theorem covers_receive (now : Timestamp) (a : Asset) (x : Amount) (decimals : UInt8) (w : Wallet) :
    w.Covers (w.receive now a x decimals) := by
  cases held : w.holding? a with
  | some h =>
    rw [receive_of_holding? held]
    exact covers_updateHolding w a (fun _ => rfl) fun h _ => h.amount.le_addCapped x
  | none =>
    have added : w.receive now a x decimals = { w with holdings := w.holdings ++ [⟨a, x, decimals, now⟩] } := by
      rw [receive, held]
    intro y h hy
    refine ⟨h, ?_, Nat.le_refl _⟩
    rw [added]
    exact find?_append_of_some hy _

end Wallet

namespace Ledger

structure Guards (agent : String) (l l' : Ledger) : Prop where
  balances : ∀ x a, balance agent x l = .ok a → ∃ a', balance agent x l' = .ok a' ∧ a ≤ a'
  channels : l'.channels.filter (·.owner == agent) = l.channels.filter (·.owner == agent)
  found : ∀ id c, l.channel? id = some c → c.owner = agent → l'.channel? id = some c

namespace Guards
variable {agent : String} {l l' : Ledger}

theorem of_same (files : l'.files = l.files) (channels : l'.channels = l.channels) : l.Guards agent l' where
  balances x a h := by
    refine ⟨a, ?_, Nat.le_refl _⟩
    obtain ⟨w, hd, known, held, same⟩ := balance_eq_ok.mp h
    exact balance_eq_ok.mpr ⟨w, hd, by rwa [wallet?, files], held, same⟩
  channels := by rw [channels]
  found id c h _ := by rwa [channel?, channels]

theorem refl (l : Ledger) : l.Guards agent l := of_same rfl rfl

theorem trans {l'' : Ledger} (h : l.Guards agent l') (k : l'.Guards agent l'') : l.Guards agent l'' where
  balances x a had := by
    obtain ⟨b, has, le⟩ := h.balances x a had
    obtain ⟨c, final, le'⟩ := k.balances x b has
    exact ⟨c, final, Nat.le_trans le le'⟩
  channels := k.channels.trans h.channels
  found id c had own := k.found id c (h.found id c had own) own

/-! ## Writes -/

theorem updateWallet (l : Ledger) (b : String) {f : Wallet → Wallet}
    (covers : ∀ w, l.wallet? agent = some w → agent = b → w.Covers (f w)) : l.Guards agent (l.updateWallet b f) where
  balances x a had := by
    obtain ⟨w, h, known, held, rfl⟩ := balance_eq_ok.mp had
    have now := wallet?_updateWallet l b f agent
    by_cases same : agent = b
    · obtain ⟨h', held', le⟩ := covers w known same x h held
      rw [if_pos same, known] at now
      exact ⟨h'.amount, balance_eq_ok.mpr ⟨f w, h', now, held', rfl⟩, le⟩
    · rw [if_neg same, known] at now
      exact ⟨h.amount, balance_eq_ok.mpr ⟨w, h, now, held, rfl⟩, Nat.le_refl _⟩
  channels := rfl
  found _ _ had _ := had

theorem updateChannel (l : Ledger) (id : String) {f : Channel → Channel} (hf : ∀ c, (f c).id = c.id)
    (others : ∀ c, l.channel? id = some c → c.owner ≠ agent ∧ (f c).owner ≠ agent) :
    l.Guards agent (l.updateChannel id f) where
  balances x a had := ⟨a, had, Nat.le_refl _⟩
  channels := by
    apply filter_updateFirst
    intro c hc
    obtain ⟨before, after⟩ := others c hc
    simp [before, after]
  found i c had own := by
    rw [channel?_updateChannel l id hf, if_neg, had]
    rintro rfl
    exact (others c had).1 own

theorem append_channel (l : Ledger) {c : Channel} (other : c.owner ≠ agent) :
    l.Guards agent { l with channels := l.channels ++ [c] } where
  balances x a had := ⟨a, had, Nat.le_refl _⟩
  channels := by simp [List.filter_append, other]
  found _ _ had _ := find?_append_of_some had [c]

theorem withClosed (l : Ledger) (now : Timestamp) {c : Channel} (found : l.channel? c.id = some c)
    (other : c.owner ≠ agent) : l.Guards agent (l.withClosed now c) := by
  have ended : l.Guards agent (l.updateChannel c.id Channel.ended) := by
    refine updateChannel l c.id (fun _ => rfl) fun d hd => ?_
    rw [found] at hd
    cases hd
    exact ⟨other, other⟩
  have refund : (l.updateChannel c.id Channel.ended).Guards agent (l.withRefund now c) :=
    updateWallet _ c.owner fun _ _ same => absurd same.symm other
  have payment : (l.withRefund now c).Guards agent (l.withClosed now c) :=
    updateWallet _ c.peer fun w _ _ => w.covers_receive now c.asset c.spent _
  exact (ended.trans refund).trans payment

/-! ## Operations -/

theorem effect {s : Settings} {o : Occasion} {op : Operation} {a : Answer} (e : Effect s o l op a l')
    (other : op.spender? ≠ some agent) : l.Guards agent l' := by
  cases e with
  | counted | balances | balance | channelsOf | channel => exact of_same rfl rfl
  | added seed b _ _ absent =>
    refine ⟨fun x a had => ⟨a, ?_, Nat.le_refl _⟩, rfl, fun _ _ had _ => had⟩
    obtain ⟨w, h, known, held, same⟩ := balance_eq_ok.mp had
    exact balance_eq_ok.mpr ⟨w, h, by rw [wallet?_append, known, Option.some_or], held, same⟩
  | read b w _ =>
    refine updateWallet l b fun w _ _ x h held => ⟨h, ?_, Nat.le_refl _⟩
    rwa [Wallet.holding?, Wallet.countRead_holdings]
  | credited b asset _ x total w h _ known held sum =>
    refine updateWallet l b fun v hv same => ?_
    subst same
    rw [known] at hv
    cases hv
    refine Wallet.covers_updateHolding w asset (fun _ => rfl) fun k hk => ?_
    rw [held] at hk
    cases hk
    have := Amount.add?_eq_some.mp sum
    show h.amount.units ≤ total.units
    omega
  | opened t x =>
    have owner : t.owner ≠ agent := fun same => other (congrArg some same)
    have spent : l.Guards agent (l.updateWallet t.owner (·.updateHolding t.asset (Holding.spend o.now x))) :=
      updateWallet l t.owner fun _ _ same => absurd same.symm owner
    exact spent.trans (append_channel _ (c := t.channel o.freshId x) owner)
  | paid id b _ x c known own =>
    refine updateChannel l id (fun _ => rfl) fun d hd => ?_
    rw [known] at hd
    cases hd
    have owner : c.owner ≠ agent := fun same => other (congrArg some (own.symm.trans same))
    exact ⟨owner, owner⟩
  | closed id b c known own =>
    have owner : c.owner ≠ agent := fun same => other (congrArg some (own.symm.trans same))
    exact withClosed l o.now (id_of_channel? known ▸ known) owner

theorem perform (s : Settings) (o : Occasion) {op : Operation} (l : Ledger) (other : op.spender? ≠ some agent) :
    l.Guards agent (l.perform s o op).2 := by
  cases h : (l.perform s o op).1 with
  | ok a => exact effect (perform_effect h) other
  | error e =>
    rcases perform_refused h with same | ⟨-, same⟩ <;> rw [same]
    · exact refl l
    · exact of_same rfl rfl

end Guards

/-- Whatever others do, in any order and to whatever channels, what an agent holds never falls and its channels are
left alone. -/
theorem only_owner_spends (s : Settings) (agent : String) {ops : List (Occasion × Operation)}
    (others : ∀ x ∈ ops, x.2.spender? ≠ some agent) (l : Ledger) : l.Guards agent (run s ops l).2 := by
  induction ops generalizing l with
  | nil => exact .refl l
  | cons head ops ih =>
    obtain ⟨o, op⟩ := head
    rw [List.forall_mem_cons] at others
    rw [run_cons]
    exact (Guards.perform s o l others.1).trans (ih others.2 _)

def aliceRests : Ledger := behind {} [(⟨.epoch, ""⟩, .addWallet "alice"), (⟨.epoch, ""⟩, .addWallet "bob"),
  (⟨.epoch, ""⟩, .credit "alice" ⟨"evm", "USDC"⟩ "9"), (⟨.epoch, ""⟩, .credit "bob" ⟨"evm", "USDC"⟩ "3"),
  (⟨.epoch, "ch_0"⟩, .openChannel ⟨"alice", "bob", ⟨"evm", "USDC"⟩, "5"⟩)]

def bobTries : List (Occasion × Operation) :=
  [(⟨.epoch, ""⟩, .pay "ch_0" "bob" "5"), (⟨.epoch, ""⟩, .closeChannel "ch_0" "bob"),
    (⟨.epoch, "ch_1"⟩, .openChannel ⟨"bob", "alice", ⟨"evm", "USDC"⟩, "3"⟩), (⟨.epoch, ""⟩, .pay "ch_1" "bob" "2"),
    (⟨.epoch, ""⟩, .closeChannel "ch_1" "bob")]

theorem alice_loses_nothing :
    (∀ x ∈ bobTries, x.2.spender? ≠ some "alice") ∧ balance "alice" ⟨"evm", "USDC"⟩ aliceRests = .ok ⟨4, by decide⟩ ∧
      (∃ a, balance "alice" ⟨"evm", "USDC"⟩ (run {} bobTries aliceRests).2 = .ok a ∧ 4 ≤ a.units) ∧
      ∃ c, aliceRests.channel? "ch_0" = some c ∧ (run {} bobTries aliceRests).2.channel? "ch_0" = some c := by
  have others : ∀ x ∈ bobTries, x.2.spender? ≠ some "alice" := by decide +kernel
  have had : balance "alice" ⟨"evm", "USDC"⟩ aliceRests = .ok ⟨4, by decide⟩ := by decide +kernel
  have owns : (aliceRests.channel? "ch_0").map (·.owner) = some "alice" := by decide +kernel
  have guards := only_owner_spends {} "alice" others aliceRests
  obtain ⟨c, found, own⟩ := Option.map_eq_some_iff.mp owns
  exact ⟨others, had, guards.balances _ _ had, c, found, guards.found "ch_0" c found own⟩

end Ledger

end AgentLedger
