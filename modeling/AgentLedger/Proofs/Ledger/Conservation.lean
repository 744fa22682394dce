import AgentLedger.Proofs.Ledger.History
/-!
# Conservation of value

Money comes in by credits. It lies in wallets and in open channels, or it has
left with the settlement of a channel whose peer has no wallet. Nothing is
ever made; and nothing is lost as long as all credits together are an amount,
because no settlement is capped then.
-/

namespace AgentLedger

namespace Wallet

def held (x : Asset) (w : Wallet) : Nat := (w.holdings.map fun h => if h.asset = x then h.amount.units else 0).sum

/-- A write on the holding of `a` moves what is held of `a` by what it moves the amount, and nothing else. -/
theorem held_updateHolding {w : Wallet} {a : Asset} {h : Holding} (hh : w.holding? a = some h) {f : Holding → Holding}
    (hf : ∀ h, (f h).asset = h.asset) (x : Asset) :
    (w.updateHolding a f).held x + (if a = x then h.amount.units else 0) =
      w.held x + (if a = x then (f h).amount.units else 0) := by
  have := sum_updateFirst (f := f) (fun h => if h.asset = x then h.amount.units else 0) hh
  rwa [hf h, asset_of_holding? hh] at this

theorem le_held {w : Wallet} {a : Asset} {h : Holding} (hh : w.holding? a = some h) : h.amount.units ≤ w.held a := by
  have := le_sum_of_find? (fun h => if h.asset = a then h.amount.units else 0) hh
  rwa [if_pos (asset_of_holding? hh)] at this

theorem fresh_held (seed agent : String) (index pending : UInt32) (now : Timestamp) (x : Asset) :
    (fresh seed agent index pending now).held x = 0 := by
  simp [held, fresh, startingAssets]

theorem countRead_held (w : Wallet) (x : Asset) : w.countRead.held x = w.held x := by
  unfold held; rw [countRead_holdings]

end Wallet

namespace Ledger

def held (x : Asset) (l : Ledger) : Nat := (l.wallets.map (·.held x)).sum

def locked (x : Asset) (l : Ledger) : Nat :=
  (l.channels.map fun c => if c.asset = x ∧ c.closed = false then c.deposit.units else 0).sum

end Ledger

namespace Event

def credited (x : Asset) (e : Event) : Nat :=
  match e.operation, e.answer with
  | .credit _ a raw, .ok _ => if a = x then ((Ledger.readAmount raw).toOption.map (·.units)).getD 0 else 0
  | _, _ => 0

/-- What the event paid to a peer without a wallet. -/
def departed (x : Asset) (e : Event) : Nat :=
  match e.operation, e.answer with
  | .closeChannel id _, .ok _ =>
    match e.before.channel? id with
    | some c => if c.asset = x ∧ e.before.wallet? c.peer = none then c.deposit.units - c.balance.units else 0
    | none => 0
  | _, _ => 0

end Event

def credited (x : Asset) (es : List Event) : Nat := (es.map (·.credited x)).sum

def departed (x : Asset) (es : List Event) : Nat := (es.map (·.departed x)).sum

namespace Ledger
variable {l : Ledger} {x : Asset}

/-! ## Writes -/

theorem held_updateWallet {agent : String} {w : Wallet} (hw : l.wallet? agent = some w) (f : Wallet → Wallet) :
    (l.updateWallet agent f).held x + w.held x = l.held x + (f w).held x :=
  sum_updateWallet (·.held x) f hw

theorem held_updateWallet_holding {agent : String} {a : Asset} {w : Wallet} {h : Holding}
    (hw : l.wallet? agent = some w) (hh : w.holding? a = some h) {f : Holding → Holding}
    (hf : ∀ h, (f h).asset = h.asset) :
    (l.updateWallet agent (·.updateHolding a f)).held x + (if a = x then h.amount.units else 0) =
      l.held x + (if a = x then (f h).amount.units else 0) := by
  have h1 := held_updateWallet (x := x) hw (·.updateHolding a f)
  have h2 := Wallet.held_updateHolding hh hf x
  omega

theorem units_le_held {agent : String} {a : Asset} {w : Wallet} {h : Holding} (hw : l.wallet? agent = some w)
    (hh : w.holding? a = some h) : h.amount.units ≤ l.held a :=
  Nat.le_trans (Wallet.le_held hh) (le_sum_of_wallet? (·.held a) hw)

theorem locked_updateChannel {id : String} {c : Channel} (hc : l.channel? id = some c) (f : Channel → Channel) :
    (l.updateChannel id f).locked x + (if c.asset = x ∧ c.closed = false then c.deposit.units else 0) =
      l.locked x + (if (f c).asset = x ∧ (f c).closed = false then (f c).deposit.units else 0) :=
  sum_updateFirst _ hc

/-! ## One step -/

theorem held_withRefund {c : Channel} {w : Wallet} {h : Holding} (now : Timestamp) (hw : l.wallet? c.owner = some w)
    (hh : w.holding? c.asset = some h) :
    (l.withRefund now c).held x + (if c.asset = x then h.amount.units else 0) =
      l.held x + (if c.asset = x then (h.amount.addCapped c.balance).units else 0) :=
  held_updateWallet_holding (l := l.updateChannel c.id Channel.ended) hw hh fun _ => rfl

theorem locked_withClosed {id : String} {c : Channel} (now : Timestamp) (hc : l.channel? id = some c)
    (ho : c.closed = false) :
    (l.withClosed now c).locked x + (if c.asset = x then c.deposit.units else 0) = l.locked x := by
  have same : (l.withClosed now c).locked x = (l.updateChannel c.id Channel.ended).locked x := rfl
  have h := locked_updateChannel (x := x) (id_of_channel? hc ▸ hc) Channel.ended
  rw [same]
  simpa [Channel.ended, ho] using h

/-- A closing makes nothing, and it loses nothing unless a sum is capped. -/
theorem held_withClosed (hl : l.Sound) {id : String} {c : Channel} (now : Timestamp) (hc : l.channel? id = some c)
    (ho : c.closed = false) {gone : Nat}
    (hg : gone = if c.asset = x ∧ l.wallet? c.peer = none then c.deposit.units - c.balance.units else 0) :
    (l.withClosed now c).held x + (l.withClosed now c).locked x + gone ≤ l.held x + l.locked x ∧
      (l.held x + l.locked x < Amount.limit →
        (l.withClosed now c).held x + (l.withClosed now c).locked x + gone = l.held x + l.locked x) := by
  have b := hl.backs_of_channel? hc
  obtain ⟨w, h, hw, hh⟩ := hl.owner_holding hc
  have open_ := locked_withClosed (x := x) now hc ho
  have refund := held_withRefund (x := x) now hw hh
  have ownerLe := units_le_held hw hh
  have balanceLe := Amount.le_def.mp b.balance_le
  rw [Amount.addCapped_units] at refund
  cases hp : l.wallet? c.peer with
  | none =>
    rw [withClosed_of_peer_none now b.owner_ne_peer hp] at open_ ⊢
    by_cases hx : c.asset = x
    · subst hx
      simp only [hp, and_self, if_true] at hg open_ refund
      omega
    · simp only [hx, false_and, if_false] at hg open_ refund
      omega
  | some v =>
    obtain ⟨k, hk⟩ := hl.peer_holding hc hp
    have hp' : (l.withRefund now c).wallet? c.peer = some v := by
      rw [wallet?_withRefund, if_neg (Ne.symm b.owner_ne_peer), hp]
    have paid := held_updateWallet_holding (x := x) hp' hk (f := Holding.receive now c.spent) fun _ => rfl
    rw [show (k.receive now c.spent).amount.units = _ from Amount.addCapped_units k.amount c.spent,
      show c.spent.units = _ from Amount.sub_units b.balance_le] at paid
    have peerLe := units_le_held hp hk
    rw [withClosed_of_peer_some now b.owner_ne_peer hp hk] at open_ ⊢
    by_cases hx : c.asset = x
    · subst hx
      simp only [hp, reduceCtorEq, and_false, if_true, if_false] at hg open_ refund paid
      omega
    · simp only [hx, false_and, if_false] at hg open_ refund paid
      omega

/-- No operation makes anything, and none loses anything that an amount can count. -/
theorem conserved_step (hl : l.Sound) {s : Settings} {o : Occasion} {op : Operation} {a : Answer} {l' : Ledger}
    (e : Effect s o l op a l') :
    l'.held x + l'.locked x + Event.departed x ⟨l, op, .ok a⟩ ≤
        l.held x + l.locked x + Event.credited x ⟨l, op, .ok a⟩ ∧
      (l.held x + l.locked x + Event.credited x ⟨l, op, .ok a⟩ < Amount.limit →
        l'.held x + l'.locked x + Event.departed x ⟨l, op, .ok a⟩ =
          l.held x + l.locked x + Event.credited x ⟨l, op, .ok a⟩) := by
  cases e with
  | counted | balances | balance | channelsOf | channel => exact ⟨Nat.le_refl _, fun _ => rfl⟩
  | added seed agent _ _ absent =>
    have : held x { l with
        files := l.files ++ [(agent, Wallet.fresh seed agent l.nextIndex s.activationPolls o.now)]
        nextIndex := l.nextIndex + 1 } = l.held x := by
      simp [held, Wallet.fresh_held, wallets]
    rw [this]
    exact ⟨Nat.le_refl _, fun _ => rfl⟩
  | read agent w found =>
    have := held_updateWallet (x := x) found Wallet.countRead
    rw [Wallet.countRead_held] at this
    rw [Nat.add_right_cancel this]
    exact ⟨Nat.le_refl _, fun _ => rfl⟩
  | credited agent asset raw y total w h amount found held sum =>
    have key := held_updateWallet_holding (x := x) found held (f := Holding.setAmount o.now total) fun _ => rfl
    have hsum := Amount.add?_eq_some.mp sum
    have same : locked x (l.updateWallet agent (·.updateHolding asset (Holding.setAmount o.now total))) = l.locked x := rfl
    simp only [Event.credited, Event.departed, amount, same, Except.toOption, Option.map_some, Option.getD_some]
    by_cases hx : asset = x
    · simp only [hx, if_true, Holding.setAmount] at key ⊢
      omega
    · simp only [hx, if_false] at key ⊢
      omega
  | opened t y w h _ _ other amount positive found held enough =>
    have key := held_updateWallet_holding (x := x) found held (f := Holding.spend o.now y) fun _ => rfl
    have hsub : (h.spend o.now y).amount.units = h.amount.units - y.units := Amount.sub_units enough
    have hle := Amount.le_def.mp enough
    have new : (l.withOpened o t y).locked x = l.locked x + (if t.asset = x then y.units else 0) := by
      simp [locked, Ledger.withOpened, Terms.channel]
    have same : (l.withOpened o t y).held x =
        (l.updateWallet t.owner (·.updateHolding t.asset (Holding.spend o.now y))).held x := rfl
    simp only [Event.credited, Event.departed, new, same]
    by_cases hx : t.asset = x
    · simp only [hx, if_true] at key ⊢
      rw [hsub] at key
      omega
    · simp only [hx, if_false] at key ⊢
      omega
  | paid id agent raw y c found own unclosed amount positive enough =>
    -- a payment moves the balance only, and what is locked counts deposits
    have key : (l.updateChannel id (Channel.paid y)).locked x = l.locked x :=
      Nat.add_right_cancel (locked_updateChannel found (Channel.paid y))
    have same : (l.updateChannel id (Channel.paid y)).held x = l.held x := rfl
    rw [key, same]
    exact ⟨Nat.le_refl _, fun _ => rfl⟩
  | closed id agent c found own unclosed =>
    have key := held_withClosed (x := x) hl o.now found unclosed rfl
    simpa [Event.credited, Event.departed, found] using key

/-! ## Runs -/

theorem credited_refused (op : Operation) (e : Refusal) : Event.credited x ⟨l, op, .error e⟩ = 0 := by
  cases op <;> rfl

theorem departed_refused (op : Operation) (e : Refusal) : Event.departed x ⟨l, op, .error e⟩ = 0 := by
  cases op <;> rfl

theorem conserved_perform (hl : l.Sound) (s : Settings) (o : Occasion) (op : Operation) :
    (perform s o op l).2.held x + (perform s o op l).2.locked x +
          Event.departed x ⟨l, op, (perform s o op l).1⟩ ≤
        l.held x + l.locked x + Event.credited x ⟨l, op, (perform s o op l).1⟩ ∧
      (l.held x + l.locked x + Event.credited x ⟨l, op, (perform s o op l).1⟩ < Amount.limit →
        (perform s o op l).2.held x + (perform s o op l).2.locked x +
            Event.departed x ⟨l, op, (perform s o op l).1⟩ =
          l.held x + l.locked x + Event.credited x ⟨l, op, (perform s o op l).1⟩) := by
  cases h : (perform s o op l).1 with
  | ok a => exact conserved_step hl (perform_effect h)
  | error e =>
    rw [credited_refused, departed_refused]
    rcases perform_refused h with he | ⟨-, he⟩ <;> rw [he]
    all_goals exact ⟨Nat.le_refl _, fun _ => rfl⟩

theorem conserved_run (s : Settings) (ops : List (Occasion × Operation)) (hl : l.Sound) :
    (run s ops l).2.held x + (run s ops l).2.locked x + departed x (history s ops l) ≤
        l.held x + l.locked x + credited x (history s ops l) ∧
      (l.held x + l.locked x + credited x (history s ops l) < Amount.limit →
        (run s ops l).2.held x + (run s ops l).2.locked x + departed x (history s ops l) =
          l.held x + l.locked x + credited x (history s ops l)) := by
  induction ops generalizing l with
  | nil => exact ⟨Nat.le_refl _, fun _ => rfl⟩
  | cons head ops ih =>
    obtain ⟨o, op⟩ := head
    have step := conserved_perform (x := x) hl s o op
    have rest := ih (hl.perform s o op)
    simp only [history, credited, departed, List.map_cons, List.sum_cons] at rest ⊢
    rw [run_cons]
    omega

/-- Behind every run, what the wallets hold, what open channels lock and what has left is at most what was
credited; and it is all of it as long as that fits into an amount. -/
theorem value_conserved (s : Settings) (ops : List (Occasion × Operation)) (x : Asset) :
    (behind s ops).held x + (behind s ops).locked x + departed x (past s ops) ≤ credited x (past s ops) ∧
      (credited x (past s ops) < Amount.limit →
        (behind s ops).held x + (behind s ops).locked x + departed x (past s ops) = credited x (past s ops)) := by
  have key := conserved_run (x := x) s ops sound_empty
  have nothing : empty.held x + empty.locked x = 0 := rfl
  rwa [nothing, Nat.zero_add] at key

end Ledger

end AgentLedger
