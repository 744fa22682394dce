import AgentLedger.Ledger.Run
import AgentLedger.Proofs.Ledger.Writes
/-!
# What operations do

`Effect` lists what an operation that is not refused answers and writes, with
all that it checked before. Each operation is atomic: it has its effect, or it
is refused and has written nothing. Proofs about runs split on `Effect` and
open no operation.
-/

namespace AgentLedger

def Terms.channel (t : Terms) (id : String) (a : Amount) : Channel := ⟨id, t.owner, t.peer, t.asset, a, a, 0, false⟩

namespace Ledger

def withOpened (l : Ledger) (o : Occasion) (t : Terms) (a : Amount) : Ledger :=
  { l.updateWallet t.owner (·.updateHolding t.asset (Holding.spend o.now a)) with
    channels := l.channels ++ [t.channel o.freshId a] }

/-- The places that a holding of the channel's asset would be added with. -/
def settledDecimals (l : Ledger) (c : Channel) : UInt8 :=
  (((l.wallet? c.owner).bind (·.holding? c.asset)).map (·.decimals)).getD 0

def withRefund (l : Ledger) (now : Timestamp) (c : Channel) : Ledger :=
  (l.updateChannel c.id Channel.ended).updateWallet c.owner (·.updateHolding c.asset (Holding.receive now c.balance))

def withClosed (l : Ledger) (now : Timestamp) (c : Channel) : Ledger :=
  (l.withRefund now c).updateWallet c.peer (Wallet.receive now c.asset c.spent (l.settledDecimals c))

/-- What an operation that is not refused answers, and the ledger behind it. -/
inductive Effect (s : Settings) (o : Occasion) (l : Ledger) : Operation → Answer → Ledger → Prop where
  | counted : Effect s o l .countRequest .done { l with served := l.served + 1 }
  | added (seed agent : String) (seeded : s.masterSeed = some seed) (named : Text.isAllBlank agent = false)
      (absent : l.wallet? agent = none) :
    Effect s o l (.addWallet agent) (.wallet (Wallet.fresh seed agent l.nextIndex s.activationPolls o.now).report)
      { l with
        files := l.files ++ [(agent, Wallet.fresh seed agent l.nextIndex s.activationPolls o.now)]
        nextIndex := l.nextIndex + 1 }
  | read (agent : String) (w : Wallet) (found : l.wallet? agent = some w) :
    Effect s o l (.readWallet agent) (.wallet w.countRead.report) (l.updateWallet agent Wallet.countRead)
  | balances (agent : String) (w : Wallet) (found : l.wallet? agent = some w) :
    Effect s o l (.balances agent) (.balances (w.holdings.map (·.report w.agent))) l
  | balance (agent : String) (a : Asset) (w : Wallet) (h : Holding) (found : l.wallet? agent = some w)
      (held : w.holding? a = some h) :
    Effect s o l (.balance agent a) (.amount h.amount) l
  | credited (agent : String) (a : Asset) (raw : String) (x total : Amount) (w : Wallet) (h : Holding)
      (amount : readAmount raw = .ok x) (found : l.wallet? agent = some w) (held : w.holding? a = some h)
      (sum : h.amount.add? x = some total) :
    Effect s o l (.credit agent a raw) (.amount total)
      (l.updateWallet agent (·.updateHolding a (Holding.setAmount o.now total)))
  | opened (t : Terms) (x : Amount) (w : Wallet) (h : Holding) (ownerNamed : Text.isAllBlank t.owner = false)
      (peerNamed : Text.isAllBlank t.peer = false) (other : t.owner ≠ t.peer) (amount : readAmount t.amount = .ok x)
      (positive : 0 < x.units) (found : l.wallet? t.owner = some w) (held : w.holding? t.asset = some h)
      (enough : x ≤ h.amount) :
    Effect s o l (.openChannel t) (.opened o.freshId) (l.withOpened o t x)
  | paid (id agent raw : String) (x : Amount) (c : Channel) (found : l.channel? id = some c) (own : c.owner = agent)
      (unclosed : c.closed = false) (amount : readAmount raw = .ok x) (positive : 0 < x.units)
      (enough : x ≤ c.balance) :
    Effect s o l (.pay id agent raw) (.channel (c.paid x).report) (l.updateChannel id (Channel.paid x))
  | closed (id agent : String) (c : Channel) (found : l.channel? id = some c) (own : c.owner = agent)
      (unclosed : c.closed = false) :
    Effect s o l (.closeChannel id agent) (.channel c.ended.report) (l.withClosed o.now c)
  | channelsOf (agent : String) (w : Wallet) (found : l.wallet? agent = some w) :
    Effect s o l (.channelsOf agent) (.channels ((l.channels.filter (·.owner == agent)).map (·.report))) l
  | channel (id : String) : Effect s o l (.channel id) (.found ((l.channel? id).map (·.report))) l

/-! ## The two halves of a closing -/

section
variable {l : Ledger} {c : Channel}

theorem wallet?_withRefund (now : Timestamp) (b : String) :
    (l.withRefund now c).wallet? b =
      if b = c.owner then (l.wallet? b).map (·.updateHolding c.asset (Holding.receive now c.balance))
      else l.wallet? b :=
  wallet?_updateWallet (l.updateChannel c.id Channel.ended) c.owner
    (·.updateHolding c.asset (Holding.receive now c.balance)) b

theorem withClosed_of_peer_none (now : Timestamp) (other : c.owner ≠ c.peer) (hp : l.wallet? c.peer = none) :
    l.withClosed now c = l.withRefund now c := by
  refine updateWallet_of_none ?_
  rw [wallet?_withRefund, if_neg (Ne.symm other), hp]

theorem withClosed_of_peer_some (now : Timestamp) (other : c.owner ≠ c.peer) {w : Wallet} {h : Holding}
    (hp : l.wallet? c.peer = some w) (hh : w.holding? c.asset = some h) :
    l.withClosed now c =
      (l.withRefund now c).updateWallet c.peer (·.updateHolding c.asset (Holding.receive now c.spent)) := by
  refine updateWallet_congr (w := w) ?_ (Wallet.receive_of_holding? hh ..)
  rw [wallet?_withRefund, if_neg (Ne.symm other), hp]

end

/-! ## Operations are atomic -/

/-- An accepted outcome is as `R` says, and a refused one has left `l` as it was. -/
def IsAtomic {α : Type} (l : Ledger) (R : α → Ledger → Prop) : Except Refusal α × Ledger → Prop
  | (.ok a, l') => R a l'
  | (.error _, l') => l' = l

namespace IsAtomic
variable {α β : Type} {l : Ledger} {R : α → Ledger → Prop} {p : Except Refusal α × Ledger}

theorem accepted (h : IsAtomic l R p) {a : α} (ok : p.1 = .ok a) : R a p.2 := by
  obtain ⟨r, l'⟩ := p
  cases ok
  exact h

theorem refused (h : IsAtomic l R p) {e : Refusal} (error : p.1 = .error e) : p.2 = l := by
  obtain ⟨r, l'⟩ := p
  cases error
  exact h

theorem answering {answer : α → β} {R : β → Ledger → Prop} (h : IsAtomic l (fun a => R (answer a)) p) :
    IsAtomic l R (answering answer p) := by
  obtain ⟨e | a, l'⟩ := p <;> exact h

/-- What only reads writes nothing, whatever it answers. -/
theorem of_read {answer : α → β} {R : β → Ledger → Prop} {r : Except Refusal α} (h : ∀ a, r = .ok a → R (answer a) l) :
    IsAtomic l R (r.map answer, l) := by
  cases r with
  | error e => rfl
  | ok a => exact h a rfl

end IsAtomic

section
variable {s : Settings} {o : Occasion} {l : Ledger}

theorem addWallet_atomic (agent : String) :
    IsAtomic l (fun w => Effect s o l (.addWallet agent) (.wallet w)) (addWallet s o.now agent l) := by
  unfold addWallet
  split
  · rfl
  · rename_i named
    split
    · rfl
    · rename_i seed seeded
      split
      · rfl
      · rename_i absent
        exact .added seed agent seeded (by simpa using named) (by simpa using absent)

theorem readWallet_atomic (agent : String) :
    IsAtomic l (fun w => Effect s o l (.readWallet agent) (.wallet w)) (readWallet agent l) := by
  unfold readWallet
  split
  · rfl
  · rename_i w hw
    exact .read agent w (findWallet_eq_ok.mp hw)

theorem credit_atomic (agent : String) (a : Asset) {raw : String} {x : Amount} (amount : readAmount raw = .ok x) :
    IsAtomic l (fun total => Effect s o l (.credit agent a raw) (.amount total)) (credit o.now agent a x l) := by
  unfold credit
  split
  · rfl
  · rename_i hd hh
    obtain ⟨w, found, held⟩ := findHolding_eq_ok.mp hh
    split
    · rfl
    · rename_i sum
      exact .credited agent a raw x _ w hd amount found held sum

theorem openChannel_atomic (t : Terms) :
    IsAtomic l (fun id => Effect s o l (.openChannel t) (.opened id)) (openChannel o t l) := by
  unfold openChannel
  split
  · rfl
  · rename_i named
    obtain ⟨ownerNamed, peerNamed⟩ : Text.isAllBlank t.owner = false ∧ Text.isAllBlank t.peer = false := by
      simpa using named
    split
    · rfl
    · rename_i other
      split
      · rfl
      · rename_i x hx
        obtain ⟨amount, positive⟩ := readPositive_eq_ok.mp hx
        split
        · rfl
        · rename_i hd hh
          obtain ⟨w, found, held⟩ := findHolding_eq_ok.mp hh
          split
          · rfl
          · rename_i enough
            exact .opened t x w hd ownerNamed peerNamed other amount positive found held (Nat.le_of_not_lt enough)

theorem pay_atomic (id agent raw : String) :
    IsAtomic l (fun c => Effect s o l (.pay id agent raw) (.channel c)) (pay id agent raw l) := by
  unfold pay
  split
  · rfl
  · rename_i c hc
    obtain ⟨found, own, unclosed⟩ := findOwned_eq_ok.mp hc
    split
    · rfl
    · rename_i x hx
      obtain ⟨amount, positive⟩ := readPositive_eq_ok.mp hx
      split
      · rfl
      · rename_i enough
        exact .paid id agent raw x c found own unclosed amount positive (Nat.le_of_not_lt enough)

theorem closeChannel_atomic (id agent : String) :
    IsAtomic l (fun c => Effect s o l (.closeChannel id agent) (.channel c)) (closeChannel o.now id agent l) := by
  unfold closeChannel
  split
  · rfl
  · rename_i c hc
    obtain ⟨found, own, unclosed⟩ := findOwned_eq_ok.mp hc
    have key := Effect.closed (s := s) (o := o) id agent c found own unclosed
    unfold withClosed withRefund settledDecimals at key
    rwa [own, id_of_channel? found] at key

theorem perform_atomic {op : Operation} (h : op ≠ .countRequest) : IsAtomic l (Effect s o l op) (perform s o op l) := by
  cases op with
  | countRequest => exact absurd rfl h
  | addWallet agent => exact (addWallet_atomic agent).answering
  | readWallet agent => exact (readWallet_atomic agent).answering
  | balances agent =>
    refine .of_read fun bs read => ?_
    unfold balances at read
    split at read
    · cases read
    · rename_i w hw
      cases read
      exact .balances agent w (findWallet_eq_ok.mp hw)
  | balance agent asset =>
    refine .of_read fun a read => ?_
    obtain ⟨w, hd, found, held, rfl⟩ := balance_eq_ok.mp read
    exact .balance agent asset w hd found held
  | credit agent asset raw =>
    rw [perform]
    split
    · rfl
    · rename_i x amount
      exact (credit_atomic agent asset amount).answering
  | openChannel t => exact (openChannel_atomic t).answering
  | pay id agent raw => exact (pay_atomic id agent raw).answering
  | closeChannel id agent => exact (closeChannel_atomic id agent).answering
  | channelsOf agent =>
    refine .of_read fun cs read => ?_
    unfold channelsOf at read
    split at read
    · cases read
    · rename_i w hw
      cases read
      exact .channelsOf agent w (findWallet_eq_ok.mp hw)
  | channel id => exact .channel id

/-- A request is counted, also one that the limit refuses. -/
theorem perform_countRequest : (perform s o .countRequest l).2 = { l with served := l.served + 1 } := by
  simp only [perform, countRequest, Ledger.answering]
  split
  · split <;> rfl
  · rfl

theorem perform_effect {op : Operation} {a : Answer} (h : (perform s o op l).1 = .ok a) :
    Effect s o l op a (perform s o op l).2 := by
  by_cases count : op = .countRequest
  · subst count
    have done : a = .done := by
      rw [perform, Ledger.answering] at h
      cases counted : (countRequest s l).1 with
      | error e => rw [counted] at h; cases h
      | ok u => rw [counted] at h; cases h; rfl
    rw [done, perform_countRequest]
    exact .counted
  · exact (perform_atomic count).accepted h

/-- A refused operation leaves the ledger as it was; a refused request is counted. -/
theorem perform_refused {op : Operation} {e : Refusal} (h : (perform s o op l).1 = .error e) :
    (perform s o op l).2 = l ∨ op = .countRequest ∧ (perform s o op l).2 = { l with served := l.served + 1 } := by
  by_cases count : op = .countRequest
  · subst count
    exact .inr ⟨rfl, perform_countRequest⟩
  · exact .inl ((perform_atomic count).refused h)

end

end Ledger

end AgentLedger
