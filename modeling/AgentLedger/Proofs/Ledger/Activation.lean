import AgentLedger.Proofs.Ledger.Identity
/-!
# Activation

A new wallet is pending for as many reads as the settings say. Each read that
succeeds counts one of them down before it reports, and nothing else does, so
that what a read reports is settled by how many there were before it.
-/

namespace AgentLedger

namespace Wallet

theorem pending_countRead (w : Wallet) : w.countRead.pending.toNat = w.pending.toNat - 1 := by
  unfold countRead
  by_cases h : 0 < w.pending
  · rw [if_pos h]
    have positive : 0 < w.pending.toNat := UInt32.lt_iff_toNat_lt.mp h
    exact UInt32.toNat_sub_of_le _ _ (UInt32.le_iff_toNat_le.mpr positive)
  · rw [if_neg h]
    have zero : ¬0 < w.pending.toNat := fun positive => h (UInt32.lt_iff_toNat_lt.mpr positive)
    omega

theorem isActive_report (w : Wallet) : w.report.isActive = true ↔ w.pending.toNat = 0 := by
  unfold report Report.Wallet.isActive status
  by_cases h : 0 < w.pending
  · have positive : 0 < w.pending.toNat := UInt32.lt_iff_toNat_lt.mp h
    simp only [h, if_true]
    exact ⟨nofun, fun zero => by omega⟩
  · have zero : ¬0 < w.pending.toNat := fun positive => h (UInt32.lt_iff_toNat_lt.mpr positive)
    simp only [h, if_false]
    exact ⟨fun _ => by omega, fun _ => rfl⟩

theorem pending_receive (now : Timestamp) (a : Asset) (x : Amount) (d : UInt8) (w : Wallet) :
    (w.receive now a x d).pending = w.pending := by
  unfold receive
  split <;> rfl

end Wallet

/-! ## Reads of one wallet -/

def Event.read? (agent : String) (e : Event) : Option Report.Wallet :=
  match e.operation, e.answer with
  | .readWallet b, .ok (.wallet w) => if b = agent then some w else none
  | _, _ => none

def readsOf (agent : String) (es : List Event) : List Report.Wallet := es.filterMap (·.read? agent)

theorem readsOf_cons (agent : String) (e : Event) (es : List Event) :
    readsOf agent (e :: es) = (e.read? agent).toList ++ readsOf agent es := filterMap_cons_toList ..

namespace Ledger
variable {s : Settings} {o : Occasion} {l : Ledger} {agent : String}

def PendsFor (l : Ledger) (agent : String) (n : Nat) : Prop := ∃ w, l.wallet? agent = some w ∧ w.pending.toNat = n

section
variable {n : Nat} (h : l.PendsFor agent n)
include h

theorem PendsFor.updateWallet (b : String) {f : Wallet → Wallet} (same : ∀ w, (f w).pending = w.pending) :
    (l.updateWallet b f).PendsFor agent n := by
  obtain ⟨w, found, pending⟩ := h
  rw [PendsFor, wallet?_updateWallet, found]
  by_cases own : agent = b
  · exact ⟨f w, if_pos own, by rw [same, pending]⟩
  · exact ⟨w, if_neg own, pending⟩

theorem PendsFor.countRead : (l.updateWallet agent Wallet.countRead).PendsFor agent (n - 1) := by
  obtain ⟨w, found, rfl⟩ := h
  rw [PendsFor, wallet?_updateWallet, found, if_pos rfl]
  exact ⟨w.countRead, rfl, w.pending_countRead⟩

theorem PendsFor.countOther {b : String} (other : b ≠ agent) :
    (l.updateWallet b Wallet.countRead).PendsFor agent n := by
  obtain ⟨w, found, pending⟩ := h
  rw [PendsFor, wallet?_updateWallet, if_neg (Ne.symm other)]
  exact ⟨w, found, pending⟩

theorem PendsFor.withClosed (now : Timestamp) (c : Channel) : (l.withClosed now c).PendsFor agent n := by
  have ended : (l.updateChannel c.id Channel.ended).PendsFor agent n := h
  have refund := ended.updateWallet c.owner (f := (·.updateHolding c.asset (Holding.receive now c.balance))) fun _ => rfl
  exact PendsFor.updateWallet refund c.peer fun w => w.pending_receive now c.asset c.spent _

/-- A read of the agent's wallet counts one down and reports what is left; no other operation counts. -/
theorem pendsFor_effect {op : Operation} {a : Answer} {l' : Ledger} (e : Effect s o l op a l') :
    (Event.read? agent ⟨l, op, .ok a⟩ = none ∧ l'.PendsFor agent n) ∨
      ∃ v, Event.read? agent ⟨l, op, .ok a⟩ = some v ∧ l'.PendsFor agent (n - 1) ∧ (v.isActive = true ↔ n ≤ 1) := by
  cases e with
  | read b w found =>
    by_cases own : b = agent
    · subst own
      refine .inr ⟨w.countRead.report, if_pos rfl, h.countRead, ?_⟩
      obtain ⟨w', found', rfl⟩ := h
      obtain rfl : w = w' := Option.some.inj (found.symm.trans found')
      rw [Wallet.isActive_report, Wallet.pending_countRead]
      omega
    · exact .inl ⟨if_neg own, h.countOther own⟩
  | added seed b seeded named absent =>
    obtain ⟨w, found, pending⟩ := h
    refine .inl ⟨rfl, w, ?_, pending⟩
    rw [wallet?_append, found, Option.some_or]
  | credited b a => exact .inl ⟨rfl, h.updateWallet b fun _ => rfl⟩
  | opened t x =>
    have spent := h.updateWallet t.owner (f := (·.updateHolding t.asset (Holding.spend o.now x))) fun _ => rfl
    exact .inl ⟨rfl, spent⟩
  | closed id b c => exact .inl ⟨rfl, h.withClosed o.now c⟩
  | counted | paid | balances | balance | channelsOf | channel => exact .inl ⟨rfl, h⟩

end

theorem read?_refused (op : Operation) (r : Refusal) : Event.read? agent ⟨l, op, .error r⟩ = none := by
  cases op <;> rfl

theorem pendsFor_perform {n : Nat} (h : l.PendsFor agent n) (s : Settings) (o : Occasion) (op : Operation) :
    (Event.read? agent ⟨l, op, (perform s o op l).1⟩ = none ∧ (perform s o op l).2.PendsFor agent n) ∨
      ∃ v, Event.read? agent ⟨l, op, (perform s o op l).1⟩ = some v ∧ (perform s o op l).2.PendsFor agent (n - 1) ∧
        (v.isActive = true ↔ n ≤ 1) := by
  cases answer : (perform s o op l).1 with
  | ok a => exact pendsFor_effect h (perform_effect answer)
  | error r =>
    left
    rw [read?_refused]
    rcases perform_refused answer with same | ⟨-, same⟩ <;> rw [same]
    · exact ⟨rfl, h⟩
    · exact ⟨rfl, h⟩

/-- The read with so many before it reports an active wallet if those and it were enough. -/
theorem pendsFor_run {n : Nat} (h : l.PendsFor agent n) (s : Settings) (ops : List (Occasion × Operation)) :
    (run s ops l).2.PendsFor agent (n - (readsOf agent (history s ops l)).length) ∧
      ∀ (k : Nat) (v : Report.Wallet), (readsOf agent (history s ops l))[k]? = some v →
        (v.isActive = true ↔ n ≤ k + 1) := by
  induction ops generalizing l n with
  | nil => exact ⟨h, by simp [history, readsOf]⟩
  | cons x ops ih =>
    obtain ⟨o, op⟩ := x
    rw [run_cons, history, readsOf_cons]
    rcases pendsFor_perform h s o op with ⟨other, kept⟩ | ⟨v, read, counted, active⟩
    · rw [other, Option.toList_none, List.nil_append]
      exact ih kept
    · obtain ⟨left, rest⟩ := ih counted
      rw [read, Option.toList_some, List.singleton_append, List.length_cons]
      refine ⟨?_, fun k u hu => ?_⟩
      · rwa [Nat.sub_sub, Nat.add_comm] at left
      · cases k with
        | zero =>
          obtain rfl : v = u := Option.some.inj hu
          exact active
        | succ k =>
          rw [List.getElem?_cons_succ] at hu
          rw [rest k u hu]
          omega

/-! ## From the creation on -/

theorem known_of_read? {op : Operation} {v : Report.Wallet}
    (h : Event.read? agent ⟨l, op, (perform s o op l).1⟩ = some v) : ∃ w, l.wallet? agent = some w := by
  cases answer : (perform s o op l).1 with
  | error r =>
    rw [answer, read?_refused] at h
    cases h
  | ok a =>
    rw [answer] at h
    have e := perform_effect answer
    generalize (perform s o op l).2 = l' at e
    cases e with
    | read b w found =>
      by_cases own : b = agent
      · exact ⟨w, own ▸ found⟩
      · change (if b = agent then some w.countRead.report else none) = some v at h
        rw [if_neg own] at h
        cases h
    | _ => cases h

/-- Nothing was read of a wallet that is not there in the end. -/
theorem readsOf_of_absent (ops : List (Occasion × Operation)) (absent : (run s ops l).2.wallet? agent = none) :
    readsOf agent (history s ops l) = [] := by
  induction ops generalizing l with
  | nil => rfl
  | cons x ops ih =>
    obtain ⟨o, op⟩ := x
    have rest : readsOf agent (history s ops (perform s o op l).2) = [] := ih absent
    rw [history, readsOf_cons, rest]
    cases read : Event.read? agent ⟨l, op, (perform s o op l).1⟩ with
    | none => rfl
    | some v =>
      obtain ⟨w, found⟩ := known_of_read? read
      have known := (Grows.run s ((o, op) :: ops) l).identity agent _ (identity?_eq_some found)
      rw [identity?, absent] at known
      cases known

/-- A new wallet pends for the reads that the settings say. -/
theorem pendsFor_created {w : Report.Wallet} (h : (perform s o (.addWallet agent) l).1 = .ok (.wallet w)) :
    l.wallet? agent = none ∧ (perform s o (.addWallet agent) l).2.PendsFor agent s.activationPolls.toNat ∧
      (w.isActive = true ↔ s.activationPolls = 0) := by
  have e := perform_effect h
  generalize (perform s o (.addWallet agent) l).2 = l' at e
  generalize answered : Answer.wallet w = a at e
  cases e with
  | added seed _ seeded named absent =>
    cases answered
    refine ⟨absent, ⟨Wallet.fresh seed agent l.nextIndex s.activationPolls o.now, ?_, rfl⟩, ?_⟩
    · rw [wallet?_append, absent, Option.none_or]
      exact if_pos rfl
    · rw [Wallet.isActive_report]
      exact UInt32.toNat_inj (b := 0)

end Ledger

end AgentLedger
