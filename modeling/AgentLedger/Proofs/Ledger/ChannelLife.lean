import Mathlib.Data.List.Nodup
import AgentLedger.Ledger.Draw
import AgentLedger.Proofs.Ledger.History
/-!
# The life of a channel

A channel is opened once, pays for a while, and is closed at most once. What
its record says at any moment is what the history of the run up to there adds
up to: the deposit less the accepted payments, and their number.
-/

namespace AgentLedger

namespace Event

def opened? (e : Event) : Option String :=
  match e.operation, e.answer with
  | .openChannel _, .ok (.opened id) => some id
  | _, _ => none

def paid? (id : String) (e : Event) : Option Amount :=
  match e.operation, e.answer with
  | .pay i _ raw, .ok _ => if i = id then (Ledger.readAmount raw).toOption else none
  | _, _ => none

def closes (id : String) (e : Event) : Bool :=
  match e.operation, e.answer with
  | .closeChannel i _, .ok _ => i == id
  | _, _ => false

end Event

def opened (es : List Event) : List String := es.filterMap (·.opened?)

def paidOn (id : String) (es : List Event) : List Amount := es.filterMap (·.paid? id)

def closings (id : String) (es : List Event) : Nat := es.countP (·.closes id)

theorem paidOn_cons (id : String) (e : Event) (es : List Event) :
    paidOn id (e :: es) = (e.paid? id).toList ++ paidOn id es := filterMap_cons_toList ..

theorem opened_append (es fs : List Event) : opened (es ++ fs) = opened es ++ opened fs := List.filterMap_append

theorem paidOn_append (id : String) (es fs : List Event) : paidOn id (es ++ fs) = paidOn id es ++ paidOn id fs :=
  List.filterMap_append

theorem closings_cons (id : String) (e : Event) (es : List Event) :
    closings id (e :: es) = closings id es + if e.closes id then 1 else 0 := List.countP_cons

/-! ## What one operation does to a channel -/

inductive Event.Moves (id : String) (e : Event) (c : Channel) : Channel → Prop where
  | kept (unpaid : e.paid? id = none) (unclosing : e.closes id = false) : Moves id e c c
  | paid (a : Amount) (paid : e.paid? id = some a) (unclosing : e.closes id = false) (unclosed : c.closed = false)
      (positive : 0 < a.units) (enough : a ≤ c.balance) : Moves id e c (c.paid a)
  | ended (unpaid : e.paid? id = none) (closing : e.closes id = true) (unclosed : c.closed = false) : Moves id e c c.ended

namespace Ledger
variable {s : Settings} {o : Occasion} {l : Ledger} {id : String}

theorem paid?_refused (op : Operation) (r : Refusal) : Event.paid? id ⟨l, op, .error r⟩ = none := by
  cases op <;> rfl

theorem closes_refused (op : Operation) (r : Refusal) : Event.closes id ⟨l, op, .error r⟩ = false := by
  cases op <;> rfl

theorem opened?_refused (op : Operation) (r : Refusal) : Event.opened? ⟨l, op, .error r⟩ = none := by
  cases op <;> rfl

theorem channels_refused {op : Operation} {r : Refusal} (h : (perform s o op l).1 = .error r) :
    (perform s o op l).2.channels = l.channels := by
  rcases perform_refused h with he | ⟨-, he⟩ <;> rw [he]

theorem channel?_withOpened (t : Terms) (x : Amount) :
    (l.withOpened o t x).channel? id =
      (l.channel? id).or (if o.freshId = id then some (t.channel o.freshId x) else none) := by
  show (l.channels ++ [t.channel o.freshId x]).find? (·.id == id) = _
  rw [List.find?_append]
  congr 1
  by_cases hi : o.freshId = id <;> simp [Terms.channel, hi]

theorem moves_effect {op : Operation} {a : Answer} {l' : Ledger} (e : Effect s o l op a l') {c : Channel}
    (hc : l.channel? id = some c) : ∃ c', l'.channel? id = some c' ∧ Event.Moves id ⟨l, op, .ok a⟩ c c' := by
  cases e with
  | counted | added | read | balances | balance | credited | channelsOf | channel => exact ⟨c, hc, .kept rfl rfl⟩
  | opened t x =>
    refine ⟨c, ?_, .kept rfl rfl⟩
    rw [channel?_withOpened, hc]
    rfl
  | paid i agent raw x d found own unclosed amount positive enough =>
    rw [channel?_updateChannel l i (f := Channel.paid x) fun _ => rfl]
    by_cases hi : id = i
    · subst hi
      rw [hc] at found
      cases found
      refine ⟨c.paid x, by rw [if_pos rfl, hc]; rfl, .paid x ?_ rfl unclosed positive enough⟩
      simp [Event.paid?, amount, Except.toOption]
    · refine ⟨c, by rw [if_neg hi, hc], .kept ?_ rfl⟩
      simp [Event.paid?, Ne.symm hi]
  | closed i agent d found own unclosed =>
    show ∃ c', (l.updateChannel d.id Channel.ended).channel? id = some c' ∧ _
    rw [channel?_updateChannel l d.id (f := Channel.ended) (fun _ => rfl), id_of_channel? found]
    by_cases hi : id = i
    · subst hi
      rw [hc] at found
      cases found
      exact ⟨c.ended, by rw [if_pos rfl, hc]; rfl, .ended rfl (by simp [Event.closes]) unclosed⟩
    · exact ⟨c, by rw [if_neg hi, hc], .kept rfl (by simp [Event.closes, Ne.symm hi])⟩

theorem moves_perform (op : Operation) {c : Channel} (hc : l.channel? id = some c) :
    ∃ c', (perform s o op l).2.channel? id = some c' ∧ Event.Moves id ⟨l, op, (perform s o op l).1⟩ c c' := by
  cases h : (perform s o op l).1 with
  | ok a => exact moves_effect (perform_effect h) hc
  | error r =>
    refine ⟨c, ?_, .kept (paid?_refused op r) (closes_refused op r)⟩
    unfold channel?
    rw [channels_refused h]
    exact hc

/-- On a channel that does not exist nothing is paid and nothing closed; an opening may bring it into being. -/
theorem absent_perform (op : Operation) (hn : l.channel? id = none) :
    Event.paid? id ⟨l, op, (perform s o op l).1⟩ = none ∧ Event.closes id ⟨l, op, (perform s o op l).1⟩ = false ∧
      ((perform s o op l).2.channel? id = none ∨
        ∃ t x, 0 < Amount.units x ∧ (perform s o op l).2.channel? id = some (Terms.channel t id x)) := by
  cases h : (perform s o op l).1 with
  | error r =>
    refine ⟨paid?_refused op r, closes_refused op r, .inl ?_⟩
    unfold channel?
    rw [channels_refused h]
    exact hn
  | ok a =>
    have e := perform_effect h
    generalize (perform s o op l).2 = l' at e
    cases e with
    | counted | added | read | balances | balance | credited | channelsOf | channel => exact ⟨rfl, rfl, .inl hn⟩
    | opened t x w _ _ _ _ _ positive =>
      refine ⟨rfl, rfl, ?_⟩
      rw [channel?_withOpened, hn, Option.none_or]
      by_cases hi : o.freshId = id
      · exact .inr ⟨t, x, positive, by rw [if_pos hi, hi]⟩
      · exact .inl (if_neg hi)
    | paid i agent raw x d found =>
      have hi : i ≠ id := by rintro rfl; rw [hn] at found; cases found
      refine ⟨by simp [Event.paid?, hi], rfl, .inl ?_⟩
      rw [channel?_updateChannel l i (f := Channel.paid x) (fun _ => rfl), if_neg (Ne.symm hi), hn]
    | closed i agent d found =>
      have hi : i ≠ id := by rintro rfl; rw [hn] at found; cases found
      refine ⟨rfl, by simp [Event.closes, hi], .inl ?_⟩
      show (l.updateChannel d.id Channel.ended).channel? id = none
      rw [channel?_updateChannel l d.id (f := Channel.ended) (fun _ => rfl), id_of_channel? found, if_neg (Ne.symm hi), hn]

end Ledger

/-! ## From one moment to a later one -/

/-- The channel `c'` is `c` behind the payments `ps` and `n` closings. -/
structure Channel.Later (c : Channel) (ps : List Amount) (n : Nat) (c' : Channel) : Prop where
  id : c'.id = c.id
  owner : c'.owner = c.owner
  peer : c'.peer = c.peer
  asset : c'.asset = c.asset
  deposit : c'.deposit = c.deposit
  balance : c'.balance.units + (ps.map (·.units)).sum = c.balance.units
  payments : c'.payments = c.payments + UInt64.ofNat ps.length
  positive : ∀ a ∈ ps, 0 < a.units
  closed : c'.closed = true ↔ c.closed = true ∨ n = 1
  once : n ≤ 1
  ended : c.closed = true → ps = [] ∧ n = 0

namespace Channel.Later
variable {c c' : Channel} {ps : List Amount} {n : Nat}

theorem refl (c : Channel) : c.Later [] 0 c where
  id := rfl
  owner := rfl
  peer := rfl
  asset := rfl
  deposit := rfl
  balance := rfl
  payments := by simp
  positive := by simp
  closed := by simp
  once := by simp
  ended := fun _ => ⟨rfl, rfl⟩

theorem after_paid {a : Amount} (unclosed : c.closed = false) (positive : 0 < a.units) (enough : a ≤ c.balance)
    (h : (c.paid a).Later ps n c') : c.Later (a :: ps) n c' where
  id := h.id
  owner := h.owner
  peer := h.peer
  asset := h.asset
  deposit := h.deposit
  balance := by
    have key : c'.balance.units + (ps.map (·.units)).sum = c.balance.units - a.units :=
      h.balance.trans (Amount.sub_units enough)
    have := Amount.le_def.mp enough
    rw [List.map_cons, List.sum_cons]
    omega
  payments := by
    have key : c'.payments = c.payments + 1 + UInt64.ofNat ps.length := h.payments
    rw [key, List.length_cons, UInt64.ofNat_add, UInt64.add_assoc, UInt64.add_comm 1]
    rfl
  positive := List.forall_mem_cons.mpr ⟨positive, h.positive⟩
  closed := h.closed
  once := h.once
  ended := fun hc => by rw [unclosed] at hc; cases hc

theorem after_ended (unclosed : c.closed = false) (h : c.ended.Later ps n c') : c.Later ps (n + 1) c' := by
  obtain ⟨rfl, rfl⟩ := h.ended rfl
  exact ⟨h.id, h.owner, h.peer, h.asset, h.deposit, h.balance, h.payments, h.positive,
    ⟨fun _ => .inr rfl, fun _ => h.closed.mpr (.inl rfl)⟩, Nat.le_refl _,
    fun hc => by rw [unclosed] at hc; cases hc⟩

/-- Nothing changes in a closed channel. -/
theorem eq_of_closed (h : c.Later ps n c') (hc : c.closed = true) : c' = c := by
  obtain ⟨rfl, rfl⟩ := h.ended hc
  have balance : c'.balance = c.balance := Amount.ext h.balance
  have payments : c'.payments = c.payments := by simpa using h.payments
  have closed : c'.closed = c.closed := by rw [hc]; exact h.closed.mpr (.inl hc)
  obtain ⟨id, owner, peer, asset, deposit, balance', payments', closed'⟩ := c
  obtain ⟨rfl, rfl, rfl, rfl, rfl, rfl, rfl, rfl⟩ :
      c'.id = id ∧ c'.owner = owner ∧ c'.peer = peer ∧ c'.asset = asset ∧ c'.deposit = deposit ∧
        c'.balance = balance' ∧ c'.payments = payments' ∧ c'.closed = closed' :=
    ⟨h.id, h.owner, h.peer, h.asset, h.deposit, balance, payments, closed⟩
  rfl

theorem balance_le (h : c.Later ps n c') : c'.balance ≤ c.balance := by
  have := h.balance
  rw [Amount.le_def]
  omega

end Channel.Later

namespace Ledger
variable {l : Ledger} {id : String}

theorem later_run (s : Settings) (ops : List (Occasion × Operation)) {c : Channel} (hc : l.channel? id = some c) :
    ∃ c', (run s ops l).2.channel? id = some c' ∧
      c.Later (paidOn id (history s ops l)) (closings id (history s ops l)) c' := by
  induction ops generalizing l c with
  | nil => exact ⟨c, hc, .refl c⟩
  | cons head ops ih =>
    obtain ⟨o, op⟩ := head
    -- The rest of the run starts from what the first operation made of the channel; `Later` grows at its front.
    obtain ⟨d, hd, moved⟩ := moves_perform (s := s) (o := o) op hc
    obtain ⟨c', hc', later⟩ := ih hd
    refine ⟨c', hc', ?_⟩
    rw [history, paidOn_cons, closings_cons]
    cases moved with
    | kept unpaid unclosing => rw [unpaid, unclosing]; exact later
    | paid a paid unclosing unclosed positive enough =>
      rw [paid, unclosing]
      exact later.after_paid unclosed positive enough
    | ended unpaid closing unclosed =>
      rw [unpaid, closing]
      exact later.after_ended unclosed

/-- A channel that was not there is opened by the run, or no event is about it. -/
theorem born_run (s : Settings) (ops : List (Occasion × Operation)) (hn : l.channel? id = none) :
    ((run s ops l).2.channel? id = none ∧ paidOn id (history s ops l) = [] ∧ closings id (history s ops l) = 0) ∨
      ∃ t x c, 0 < Amount.units x ∧ (run s ops l).2.channel? id = some c ∧
        (Terms.channel t id x).Later (paidOn id (history s ops l)) (closings id (history s ops l)) c := by
  induction ops generalizing l with
  | nil => exact .inl ⟨hn, rfl, rfl⟩
  | cons head ops ih =>
    obtain ⟨o, op⟩ := head
    obtain ⟨unpaid, unclosing, still⟩ := absent_perform (s := s) (o := o) op hn
    have paid : paidOn id (history s ((o, op) :: ops) l) = paidOn id (history s ops (perform s o op l).2) := by
      rw [history, paidOn_cons, unpaid]; rfl
    have closed : closings id (history s ((o, op) :: ops) l) = closings id (history s ops (perform s o op l).2) := by
      rw [history, closings_cons, unclosing]; rfl
    rw [paid, closed, run_cons]
    rcases still with still | ⟨t, x, positive, found⟩
    · exact ih still
    · obtain ⟨c, hc, later⟩ := later_run s ops found
      exact .inr ⟨t, x, c, positive, hc, later⟩

/-! ## The ids of channels -/

def ids (l : Ledger) : List String := l.channels.map (·.id)

theorem channel?_eq_none : l.channel? id = none ↔ id ∉ l.ids := by
  simp [channel?, ids]

theorem channel?_of_mem (distinct : l.ids.Nodup) {c : Channel} (hc : c ∈ l.channels) : l.channel? c.id = some c := by
  cases h : l.channel? c.id with
  | none => exact absurd (List.mem_map_of_mem hc) (channel?_eq_none.mp h)
  | some d => rw [List.inj_on_of_nodup_map distinct (mem_of_channel? h) hc (id_of_channel? h)]

theorem ids_updateChannel (l : Ledger) (id : String) {f : Channel → Channel} (hf : ∀ c, (f c).id = c.id) :
    (l.updateChannel id f).ids = l.ids := map_updateFirst fun c _ => hf c

theorem ids_effect {s : Settings} {o : Occasion} {op : Operation} {a : Answer} {l' : Ledger}
    (e : Effect s o l op a l') : l'.ids = l.ids ++ (Event.opened? ⟨l, op, .ok a⟩).toList := by
  cases e with
  | counted | added | read | balances | balance | credited | channelsOf | channel => exact (List.append_nil _).symm
  | opened t x => simp [ids, withOpened, Event.opened?, Terms.channel]
  | paid id _ _ x => exact (ids_updateChannel l id (f := Channel.paid x) fun _ => rfl).trans (List.append_nil _).symm
  | closed _ _ c =>
    have same : (l.withClosed o.now c).ids = (l.updateChannel c.id Channel.ended).ids := rfl
    rw [same, ids_updateChannel l c.id (f := Channel.ended) fun _ => rfl]
    exact (List.append_nil _).symm

theorem ids_perform (s : Settings) (o : Occasion) (op : Operation) (l : Ledger) :
    (perform s o op l).2.ids = l.ids ++ (Event.opened? ⟨l, op, (perform s o op l).1⟩).toList := by
  cases h : (perform s o op l).1 with
  | ok a => exact ids_effect (perform_effect h)
  | error r =>
    rw [opened?_refused, ids, channels_refused h]
    exact (List.append_nil _).symm

theorem ids_run (s : Settings) (ops : List (Occasion × Operation)) :
    (run s ops l).2.ids = l.ids ++ opened (history s ops l) := run_adds s (ids_perform s) ops l

theorem ids_behind (s : Settings) (ops : List (Occasion × Operation)) : (behind s ops).ids = opened (past s ops) :=
  ids_run s ops

end Ledger

/-! ## The record and the history -/

/-- Whether `a.sub b` is the difference itself, not one that went round at zero. -/
def Amount.SubIsExact (a b : Amount) : Prop := (a.sub b).units + b.units = a.units

theorem Amount.subIsExact {a b : Amount} (h : b ≤ a) : a.SubIsExact b := by
  have := Amount.le_def.mp h
  unfold SubIsExact
  rw [sub_units h]
  omega

/-- Every difference that the event took is exact: what an opening took from a wallet, a payment from a channel,
and a closing from a deposit. -/
def Event.IsExact (e : Event) : Prop :=
  match e.operation, e.answer with
  | .openChannel t, .ok _ =>
    ∃ x w h, Ledger.readAmount t.amount = .ok x ∧ e.before.wallet? t.owner = some w ∧ w.holding? t.asset = some h ∧
      h.amount.SubIsExact x
  | .pay id _ raw, .ok _ =>
    ∃ x c, Ledger.readAmount raw = .ok x ∧ e.before.channel? id = some c ∧ c.balance.SubIsExact x
  | .closeChannel id _, .ok _ => ∃ c, e.before.channel? id = some c ∧ c.deposit.SubIsExact c.balance
  | _, _ => True

namespace Channel

structure Accounts (c : Channel) (es : List Event) : Prop where
  balance : c.balance.units = c.deposit.units - ((paidOn c.id es).map (·.units)).sum
  payments : c.payments.toNat = (paidOn c.id es).length
  deposit_pos : 0 < c.deposit.units
  balance_le : c.balance ≤ c.deposit
  spent : c.report.amountSpent.units = ((paidOn c.id es).map (·.units)).sum
  payments_le : c.payments.toNat ≤ c.deposit.units - c.balance.units
  closed : c.closed = true ↔ closings c.id es = 1
  once : closings c.id es ≤ 1

structure Precedes (c c' : Channel) : Prop where
  id : c'.id = c.id
  owner : c'.owner = c.owner
  peer : c'.peer = c.peer
  asset : c'.asset = c.asset
  deposit : c'.deposit = c.deposit
  balance_le : c'.balance ≤ c.balance
  unchanged : c.closed = true → c' = c

theorem length_le_sum {ps : List Amount} (h : ∀ a ∈ ps, 0 < a.units) : ps.length ≤ (ps.map (·.units)).sum := by
  induction ps with
  | nil => exact Nat.le_refl _
  | cons a ps ih =>
    rw [List.forall_mem_cons] at h
    have := ih h.2
    have := h.1
    rw [List.length_cons, List.map_cons, List.sum_cons]
    omega

theorem accounts_of_later {t : Terms} {id : String} {x : Amount} (positive : 0 < x.units) {c : Channel} {es : List Event}
    (few : (paidOn id es).length < UInt64.size) (h : (t.channel id x).Later (paidOn id es) (closings id es) c) :
    c.Accounts es := by
  have sum : c.balance.units + ((paidOn id es).map (·.units)).sum = x.units := h.balance
  have deposit : c.deposit = x := h.deposit
  have count : c.payments.toNat = (paidOn id es).length := by
    have : c.payments = 0 + UInt64.ofNat (paidOn id es).length := h.payments
    rw [this, UInt64.zero_add, UInt64.toNat_ofNat_of_lt' few]
  have most := length_le_sum h.positive
  have same : c.id = id := h.id
  have closed : c.closed = true ↔ closings id es = 1 := by rw [h.closed]; simp [Terms.channel]
  subst same
  rw [← deposit] at sum positive
  exact {
    balance := by omega
    payments := count
    deposit_pos := positive
    balance_le := by rw [Amount.le_def]; omega
    spent := by
      show c.deposit.units - c.balance.units = _
      omega
    payments_le := by omega
    closed := closed
    once := h.once }

theorem Later.precedes {c c' : Channel} {ps : List Amount} {n : Nat} (h : c.Later ps n c') : c.Precedes c' :=
  ⟨h.id, h.owner, h.peer, h.asset, h.deposit, h.balance_le, h.eq_of_closed⟩

end Channel

namespace Ledger

theorem exact_perform {l : Ledger} (hl : l.Sound) (s : Settings) (o : Occasion) (op : Operation) :
    Event.IsExact ⟨l, op, (perform s o op l).1⟩ := by
  cases h : (perform s o op l).1 with
  | error r => cases op <;> exact trivial
  | ok a =>
    have e := perform_effect h
    generalize (perform s o op l).2 = l' at e
    cases e with
    | opened t x w k _ _ _ amount _ found held enough => exact ⟨x, w, k, amount, found, held, Amount.subIsExact enough⟩
    | paid id agent raw x c found own unclosed amount positive enough =>
      exact ⟨x, c, amount, found, Amount.subIsExact enough⟩
    | closed id agent c found => exact ⟨c, found, Amount.subIsExact (hl.backs_of_channel? found).balance_le⟩
    | _ => exact trivial

theorem exact_run {l : Ledger} (hl : l.Sound) (s : Settings) (ops : List (Occasion × Operation)) :
    ∀ e ∈ history s ops l, e.IsExact := by
  induction ops generalizing l with
  | nil => exact fun e he => absurd he List.not_mem_nil
  | cons head ops ih =>
    obtain ⟨o, op⟩ := head
    exact List.forall_mem_cons.mpr ⟨exact_perform hl s o op, ih (hl.perform s o op)⟩

theorem accounts_behind (s : Settings) (ops : List (Occasion × Operation)) {id : String} {c : Channel}
    (few : (paidOn id (past s ops)).length < UInt64.size) (hc : (behind s ops).channel? id = some c) :
    c.Accounts (past s ops) := by
  rcases born_run s ops (show empty.channel? id = none from rfl) with ⟨hn, -, -⟩ | ⟨t, x, d, positive, hd, later⟩
  · rw [behind, hn] at hc
    cases hc
  · rw [behind, hd] at hc
    cases hc
    exact Channel.accounts_of_later positive few later

/-- Behind every run, each opened channel has one record, which says what the history adds up to; from any moment of
the run to a later one the record moves forward only; and no difference goes round at zero. -/
theorem channel_life (s : Settings) (earlier later : List (Occasion × Operation))
    (distinct : (opened (past s (earlier ++ later))).Nodup)
    (few : ∀ id, (paidOn id (past s (earlier ++ later))).length < UInt64.size) :
    (behind s earlier).ids = opened (past s earlier) ∧
      (∀ e ∈ past s (earlier ++ later), e.IsExact) ∧
      ∀ c ∈ (behind s earlier).channels, c.Accounts (past s earlier) ∧
        ∃ c' ∈ (behind s (earlier ++ later)).channels,
          (∀ d ∈ (behind s (earlier ++ later)).channels, d.id = c.id → d = c') ∧
            c'.Accounts (past s (earlier ++ later)) ∧ c.Precedes c' ∧
              (c.closed = true → paidOn c.id (past s (earlier ++ later)) = paidOn c.id (past s earlier)) := by
  have unique : (behind s (earlier ++ later)).ids.Nodup := by rwa [ids_behind]
  have unique' : (behind s earlier).ids.Nodup := by
    rw [past_append, opened_append, List.nodup_append] at distinct
    rw [ids_behind]
    exact distinct.1
  refine ⟨ids_behind s earlier, exact_run sound_empty s _, fun c hc => ?_⟩
  obtain ⟨c', hc', moved⟩ := later_run s later (channel?_of_mem unique' hc)
  rw [← behind_append] at hc'
  refine ⟨accounts_behind s earlier ?_ (channel?_of_mem unique' hc), c', mem_of_channel? hc', fun d hd same => ?_,
    ?_, moved.precedes, fun closed => ?_⟩
  · have := few c.id
    rw [past_append, paidOn_append, List.length_append] at this
    omega
  · exact List.inj_on_of_nodup_map unique hd (mem_of_channel? hc') (same.trans (id_of_channel? hc').symm)
  · exact accounts_behind s (earlier ++ later) (few c.id) hc'
  · rw [past_append, paidOn_append, (moved.ended closed).1, List.append_nil]

def aliceOpens : List (Occasion × Operation) :=
  [(⟨.epoch, ""⟩, .addWallet "alice"), (⟨.epoch, ""⟩, .credit "alice" ⟨"evm", "USDC"⟩ "9"),
    (⟨.epoch, "ch_0"⟩, .openChannel ⟨"alice", "bob", ⟨"evm", "USDC"⟩, "5"⟩)]

def aliceSpends : List (Occasion × Operation) :=
  [(⟨.epoch, ""⟩, .pay "ch_0" "alice" "2"), (⟨.epoch, ""⟩, .closeChannel "ch_0" "alice"),
    (⟨.epoch, ""⟩, .pay "ch_0" "alice" "1")]

theorem alice_channel_life :
    (opened (past {} (aliceOpens ++ aliceSpends))).Nodup ∧
      ∃ c ∈ (behind {} aliceOpens).channels, c.Accounts (past {} aliceOpens) ∧
        ∃ c' ∈ (behind {} (aliceOpens ++ aliceSpends)).channels,
          c'.Accounts (past {} (aliceOpens ++ aliceSpends)) ∧ c.Precedes c' := by
  have distinct : (opened (past {} (aliceOpens ++ aliceSpends))).Nodup := by decide +kernel
  have short : (past {} (aliceOpens ++ aliceSpends)).length < UInt64.size := by decide +kernel
  have few (id) : (paidOn id (past {} (aliceOpens ++ aliceSpends))).length < UInt64.size :=
    Nat.lt_of_le_of_lt (List.length_filterMap_le ..) short
  obtain ⟨-, -, life⟩ := channel_life {} aliceOpens aliceSpends distinct few
  have one : (behind {} aliceOpens).channels ≠ [] := by decide +kernel
  obtain ⟨c, hc⟩ := List.exists_mem_of_ne_nil _ one
  obtain ⟨accounts, c', hc', -, accounts', precedes, -⟩ := life c hc
  exact ⟨distinct, c, hc, accounts, c', hc', accounts', precedes⟩

end Ledger

end AgentLedger
