import AgentLedger.Demo
import AgentLedger.Proofs.Client.Enrolment
import AgentLedger.Proofs.Client.Waiting
import AgentLedger.Proofs.Ledger.ChannelLife
/-!
# How the demonstration ends

What the demonstration does to a service's ledger when no other client talks
to it, part by part, and when it comes to its end: the agent has to have its
wallet already, not too far from its activation, and enough in it.
-/

namespace AgentLedger

open Client (Conversation)

/-! ## Scenes -/

namespace Scene
variable {s : Settings} {draw : Ledger → Occasion} {l l' : Ledger} {α β : Type}

def result (s : Settings) (draw : Ledger → Occasion) (x : Scene α) (l : Ledger) : Except String α × Ledger :=
  ((x.conversation.serve s draw l).1.2, (x.conversation.serve s draw l).2)

theorem result_bind (x : Scene α) (f : α → Scene β) :
    (x >>= f).result s draw l =
      match x.result s draw l with
      | (.ok a, l') => (f a).result s draw l'
      | (.error e, l') => (.error e, l') := by
  show (x.bind f).result s draw l = _
  unfold result Scene.bind
  rw [Client.serve_bind]
  generalize x.conversation.serve s draw l = r
  obtain ⟨⟨lines, e | a⟩, l'⟩ := r
  · rfl
  · simp only [Client.serve_bind]
    rfl

theorem result_bind_ok {x : Scene α} {a : α} (h : x.result s draw l = (.ok a, l')) (f : α → Scene β) :
    (x >>= f).result s draw l = (f a).result s draw l' := by
  rw [result_bind, h]

theorem result_bind_error {x : Scene α} {e : String} (h : x.result s draw l = (.error e, l')) (f : α → Scene β) :
    (x >>= f).result s draw l = (.error e, l') := by
  rw [result_bind, h]

theorem result_say (lines : List String) (f : Unit → Scene β) :
    (say lines >>= f).result s draw l = (f ()).result s draw l := result_bind_ok rfl f

theorem result_attempt {x : Conversation (Except Failure α)} {r : Except Failure α} (h : x.serve s draw l = (r, l')) :
    (attempt x).result s draw l = (.ok r, l') := by
  unfold result attempt
  rw [Client.serve_bind, h]
  rfl

theorem result_call_ok {x : Conversation (Except Failure α)} {a : α} (h : x.serve s draw l = (.ok a, l')) :
    (call x).result s draw l = (.ok a, l') := by
  unfold call
  rw [result_bind_ok (result_attempt h)]
  rfl

theorem result_call_error {x : Conversation (Except Failure α)} {f : Failure} (h : x.serve s draw l = (.error f, l')) :
    (call x).result s draw l = (.error f.message, l') := by
  unfold call
  rw [result_bind_ok (result_attempt h)]
  rfl

end Scene

theorem Ledger.Sound.result {s : Settings} {draw : Ledger → Occasion} {l l' : Ledger} {α : Type} (hl : l.Sound)
    {x : Scene α} {r : Except String α} (h : x.result s draw l = (r, l')) : l'.Sound := by
  have sound : (x.result s draw l).2.Sound := hl.serve s draw x.conversation
  rwa [h] at sound

/-! ## What it takes, and what is left -/

theorem Channel.paid_id (a : Amount) (c : Channel) : (c.paid a).id = c.id := rfl

theorem Channel.paid_owner (a : Amount) (c : Channel) : (c.paid a).owner = c.owner := rfl

theorem Channel.paid_closed (a : Amount) (c : Channel) : (c.paid a).closed = c.closed := rfl

/-- A channel that can pay once more can pay, and can pay the rest after it. -/
theorem Channel.covers_succ {n : Nat} {a : Amount} {c : Channel} (enough : (n + 1) * a.units ≤ c.balance.units) :
    a ≤ c.balance ∧ n * a.units ≤ (c.paid a).balance.units := by
  rw [Nat.succ_mul] at enough
  have covered : a ≤ c.balance := Amount.le_def.mpr (by omega)
  have rest : (c.paid a).balance.units = c.balance.units - a.units := Amount.sub_units covered
  exact ⟨covered, by omega⟩

structure Channel.PaidTimes (n : Nat) (a : Amount) (c c' : Channel) : Prop where
  id : c'.id = c.id
  owner : c'.owner = c.owner
  peer : c'.peer = c.peer
  asset : c'.asset = c.asset
  deposit : c'.deposit = c.deposit
  closed : c'.closed = c.closed
  balance : c'.balance.units + n * a.units = c.balance.units
  payments : c'.payments = c.payments + UInt64.ofNat n

namespace Channel.PaidTimes
variable {a : Amount} {c c' : Channel}

theorem none (a : Amount) (c : Channel) : PaidTimes 0 a c c where
  id := rfl
  owner := rfl
  peer := rfl
  asset := rfl
  deposit := rfl
  closed := rfl
  balance := by omega
  payments := (UInt64.add_zero _).symm

theorem more {n : Nat} (h : PaidTimes n a (c.paid a) c') (enough : a ≤ c.balance) : PaidTimes (n + 1) a c c' where
  id := h.id
  owner := h.owner
  peer := h.peer
  asset := h.asset
  deposit := h.deposit
  closed := h.closed
  balance := by
    have rest : c'.balance.units + n * a.units = (c.balance.sub a).units := h.balance
    have := Amount.le_def.mp enough
    rw [Amount.sub_units enough] at rest
    rw [Nat.succ_mul]
    omega
  payments := by
    have rest : c'.payments = c.payments + 1 + UInt64.ofNat n := h.payments
    rw [rest, UInt64.ofNat_add, UInt64.add_assoc, UInt64.add_comm 1]
    rfl

end Channel.PaidTimes

namespace Demo

structure IsReady (l : Ledger) : Prop where
  active : ∃ w, l.wallet? agentId = some w ∧ w.pending.toNat ≤ 25
  funds : 1000000000 ≤ l.funds agentId usdc

def others : List String := peerId :: strangerId :: batchIds

structure IsSpent (ch : Channel) : Prop where
  owner : ch.owner = agentId
  peer : ch.peer = peerId
  asset : ch.asset = usdc
  deposit : ch.deposit.units = 1000000000
  balance : ch.balance.units = 900000000
  payments : ch.payments = 10
  closed : ch.closed = true

/-- Beside wallets for `names`, one closed channel is all that is new, and what went through it all that moved. -/
structure Settled (names : List String) (l l' : Ledger) : Prop where
  enrolled : Ledger.Enrolled names l l'
  channel : ∃ ch, l'.channels = l.channels ++ [ch] ∧ IsSpent ch
  funds : ∀ agent x, l'.funds agent x =
    if agent = agentId ∧ x = usdc then l.funds agent x - 100000000
    else if agent = peerId ∧ x = usdc then min (l.funds agent x + 100000000) (Amount.limit - 1)
    else l.funds agent x

theorem Settled.withServed {names : List String} {l l' : Ledger} (h : Settled names l l') (n : UInt64) :
    Settled names l (l'.withServed n) := ⟨h.enrolled, h.channel, h.funds⟩

theorem Settled.after {names others : List String} {l m l' : Ledger} (h : Settled others m l')
    (joined : Ledger.Joined names l m) (apart : ∀ a ∈ others, a ∉ names) : Settled (names ++ others) l l' where
  enrolled := joined.enrolled.trans h.enrolled apart
  channel := by
    rw [← joined.channels]
    exact h.channel
  funds agent x := by
    rw [h.funds, joined.funds]

theorem Settled.before {names others : List String} {l m l' : Ledger} (h : Settled names l m)
    (joined : Ledger.Joined others m l') (apart : ∀ a ∈ others, a ∉ names) : Settled (names ++ others) l l' where
  enrolled := h.enrolled.trans joined.enrolled apart
  channel := by
    rw [joined.channels]
    exact h.channel
  funds agent x := by
    rw [joined.funds, h.funds]

def terms : Terms := ⟨agentId, peerId, usdc, funds.text⟩

theorem terms_amount : Ledger.readPositive terms.amount = .ok funds := Ledger.readPositive_text (by decide)

theorem isSpent_of_times {id : String} {ch : Channel}
    (times : Channel.PaidTimes 10 payment (terms.channel id funds) ch) :
    IsSpent ch.ended ∧ ch.spent.units = 100000000 := by
  have deposit : ch.deposit.units = 1000000000 := congrArg Amount.units times.deposit
  have left : ch.balance.units + 10 * 10000000 = 1000000000 := times.balance
  have spent : ch.spent.units = ch.deposit.units - ch.balance.units := Amount.sub_units (Amount.le_def.mpr (by omega))
  have payments : ch.payments = 0 + UInt64.ofNat 10 := times.payments
  refine ⟨⟨times.owner, times.peer, times.asset, deposit, ?_, ?_, rfl⟩, by omega⟩
  · show ch.balance.units = 900000000
    omega
  · show ch.payments = 10
    rw [payments]
    rfl

theorem settled_of_closed {o : Occasion} (now : Timestamp) {l m : Ledger} {ch : Channel} (hl : l.Sound)
    (hm : m.Sound) {w : Wallet} (hw : l.wallet? agentId = some w) (enough : funds.units ≤ l.funds agentId usdc)
    (files : m.files = (l.withOpened o terms funds).files) (ends : m.EndsWith l.channels ch)
    (times : Channel.PaidTimes 10 payment (terms.channel o.freshId funds) ch) {v : Wallet}
    (hv : m.wallet? peerId = some v) : Settled [] l (m.withClosed now ch) := by
  obtain ⟨isSpent, spent⟩ := isSpent_of_times times
  have agents : (m.withClosed now ch).agents = l.agents := by
    rw [Ledger.agents_withClosed, Ledger.agents_of_files files]
    exact Ledger.agents_updateWallet l terms.owner _
  refine ⟨?_, ⟨ch.ended, (ends.withClosed now).channels, isSpent⟩, fun agent x => ?_⟩
  · rw [Ledger.Enrolled, agents]
    exact (List.append_nil _).symm
  · rw [Ledger.funds_openedThenClosed (t := terms) hl o now hw (by decide) enough hm files ends.channel? times.owner
      times.peer times.asset times.deposit hv, spent]
    rfl

end Demo

/-! ## The parts -/

namespace Demo
variable {s : Settings} (unlimited : s.rateLimit = none) {c : Client}
  (base : Url.openEnd c.base.path = Service.Route.apiPath) (draw : Ledger → Occasion) {l : Ledger}
include unlimited base

theorem result_showBalances {agent : String} (segment : IsSegment agent) {w : Wallet}
    (found : l.wallet? agent = some w) :
    (showBalances c agent).result s draw l = (.ok (), l.withServed (l.served + 1)) := by
  obtain ⟨bs, read⟩ := Client.serve_readBalances_known unlimited base draw segment found
  unfold showBalances
  rw [Scene.result_say, Scene.result_bind_ok (Scene.result_call_ok read)]
  rfl

theorem result_payRest {agent : String} {cs : List Channel} (left sent : Nat) {ch : Channel} (segment : IsSegment ch.id)
    (ends : l.EndsWith cs ch) (own : ch.owner = agent) (unclosed : ch.closed = false)
    (enough : left * payment.units ≤ ch.balance.units) :
    ∃ l' ch', (payRest c agent ch.id sent left).result s draw l = (.ok (), l') ∧ l'.EndsWith cs ch' ∧
      Channel.PaidTimes left payment ch ch' ∧ l'.files = l.files := by
  -- On what is left to be paid: behind each payment the channel is the last one again, and covers the rest.
  induction left generalizing l sent ch with
  | zero => exact ⟨l, ch, rfl, ends, .none payment ch, rfl⟩
  | succ left ih =>
    obtain ⟨covered, rest⟩ := Channel.covers_succ enough
    have paid := Client.serve_pay unlimited base draw segment ends own unclosed (by decide) covered
    have ends' := (ends.updateChannel (Channel.paid_id payment)).withServed (l.served + 1)
    rw [← Channel.paid_id payment] at segment
    rw [← Channel.paid_owner payment] at own
    rw [← Channel.paid_closed payment] at unclosed
    obtain ⟨l', ch', played, ended, times, files⟩ := ih (sent + 1) segment ends' own unclosed rest
    rw [Channel.paid_id] at played
    refine ⟨l', ch', ?_, ended, times.more covered, files⟩
    unfold payRest
    rw [Scene.result_bind_ok (Scene.result_call_ok paid), Scene.result_say]
    exact played

theorem result_openChannel (hl : l.Sound) {w : Wallet} (hw : l.wallet? agentId = some w) :
    (funds.units ≤ l.funds agentId usdc ∧
        (Scene.call (c.openChannel agentId peerId usdc funds)).result s draw l =
          (.ok (draw l).freshId, (l.withOpened (draw l) terms funds).withServed (l.served + 1))) ∨
      (l.funds agentId usdc < funds.units ∧
        ∃ e l', (Scene.call (c.openChannel agentId peerId usdc funds)).result s draw l = (.error e, l')) := by
  by_cases enough : funds.units ≤ l.funds agentId usdc
  · have opened := Ledger.openChannel_ok hl (o := draw l) (t := terms) (by decide) (by decide) (by decide)
      terms_amount hw (by decide) enough
    exact .inl ⟨enough, Scene.result_call_ok (Client.serve_openChannel unlimited base draw opened)⟩
  · refine .inr ⟨Nat.lt_of_not_le enough, ?_⟩
    rcases opened : Ledger.openChannel (draw l) terms l with ⟨e | id, l'⟩
    · exact ⟨_, _, Scene.result_call_error (Client.serve_openChannel unlimited base draw opened)⟩
    · exact absurd (Ledger.le_funds_of_openChannel terms_amount opened) enough

theorem result_tenPayments (segment : IsSegment (draw l).freshId) (fresh : (draw l).freshId ∉ l.ids) :
    ∃ l' ch, (payRest c agentId (draw l).freshId 0 10).result s draw
        ((l.withOpened (draw l) terms funds).withServed (l.served + 1)) = (.ok (), l') ∧ l'.EndsWith l.channels ch ∧
      Channel.PaidTimes 10 payment (terms.channel (draw l).freshId funds) ch ∧
      l'.files = (l.withOpened (draw l) terms funds).files := by
  have ends : (l.withOpened (draw l) terms funds).EndsWith l.channels (terms.channel (draw l).freshId funds) := by
    refine ⟨rfl, fun d hd => beq_eq_false_iff_ne.mpr fun same => fresh ?_⟩
    exact List.mem_map.mpr ⟨d, hd, same⟩
  have plenty : 10 * payment.units ≤ funds.units := by decide
  obtain ⟨l', ch, paid, ends', times, files⟩ :=
    result_payRest unlimited base draw 10 0 segment (ends.withServed (l.served + 1)) rfl rfl plenty
  exact ⟨l', ch, paid, ends', times, files⟩

theorem result_closing {cs : List Channel} {ch : Channel} (segment : IsSegment ch.id) (ends : l.EndsWith cs ch)
    (own : ch.owner = agentId) (unclosed : ch.closed = false) (lines lines' : List String) :
    (Scene.say lines >>= fun _ => Scene.call (c.closeChannel agentId ch.id) >>= fun _ => Scene.say lines').result
      s draw l = (.ok (), (l.withClosed (draw l).now ch).withServed (l.served + 1)) := by
  have closed := Client.serve_closeChannel unlimited base draw segment ends own unclosed
  rw [Scene.result_say]
  exact Scene.result_bind_ok (Scene.result_call_ok closed) _

theorem result_prepareWallet_unseeded (unseeded : s.masterSeed = none) (l : Ledger) :
    ∃ e l', (prepareWallet c).result s draw l = (.error e, l') := by
  obtain ⟨f, l', refused, other⟩ := Client.serve_addWallet_unseeded unlimited base draw unseeded
    (show Text.isAllBlank agentId = false by decide) (l := l)
  have ensured : (c.ensureWallet agentId).serve s draw l = (.error f, l') := by
    unfold Client.ensureWallet
    rw [Client.serve_bind, refused]
    simp only [other, Bool.false_eq_true, if_false]
    rfl
  unfold prepareWallet
  rw [Scene.result_say]
  exact ⟨_, _, Scene.result_bind_error (Scene.result_call_error ensured) _⟩

variable {seed : String} (seeded : s.masterSeed = some seed)
include seeded

/-- A wallet that was there already has to be within one read by its getting and twenty-four more. -/
theorem result_prepareWallet (hl : l.Sound) :
    ((∀ w, l.wallet? agentId = some w → w.pending.toNat ≤ 25) ∧
        ∃ v l', (prepareWallet c).result s draw l = (.ok v, l') ∧ v.agentId = agentId ∧ Ledger.Joined [agentId] l l') ∨
      ((∀ w, l.wallet? agentId = some w → 25 < w.pending.toNat) ∧
        ∃ e l', (prepareWallet c).result s draw l = (.error e, l')) := by
  have segment : IsSegment agentId := by decide
  obtain ⟨v, m, ensured, found, joined, counted⟩ :=
    Client.serve_ensureWallet unlimited base draw seeded (by decide) segment l
  have named : v.agent = agentId := (hl.result (Scene.result_call_ok ensured)).filed.agent_of_wallet? found
  unfold prepareWallet
  rw [Scene.result_say, Scene.result_bind_ok (Scene.result_call_ok ensured), Scene.result_say]
  have before (w : Wallet) (hw : l.wallet? agentId = some w) : v.pending.toNat = w.pending.toNat - 1 := by
    rw [counted w hw, w.pending_countRead]
  by_cases active : v.report.isActive = true
  · have zero := v.isActive_report.mp active
    simp only [active, if_true]
    refine .inl ⟨fun w hw => ?_, v.report, m, rfl, named, joined⟩
    have := before w hw
    omega
  · have positive : v.pending.toNat ≠ 0 := fun zero => active (v.isActive_report.mpr zero)
    simp only [active, Bool.false_eq_true, if_false]
    rw [Scene.result_say]
    have reads : (24 : UInt32).toNat = 24 := rfl
    rcases Client.serve_awaitActive unlimited base draw segment 24 (by decide) found with
      ⟨enough, u, l', polled, named', joined'⟩ | ⟨few, f, l', polled⟩
    · refine .inl ⟨fun w hw => ?_, u, l', ?_, named'.trans named, joined.trans joined' nofun⟩
      · have := before w hw
        omega
      · rw [Scene.result_bind_ok (Scene.result_call_ok polled), Scene.result_say]
        rfl
    · refine .inr ⟨fun w hw => ?_, f.message, l', Scene.result_bind_error (Scene.result_call_error polled) _⟩
      have := before w hw
      omega

/-- The channel is opened and used if the agent has what it puts in, and it is not opened otherwise. -/
theorem result_payThroughChannel (hl : l.Sound) {w : Wallet} (hw : l.wallet? agentId = some w)
    (segment : ∀ m, IsSegment (draw m).freshId) (fresh : ∀ m, (draw m).freshId ∉ l.ids) :
    (funds.units ≤ l.funds agentId usdc ∧
        ∃ l', (payThroughChannel c agentId peerId).result s draw l = (.ok (), l') ∧ Settled [peerId] l l') ∨
      (l.funds agentId usdc < funds.units ∧
        ∃ e l', (payThroughChannel c agentId peerId).result s draw l = (.error e, l')) := by
  obtain ⟨v, m, ensured, hv, joined, -⟩ := Client.serve_ensureWallet unlimited base draw seeded (by decide)
    (show IsSegment peerId by decide) l
  have sound : m.Sound := hl.result (Scene.result_call_ok ensured)
  obtain ⟨u, hu⟩ := joined.enrolled.known hw
  -- The peer may have got its wallet by now, and that is all.
  have unused : (draw m).freshId ∉ m.ids := by
    rw [Ledger.ids, joined.channels]
    exact fresh m
  unfold payThroughChannel
  rw [Scene.result_say, Scene.result_bind_ok (Scene.result_call_ok ensured), Scene.result_say, ← joined.funds]
  rcases result_openChannel unlimited base draw sound hu with ⟨enough, opened⟩ | ⟨few, e, l', refused⟩
  · refine .inl ⟨enough, ?_⟩
    obtain ⟨p, ch, paid, ends, times, files⟩ := result_tenPayments unlimited base draw (segment m) unused
    have soundPaid : p.Sound := (sound.result opened).result paid
    have agents : p.agents = m.agents :=
      (Ledger.agents_of_files files).trans (Ledger.agents_updateWallet m terms.owner _)
    obtain ⟨u', hu'⟩ := Ledger.exists_wallet (fun a ha => agents ▸ ha) hu
    obtain ⟨v', hv'⟩ := Ledger.exists_wallet (fun a ha => agents ▸ ha) hv
    have shown := Client.serve_readChannel_known unlimited base draw (show IsSegment agentId by decide)
      (draw m).freshId hu'
    generalize ((p.channels.filter (·.owner == agentId)).map (·.report)).find? (·.id == (draw m).freshId) = found at shown
    have closing := result_closing unlimited base draw (times.id ▸ segment m) (ends.withServed (p.served + 1))
      times.owner times.closed
    rw [times.id] at closing
    have settled := settled_of_closed (draw (p.withServed (p.served + 1))).now sound soundPaid hu enough files ends
      times hv'
    refine ⟨_, ?_, (settled.withServed (p.served + 1 + 1)).after joined fun _ h => absurd h List.not_mem_nil⟩
    rw [Scene.result_bind_ok opened, Scene.result_say, Scene.result_bind_ok paid,
      Scene.result_bind_ok (Scene.result_call_ok shown)]
    -- The channel is closed whether it was shown or not.
    cases found with
    | none => exact closing _ _
    | some r => exact (Scene.result_say _ _).trans (closing _ _)
  · exact .inr ⟨few, e, l', Scene.result_bind_error refused _⟩

theorem result_handleFailure (l : Ledger) :
    ∃ l', (handleFailure c strangerId).result s draw l = (.ok (), l') ∧ Ledger.Joined [strangerId] l l' := by
  obtain ⟨r, m, added, joined, cases⟩ := Client.serve_addWallet unlimited base draw seeded
    (show Text.isAllBlank strangerId = false by decide) l
  unfold handleFailure
  rw [Scene.result_say, Scene.result_bind_ok (Scene.result_attempt added)]
  rcases cases with ⟨v, rfl⟩ | ⟨f, w, rfl, conflict, found⟩
  · exact ⟨m, rfl, joined⟩
  · have read := Client.serve_readWallet_known unlimited base draw (show IsSegment strangerId by decide) found
    have counted := (Ledger.Joined.readWallet m strangerId).withServed (m.served + 1)
    refine ⟨_, ?_, joined.trans counted nofun⟩
    simp only [conflict, if_true]
    rw [Scene.result_say, Scene.result_bind_ok (Scene.result_call_ok read)]
    rfl

theorem result_createBatch (l : Ledger) :
    ∃ l', (createBatch c).result s draw l = (.ok (), l') ∧ Ledger.Joined batchIds l l' := by
  obtain ⟨b, l', added, joined⟩ := Client.serve_addWallets unlimited base draw seeded
    (show ∀ a ∈ batchIds, Text.isAllBlank a = false by decide) (by decide) l
  refine ⟨l', ?_, joined⟩
  unfold createBatch
  rw [Scene.result_say, Scene.result_bind_ok (Scene.result_call_ok added), Scene.result_say, Scene.result_say]
  rfl

end Demo

/-! ## The whole -/

theorem Ledger.agents_of_unseeded {s : Settings} (unseeded : s.masterSeed = none) (ops : List (Occasion × Operation)) :
    (behind s ops).agents = [] := by
  rw [← (behind_sound s ops).map_agentId_identities, List.map_eq_nil_iff, List.eq_nil_iff_forall_not_mem]
  intro who member
  obtain ⟨n, hn⟩ := List.mem_iff_getElem?.mp member
  obtain ⟨seed, seeded, -⟩ := (behind_enumerated s ops).derived n who hn
  rw [unseeded] at seeded
  cases seeded

namespace Demo

theorem exit_run (s : Settings) (draw : Ledger → Occasion) (c : Client) (l : Ledger) :
    (((run c).serve s draw l).1.exit = 0 ↔ ((story c).result s draw l).1 = .ok ()) ∧
      ((run c).serve s draw l).2 = ((story c).result s draw l).2 := by
  unfold run Scene.result
  rw [Client.serve_bind]
  generalize (story c).conversation.serve s draw l = r
  obtain ⟨⟨lines, e | a⟩, l'⟩ := r
  · exact ⟨⟨fun h => absurd h (by show ¬(1 : UInt32) = 0; decide), nofun⟩, rfl⟩
  · exact ⟨⟨fun _ => rfl, fun _ => rfl⟩, rfl⟩

variable {s : Settings} (unlimited : s.rateLimit = none) {c : Client}
  (base : Url.openEnd c.base.path = Service.Route.apiPath) (draw : Ledger → Occasion) {l : Ledger}
include unlimited base

theorem result_story_seeded {seed : String} (seeded : s.masterSeed = some seed) (hl : l.Sound)
    (segment : ∀ m, IsSegment (draw m).freshId) (fresh : ∀ m, (draw m).freshId ∉ l.ids) :
    (IsReady l ∧ ∃ l', (story c).result s draw l = (.ok (), l') ∧ Settled others l l') ∨
      (¬IsReady l ∧ ∃ e l', (story c).result s draw l = (.error e, l')) := by
  unfold story
  rw [Scene.result_say]
  rcases result_prepareWallet unlimited base draw seeded hl with
    ⟨near, v, m, prepared, named, joined⟩ | ⟨far, e, l', failed⟩
  · obtain ⟨w, hw⟩ := joined.enrolled.exists_wallet (List.mem_singleton_self agentId)
    have shown := result_showBalances unlimited base draw (show IsSegment agentId by decide) hw
    have hw' : (m.withServed (m.served + 1)).wallet? agentId = some w := by rw [Ledger.wallet?_withServed, hw]
    have sound : (m.withServed (m.served + 1)).Sound := (hl.result prepared).result shown
    have unused (k : Ledger) : (draw k).freshId ∉ (m.withServed (m.served + 1)).ids := by
      have same : (m.withServed (m.served + 1)).ids = l.ids := congrArg (List.map Channel.id) joined.channels
      rw [same]
      exact fresh k
    rw [Scene.result_bind_ok prepared, named, Scene.result_bind_ok shown]
    rcases result_payThroughChannel unlimited base draw seeded sound hw' segment unused with
      ⟨enough, p, paid, settled⟩ | ⟨few, e, l', failed⟩
    · replace enough : 1000000000 ≤ l.funds agentId usdc := by
        rw [← joined.funds]
        exact enough
      -- Its wallet was there before: a new one would be empty.
      obtain ⟨u, hu⟩ := Ledger.exists_wallet_of_funds (Nat.lt_of_lt_of_le (by decide) enough)
      obtain ⟨q, handled, strangers⟩ := result_handleFailure unlimited base draw seeded p
      obtain ⟨l', created, batch⟩ := result_createBatch unlimited base draw seeded q
      have shown := (joined.dropKnown (Ledger.mem_agents_of_wallet? hu)).withServed (m.served + 1)
      have whole := ((settled.after shown nofun).before strangers (by decide)).before batch (by decide)
      refine .inl ⟨⟨⟨u, hu, near u hu⟩, enough⟩, l', ?_, whole⟩
      rw [Scene.result_bind_ok paid, Scene.result_bind_ok handled, Scene.result_bind_ok created]
      rfl
    · refine .inr ⟨fun ready => ?_, e, l', Scene.result_bind_error failed _⟩
      have enough := ready.funds
      rw [← joined.funds] at enough
      exact absurd few (Nat.not_lt.mpr enough)
  · refine .inr ⟨fun ready => ?_, e, l', Scene.result_bind_error failed _⟩
    obtain ⟨w, hw, near⟩ := ready.active
    have := far w hw
    omega

theorem result_story (ops : List (Occasion × Operation)) (segment : ∀ m, IsSegment (draw m).freshId)
    (fresh : ∀ m, (draw m).freshId ∉ (Ledger.behind s ops).ids) :
    (IsReady (Ledger.behind s ops) ∧ ∃ l', (story c).result s draw (Ledger.behind s ops) = (.ok (), l') ∧
        Settled others (Ledger.behind s ops) l') ∨
      (¬IsReady (Ledger.behind s ops) ∧ ∃ e l', (story c).result s draw (Ledger.behind s ops) = (.error e, l')) := by
  cases seeded : s.masterSeed with
  | some seed => exact result_story_seeded unlimited base draw seeded (Ledger.behind_sound s ops) segment fresh
  | none =>
    -- Without a seed nobody has a wallet, and the first call says so.
    obtain ⟨e, l', failed⟩ := result_prepareWallet_unseeded unlimited base draw seeded (Ledger.behind s ops)
    refine .inr ⟨fun ready => ?_, e, l', ?_⟩
    · obtain ⟨w, hw, -⟩ := ready.active
      have known : agentId ∈ (Ledger.behind s ops).agents := Ledger.mem_agents_of_wallet? hw
      rw [Ledger.agents_of_unseeded seeded] at known
      cases known
    · unfold story
      rw [Scene.result_say, Scene.result_bind_error failed]

theorem exit_iff (ops : List (Occasion × Operation)) (segment : ∀ m, IsSegment (draw m).freshId)
    (fresh : ∀ m, (draw m).freshId ∉ (Ledger.behind s ops).ids) :
    (((run c).serve s draw (Ledger.behind s ops)).1.exit = 0 ↔ IsReady (Ledger.behind s ops)) ∧
      (IsReady (Ledger.behind s ops) →
        Settled others (Ledger.behind s ops) ((run c).serve s draw (Ledger.behind s ops)).2) := by
  obtain ⟨exit, ledger⟩ := exit_run s draw c (Ledger.behind s ops)
  rw [exit, ledger]
  rcases result_story unlimited base draw ops segment fresh with ⟨ready, l', told, settled⟩ | ⟨unready, e, l', told⟩
  · rw [told]
    exact ⟨⟨fun _ => ready, fun _ => rfl⟩, fun _ => settled⟩
  · rw [told]
    exact ⟨⟨nofun, fun ready => absurd ready unready⟩, fun ready => absurd ready unready⟩

/-- Whatever a service has done before, and at whatever time the demonstration is run against it with no other client
there: it succeeds if and only if its agent is ready. Then a closed channel has come last that ten payments went
through, they are all that moved between the wallets, and of the wallets only those are new that were missing. -/
theorem exit_iff_ready (ops : List (Occasion × Operation)) (clock : Ledger → Nat) (random : Ledger → List UInt8)
    (fresh : ∀ m, Channel.idOf (random m) ∉ (Ledger.behind s ops).ids) :
    let before := Ledger.behind s ops
    let played := (run c).serve s (fun m => .drawn (clock m) (random m)) before
    (played.1.exit = 0 ↔ IsReady before) ∧
      (IsReady before → Settled others before played.2 ∧ before.Grows played.2) := by
  dsimp only
  obtain ⟨exit, settled⟩ := exit_iff unlimited base (fun m => .drawn (clock m) (random m)) ops
    (fun m => Channel.isSegment_idOf (random m)) fresh
  exact ⟨exit, fun ready => ⟨settled ready, .serve s _ (run c) _⟩⟩

def patient : Settings := { activationPolls := 25 }

def funded : List (Occasion × Operation) :=
  [(⟨.epoch, ""⟩, .addWallet agentId), (⟨.epoch, ""⟩, .credit agentId usdc "1000000000")]

omit unlimited base in
theorem funded_exit : ∃ c, Client.ofConfig {} = .ok c ∧
    let played := (run c).serve patient (fun _ => .drawn 0 []) (Ledger.behind patient funded)
    played.1.exit = 0 ∧ played.2.agents = agentId :: others ∧ played.2.funds agentId usdc = 900000000 ∧
      played.2.funds peerId usdc = 100000000 := by
  obtain ⟨c, made, base⟩ := Errand.ofConfig_default
  have channels : (Ledger.behind patient funded).ids = [] := by decide +kernel
  have agents : (Ledger.behind patient funded).agents = [agentId] := by decide +kernel
  have owned : (Ledger.behind patient funded).funds agentId usdc = 1000000000 := by decide +kernel
  have peer : (Ledger.behind patient funded).funds peerId usdc = 0 := by decide +kernel
  have pending : ((Ledger.behind patient funded).wallet? agentId).map (·.pending.toNat) = some 25 := by decide +kernel
  obtain ⟨w, hw, reads⟩ := Option.map_eq_some_iff.mp pending
  have ready : IsReady (Ledger.behind patient funded) := ⟨⟨w, hw, Nat.le_of_eq reads⟩, Nat.le_of_eq owned.symm⟩
  obtain ⟨exit, after⟩ := exit_iff_ready (s := patient) rfl base funded (fun _ => 0) (fun _ => []) (by simp [channels])
  obtain ⟨settled, -⟩ := after ready
  refine ⟨c, made, exit.mpr ready, ?_, ?_, ?_⟩
  · rw [settled.enrolled, agents]
    decide
  · rw [settled.funds, owned]
    rfl
  · rw [settled.funds, peer]
    rfl

end Demo

end AgentLedger
