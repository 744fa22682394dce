import Mathlib.Data.List.Perm.Basic
import AgentLedger.Ledger.Draw
import AgentLedger.Proofs.Ledger.History
/-!
# Independent channels

A payment or a closing looks at its own channel and at nothing else. What it
does follows from that channel alone: an answer, a change of the channel, and
amounts paid into wallets. What is paid into wallets commutes, at the cap too,
so the order of requests on different channels shows in nothing but times.
-/

namespace AgentLedger

inductive Interleaved : List α → List α → List α → Prop where
  | nil : Interleaved [] [] []
  | left (x : α) {xs ys zs : List α} : Interleaved xs ys zs → Interleaved (x :: xs) ys (x :: zs)
  | right (y : α) {xs ys zs : List α} : Interleaved xs ys zs → Interleaved xs (y :: ys) (y :: zs)

theorem Interleaved.mem {xs ys zs : List α} (h : Interleaved xs ys zs) {z : α} (hz : z ∈ zs) : z ∈ xs ++ ys := by
  induction h with
  | nil => exact hz
  | left x _ ih =>
    rcases List.mem_cons.mp hz with rfl | hz
    · exact List.mem_cons_self
    · exact List.mem_cons_of_mem x (ih hz)
  | right y _ ih =>
    rcases List.mem_cons.mp hz with rfl | hz
    · simp
    · rcases List.mem_append.mp (ih hz) with h | h <;> simp [h]

def Operation.settles? : Operation → Option String
  | .pay id _ _ | .closeChannel id _ => some id
  | _ => none

def Operation.Apart (a b : Operation) : Prop := ∃ i j, a.settles? = some i ∧ b.settles? = some j ∧ i ≠ j

theorem Operation.Apart.symm {a b : Operation} : a.Apart b → b.Apart a
  | ⟨i, j, hi, hj, apart⟩ => ⟨j, i, hj, hi, Ne.symm apart⟩

/-! ## Ledgers without their times -/

def Holding.undated (h : Holding) : Holding := { h with updated := .epoch }

def Wallet.undated (w : Wallet) : Wallet := { w with holdings := w.holdings.map Holding.undated }

theorem Wallet.undated_updateHolding (w : Wallet) {f g : Holding → Holding}
    (through : ∀ h, (f h).undated = g h.undated) (a : Asset) :
    (w.updateHolding a f).undated = w.undated.updateHolding a g :=
  congrArg (fun hs => { w with holdings := hs })
    (map_updateFirst_hom Holding.undated Holding.asset Holding.asset (fun _ => rfl) through a)

namespace Ledger

/-- The ledger with one time for all that was updated. -/
def undated (l : Ledger) : Ledger := { l with files := l.files.map (Prod.map id Wallet.undated) }

theorem Sound.undated {l : Ledger} (hl : l.Sound) : l.undated.Sound := by
  have agents : l.undated.agents = l.agents := by simp [Ledger.agents, Ledger.undated]
  refine ⟨agents ▸ hl.agents_nodup, ?_, ?_, fun c hc => (hl.backs c hc).mono fun a h => agents ▸ h⟩
  · intro p hp
    obtain ⟨q, hq, rfl⟩ := List.mem_map.mp hp
    exact hl.filed q hq
  · intro w hw
    obtain ⟨p, hp, rfl⟩ := List.mem_map.mp hw
    obtain ⟨q, hq, rfl⟩ := List.mem_map.mp hp
    have stocked := hl.stocked q.2 (List.mem_map_of_mem hq)
    unfold Wallet.IsStocked Wallet.assets at *
    rw [← stocked, Prod.map_snd, Wallet.undated, List.map_map]
    rfl

theorem undated_updateWallet (l : Ledger) {f g : Wallet → Wallet}
    (through : ∀ w, (f w).undated = g w.undated) (agent : String) :
    (l.updateWallet agent f).undated = l.undated.updateWallet agent g := by
  have filed (p : String × Wallet) : Prod.map id Wallet.undated (p.map id f) = (p.map id Wallet.undated).map id g :=
    congrArg (p.1, ·) (through p.2)
  exact congrArg (fun fs => { l with files := fs })
    (map_updateFirst_hom (Prod.map id Wallet.undated) Prod.fst Prod.fst (fun _ => rfl) filed agent)

/-! ## Payments into wallets -/

structure Payout where
  agent : String
  asset : Asset
  amount : Amount

def payOut (now : Timestamp) (l : Ledger) (p : Payout) : Ledger :=
  l.updateWallet p.agent (·.updateHolding p.asset (Holding.receive now p.amount))

instance (now : Timestamp) : RightCommutative (payOut now) where
  right_comm l p q := by
    apply updateWallet_comm l
    intro _ w
    apply w.updateHolding_comm
    · exact fun _ => rfl
    · exact fun _ => rfl
    intro _ h
    simp only [Holding.receive, Holding.setAmount, Amount.addCapped_right_comm]

theorem undated_payOut (now : Timestamp) (l : Ledger) (p : Payout) :
    (l.payOut now p).undated = l.undated.payOut .epoch p := by
  apply undated_updateWallet
  intro w
  apply Wallet.undated_updateHolding
  exact fun _ => rfl

/-! ## What a payment or a closing comes to -/

structure Deed where
  answer : Except Refusal Answer
  change : Channel → Channel
  change_id : ∀ c, (change c).id = c.id
  payouts : List Payout

def Deed.refusal (e : Refusal) : Deed := ⟨.error e, id, fun _ => rfl, []⟩

def withDeed (l : Ledger) (now : Timestamp) (id : String) (d : Deed) : Ledger :=
  d.payouts.foldl (payOut now) (l.updateChannel id d.change)

section
variable (l : Ledger) (now : Timestamp)

theorem foldl_payOut_updateChannel (ps : List Payout) (id : String) (f : Channel → Channel) :
    ps.foldl (payOut now) (l.updateChannel id f) = (ps.foldl (payOut now) l).updateChannel id f := by
  induction ps generalizing l with
  | nil => rfl
  | cons p ps ih => exact ih (l.payOut now p)

theorem undated_foldl_payOut (ps : List Payout) :
    (ps.foldl (payOut now) l).undated = ps.foldl (payOut .epoch) l.undated := by
  induction ps generalizing l with
  | nil => rfl
  | cons p ps ih => rw [List.foldl_cons, List.foldl_cons, ih, undated_payOut]

theorem undated_withDeed (id : String) (d : Deed) : (l.withDeed now id d).undated = l.undated.withDeed .epoch id d :=
  undated_foldl_payOut (l.updateChannel id d.change) now d.payouts

theorem channel?_withDeed (id : String) (d : Deed) (i : String) :
    (l.withDeed now id d).channel? i = if i = id then (l.channel? i).map d.change else l.channel? i := by
  have untouched (ps : List Payout) (l : Ledger) : (ps.foldl (payOut now) l).channel? i = l.channel? i := by
    induction ps generalizing l with
    | nil => rfl
    | cons p ps ih => exact ih (l.payOut now p)
  rw [withDeed, untouched, channel?_updateChannel l id d.change_id]

theorem withDeed_comm {i j : String} (apart : i ≠ j) (d e : Deed) :
    (l.withDeed now i d).withDeed now j e = (l.withDeed now j e).withDeed now i d := by
  unfold withDeed
  rw [← foldl_payOut_updateChannel, ← foldl_payOut_updateChannel, updateChannel_comm l d.change_id e.change_id apart,
    ← List.foldl_append, ← List.foldl_append]
  exact List.perm_append_comm.foldl_eq _

end

/-- On a sound ledger a closing is two payments. -/
theorem withClosed_eq_withDeed {l : Ledger} (hl : l.Sound) {c : Channel} (found : l.channel? c.id = some c)
    (now : Timestamp) (answer : Except Refusal Answer) :
    l.withClosed now c = l.withDeed now c.id
      ⟨answer, Channel.ended, fun _ => rfl, [⟨c.owner, c.asset, c.balance⟩, ⟨c.peer, c.asset, c.spent⟩]⟩ := by
  have other := (hl.backs_of_channel? found).owner_ne_peer
  show l.withClosed now c = (l.withRefund now c).payOut now ⟨c.peer, c.asset, c.spent⟩
  cases known : l.wallet? c.peer with
  | none =>
    rw [withClosed_of_peer_none now other known, payOut, updateWallet_of_none]
    rw [wallet?_withRefund, if_neg (Ne.symm other), known]
  | some w =>
    obtain ⟨h, held⟩ := hl.peer_holding found known
    exact withClosed_of_peer_some now other known held

theorem withDeed_refusal (l : Ledger) (now : Timestamp) (i : String) (e : Refusal) :
    l.withDeed now i (.refusal e) = l := by
  show { l with channels := updateFirst (·.id == i) id l.channels } = l
  rw [updateFirst_id]

/-- The answer to a payment or a closing depends on its channel alone. -/
theorem answer_congr {s : Settings} {o o' : Occasion} {op : Operation} {id : String} (names : op.settles? = some id)
    {l l' : Ledger} (same : l.channel? id = l'.channel? id) : (l.perform s o op).1 = (l'.perform s o' op).1 := by
  have owned (agent : String) : l.findOwned id agent = l'.findOwned id agent := by
    unfold findOwned
    rw [same]
  cases op with
  | pay i agent raw =>
    cases names
    simp only [perform, pay, owned]
    split
    · rfl
    · split
      · rfl
      · split <;> rfl
  | closeChannel i agent =>
    cases names
    simp only [perform, closeChannel, owned]
    split <;> rfl
  | _ => cases names

theorem exists_deed (s : Settings) {op : Operation} {id : String} (names : op.settles? = some id) (l₀ : Ledger) :
    ∃ d : Deed, ∀ (o : Occasion) (l : Ledger), l.Sound → l.channel? id = l₀.channel? id →
      l.perform s o op = (d.answer, l.withDeed o.now id d) := by
  have counts : op ≠ .countRequest := by
    rintro rfl
    cases names
  -- Every other ledger with this channel answers the same, and the answer tells which effect it has.
  cases answer : (l₀.perform s ⟨.epoch, ""⟩ op).1 with
  | error e =>
    refine ⟨.refusal e, fun o l _ same => ?_⟩
    have refused : (l.perform s o op).1 = .error e := (answer_congr names same).trans answer
    rcases perform_refused refused with unchanged | ⟨counted, -⟩
    · rw [withDeed_refusal]
      exact Prod.ext refused unchanged
    · exact absurd counted counts
  | ok a =>
    have met := perform_effect answer
    generalize (l₀.perform s ⟨.epoch, ""⟩ op).2 = l₁ at met
    cases met with
    | counted | added | read | balances | balance | credited | opened | channelsOf | channel => cases names
    | paid i agent raw x c found _ _ amount =>
      cases names
      refine ⟨⟨.ok (.channel (c.paid x).report), Channel.paid x, fun _ => rfl, []⟩, fun o l _ same => ?_⟩
      have accepted : (l.perform s o (.pay id agent raw)).1 = .ok (.channel (c.paid x).report) :=
        (answer_congr rfl same).trans answer
      have here := perform_effect accepted
      refine Prod.ext accepted ?_
      generalize (l.perform s o (.pay id agent raw)).2 = l', Answer.channel (c.paid x).report = b at here
      cases here with
      | paid _ _ _ x' _ _ _ _ amount' =>
        rw [amount] at amount'
        cases amount'
        rfl
    | closed i agent c found =>
      cases names
      have own := id_of_channel? found
      refine ⟨⟨.ok (.channel c.ended.report), Channel.ended, fun _ => rfl,
        [⟨c.owner, c.asset, c.balance⟩, ⟨c.peer, c.asset, c.spent⟩]⟩, fun o l sound same => ?_⟩
      have accepted : (l.perform s o (.closeChannel id agent)).1 = .ok (.channel c.ended.report) :=
        (answer_congr rfl same).trans answer
      have here := perform_effect accepted
      refine Prod.ext accepted ?_
      generalize (l.perform s o (.closeChannel id agent)).2 = l', Answer.channel c.ended.report = b at here
      cases here with
      | closed _ _ c' found' =>
        rw [same, found] at found'
        cases found'
        subst own
        exact withClosed_eq_withDeed sound (same.trans found) o.now _

/-! ## One request -/

section
variable {s : Settings} {o o' : Occasion} {l l' : Ledger} {op other : Operation} {i j : String}

theorem perform_undated (names : op.settles? = some i) (hl : l.Sound) (o : Occasion) :
    (l.perform s o op).1 = (l.undated.perform s ⟨.epoch, ""⟩ op).1 ∧
      (l.perform s o op).2.undated = (l.undated.perform s ⟨.epoch, ""⟩ op).2 := by
  obtain ⟨d, deed⟩ := exists_deed s names l
  rw [deed o l hl rfl, deed ⟨.epoch, ""⟩ l.undated hl.undated rfl]
  exact ⟨rfl, undated_withDeed l o.now i d⟩

theorem channel?_perform_congr (names : op.settles? = some i) (hl : l.Sound) (hl' : l'.Sound)
    (same : l.channel? i = l'.channel? i) (also : l.channel? j = l'.channel? j) :
    (l.perform s o op).2.channel? j = (l'.perform s o op).2.channel? j := by
  obtain ⟨d, deed⟩ := exists_deed s names l
  rw [deed o l hl rfl, deed o l' hl' same.symm, channel?_withDeed, channel?_withDeed, also]

theorem channel?_perform_other (names : op.settles? = some i) (hl : l.Sound) (apart : j ≠ i) :
    (l.perform s o op).2.channel? j = l.channel? j := by
  obtain ⟨d, deed⟩ := exists_deed s names l
  rw [deed o l hl rfl, channel?_withDeed, if_neg apart]

theorem perform_comm (apart : op.Apart other) (hl : l.Sound) :
    ((l.perform s o op).2.perform s o other).2 = ((l.perform s o other).2.perform s o op).2 := by
  obtain ⟨i, j, names, names', apart⟩ := apart
  have untouched := channel?_perform_other (s := s) (o := o) names hl (Ne.symm apart)
  have untouched' := channel?_perform_other (s := s) (o := o) names' hl apart
  obtain ⟨d, deed⟩ := exists_deed s names l
  obtain ⟨e, deed'⟩ := exists_deed s names' l
  -- Neither request touches the other's channel, so both come to the same deeds in both orders.
  rw [deed' o _ (hl.perform s o op) untouched, deed o _ (hl.perform s o other) untouched', deed o l hl rfl,
    deed' o l hl rfl]
  exact withDeed_comm l o.now apart d e

end

/-! ## Runs -/

def told (s : Settings) (xs : List (Occasion × Operation)) (l : Ledger) : List (Operation × Except Refusal Answer) :=
  (xs.map Prod.snd).zip (run s xs l).1

def atOnce (ops : List Operation) : List (Occasion × Operation) := ops.map fun op => (⟨.epoch, ""⟩, op)

section
variable (s : Settings)

theorem told_cons (o : Occasion) (op : Operation) (xs : List (Occasion × Operation)) (l : Ledger) :
    told s ((o, op) :: xs) l = (op, (l.perform s o op).1) :: told s xs (l.perform s o op).2 := rfl

/-- The times of requests show in the times of holdings only. -/
theorem run_undated {xs : List (Occasion × Operation)} (settling : ∀ x ∈ xs, x.2.settles?.isSome) {l : Ledger}
    (hl : l.Sound) :
    told s xs l = told s (atOnce (xs.map Prod.snd)) l.undated ∧
      (run s xs l).2.undated = (run s (atOnce (xs.map Prod.snd)) l.undated).2 := by
  induction xs generalizing l with
  | nil => exact ⟨rfl, rfl⟩
  | cons x xs ih =>
    obtain ⟨o, op⟩ := x
    rw [List.forall_mem_cons] at settling
    obtain ⟨i, names⟩ := Option.isSome_iff_exists.mp settling.1
    obtain ⟨answer, ledger⟩ := perform_undated (s := s) names hl o
    obtain ⟨answers, behind⟩ := ih settling.2 (hl.perform s o op)
    rw [ledger] at answers behind
    refine ⟨?_, behind⟩
    rw [told_cons, answer, answers]
    rfl

theorem run_atOnce_append (xs ys : List Operation) (l : Ledger) :
    (run s (atOnce (xs ++ ys)) l).2 = (run s (atOnce ys) (run s (atOnce xs) l).2).2 := by
  rw [atOnce, List.map_append, run_append]
  rfl

theorem told_congr {xs : List (Occasion × Operation)} (settling : ∀ x ∈ xs, x.2.settles?.isSome) {l l' : Ledger}
    (hl : l.Sound) (hl' : l'.Sound) (same : ∀ x ∈ xs, ∀ i, x.2.settles? = some i → l.channel? i = l'.channel? i) :
    told s xs l = told s xs l' := by
  induction xs generalizing l l' with
  | nil => rfl
  | cons x xs ih =>
    obtain ⟨o, op⟩ := x
    rw [List.forall_mem_cons] at settling same
    obtain ⟨i, names⟩ := Option.isSome_iff_exists.mp settling.1
    have here := same.1 i names
    rw [told_cons, told_cons, answer_congr names here]
    congr 1
    apply ih settling.2 (hl.perform s o op) (hl'.perform s o op)
    intro x hx j names'
    exact channel?_perform_congr names hl hl' here (same.2 x hx j names')

section
variable {op : Operation} {ops : List Operation} (apart : ∀ other ∈ ops, op.Apart other) {l : Ledger} (hl : l.Sound)
include apart hl

/-- Requests on other channels are told the same behind a request as without it. -/
theorem told_behind : told s (atOnce ops) (l.perform s ⟨.epoch, ""⟩ op).2 = told s (atOnce ops) l := by
  apply told_congr s ?_ (hl.perform s _ op) hl
  · intro x hx i names
    obtain ⟨other, mem, rfl⟩ := List.mem_map.mp hx
    obtain ⟨j, k, hj, hk, ne⟩ := apart other mem
    rw [hk] at names
    cases names
    exact channel?_perform_other hj hl (Ne.symm ne)
  · intro x hx
    obtain ⟨other, mem, rfl⟩ := List.mem_map.mp hx
    obtain ⟨j, k, -, hk, -⟩ := apart other mem
    exact Option.isSome_iff_exists.mpr ⟨k, hk⟩

theorem run_behind :
    (run s (atOnce ops) (l.perform s ⟨.epoch, ""⟩ op).2).2 =
      ((run s (atOnce ops) l).2.perform s ⟨.epoch, ""⟩ op).2 := by
  induction ops generalizing l with
  | nil => rfl
  | cons other ops ih =>
    rw [List.forall_mem_cons] at apart
    show (run s (atOnce ops) ((l.perform s _ op).2.perform s _ other).2).2 = _
    rw [perform_comm apart.1 hl, ih apart.2 (hl.perform s _ other)]
    rfl

end

theorem run_interleaved {xs ys zs : List Operation} (merged : Interleaved xs ys zs)
    (apart : ∀ x ∈ xs, ∀ y ∈ ys, x.Apart y) {l : Ledger} (hl : l.Sound) :
    Interleaved (told s (atOnce xs) l) (told s (atOnce ys) l) (told s (atOnce zs) l) ∧
      (run s (atOnce zs) l).2 = (run s (atOnce (xs ++ ys)) l).2 := by
  induction merged generalizing l with
  | nil => exact ⟨.nil, rfl⟩
  | @left x xs ys zs _ ih =>
    rw [List.forall_mem_cons] at apart
    obtain ⟨answers, ledger⟩ := ih apart.2 (hl.perform s ⟨.epoch, ""⟩ x)
    rw [told_behind s apart.1 hl] at answers
    exact ⟨.left _ answers, ledger⟩
  | @right y xs ys zs _ ih =>
    have before : ∀ x ∈ xs, y.Apart x := fun x hx => (apart x hx y List.mem_cons_self).symm
    obtain ⟨answers, ledger⟩ :=
      ih (fun x hx z hz => apart x hx z (List.mem_cons_of_mem y hz)) (hl.perform s ⟨.epoch, ""⟩ y)
    rw [told_behind s before hl] at answers
    refine ⟨.right _ answers, ?_⟩
    -- The first request of `zs` is moved behind all of `xs`.
    calc (run s (atOnce (y :: zs)) l).2
      _ = (run s (atOnce (xs ++ ys)) (l.perform s ⟨.epoch, ""⟩ y).2).2 := ledger
      _ = (run s (atOnce ys) (run s (atOnce xs) (l.perform s ⟨.epoch, ""⟩ y).2).2).2 := run_atOnce_append s xs ys _
      _ = (run s (atOnce ys) ((run s (atOnce xs) l).2.perform s ⟨.epoch, ""⟩ y).2).2 := by rw [run_behind s before hl]
      _ = (run s (atOnce (xs ++ y :: ys)) l).2 := (run_atOnce_append s xs (y :: ys) l).symm

/-- However payments and closings on some channels fall between those on others, and at whatever times, each of them
is answered as if the others were not there, and the ledger is that of one sequence behind the other, its times aside. -/
theorem channels_independent (ops : List (Occasion × Operation)) {xs ys zs : List (Occasion × Operation)}
    (settling : ∀ x ∈ xs ++ ys, x.2.settles?.isSome) (apart : ∀ x ∈ xs, ∀ y ∈ ys, x.2.settles? ≠ y.2.settles?)
    (merged : Interleaved (xs.map Prod.snd) (ys.map Prod.snd) (zs.map Prod.snd)) :
    Interleaved (told s xs (behind s ops)) (told s ys (behind s ops)) (told s zs (behind s ops)) ∧
      (run s zs (behind s ops)).2.undated = (run s (xs ++ ys) (behind s ops)).2.undated := by
  have sound := behind_sound s ops
  generalize behind s ops = l at sound
  have all : ∀ z ∈ zs, z.2.settles?.isSome := by
    intro z hz
    have mem := merged.mem (List.mem_map_of_mem hz)
    rw [← List.map_append] at mem
    obtain ⟨x, hx, same⟩ := List.mem_map.mp mem
    exact same ▸ settling x hx
  have pairs : ∀ a ∈ xs.map Prod.snd, ∀ b ∈ ys.map Prod.snd, a.Apart b := by
    intro a ha b hb
    obtain ⟨x, hx, rfl⟩ := List.mem_map.mp ha
    obtain ⟨y, hy, rfl⟩ := List.mem_map.mp hb
    obtain ⟨i, hi⟩ := Option.isSome_iff_exists.mp (settling x (List.mem_append_left ys hx))
    obtain ⟨j, hj⟩ := Option.isSome_iff_exists.mp (settling y (List.mem_append_right xs hy))
    refine ⟨i, j, hi, hj, fun same => apart x hx y hy ?_⟩
    rw [hi, hj, same]
  obtain ⟨answers, ledger⟩ := run_interleaved s merged pairs sound.undated
  rw [(run_undated s settling sound).2, (run_undated s all sound).1, (run_undated s all sound).2, List.map_append]
  rw [List.forall_mem_append] at settling
  rw [(run_undated s settling.1 sound).1, (run_undated s settling.2 sound).1]
  exact ⟨answers, ledger⟩

end

def bothFull : List (Occasion × Operation) :=
  [(⟨.epoch, ""⟩, .addWallet "alice"), (⟨.epoch, ""⟩, .addWallet "bob"),
    (⟨.epoch, ""⟩, .credit "alice" ⟨"evm", "USDC"⟩ "5"), (⟨.epoch, ""⟩, .credit "bob" ⟨"evm", "USDC"⟩ "3"),
    (⟨.epoch, "ch_0"⟩, .openChannel ⟨"alice", "bob", ⟨"evm", "USDC"⟩, "5"⟩),
    (⟨.epoch, "ch_1"⟩, .openChannel ⟨"bob", "alice", ⟨"evm", "USDC"⟩, "3"⟩),
    (⟨.epoch, ""⟩, .credit "alice" ⟨"evm", "USDC"⟩ Amount.largest.text),
    (⟨.epoch, ""⟩, .credit "bob" ⟨"evm", "USDC"⟩ Amount.largest.text)]

def aliceSettles : List (Occasion × Operation) :=
  [(⟨.epoch, ""⟩, .pay "ch_0" "alice" "2"), (⟨.epoch, ""⟩, .closeChannel "ch_0" "alice")]

def bobSettles : List (Occasion × Operation) :=
  [(⟨.epoch, ""⟩, .closeChannel "ch_1" "alice"), (⟨.epoch, ""⟩, .pay "ch_1" "bob" "1"),
    (⟨.epoch, ""⟩, .closeChannel "ch_1" "bob")]

def byTurns : List (Occasion × Operation) :=
  [(⟨.ofEpoch 1000000000, ""⟩, .closeChannel "ch_1" "alice"), (⟨.ofEpoch 1000000000, ""⟩, .pay "ch_0" "alice" "2"),
    (⟨.ofEpoch 1000000000, ""⟩, .pay "ch_1" "bob" "1"), (⟨.ofEpoch 1000000000, ""⟩, .closeChannel "ch_1" "bob"),
    (⟨.ofEpoch 1000000000, ""⟩, .closeChannel "ch_0" "alice")]

theorem crossing_channels_independent :
    (∀ x ∈ aliceSettles ++ bobSettles, x.2.settles?.isSome) ∧
      (∀ x ∈ aliceSettles, ∀ y ∈ bobSettles, x.2.settles? ≠ y.2.settles?) ∧
      Interleaved (aliceSettles.map Prod.snd) (bobSettles.map Prod.snd) (byTurns.map Prod.snd) ∧
      (run {} byTurns (behind {} bothFull)).1.countP (·.toOption.isSome) = 4 ∧
      Interleaved (told {} aliceSettles (behind {} bothFull)) (told {} bobSettles (behind {} bothFull))
        (told {} byTurns (behind {} bothFull)) ∧
      (run {} byTurns (behind {} bothFull)).2.undated =
        (run {} (aliceSettles ++ bobSettles) (behind {} bothFull)).2.undated ∧
      (run {} byTurns (behind {} bothFull)).2 ≠ (run {} (aliceSettles ++ bobSettles) (behind {} bothFull)).2 := by
  have settling : ∀ x ∈ aliceSettles ++ bobSettles, x.2.settles?.isSome := by decide
  have apart : ∀ x ∈ aliceSettles, ∀ y ∈ bobSettles, x.2.settles? ≠ y.2.settles? := by decide
  have merged : Interleaved (aliceSettles.map Prod.snd) (bobSettles.map Prod.snd) (byTurns.map Prod.snd) :=
    .right _ (.left _ (.right _ (.right _ (.left _ .nil))))
  obtain ⟨answers, ledger⟩ := channels_independent {} bothFull settling apart merged
  exact ⟨settling, apart, merged, by decide +kernel, answers, ledger, by decide +kernel⟩

end Ledger

end AgentLedger
