import AgentLedger.Ledger.Draw
import AgentLedger.Proofs.Ledger.History
/-!
# Footprints

What an operation may touch. Each list of records is the same before and behind
it, save for one record in one place or for one more record at the end, and in
that record only the named fields are others. No two wallets have one name and
no two holdings of a wallet one asset, so that the place is the record's own.
-/

namespace AgentLedger

/-! ## One record of a list -/

section
variable {α β : Type}

/-- `bs` is `as` but for one record, the first one with the key `k`, which `r` relates to what it was. -/
def Moves (key : α → β) (k : β) (r : α → α → Prop) (as bs : List α) : Prop :=
  ∃ front a b back, as = front ++ a :: back ∧ bs = front ++ b :: back ∧ key a = k ∧ (∀ x ∈ front, key x ≠ k) ∧ r a b

theorem moves_updateFirst [DecidableEq β] {key : α → β} {k : β} {r : α → α → Prop} {f : α → α} {as : List α} {a : α}
    (found : as.find? (key · == k) = some a) (moved : r a (f a)) :
    Moves key k r as (updateFirst (key · == k) f as) := by
  induction as with
  | nil => cases found
  | cons c as ih =>
    by_cases here : key c = k
    · rw [List.find?_cons_of_pos (by simp [here])] at found
      cases found
      exact ⟨[], a, f a, as, rfl, by simp [updateFirst, here], here, by simp, moved⟩
    · rw [List.find?_cons_of_neg (by simp [here])] at found
      obtain ⟨front, a', b, back, rfl, same, keyed, apart, related⟩ := ih found
      refine ⟨c :: front, a', b, back, rfl, ?_, keyed, ?_, related⟩
      · simp [updateFirst, here, same]
      · exact List.forall_mem_cons.mpr ⟨here, apart⟩

end

/-! ## Records of the ledger -/

def Holding.Moved (h h' : Holding) : Prop := ∃ now a, h' = h.setAmount now a

def Wallet.MovedIn (x : Asset) (w w' : Wallet) : Prop :=
  ∃ hs, w' = { w with holdings := hs } ∧ Moves Holding.asset x Holding.Moved w.holdings hs

def Wallet.Awaits (w w' : Wallet) : Prop := ∃ n, w' = { w with pending := n }

def Refiled (r : Wallet → Wallet → Prop) (p q : String × Wallet) : Prop := q.1 = p.1 ∧ r p.2 q.2

def Channel.Paid (c c' : Channel) : Prop := ∃ left n, c' = { c with balance := left, payments := n }

theorem Wallet.movedIn_updateHolding {w : Wallet} {x : Asset} {h : Holding} (held : w.holding? x = some h)
    {f : Holding → Holding} (moved : h.Moved (f h)) : w.MovedIn x (w.updateHolding x f) :=
  ⟨_, rfl, moves_updateFirst held moved⟩

theorem Wallet.awaits_countRead (w : Wallet) : w.Awaits w.countRead := by
  unfold countRead
  split
  · exact ⟨_, rfl⟩
  · exact ⟨w.pending, rfl⟩

namespace Ledger

inductive Footprint (l : Ledger) : Operation → Ledger → Prop
  | countRequest : Footprint l .countRequest { l with served := l.served + 1 }
  | addWallet {agent : String} {w : Wallet} : w.agent = agent → l.wallet? agent = none →
      Footprint l (.addWallet agent) { l with files := l.files ++ [(agent, w)], nextIndex := l.nextIndex + 1 }
  | readWallet {agent : String} {fs : List (String × Wallet)} :
      Moves Prod.fst agent (Refiled Wallet.Awaits) l.files fs → Footprint l (.readWallet agent) { l with files := fs }
  | balances (agent : String) : Footprint l (.balances agent) l
  | balance (agent : String) (x : Asset) : Footprint l (.balance agent x) l
  | credit {agent : String} {x : Asset} {raw : String} {fs : List (String × Wallet)} :
      Moves Prod.fst agent (Refiled (Wallet.MovedIn x)) l.files fs →
      Footprint l (.credit agent x raw) { l with files := fs }
  | openChannel {t : Terms} {id : String} {a : Amount} {fs : List (String × Wallet)} :
      Moves Prod.fst t.owner (Refiled (Wallet.MovedIn t.asset)) l.files fs →
      Footprint l (.openChannel t) { l with files := fs, channels := l.channels ++ [t.channel id a] }
  | pay {id agent raw : String} {cs : List Channel} :
      Moves Channel.id id Channel.Paid l.channels cs → Footprint l (.pay id agent raw) { l with channels := cs }
  | closeChannel {id agent : String} {c : Channel} {cs : List Channel} {fs fs' : List (String × Wallet)} :
      c.owner = agent → Moves Channel.id id (fun d d' => d = c ∧ d' = { d with closed := true }) l.channels cs →
      Moves Prod.fst c.owner (Refiled (Wallet.MovedIn c.asset)) l.files fs →
      (l.wallet? c.peer = none ∧ fs' = fs ∨ Moves Prod.fst c.peer (Refiled (Wallet.MovedIn c.asset)) fs fs') →
      Footprint l (.closeChannel id agent) { l with files := fs', channels := cs }
  | channelsOf (agent : String) : Footprint l (.channelsOf agent) l
  | channel (id : String) : Footprint l (.channel id) l

section
variable {l : Ledger}

theorem moves_updateWallet {agent : String} {w : Wallet} (found : l.wallet? agent = some w)
    {r : Wallet → Wallet → Prop} {f : Wallet → Wallet} (moved : r w (f w)) :
    Moves Prod.fst agent (Refiled r) l.files (l.updateWallet agent f).files :=
  moves_updateFirst (wallet?_eq_some.mp found) ⟨rfl, moved⟩

theorem moves_updateHolding {agent : String} {w : Wallet} {x : Asset} {h : Holding} (found : l.wallet? agent = some w)
    (held : w.holding? x = some h) {f : Holding → Holding} (moved : h.Moved (f h)) :
    Moves Prod.fst agent (Refiled (Wallet.MovedIn x)) l.files (l.updateWallet agent (·.updateHolding x f)).files :=
  moves_updateWallet found (Wallet.movedIn_updateHolding held moved)

theorem footprint_withClosed (hl : l.Sound) {id : String} {c : Channel} (found : l.channel? id = some c)
    (now : Timestamp) : Footprint l (.closeChannel id c.owner) (l.withClosed now c) := by
  have other := (hl.backs_of_channel? found).owner_ne_peer
  obtain ⟨w, h, hw, hh⟩ := hl.owner_holding found
  have ended : Moves Channel.id id (fun d d' => d = c ∧ d' = { d with closed := true }) l.channels
      (l.updateChannel id Channel.ended).channels := moves_updateFirst found ⟨rfl, rfl⟩
  have refund : Moves Prod.fst c.owner (Refiled (Wallet.MovedIn c.asset)) l.files (l.withRefund now c).files :=
    moves_updateHolding hw hh ⟨now, _, rfl⟩
  obtain rfl := id_of_channel? found
  cases known : l.wallet? c.peer with
  | none =>
    rw [withClosed_of_peer_none now other known]
    exact .closeChannel rfl ended refund (.inl ⟨known, rfl⟩)
  | some v =>
    obtain ⟨k, hk⟩ := hl.peer_holding found known
    rw [withClosed_of_peer_some now other known hk]
    -- The owner's wallet is another one, so that the peer's is still what it was.
    have hv : (l.withRefund now c).wallet? c.peer = some v := by
      rw [wallet?_withRefund, if_neg (Ne.symm other), known]
    exact .closeChannel rfl ended refund (.inr (moves_updateHolding hv hk ⟨now, _, rfl⟩))

theorem footprint_effect (hl : l.Sound) {s : Settings} {o : Occasion} {op : Operation} {a : Answer} {l' : Ledger}
    (e : Effect s o l op a l') : Footprint l op l' := by
  cases e with
  | counted => exact .countRequest
  | added seed agent _ _ absent => exact .addWallet rfl absent
  | read agent w found => exact .readWallet (moves_updateWallet found w.awaits_countRead)
  | balances agent => exact .balances agent
  | balance agent x => exact .balance agent x
  | credited agent x raw _ total w h _ found held => exact .credit (moves_updateHolding found held ⟨o.now, total, rfl⟩)
  | opened t x w h _ _ _ _ _ found held => exact .openChannel (moves_updateHolding found held ⟨o.now, _, rfl⟩)
  | paid id agent raw x c found => exact .pay (moves_updateFirst found ⟨_, _, rfl⟩)
  | closed id agent c found own => exact own ▸ footprint_withClosed hl found o.now
  | channelsOf agent => exact .channelsOf agent
  | channel id => exact .channel id

end

/-- After every run an accepted operation touches nothing outside its footprint. -/
theorem perform_footprint (s : Settings) (ops : List (Occasion × Operation)) (o : Occasion) (op : Operation) {a : Answer}
    (accepted : (perform s o op (behind s ops)).1 = .ok a) :
    Footprint (behind s ops) op (perform s o op (behind s ops)).2 ∧ (behind s ops).agents.Nodup ∧
      ∀ w ∈ (behind s ops).wallets, (w.holdings.map (·.asset)).Nodup := by
  have sound := behind_sound s ops
  refine ⟨footprint_effect sound (perform_effect accepted), sound.agents_nodup, ?_⟩
  intro w hw
  exact (sound.stocked w hw).assets_nodup

def alicePays : List (Occasion × Operation) :=
  [(⟨.epoch, ""⟩, .addWallet "alice"), (⟨.epoch, ""⟩, .addWallet "bob"),
    (⟨.epoch, ""⟩, .credit "alice" ⟨"evm", "USDC"⟩ "9"),
    (⟨.epoch, "ch_0"⟩, .openChannel ⟨"alice", "bob", ⟨"evm", "USDC"⟩, "5"⟩),
    (⟨.epoch, ""⟩, .pay "ch_0" "alice" "2")]

/-- The closing then writes to both wallets. -/
theorem closing_footprint :
    let before := behind {} alicePays
    let after := (perform {} ⟨.epoch, ""⟩ (.closeChannel "ch_0" "alice") before).2
    balance "alice" ⟨"evm", "USDC"⟩ after = .ok ⟨7, by decide⟩ ∧ balance "bob" ⟨"evm", "USDC"⟩ after = .ok ⟨2, by decide⟩ ∧
      Footprint before (.closeChannel "ch_0" "alice") after ∧ before.agents.Nodup := by
  intro before after
  have accepted : (perform {} ⟨.epoch, ""⟩ (.closeChannel "ch_0" "alice") before).1 =
      .ok (.channel ⟨"ch_0", "alice", "bob", "evm", "USDC", ⟨3, by decide⟩, ⟨5, by decide⟩, 1, .closed⟩) := by
    decide +kernel
  obtain ⟨touched, agents, -⟩ := perform_footprint {} alicePays ⟨.epoch, ""⟩ (.closeChannel "ch_0" "alice") accepted
  exact ⟨by decide +kernel, by decide +kernel, touched, agents⟩

end Ledger

end AgentLedger
