import AgentLedger.Proofs.Ledger.Identity
/-!
# Funds

What each agent has of each asset, and what a channel moves of it from its
opening to its closing. Wallets that join a ledger bring nothing with them.
-/

namespace AgentLedger

namespace Ledger
variable {l : Ledger}

/-- What an agent has of an asset; nothing where the balance is refused. -/
def funds (l : Ledger) (agent : String) (x : Asset) : Nat := ((balance agent x l).toOption.map (·.units)).getD 0

theorem funds_eq (l : Ledger) (agent : String) (x : Asset) :
    l.funds agent x = (((l.wallet? agent).bind (·.holding? x)).map (·.amount.units)).getD 0 := by
  unfold funds balance findHolding findWallet
  cases found : l.wallet? agent with
  | none => rfl
  | some w => cases held : w.holding? x <;> simp [held, Except.toOption]

theorem exists_wallet_of_funds {agent : String} {x : Asset} (positive : 0 < l.funds agent x) :
    ∃ w, l.wallet? agent = some w := by
  cases found : l.wallet? agent with
  | none =>
    rw [funds_eq, found] at positive
    cases positive
  | some w => exact ⟨w, rfl⟩

theorem funds_of_holding {agent : String} {x : Asset} {w : Wallet} {h : Holding} (hw : l.wallet? agent = some w)
    (hh : w.holding? x = some h) : l.funds agent x = h.amount.units := by
  rw [funds_eq, hw, Option.bind_some, hh]
  rfl

theorem funds_lt (l : Ledger) (agent : String) (x : Asset) : l.funds agent x < Amount.limit := by
  unfold funds
  cases (balance agent x l).toOption with
  | none => exact Amount.limit_pos
  | some a => exact a.units_lt

theorem funds_of_files {l' : Ledger} (same : l'.files = l.files) (agent : String) (x : Asset) :
    l'.funds agent x = l.funds agent x := by
  rw [funds_eq, funds_eq, wallet?, wallet?, same]

/-- In a sound ledger every wallet holds each of the starting assets. -/
theorem Sound.exists_holding (hl : l.Sound) {agent : String} {w : Wallet} (hw : l.wallet? agent = some w) {x : Asset}
    (hx : x ∈ Wallet.startingAssets.map Prod.fst) :
    ∃ h, w.holding? x = some h ∧ l.funds agent x = h.amount.units := by
  obtain ⟨h, hh⟩ := (hl.stocked w (mem_of_wallet? hw)).holding? hx
  exact ⟨h, hh, funds_of_holding hw hh⟩

/-! ## Writes -/

theorem funds_updateWallet (l : Ledger) (b : String) {f : Wallet → Wallet}
    (held : ∀ w, (f w).holdings = w.holdings) (agent : String) (x : Asset) :
    (l.updateWallet b f).funds agent x = l.funds agent x := by
  have same (w : Wallet) : (f w).holding? x = w.holding? x := by
    unfold Wallet.holding?
    rw [held]
  rw [funds_eq, funds_eq, wallet?_updateWallet]
  by_cases h : agent = b
  · subst h
    rw [if_pos rfl]
    cases l.wallet? agent with
    | none => rfl
    | some w => simp [same]
  · rw [if_neg h]

theorem funds_updateHolding {b : String} {a : Asset} {w : Wallet} {h : Holding} (hw : l.wallet? b = some w)
    (hh : w.holding? a = some h) {f : Holding → Holding} (hf : ∀ h, (f h).asset = h.asset) (agent : String)
    (x : Asset) :
    (l.updateWallet b (·.updateHolding a f)).funds agent x =
      if agent = b ∧ x = a then (f h).amount.units else l.funds agent x := by
  rw [funds_eq, funds_eq, wallet?_updateWallet]
  by_cases owner : agent = b
  · subst owner
    rw [if_pos rfl, hw, Option.map_some, Option.bind_some, Option.bind_some, Wallet.holding?_updateHolding w hf]
    by_cases asset : x = a
    · subst asset
      rw [if_pos rfl, if_pos ⟨rfl, rfl⟩, hh]
      rfl
    · rw [if_neg asset, if_neg fun both => asset both.2]
  · rw [if_neg owner, if_neg fun both => owner both.1]

theorem funds_append_wallet (l : Ledger) {b : String} (fresh : l.wallet? b = none) {w : Wallet}
    (empty : ∀ x h, w.holding? x = some h → h.amount.units = 0) (i : UInt32) (agent : String) (x : Asset) :
    Ledger.funds { l with files := l.files ++ [(b, w)], nextIndex := i } agent x = l.funds agent x := by
  rw [funds_eq, funds_eq, wallet?_append]
  by_cases named : b = agent
  · subst named
    rw [fresh, if_pos rfl, Option.none_or]
    cases held : w.holding? x with
    | none => simp [held]
    | some h => simp [held, empty x h held]
  · rw [if_neg named, Option.or_none]

theorem fresh_empty (seed agent : String) (index pending : UInt32) (now : Timestamp) (x : Asset) (h : Holding)
    (hh : (Wallet.fresh seed agent index pending now).holding? x = some h) : h.amount.units = 0 := by
  obtain ⟨p, -, rfl⟩ := List.mem_map.mp (List.mem_of_find?_eq_some hh)
  rfl

/-! ## Joining -/

theorem agents_of_files {l' : Ledger} (same : l'.files = l.files) : l'.agents = l.agents := by
  rw [agents, agents, same]

theorem agents_withClosed (l : Ledger) (now : Timestamp) (c : Channel) :
    (l.withClosed now c).agents = l.agents := by
  exact (agents_updateWallet ..).trans (agents_updateWallet ..)

def Enrolled (names : List String) (l l' : Ledger) : Prop := l'.agents = l.agents ++ names.filter (· ∉ l.agents)

theorem Enrolled.trans {l' l'' : Ledger} {names others : List String} (h : Enrolled names l l')
    (h' : Enrolled others l' l'') (apart : ∀ a ∈ others, a ∉ names) : Enrolled (names ++ others) l l'' := by
  unfold Enrolled at h h' ⊢
  have same : others.filter (· ∉ l'.agents) = others.filter (· ∉ l.agents) := by
    refine List.filter_congr fun a ha => ?_
    rw [h]
    simp [apart a ha]
  rw [h', same, h, List.filter_append, List.append_assoc]

theorem mem_agents_of_wallet? {agent : String} {w : Wallet} (hw : l.wallet? agent = some w) : agent ∈ l.agents :=
  wallet?_isSome.mp (Option.isSome_iff_exists.mpr ⟨w, hw⟩)

theorem exists_wallet {l' : Ledger} (kept : ∀ a ∈ l.agents, a ∈ l'.agents) {agent : String} {w : Wallet}
    (hw : l.wallet? agent = some w) : ∃ w', l'.wallet? agent = some w' :=
  Option.isSome_iff_exists.mp (wallet?_isSome.mpr (kept agent (mem_agents_of_wallet? hw)))

theorem Enrolled.known {l' : Ledger} {names : List String} (h : Enrolled names l l') {agent : String} {w : Wallet}
    (hw : l.wallet? agent = some w) : ∃ w', l'.wallet? agent = some w' := by
  refine exists_wallet (fun a ha => ?_) hw
  rw [h]
  exact List.mem_append_left _ ha

theorem Enrolled.exists_wallet {l' : Ledger} {names : List String} (h : Enrolled names l l') {agent : String}
    (member : agent ∈ names) : ∃ w, l'.wallet? agent = some w := by
  refine Option.isSome_iff_exists.mp (wallet?_isSome.mpr ?_)
  rw [h]
  by_cases known : agent ∈ l.agents
  · exact List.mem_append_left _ known
  · exact List.mem_append_right _ (List.mem_filter.mpr ⟨member, by simpa using known⟩)

structure Joined (names : List String) (l l' : Ledger) : Prop where
  enrolled : Enrolled names l l'
  channels : l'.channels = l.channels
  funds : ∀ agent x, l'.funds agent x = l.funds agent x

namespace Joined
variable {l' l'' : Ledger} {names others : List String}

theorem refl (l : Ledger) : Joined [] l l := ⟨(List.append_nil _).symm, rfl, fun _ _ => rfl⟩

theorem trans (h : Joined names l l') (h' : Joined others l' l'') (apart : ∀ a ∈ others, a ∉ names) :
    Joined (names ++ others) l l'' where
  enrolled := h.enrolled.trans h'.enrolled apart
  channels := h'.channels.trans h.channels
  funds agent x := (h'.funds agent x).trans (h.funds agent x)

/-- An agent that has a wallet joins without a trace. -/
theorem of_known (h : Joined [] l l') {agent : String} (known : agent ∈ l.agents) : Joined [agent] l l' where
  enrolled := by
    have same : l'.agents = l.agents ++ [] := h.enrolled
    rw [Enrolled, same]
    simp [known]
  channels := h.channels
  funds := h.funds

theorem dropKnown {agent : String} (h : Joined (agent :: names) l l') (known : agent ∈ l.agents) :
    Joined names l l' where
  enrolled := by
    have all : l'.agents = _ := h.enrolled
    rw [Enrolled, all]
    simp [known]
  channels := h.channels
  funds := h.funds

theorem readWallet (l : Ledger) (agent : String) : Joined [] l (l.updateWallet agent Wallet.countRead) where
  enrolled := by
    rw [Enrolled, agents_updateWallet]
    exact (List.append_nil _).symm
  channels := rfl
  funds := funds_updateWallet l agent Wallet.countRead_holdings

theorem addWallet {s : Settings} {o : Occasion} {agent : String} {w : Report.Wallet}
    (h : Ledger.addWallet s o.now agent l = (.ok w, l')) : Joined [agent] l l' := by
  have e := addWallet_atomic (s := s) (o := o) (l := l) agent
  rw [h] at e
  cases e with
  | added seed _ _ _ absent =>
    have unknown : agent ∉ l.agents := by
      rw [← wallet?_isSome, absent]
      simp
    refine ⟨?_, rfl, funds_append_wallet l absent (fresh_empty seed agent _ _ _) _⟩
    have alone : [agent].filter (· ∉ l.agents) = [agent] := by simp [unknown]
    rw [Enrolled, alone]
    exact List.map_append

end Joined

/-! ## A channel's way -/

theorem updateFirst_append_last {α : Type} {p : α → Bool} (f : α → α) {as : List α} {a : α} (ha : p a = true)
    (others : ∀ x ∈ as, p x = false) : updateFirst p f (as ++ [a]) = as ++ [f a] := by
  induction as with
  | nil => simp [updateFirst, ha]
  | cons x as ih =>
    rw [List.forall_mem_cons] at others
    rw [List.cons_append, updateFirst, others.1, ih others.2]
    rfl

structure EndsWith (l : Ledger) (cs : List Channel) (c : Channel) : Prop where
  channels : l.channels = cs ++ [c]
  others : ∀ d ∈ cs, (d.id == c.id) = false

namespace EndsWith
variable {cs : List Channel} {c : Channel}

theorem channel? (h : l.EndsWith cs c) : l.channel? c.id = some c := by
  unfold Ledger.channel?
  have absent : cs.find? (·.id == c.id) = none := List.find?_eq_none.mpr fun d hd => by simp [h.others d hd]
  rw [h.channels, List.find?_append, absent]
  simp

theorem updateChannel (h : l.EndsWith cs c) {f : Channel → Channel} (hf : ∀ d, (f d).id = d.id) :
    (l.updateChannel c.id f).EndsWith cs (f c) where
  channels := by
    unfold Ledger.updateChannel
    rw [h.channels]
    exact updateFirst_append_last f (beq_self_eq_true c.id) h.others
  others := by
    rw [hf]
    exact h.others

theorem withClosed {cs : List Channel} {c : Channel} (h : l.EndsWith cs c) (now : Timestamp) :
    (l.withClosed now c).EndsWith cs c.ended :=
  ⟨(h.updateChannel (f := Channel.ended) fun _ => rfl).channels, h.others⟩

end EndsWith

theorem pay_ok {id agent raw : String} {c : Channel} {a : Amount} (found : l.channel? id = some c)
    (own : c.owner = agent) (unclosed : c.closed = false) (amount : readPositive raw = .ok a) (enough : a ≤ c.balance) :
    pay id agent raw l = (.ok (c.paid a).report, l.updateChannel id (Channel.paid a)) := by
  have owned : l.findOwned id agent = .ok c := findOwned_eq_ok.mpr ⟨found, own, unclosed⟩
  have covered : ¬c.balance < a := Nat.not_lt.mpr enough
  simp only [pay, owned, amount, covered, if_false]

theorem closeChannel_ok (now : Timestamp) {id agent : String} {c : Channel} (found : l.channel? id = some c)
    (own : c.owner = agent) (unclosed : c.closed = false) :
    closeChannel now id agent l = (.ok c.ended.report, l.withClosed now c) := by
  have owned : l.findOwned id agent = .ok c := findOwned_eq_ok.mpr ⟨found, own, unclosed⟩
  have same := id_of_channel? found
  subst own same
  simp only [closeChannel, owned]
  rfl

/-- A deposit is taken where the owner has it. -/
theorem openChannel_ok (hl : l.Sound) {o : Occasion} {t : Terms} {a : Amount} {w : Wallet}
    (ownerNamed : Text.isAllBlank t.owner = false) (peerNamed : Text.isAllBlank t.peer = false)
    (other : t.owner ≠ t.peer) (amount : readPositive t.amount = .ok a) (hw : l.wallet? t.owner = some w)
    (asset : t.asset ∈ Wallet.startingAssets.map Prod.fst) (enough : a.units ≤ l.funds t.owner t.asset) :
    openChannel o t l = (.ok o.freshId, l.withOpened o t a) := by
  obtain ⟨h, hh, same⟩ := hl.exists_holding hw asset
  rw [same] at enough
  have held : l.findHolding t.owner t.asset = .ok h := findHolding_eq_ok.mpr ⟨w, hw, hh⟩
  have covered : ¬h.amount < a := Nat.not_lt.mpr enough
  simp only [openChannel, ownerNamed, peerNamed, other, amount, held, covered, Bool.or_false, Bool.false_eq_true,
    if_false]
  rfl

theorem le_funds_of_openChannel {o : Occasion} {t : Terms} {a : Amount} {id : String} {l' : Ledger}
    (amount : readPositive t.amount = .ok a) (h : openChannel o t l = (.ok id, l')) :
    a.units ≤ l.funds t.owner t.asset := by
  have e := openChannel_atomic (s := {}) (o := o) (l := l) t
  rw [h] at e
  cases e with
  | opened _ x w k _ _ _ amount' _ found held enough =>
    rw [(readPositive_eq_ok.mp amount).1] at amount'
    cases amount'
    rw [funds_of_holding found held]
    exact enough

theorem funds_withOpened (hl : l.Sound) (o : Occasion) {t : Terms} {a : Amount} {w : Wallet}
    (hw : l.wallet? t.owner = some w) (asset : t.asset ∈ Wallet.startingAssets.map Prod.fst)
    (enough : a.units ≤ l.funds t.owner t.asset) (agent : String) (x : Asset) :
    (l.withOpened o t a).funds agent x =
      if agent = t.owner ∧ x = t.asset then l.funds agent x - a.units else l.funds agent x := by
  obtain ⟨h, hh, same⟩ := hl.exists_holding hw asset
  rw [same] at enough
  have spent : (h.spend o.now a).amount.units = h.amount.units - a.units := Amount.sub_units enough
  refine (funds_updateHolding (f := Holding.spend o.now a) hw hh (fun _ => rfl) agent x).trans ?_
  by_cases both : agent = t.owner ∧ x = t.asset
  · rw [if_pos both, if_pos both, spent, both.1, both.2, same]
  · rw [if_neg both, if_neg both]

theorem funds_withClosed (hl : l.Sound) (now : Timestamp) {id : String} {c : Channel} (hc : l.channel? id = some c)
    {v : Wallet} (hv : l.wallet? c.peer = some v) (agent : String) (x : Asset) :
    (l.withClosed now c).funds agent x =
      if agent = c.owner ∧ x = c.asset then min (l.funds agent x + c.balance.units) (Amount.limit - 1)
      else if agent = c.peer ∧ x = c.asset then min (l.funds agent x + c.spent.units) (Amount.limit - 1)
      else l.funds agent x := by
  have b := hl.backs_of_channel? hc
  obtain ⟨w, h, hw, hh⟩ := hl.owner_holding hc
  obtain ⟨k, hk⟩ := hl.peer_holding hc hv
  have hv' : (l.withRefund now c).wallet? c.peer = some v := by
    rw [wallet?_withRefund, if_neg (Ne.symm b.owner_ne_peer), hv]
  have refund : (l.withRefund now c).funds agent x =
      if agent = c.owner ∧ x = c.asset then (h.amount.addCapped c.balance).units else l.funds agent x :=
    funds_updateHolding (l := l.updateChannel c.id Channel.ended) (f := Holding.receive now c.balance) hw hh
      (fun _ => rfl) agent x
  rw [withClosed_of_peer_some now b.owner_ne_peer hv hk,
    funds_updateHolding (f := Holding.receive now c.spent) hv' hk fun _ => rfl, refund]
  by_cases peer : agent = c.peer ∧ x = c.asset
  · obtain ⟨rfl, rfl⟩ := peer
    rw [if_pos ⟨rfl, rfl⟩, if_neg fun both => b.owner_ne_peer both.1.symm, if_pos ⟨rfl, rfl⟩, funds_of_holding hv hk]
    exact Amount.addCapped_units k.amount c.spent
  · rw [if_neg peer, if_neg peer]
    by_cases owner : agent = c.owner ∧ x = c.asset
    · obtain ⟨rfl, rfl⟩ := owner
      rw [if_pos ⟨rfl, rfl⟩, if_pos ⟨rfl, rfl⟩, funds_of_holding hw hh, Amount.addCapped_units]
    · rw [if_neg owner, if_neg owner]

/-- From its opening to its closing a channel moves what was spent of it, and nothing else. -/
theorem funds_openedThenClosed (hl : l.Sound) (o : Occasion) (now : Timestamp) {t : Terms} {a : Amount} {w : Wallet}
    (hw : l.wallet? t.owner = some w) (asset : t.asset ∈ Wallet.startingAssets.map Prod.fst)
    (enough : a.units ≤ l.funds t.owner t.asset) {m : Ledger} (hm : m.Sound)
    (files : m.files = (l.withOpened o t a).files) {c : Channel} (hc : m.channel? c.id = some c)
    (own : c.owner = t.owner) (peer : c.peer = t.peer) (kind : c.asset = t.asset) (deposit : c.deposit = a)
    {v : Wallet} (hv : m.wallet? t.peer = some v) (agent : String) (x : Asset) :
    (m.withClosed now c).funds agent x =
      if agent = t.owner ∧ x = t.asset then l.funds agent x - c.spent.units
      else if agent = t.peer ∧ x = t.asset then min (l.funds agent x + c.spent.units) (Amount.limit - 1)
      else l.funds agent x := by
  have b := hm.backs_of_channel? hc
  have left := Amount.le_def.mp b.balance_le
  have spent : c.spent.units = c.deposit.units - c.balance.units := Amount.sub_units b.balance_le
  rw [← peer] at hv
  rw [funds_withClosed hm now hc hv, funds_of_files files, funds_withOpened hl o hw asset enough, own, peer, kind]
  by_cases owner : agent = t.owner ∧ x = t.asset
  · obtain ⟨rfl, rfl⟩ := owner
    have capped := l.funds_lt t.owner t.asset
    rw [if_pos ⟨rfl, rfl⟩, if_pos ⟨rfl, rfl⟩, if_pos ⟨rfl, rfl⟩, spent, deposit]
    rw [deposit] at left
    rw [Nat.min_eq_left (by omega)]
    omega
  · rw [if_neg owner, if_neg owner, if_neg owner]

end Ledger

end AgentLedger
