import Mathlib.Data.List.DropRight
import Mathlib.Data.List.Nodup
import AgentLedger.Ledger.Draw
import AgentLedger.Proofs.Ledger.Growth
import AgentLedger.Proofs.Ledger.History
/-!
# Identities of wallets

Wallets are numbered in the order of their creation, and the number settles
both addresses. A refused creation takes no number, and what a creation
reported of a wallet's identity is reported ever after.
-/

namespace AgentLedger

/-! ## Addresses -/

theorem Text.hex_take (n : Nat) (bs : List UInt8) : hex (bs.take n) = (hex bs).take (2 * n) := by
  induction bs generalizing n with
  | nil => simp [hex]
  | cons b bs ih =>
    cases n with
    | zero => rfl
    | succ n =>
      unfold hex at ih ⊢
      rw [List.take_succ_cons, List.flatMap_cons, List.flatMap_cons, ih, Nat.mul_succ]
      rfl

theorem Text.hex_drop (n : Nat) (bs : List UInt8) : hex (bs.drop n) = (hex bs).drop (2 * n) := by
  induction bs generalizing n with
  | nil => simp [hex]
  | cons b bs ih =>
    cases n with
    | zero => rfl
    | succ n =>
      unfold hex at ih ⊢
      rw [List.drop_succ_cons, List.flatMap_cons, ih, Nat.mul_succ]
      rfl

theorem Text.length_hex (bs : List UInt8) : (hex bs).length = 2 * bs.length := by
  induction bs with
  | nil => rfl
  | cons b bs ih =>
    unfold hex at ih ⊢
    rw [List.flatMap_cons, List.length_append, ih, List.length_cons]
    simp only [List.length_cons, List.length_nil]
    omega

theorem Digest.length_sha256 (message : List UInt8) : (sha256 message).length = 32 := rfl

def addressDigits (seed : String) (n : Nat) : List Char :=
  Text.hex (Digest.sha256 (Text.utf8 seed.toList ++ Digest.bigEndian 4 n))

theorem length_addressDigits (seed : String) (n : Nat) : (addressDigits seed n).length = 64 := by
  rw [addressDigits, Text.length_hex, Digest.length_sha256]

theorem evmAddressOf_digits (seed : String) (i : UInt32) :
    Wallet.evmAddressOf seed i = String.ofList ('0' :: 'x' :: (addressDigits seed i.toNat).take 40) := by
  rw [Wallet.evmAddressOf, Text.hex_take]
  rfl

theorem xrpAddressOf_digits (seed : String) (i : UInt32) :
    Wallet.xrpAddressOf seed i = String.ofList ('r' :: (addressDigits seed i.toNat).rtake 40) := by
  rw [Wallet.xrpAddressOf, Text.hex_drop, List.rtake, length_addressDigits]
  rfl

/-! ## Creations -/

structure Creation where
  agent : String
  wallet : Report.Wallet
deriving DecidableEq

def Event.created? (e : Event) : Option Creation :=
  match e.operation, e.answer with
  | .addWallet agent, .ok (.wallet w) => some ⟨agent, w⟩
  | _, _ => none

def created (es : List Event) : List Creation := es.filterMap (·.created?)

theorem created_cons (e : Event) (es : List Event) : created (e :: es) = e.created?.toList ++ created es :=
  filterMap_cons_toList ..

structure Creation.HasNumber (seed : String) (n : Nat) (c : Creation) : Prop where
  agent : c.wallet.agentId = c.agent
  index : c.wallet.derivationIndex.toNat = n
  evm : c.wallet.evmAddress = String.ofList ('0' :: 'x' :: (addressDigits seed n).take 40)
  xrp : c.wallet.xrpAddress = String.ofList ('r' :: (addressDigits seed n).rtake 40)

namespace Ledger
variable {s : Settings} {o : Occasion} {l : Ledger}

def identities (l : Ledger) : List Report.Identity := l.wallets.map (·.report.identity)

theorem length_identities (l : Ledger) : l.identities.length = l.wallets.length := List.length_map _

theorem Sound.map_agentId_identities (hl : l.Sound) : l.identities.map (·.agentId) = l.agents := by
  rw [identities, wallets, List.map_map, List.map_map]
  exact List.map_congr_left hl.filed

theorem identities_append (l : Ledger) (agent : String) (w : Wallet) (i : UInt32) :
    Ledger.identities { l with files := l.files ++ [(agent, w)], nextIndex := i } =
      l.identities ++ [w.report.identity] := by
  rw [identities, wallets_append, List.map_append]
  rfl

theorem identities_updateWallet (l : Ledger) (agent : String) {f : Wallet → Wallet}
    (hf : ∀ w, (f w).report.identity = w.report.identity) : (l.updateWallet agent f).identities = l.identities :=
  map_updateWallet hf

theorem identities_withClosed (l : Ledger) (now : Timestamp) (c : Channel) :
    (l.withClosed now c).identities = l.identities := by
  have payment := identities_updateWallet (l.withRefund now c) c.peer
    (f := Wallet.receive now c.asset c.spent (l.settledDecimals c)) fun w => w.identity_receive now c.asset c.spent _
  have refund := identities_updateWallet (l.updateChannel c.id Channel.ended) c.owner
    (f := (·.updateHolding c.asset (Holding.receive now c.balance))) fun _ => rfl
  exact payment.trans refund

structure Enumerated (s : Settings) (l : Ledger) : Prop where
  next : l.nextIndex = UInt32.ofNat l.wallets.length
  derived : ∀ n who, l.identities[n]? = some who → ∃ seed, s.masterSeed = some seed ∧
    who.derivationIndex = UInt32.ofNat n ∧ who.evmAddress = Wallet.evmAddressOf seed (UInt32.ofNat n) ∧
    who.xrpAddress = Wallet.xrpAddressOf seed (UInt32.ofNat n)

theorem enumerated_empty (s : Settings) : empty.Enumerated s where
  next := rfl
  derived n who h := by cases h

namespace Enumerated

theorem of_same (hl : l.Enumerated s) {l' : Ledger} (next : l'.nextIndex = l.nextIndex)
    (same : l'.identities = l.identities) : l'.Enumerated s where
  next := by rw [next, hl.next, ← length_identities, ← length_identities, same]
  derived := by rw [same]; exact hl.derived

theorem append_wallet (hl : l.Enumerated s) {seed : String} (seeded : s.masterSeed = some seed) (agent : String)
    (now : Timestamp) :
    Enumerated s { l with
      files := l.files ++ [(agent, Wallet.fresh seed agent l.nextIndex s.activationPolls now)]
      nextIndex := l.nextIndex + 1 } where
  next := by
    rw [wallets_append, List.length_append, UInt32.ofNat_add, ← wallets, ← hl.next]
    rfl
  derived n who h := by
    rw [identities_append] at h
    by_cases old : n < l.identities.length
    · rw [List.getElem?_append_left old] at h
      exact hl.derived n who h
    · have last : n = l.identities.length := by
        have := (List.getElem?_eq_some_iff.mp h).1
        rw [List.length_append, List.length_singleton] at this
        omega
      subst last
      rw [List.getElem?_append_right (Nat.le_refl _), Nat.sub_self] at h
      cases h
      rw [length_identities, ← hl.next]
      exact ⟨seed, seeded, rfl, rfl, rfl⟩

theorem next_toNat (hl : l.Enumerated s) (few : l.wallets.length < UInt32.size) :
    l.nextIndex.toNat = l.wallets.length := by
  rw [hl.next]
  exact UInt32.toNat_ofNat_of_lt' few

/-- As long as there are numbers, the wallets have those from zero on. -/
theorem numbers (hl : l.Enumerated s) (few : l.wallets.length < UInt32.size) :
    l.wallets.map (·.index.toNat) = List.range l.wallets.length := by
  refine List.ext_getElem (by simp) fun n h _ => ?_
  rw [List.length_map] at h
  have known : l.identities[n]? = some l.wallets[n].report.identity := by
    rw [identities, List.getElem?_map, List.getElem?_eq_getElem h]
    rfl
  obtain ⟨seed, -, index, -⟩ := hl.derived n _ known
  have toNat : (UInt32.ofNat n).toNat = n := UInt32.toNat_ofNat_of_lt' (Nat.lt_trans h few)
  rw [List.getElem_map, List.getElem_range]
  exact (congrArg UInt32.toNat index).trans toNat

end Enumerated

/-- An operation creates the one wallet that it answers, and no other operation creates any. -/
theorem identities_effect {op : Operation} {a : Answer} {l' : Ledger} (e : Effect s o l op a l')
    (hl : l.Enumerated s) :
    l'.Enumerated s ∧
      l'.identities = l.identities ++ (Event.created? ⟨l, op, .ok a⟩).toList.map (·.wallet.identity) := by
  have kept {m : Ledger} (next : m.nextIndex = l.nextIndex) (same : m.identities = l.identities) :
      m.Enumerated s ∧ m.identities = l.identities ++ [] := ⟨hl.of_same next same, by rw [same, List.append_nil]⟩
  cases e with
  | added seed agent seeded =>
    exact ⟨hl.append_wallet seeded agent o.now, identities_append ..⟩
  | read agent => exact kept rfl (identities_updateWallet l agent Wallet.identity_countRead)
  | credited agent a => exact kept rfl (identities_updateWallet l agent fun _ => rfl)
  | opened t x =>
    let f : Wallet → Wallet := (·.updateHolding t.asset (Holding.spend o.now x))
    exact kept rfl (identities_updateWallet l t.owner (f := f) fun _ => rfl)
  | closed id agent c => exact kept rfl (identities_withClosed l o.now c)
  | counted | paid | balances | balance | channelsOf | channel => exact kept rfl rfl

theorem created?_refused (op : Operation) (r : Refusal) : Event.created? ⟨l, op, .error r⟩ = none := by
  cases op <;> rfl

theorem agent_of_created? {op : Operation} {c : Creation}
    (h : Event.created? ⟨l, op, (perform s o op l).1⟩ = some c) : c.wallet.agentId = c.agent := by
  cases answer : (perform s o op l).1 with
  | error r => rw [answer, created?_refused] at h; cases h
  | ok a =>
    rw [answer] at h
    have e := perform_effect answer
    generalize (perform s o op l).2 = l' at e
    cases e with
    | added => cases h; rfl
    | _ => cases h

theorem identities_perform (o : Occasion) (op : Operation) (hl : l.Enumerated s) :
    (perform s o op l).2.Enumerated s ∧
      (perform s o op l).2.identities =
        l.identities ++ (Event.created? ⟨l, op, (perform s o op l).1⟩).toList.map (·.wallet.identity) := by
  cases answer : (perform s o op l).1 with
  | ok a => exact identities_effect (perform_effect answer) hl
  | error r =>
    rw [created?_refused, Option.toList_none, List.map_nil, List.append_nil]
    rcases perform_refused answer with same | ⟨-, same⟩ <;> rw [same]
    · exact ⟨hl, rfl⟩
    · exact ⟨hl.of_same rfl rfl, rfl⟩

/-! ## Runs -/

theorem identities_run (ops : List (Occasion × Operation)) (hl : l.Enumerated s) :
    (run s ops l).2.Enumerated s ∧
      (run s ops l).2.identities = l.identities ++ (created (history s ops l)).map (·.wallet.identity) := by
  induction ops generalizing l with
  | nil => exact ⟨hl, (List.append_nil _).symm⟩
  | cons x ops ih =>
    obtain ⟨o, op⟩ := x
    obtain ⟨enumerated, step⟩ := identities_perform o op hl
    obtain ⟨enumerated', rest⟩ := ih enumerated
    refine ⟨enumerated', ?_⟩
    rw [run_cons, rest, step, history, created_cons, List.map_append, List.append_assoc]

theorem agent_of_created (ops : List (Occasion × Operation)) {c : Creation} (hc : c ∈ created (history s ops l)) :
    c.wallet.agentId = c.agent := by
  induction ops generalizing l with
  | nil => cases hc
  | cons x ops ih =>
    rw [history, created_cons] at hc
    rcases List.mem_append.mp hc with hc | hc
    · exact agent_of_created? (Option.mem_toList.mp hc)
    · exact ih hc

theorem Grows.run (s : Settings) (ops : List (Occasion × Operation)) (l : Ledger) :
    l.Grows (Ledger.run s ops l).2 := by
  induction ops generalizing l with
  | nil => exact refl l
  | cons x ops ih => exact (perform s x.1 x.2 l).trans (ih _)

theorem Sound.identity?_of_mem (hl : l.Sound) {who : Report.Identity} (h : who ∈ l.identities) :
    l.identity? who.agentId = some who := by
  obtain ⟨w, hw, rfl⟩ := List.mem_map.mp h
  obtain ⟨⟨name, w⟩, filed, rfl⟩ := List.mem_map.mp hw
  have named : w.agent = name := hl.filed _ filed
  refine identity?_eq_some ?_
  change l.wallet? w.agent = some w
  cases found : l.wallet? w.agent with
  | none =>
    have absent := List.find?_eq_none.mp (wallet?_eq_none.mp found) _ filed
    simp [named] at absent
  | some v =>
    have same : (w.agent, v) = (name, w) :=
      List.inj_on_of_nodup_map hl.agents_nodup (mem_files_of_wallet? found) filed named
    cases same
    rfl

theorem readWallet_identity {agent : String} {who : Report.Identity} (h : l.identity? agent = some who) :
    ∃ w l', readWallet agent l = (.ok w, l') ∧ w.identity = who := by
  obtain ⟨w, found, rfl⟩ := Option.map_eq_some_iff.mp h
  refine ⟨w.countRead.report, l.updateWallet agent Wallet.countRead, ?_, w.identity_countRead⟩
  rw [readWallet, findWallet_eq_ok.mpr found]

/-! ## Runs of a new service -/

section
variable (s : Settings) (ops : List (Occasion × Operation))

theorem behind_enumerated : (behind s ops).Enumerated s := (identities_run ops (enumerated_empty s)).1

theorem behind_identities : (behind s ops).identities = (created (past s ops)).map (·.wallet.identity) :=
  (identities_run ops (enumerated_empty s)).2

theorem length_created : (created (past s ops)).length = (behind s ops).wallets.length := by
  rw [← length_identities, behind_identities, List.length_map]

theorem created_agents : (created (past s ops)).map (·.agent) = (behind s ops).agents := by
  rw [← (behind_sound s ops).map_agentId_identities, behind_identities, List.map_map]
  exact List.map_congr_left fun c hc => (agent_of_created ops hc).symm

variable {s ops} (few : (created (past s ops)).length < UInt32.size)
include few

theorem hasNumber_of_created {n : Nat} {c : Creation} (h : (created (past s ops))[n]? = some c) :
    ∃ seed, s.masterSeed = some seed ∧ c.HasNumber seed n := by
  have known : (behind s ops).identities[n]? = some c.wallet.identity := by
    rw [behind_identities, List.getElem?_map, h]
    rfl
  obtain ⟨seed, seeded, index, evm, xrp⟩ := (behind_enumerated s ops).derived n _ known
  have toNat : (UInt32.ofNat n).toNat = n := by
    apply UInt32.toNat_ofNat_of_lt'
    exact Nat.lt_trans (List.getElem?_eq_some_iff.mp h).1 few
  rw [evmAddressOf_digits, toNat] at evm
  rw [xrpAddressOf_digits, toNat] at xrp
  have number : c.wallet.derivationIndex.toNat = n := by
    rw [← toNat]
    exact congrArg UInt32.toNat index
  exact ⟨seed, seeded, agent_of_created ops (List.mem_of_getElem? h), number, evm, xrp⟩

theorem created_numbers :
    ((created (past s ops)).map (·.wallet.derivationIndex)).map UInt32.toNat =
      List.range (created (past s ops)).length := by
  have same : (created (past s ops)).map (·.wallet.derivationIndex) = (behind s ops).wallets.map (·.index) := by
    have indexes := congrArg (List.map Report.Identity.derivationIndex) (behind_identities s ops)
    rw [identities, List.map_map, List.map_map] at indexes
    exact indexes.symm
  rw [same, List.map_map, length_created]
  rw [length_created] at few
  exact (behind_enumerated s ops).numbers few

theorem nextIndex_behind : (behind s ops).nextIndex.toNat = (created (past s ops)).length := by
  rw [length_created] at few ⊢
  exact (behind_enumerated s ops).next_toNat few

end

/-- The wallets of a run are those that it created, numbered from zero in the order of their creation whatever was
refused between; no two share an agent or a number. However the run goes on, a read of the agent's wallet reports the
identity that the creation reported. -/
theorem identity_permanent (s : Settings) (ops later : List (Occasion × Operation))
    (few : (created (past s ops)).length < UInt32.size) :
    (∀ n (c : Creation), (created (past s ops))[n]? = some c →
        ∃ seed, s.masterSeed = some seed ∧ c.HasNumber seed n) ∧
      (behind s ops).nextIndex.toNat = (created (past s ops)).length ∧
      (behind s ops).identities = (created (past s ops)).map (·.wallet.identity) ∧
      ((created (past s ops)).map (·.agent)).Nodup ∧
      ((created (past s ops)).map (·.wallet.derivationIndex)).Nodup ∧
      ∀ c ∈ created (past s ops), ∃ w l', readWallet c.agent (behind s (ops ++ later)) = (.ok w, l') ∧
        w.identity = c.wallet.identity := by
  have sound := behind_sound s ops
  refine ⟨fun _ _ => hasNumber_of_created few, nextIndex_behind few, behind_identities s ops, ?_, ?_, fun c hc => ?_⟩
  · rw [created_agents]
    exact sound.agents_nodup
  · apply List.Nodup.of_map UInt32.toNat
    rw [created_numbers few]
    exact List.nodup_range
  · have known : c.wallet.identity ∈ (behind s ops).identities := by
      rw [behind_identities]
      exact List.mem_map_of_mem hc
    rw [behind_append, ← agent_of_created ops hc]
    apply readWallet_identity
    exact (Grows.run s later _).identity _ _ (sound.identity?_of_mem known)

def aliceThenBob : List (Occasion × Operation) :=
  [(⟨.epoch, ""⟩, .addWallet "alice"), (⟨.epoch, ""⟩, .addWallet " "), (⟨.epoch, ""⟩, .addWallet "alice"),
    (⟨.epoch, ""⟩, .addWallet "bob")]

theorem bob_has_number_one :
    (created (past {} aliceThenBob)).length < UInt32.size ∧ (behind {} aliceThenBob).nextIndex.toNat = 2 ∧
      ∃ c, (created (past {} aliceThenBob))[1]? = some c ∧ c.agent = "bob" ∧
        c.HasNumber "wallet-mock-master-seed" 1 ∧
        ∃ w l', readWallet "bob" (behind {} (aliceThenBob ++ aliceThenBob)) = (.ok w, l') ∧
          w.identity = c.wallet.identity := by
  have agents : (created (past {} aliceThenBob)).map (·.agent) = ["alice", "bob"] := by decide +kernel
  have two : (created (past {} aliceThenBob)).length = 2 := by rw [← List.length_map (·.agent), agents]; rfl
  have few : (created (past {} aliceThenBob)).length < UInt32.size := by rw [two]; decide
  obtain ⟨numbered, next, -, -, -, permanent⟩ := identity_permanent {} aliceThenBob aliceThenBob few
  obtain ⟨c, hc⟩ : ∃ c, (created (past {} aliceThenBob))[1]? = some c :=
    ⟨_, List.getElem?_eq_getElem (by rw [two]; decide)⟩
  have named : c.agent = "bob" := by
    have second := congrArg (·[1]?) agents
    rw [List.getElem?_map, hc] at second
    exact Option.some.inj second
  obtain ⟨seed, seeded, number⟩ := numbered 1 c hc
  cases seeded
  refine ⟨few, next.trans two, c, hc, named, number, ?_⟩
  rw [← named]
  exact permanent c (List.mem_of_getElem? hc)

end Ledger

end AgentLedger
