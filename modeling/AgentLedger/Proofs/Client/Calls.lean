import AgentLedger.Proofs.Client.Crowd
import AgentLedger.Proofs.Client.Refinement
import AgentLedger.Proofs.Ledger.Funds
/-!
# What calls leave behind

What comes of a client's call when nobody else talks to the service, by what
the service knows of the agent, and what is the same behind it as before.
-/

namespace AgentLedger

open Client (Conversation)

/-! ## Whole conversations -/

/-- What a request keeps, a conversation keeps. -/
theorem Client.serve_keeps {s : Settings} {draw : Ledger → Occasion} {P : Ledger → Prop} {α : Type}
    (request : ∀ o r l, P l → P (Service.respond s o r l).2) (p : Conversation α) {l : Ledger} (h : P l) :
    P (p.serve s draw l).2 := by
  induction p generalizing l with
  | done a => exact h
  | ask r next ih => exact ih _ (request (draw l) (Conversation.httpRequest r) l h)

namespace Ledger
variable {s : Settings} {draw : Ledger → Occasion} {l : Ledger} {α : Type}

theorem Sound.withServed (hl : l.Sound) (n : UInt64) : (l.withServed n).Sound :=
  ⟨hl.agents_nodup, hl.filed, hl.stocked, fun c hc => (hl.backs c hc).mono fun _ h => h⟩

theorem Sound.serve (hl : l.Sound) (s : Settings) (draw : Ledger → Occasion) (p : Conversation α) :
    (p.serve s draw l).2.Sound := by
  apply Client.serve_keeps _ p hl
  intro o r m hm
  exact Service.respond_keeps o (fun m n h => h.withServed n) (fun op m h => h.perform s o op) r hm

theorem Enumerated.serve (hl : l.Enumerated s) (draw : Ledger → Occasion) (p : Conversation α) :
    (p.serve s draw l).2.Enumerated s := by
  apply Client.serve_keeps _ p hl
  intro o r m hm
  exact Service.respond_keeps (P := (·.Enumerated s)) o (fun m n h => h.of_same rfl rfl)
    (fun op m h => (identities_perform o op h).1) r hm

theorem Joined.withServed {l' : Ledger} {names : List String} (h : Joined names l l') (n : UInt64) :
    Joined names l (l'.withServed n) := ⟨h.enrolled, h.channels, h.funds⟩

theorem EndsWith.withServed {cs : List Channel} {c : Channel} (h : l.EndsWith cs c) (n : UInt64) :
    (l.withServed n).EndsWith cs c := ⟨h.channels, h.others⟩

theorem Grows.serve (s : Settings) (draw : Ledger → Occasion) (p : Conversation α) (l : Ledger) :
    l.Grows (p.serve s draw l).2 := by
  apply Client.serve_keeps (P := (l.Grows ·)) _ p (refl l)
  intro o r m hm
  exact hm.trans (respond s o r m)

end Ledger

/-! ## Drawn ids -/

theorem Text.hexDigit_oneLine {n : Nat} (h : n < 16) : hexDigit n ≠ '\t' ∧ hexDigit n ≠ '\n' ∧ hexDigit n ≠ '\r' := by
  have all : ∀ k : Fin 16, hexDigit k ≠ '\t' ∧ hexDigit k ≠ '\n' ∧ hexDigit k ≠ '\r' := by decide
  exact all ⟨n, h⟩

theorem Text.hex_oneLine (bs : List UInt8) : ∀ c ∈ hex bs, c ≠ '\t' ∧ c ≠ '\n' ∧ c ≠ '\r' := by
  intro c hc
  obtain ⟨b, -, hb⟩ := List.mem_flatMap.mp hc
  have small := b.toNat_lt
  rcases List.mem_cons.mp hb with rfl | hb
  · exact hexDigit_oneLine (by omega)
  · rw [List.mem_singleton.mp hb]
    exact hexDigit_oneLine (by omega)

/-- A drawn id keeps its place in a path. -/
theorem Channel.isSegment_idOf (bytes : List UInt8) : IsSegment (idOf bytes) := by
  have chars : (idOf bytes).toList = 'c' :: 'h' :: '_' :: Text.hex (marked bytes) := String.toList_ofList
  have other (t : String) (front : t.toList.head? ≠ some 'c') : idOf bytes ≠ t := by
    rintro rfl
    rw [chars] at front
    exact front rfl
  refine ⟨other "" (by decide), other "." (by decide), other ".." (by decide), ?_⟩
  rw [chars]
  simp only [List.forall_mem_cons]
  exact ⟨by decide, by decide, by decide, Text.hex_oneLine _⟩

/-! ## Calls that get wallets -/

namespace Client

section
variable {s : Settings} (unlimited : s.rateLimit = none) {c : Client}
  (base : Url.openEnd c.base.path = Service.Route.apiPath) (draw : Ledger → Occasion) {l : Ledger} {agent : String}
include unlimited base

theorem serve_readWallet_known (segment : IsSegment agent) {w : Wallet} (found : l.wallet? agent = some w) :
    (c.readWallet agent).serve s draw l =
      (.ok (some w.countRead.report), (l.updateWallet agent Wallet.countRead).withServed (l.served + 1)) := by
  have read : Ledger.readWallet agent l = (.ok w.countRead.report, l.updateWallet agent Wallet.countRead) := by
    rw [Ledger.readWallet, Ledger.findWallet_eq_ok.mpr found]
  have key := Errand.serve_conversation unlimited base (.readWallet agent)
    (by simpa [Errand.inPath] using segment) draw l
  rw [Errand.direct, read] at key
  exact key

/-- Where no seed is set a wallet is refused, and not with a conflict. -/
theorem serve_addWallet_unseeded (unseeded : s.masterSeed = none)
    (named : Text.isAllBlank agent = false) :
    ∃ f l', (c.addWallet agent).serve s draw l = (.error f, l') ∧ f.isConflict = false := by
  have refused : Ledger.addWallet s (draw l).now agent l = (.error .missingMasterSeed, l) := by
    rw [Ledger.addWallet, named, unseeded]
    rfl
  have key := Errand.serve_conversation unlimited base (.addWallet agent) (by simp [Errand.inPath]) draw l
  rw [Errand.direct, refused] at key
  exact ⟨_, _, key, rfl⟩

variable {seed : String} (seeded : s.masterSeed = some seed)
include seeded

section
variable (named : Text.isAllBlank agent = false)
include named

theorem serve_addWallet_known {w : Wallet} (found : l.wallet? agent = some w) :
    ∃ f, (c.addWallet agent).serve s draw l = (.error f, l.withServed (l.served + 1)) ∧ f.isConflict = true := by
  have key := Errand.serve_conversation unlimited base (.addWallet agent) (by simp [Errand.inPath]) draw l
  rw [Errand.direct, Ledger.addWallet_exists seeded named (draw l).now found] at key
  exact ⟨_, key, rfl⟩

theorem serve_addWallet_unknown (absent : l.wallet? agent = none) :
    ∃ v l', (c.addWallet agent).serve s draw l = (.ok v.report, l') ∧ v.agent = agent ∧
      l'.files = l.files ++ [(agent, v)] ∧ l'.wallet? agent = some v ∧ Ledger.Joined [agent] l l' := by
  obtain ⟨v, l', added, own, files, found⟩ := Ledger.addWallet_ok seeded named (draw l).now absent
  have key := Errand.serve_conversation unlimited base (.addWallet agent) (by simp [Errand.inPath]) draw l
  rw [Errand.direct, added] at key
  exact ⟨v, l'.withServed (l.served + 1), key, own, files, found, (Ledger.Joined.addWallet added).withServed _⟩

/-- An agent's wallet is there in the end; one that was there is read once. -/
theorem serve_ensureWallet (segment : IsSegment agent) (l : Ledger) :
    ∃ v l', (c.ensureWallet agent).serve s draw l = (.ok v.report, l') ∧ l'.wallet? agent = some v ∧
      Ledger.Joined [agent] l l' ∧ ∀ w, l.wallet? agent = some w → v = w.countRead := by
  unfold ensureWallet
  rw [serve_bind]
  cases found : l.wallet? agent with
  | none =>
    obtain ⟨v, l', added, -, -, found', joined⟩ := serve_addWallet_unknown unlimited base draw seeded named found
    rw [added]
    refine ⟨v, l', rfl, found', joined, fun w hw => ?_⟩
    cases hw
  | some w =>
    obtain ⟨f, refused, conflict⟩ := serve_addWallet_known unlimited base draw seeded named found
    rw [refused]
    simp only [conflict, if_true]
    have found' : (l.withServed (l.served + 1)).wallet? agent = some w := by rw [Ledger.wallet?_withServed, found]
    rw [serve_bind, serve_readWallet_known unlimited base draw segment found']
    refine ⟨w.countRead, _, rfl, ?_, ?_, fun v hv => ?_⟩
    · rw [Ledger.wallet?_withServed, Ledger.wallet?_updateWallet, if_pos rfl, found']
      rfl
    · exact ((Ledger.Joined.readWallet _ agent).withServed _).of_known (Ledger.mem_agents_of_wallet? found)
    · rw [Option.some.inj hv]

theorem serve_addWallet (l : Ledger) :
    ∃ r l', (c.addWallet agent).serve s draw l = (r, l') ∧ Ledger.Joined [agent] l l' ∧
      ((∃ v, r = .ok v) ∨ ∃ f w, r = .error f ∧ f.isConflict = true ∧ l'.wallet? agent = some w) := by
  cases found : l.wallet? agent with
  | none =>
    obtain ⟨v, l', added, -, -, -, joined⟩ := serve_addWallet_unknown unlimited base draw seeded named found
    exact ⟨_, l', added, joined, .inl ⟨_, rfl⟩⟩
  | some w =>
    obtain ⟨f, refused, conflict⟩ := serve_addWallet_known unlimited base draw seeded named found
    have joined := ((Ledger.Joined.refl l).of_known (Ledger.mem_agents_of_wallet? found)).withServed (l.served + 1)
    have found' : (l.withServed (l.served + 1)).wallet? agent = some w := by rw [Ledger.wallet?_withServed, found]
    exact ⟨_, _, refused, joined, .inr ⟨f, w, rfl, conflict, found'⟩⟩

end

end

end Client

/-! ## Balances and channels -/

theorem Ledger.readPositive_text {a : Amount} (positive : 0 < a.units) : readPositive a.text = .ok a := by
  refine readPositive_eq_ok.mpr ⟨?_, positive⟩
  unfold readAmount
  rw [Amount.read_text]

namespace Client
variable {s : Settings} (unlimited : s.rateLimit = none) {c : Client}
  (base : Url.openEnd c.base.path = Service.Route.apiPath) (draw : Ledger → Occasion) {l : Ledger} {agent : String}
include unlimited base

theorem serve_readBalances_known (segment : IsSegment agent) {w : Wallet} (found : l.wallet? agent = some w) :
    ∃ bs, (c.readBalances agent).serve s draw l = (.ok bs, l.withServed (l.served + 1)) := by
  have read : Ledger.balances agent l = .ok (w.holdings.map (·.report w.agent)) := by
    rw [Ledger.balances, Ledger.findWallet_eq_ok.mpr found]
  have key := Errand.serve_conversation unlimited base (.readBalances agent)
    (by simpa [Errand.inPath] using segment) draw l
  rw [Errand.direct, read] at key
  exact ⟨_, key⟩

theorem serve_readChannels_known (segment : IsSegment agent) {w : Wallet} (found : l.wallet? agent = some w) :
    (c.readChannels agent).serve s draw l =
      (.ok ((l.channels.filter (·.owner == agent)).map (·.report)), l.withServed (l.served + 1)) := by
  have read : Ledger.channelsOf agent l = .ok ((l.channels.filter (·.owner == agent)).map (·.report)) := by
    rw [Ledger.channelsOf, Ledger.findWallet_eq_ok.mpr found]
  have key := Errand.serve_conversation unlimited base (.readChannels agent)
    (by simpa [Errand.inPath] using segment) draw l
  rw [Errand.direct, read] at key
  exact key

theorem serve_readChannel_known (segment : IsSegment agent) (id : String) {w : Wallet}
    (found : l.wallet? agent = some w) :
    (c.readChannel agent id).serve s draw l =
      (.ok (((l.channels.filter (·.owner == agent)).map (·.report)).find? (·.id == id)),
        l.withServed (l.served + 1)) := by
  unfold readChannel
  rw [serve_bind, serve_readChannels_known unlimited base draw segment found]
  rfl

theorem serve_openChannel {agent peer : String} {asset : Asset} {a : Amount} {p : Except Refusal String × Ledger}
    (opened : Ledger.openChannel (draw l) ⟨agent, peer, asset, a.text⟩ l = p) :
    (c.openChannel agent peer asset a).serve s draw l =
      (p.1.mapError fun e => .ofResponse (Service.refusal e), p.2.withServed (l.served + 1)) := by
  have key := Errand.serve_conversation unlimited base (.openChannel agent peer asset a)
    (by simp [Errand.inPath]) draw l
  rw [Errand.direct, opened] at key
  exact key

theorem serve_pay {cs : List Channel} {ch : Channel} {a : Amount} (segment : IsSegment ch.id) (ends : l.EndsWith cs ch)
    (own : ch.owner = agent) (unclosed : ch.closed = false) (positive : 0 < a.units) (enough : a ≤ ch.balance) :
    (c.pay agent ch.id a).serve s draw l =
      (.ok (), (l.updateChannel ch.id (Channel.paid a)).withServed (l.served + 1)) := by
  have paid := Ledger.pay_ok ends.channel? own unclosed (Ledger.readPositive_text positive) enough
  have key := Errand.serve_conversation unlimited base (.pay agent ch.id a)
    (by simpa [Errand.inPath] using segment) draw l
  rw [Errand.direct, paid] at key
  exact key

theorem serve_closeChannel {cs : List Channel} {ch : Channel} (segment : IsSegment ch.id) (ends : l.EndsWith cs ch)
    (own : ch.owner = agent) (unclosed : ch.closed = false) :
    (c.closeChannel agent ch.id).serve s draw l =
      (.ok (), (l.withClosed (draw l).now ch).withServed (l.served + 1)) := by
  have closed := Ledger.closeChannel_ok (draw l).now ends.channel? own unclosed
  have key := Errand.serve_conversation unlimited base (.closeChannel agent ch.id)
    (by simpa [Errand.inPath] using segment) draw l
  rw [Errand.direct, closed] at key
  exact key

end Client

end AgentLedger
