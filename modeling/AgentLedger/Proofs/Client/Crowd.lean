import Mathlib.Logic.Function.Basic
import AgentLedger.Proofs.Client.Endpoint
import AgentLedger.Proofs.Ledger.Growth
import AgentLedger.Proofs.Service.Requests
/-!
# Clients that get or create one wallet at once

Any number of clients talk to one service, which takes their requests one by
one, in any order and among any others. A client that creates the wallet and
one that finds it there end with the same wallet: once it is there, it stays,
and a conflict says that it is there.
-/

namespace AgentLedger

open Client (Conversation)

theorem Ledger.Grows.respond (s : Settings) (o : Occasion) (r : Http.Request) (l : Ledger) :
    l.Grows (Service.respond s o r l).2 := by
  apply Service.respond_keeps (P := (l.Grows ·))
  · intro m n h
    exact h.trans (of_files rfl)
  · intro op m h
    exact h.trans (perform s o op m)
  · exact refl l

/-! ## Turns -/

def Client.Conversation.hear {α : Type} (response : Http.Response) : Conversation α → Conversation α
  | .done a => .done a
  | .ask _ next => next (.reply response .complete)

theorem Client.Conversation.hear_bind {α β : Type} {p : Conversation α} {r : Client.Request} (asks : p.first? = some r)
    (f : α → Conversation β) (response : Http.Response) : (p >>= f).hear response = p.hear response >>= f := by
  cases p with
  | done a => cases asks
  | ask r next => rfl

inductive Turn (ι : Type) where
  | client (i : ι)
  | other (r : Http.Request)

structure Crowd (ι α : Type) where
  ledger : Ledger
  talk : ι → Conversation α

section
variable {ι α : Type} [DecidableEq ι]

def Turn.isOf (i : ι) : Turn ι → Bool
  | .client j => i = j
  | .other _ => false

namespace Crowd

/-- The service takes one request, and its client goes on with the answer. A client that is done asks nothing. -/
def turn (s : Settings) (o : Occasion) (w : Crowd ι α) : Turn ι → Crowd ι α
  | .other r => { w with ledger := (Service.respond s o r w.ledger).2 }
  | .client i =>
    match (w.talk i).first? with
    | none => w
    | some r =>
      let (response, l) := Service.respond s o (Conversation.httpRequest r) w.ledger
      ⟨l, Function.update w.talk i ((w.talk i).hear response)⟩

def run (s : Settings) : List (Occasion × Turn ι) → Crowd ι α → Crowd ι α
  | [], w => w
  | (o, t) :: rest, w => run s rest (w.turn s o t)

section
variable (s : Settings) (o : Occasion) {w : Crowd ι α} {i : ι}

theorem turn_quiet (quiet : (w.talk i).first? = none) : w.turn s o (.client i) = w := by
  simp only [turn, quiet]

theorem turn_asks {r : Client.Request} (asks : (w.talk i).first? = some r) :
    w.turn s o (.client i) =
      ⟨(Service.respond s o (Conversation.httpRequest r) w.ledger).2, Function.update w.talk i
        ((w.talk i).hear (Service.respond s o (Conversation.httpRequest r) w.ledger).1)⟩ := by
  simp only [turn, asks]

end

theorem turn_grows (s : Settings) (o : Occasion) (w : Crowd ι α) (t : Turn ι) :
    w.ledger.Grows (w.turn s o t).ledger := by
  cases t with
  | other r => exact .respond s o r w.ledger
  | client i =>
    cases asks : (w.talk i).first? with
    | none =>
      rw [turn_quiet s o asks]
      exact .refl w.ledger
    | some r =>
      rw [turn_asks s o asks]
      exact .respond s o (Conversation.httpRequest r) w.ledger

theorem run_grows (s : Settings) (turns : List (Occasion × Turn ι)) (w : Crowd ι α) :
    w.ledger.Grows (run s turns w).ledger := by
  induction turns generalizing w with
  | nil => exact .refl w.ledger
  | cons x turns ih => exact (turn_grows s x.1 w x.2).trans (ih _)

end Crowd

end

/-! ## Getting or creating a wallet -/

theorem IsCarried.isSegment {s : String} (h : IsCarried s) (named : Text.isAllBlank s = false) : IsSegment s where
  ne_empty := by
    rintro rfl
    cases named
  ne_dot := h.ne_dot
  ne_dots := h.ne_dots
  one_line := h.one_line

namespace Client

section
variable (c : Client) {α : Type} (call : Call) (read : Json.Reads α) {r : Request} {response : Http.Response}

theorem hear_ask (stays : location? r response = none) :
    (c.ask call read r).hear response = .done (c.heard call read response) := by
  unfold heard ask execute maxRedirects
  simp only [bind, Conversation.bind, send, Conversation.hear, c.onOutcome_stays stays]
  cases c.outcome response .complete <;> rfl

theorem heard_report {status : Nat} (good : status = 200 ∨ status = 201) (w : Wallet) :
    c.heard call Wire.readWallet (Service.shared (Service.json status (w.report.json .millis))) = .ok w.report :=
  c.heard_json call good w.report.json_isNatural (Wire.readWallet_json (Timestamp.toMillis_toMillis w.created))

end

section
variable (c : Client) {agent : String} {response : Http.Response}

def rereadWallet (agent : String) : Conversation (Except Failure Report.Wallet) := do
  match ← c.readWallet agent with
  | .ok (some w) => return .ok w
  | .ok none => return .error (.notFound ("wallet for " ++ agent ++ " reported as existing but not found"))
  | .error f => return .error f

theorem hear_ensureWallet (stays : location? (c.post ["wallets"] (Wire.creation agent)) response = none) :
    (c.ensureWallet agent).hear response =
      match c.heard .addWallet Wire.readWallet response with
      | .ok w => .done (.ok w)
      | .error f => if f.isConflict then c.rereadWallet agent else .done (.error f) := by
  unfold ensureWallet addWallet
  rw [Conversation.hear_bind rfl, c.hear_ask .addWallet Wire.readWallet stays]
  rfl

theorem hear_rereadWallet (stays : location? (c.get ["wallets", agent]) response = none) {w : Report.Wallet}
    (heard : c.heard .readWallet Wire.readWallet response = .ok w) :
    (c.rereadWallet agent).hear response = .done (.ok w) := by
  unfold rereadWallet readWallet
  rw [Conversation.hear_bind rfl, Conversation.hear_bind rfl, c.hear_ask .readWallet Wire.readWallet stays, heard]
  rfl

/-- How many requests a client may have left to make that gets or creates a wallet, and what of it then. -/
inductive Ensuring (c : Client) (agent : String) (l : Ledger) : Nat → Conversation (Except Failure Report.Wallet) → Prop where
  | before : Ensuring c agent l 2 (c.ensureWallet agent)
  | between (who : Report.Identity) (known : l.identity? agent = some who) : Ensuring c agent l 1 (c.rereadWallet agent)
  | after (w : Report.Wallet) (known : l.identity? agent = some w.identity) : Ensuring c agent l 0 (.done (.ok w))

theorem Ensuring.mono {c : Client} {l l' : Ledger} {n : Nat} {talk : Conversation (Except Failure Report.Wallet)}
    (h : c.Ensuring agent l n talk) (grown : l.Grows l') : c.Ensuring agent l' n talk := by
  cases h with
  | before => exact .before
  | between who known => exact .between who (grown.identity agent who known)
  | after w known => exact .after w (grown.identity agent _ known)

end

/-! ## Answers to the two requests -/

section
variable {s : Settings} (unlimited : s.rateLimit = none) {c : Client} (base : Url.openEnd c.base.path = Service.Route.apiPath)
  {agent : String} (o : Occasion) {l : Ledger}
include unlimited base

/-- A client that asks for a new wallet gets it, or is told that there is one. -/
theorem hear_first {seed : String} (seeded : s.masterSeed = some seed) (named : Text.isAllBlank agent = false) :
    let told := Service.respond s o (Conversation.httpRequest (c.post ["wallets"] (Wire.creation agent))) l
    ∃ n ≤ 1, c.Ensuring agent told.2 n ((c.ensureWallet agent).hear told.1) := by
  have answered := Errand.respond_request unlimited base o l (.addWallet agent) (by simp [Errand.inPath])
  rw [Errand.request, Errand.operation, Errand.route, Ledger.perform] at answered
  intro told
  rcases Ledger.addWallet_cases seeded named o.now l with ⟨w, found, refused⟩ | ⟨w, l', added, found⟩
  · -- A conflict is told only where there is a wallet, and that is the one to be read next.
    rw [refused, Ledger.answering, Except.map, Service.answer] at answered
    have stays := location?_refusal (c.post ["wallets"] (Wire.creation agent)) (.walletExists agent)
    have conflict : (Failure.ofResponse (Service.refusal (.walletExists agent))).isConflict = true := rfl
    refine ⟨1, Nat.le_refl 1, ?_⟩
    rw [show told = _ from answered, c.hear_ensureWallet stays, c.heard_refusal]
    dsimp only
    rw [if_pos conflict]
    exact .between _ (Ledger.identity?_eq_some found)
  · rw [added, Ledger.answering, Except.map, Service.answer, Service.told] at answered
    have stays := location?_json (c.post ["wallets"] (Wire.creation agent)) (.inr rfl) (w.report.json .millis)
    refine ⟨0, Nat.zero_le 1, ?_⟩
    rw [show told = _ from answered, c.hear_ensureWallet stays, c.heard_report .addWallet (.inr rfl)]
    exact .after w.report (Ledger.identity?_eq_some found)

theorem hear_second (segment : IsSegment agent) {who : Report.Identity} (known : l.identity? agent = some who) :
    let told := Service.respond s o (Conversation.httpRequest (c.get ["wallets", agent])) l
    c.Ensuring agent told.2 0 ((c.rereadWallet agent).hear told.1) := by
  have answered := Errand.respond_request unlimited base o l (.readWallet agent) (by simpa [Errand.inPath] using segment)
  obtain ⟨w, found, rfl⟩ := Option.map_eq_some_iff.mp known
  have grown := Ledger.Grows.respond s o (Conversation.httpRequest (c.get ["wallets", agent])) l
  have read : Ledger.readWallet agent l = (.ok w.countRead.report, l.updateWallet agent Wallet.countRead) := by
    rw [Ledger.readWallet, Ledger.findWallet_eq_ok.mpr found]
  have stays := location?_json (c.get ["wallets", agent]) (.inl rfl) (w.countRead.report.json .millis)
  have heard := c.hear_rereadWallet stays (c.heard_report .readWallet (.inl rfl) w.countRead)
  rw [Errand.request, Errand.operation, Errand.route, Ledger.perform, read] at answered
  intro told
  have same : told.1 = Service.shared (Service.json 200 (w.countRead.report.json .millis)) := congrArg Prod.fst answered
  rw [same, heard]
  refine .after w.countRead.report ?_
  rw [Wallet.identity_countRead]
  exact grown.identity agent _ known

theorem Ensuring.hear {seed : String} (seeded : s.masterSeed = some seed) (named : Text.isAllBlank agent = false)
    (segment : IsSegment agent) {n : Nat} {talk : Conversation (Except Failure Report.Wallet)} {r : Request}
    (h : c.Ensuring agent l n talk) (asks : talk.first? = some r) :
    let told := Service.respond s o (Conversation.httpRequest r) l
    ∃ m < n, c.Ensuring agent told.2 m (talk.hear told.1) := by
  cases h with
  | before =>
    obtain rfl : c.post ["wallets"] (Wire.creation agent) = r := Option.some.inj asks
    obtain ⟨m, few, next⟩ := hear_first unlimited base o seeded named
    exact ⟨m, Nat.lt_succ_of_le few, next⟩
  | between who known =>
    obtain rfl : c.get ["wallets", agent] = r := Option.some.inj asks
    exact ⟨0, Nat.one_pos, hear_second unlimited base o segment known⟩
  | after => cases asks

end

end Client

theorem Client.Ensuring.settled {c : Client} {agent : String} {l : Ledger} {n : Nat}
    {talk : Conversation (Except Failure Report.Wallet)} (h : c.Ensuring agent l n talk)
    (ended : n = 0 ∨ talk.first? = none) :
    n = 0 ∧ ∃ v, talk = .done (.ok v) ∧ l.identity? agent = some v.identity := by
  cases h with
  | before | between => rcases ended with ended | ended <;> cases ended
  | after v known => exact ⟨rfl, v, rfl, known⟩

/-! ## Runs -/

namespace Crowd

section
variable {ι : Type} [DecidableEq ι] (clients : ι → Client) (agent : String)

/-- Each client is getting or creating the agent's wallet, and has at most so many requests left. -/
def IsEnsuring (left : ι → Nat) (w : Crowd ι (Except Failure Report.Wallet)) : Prop :=
  ∀ i, ∃ n ≤ left i, (clients i).Ensuring agent w.ledger n (w.talk i)

variable {clients agent} {s : Settings} (unlimited : s.rateLimit = none) {seed : String}
  (seeded : s.masterSeed = some seed) (named : Text.isAllBlank agent = false) (segment : IsSegment agent)
  (bases : ∀ i, Url.openEnd (clients i).base.path = Service.Route.apiPath)
include unlimited seeded named segment bases

theorem isEnsuring_turn {left : ι → Nat} {w : Crowd ι (Except Failure Report.Wallet)}
    (h : w.IsEnsuring clients agent left) (o : Occasion) (t : Turn ι) :
    (w.turn s o t).IsEnsuring clients agent fun i => left i - if t.isOf i then 1 else 0 := by
  intro i
  obtain ⟨n, few, stage⟩ := h i
  -- What the clients whose turn it is not know of the wallet stays true, since the ledger only grows.
  have grown := turn_grows s o w t
  cases t with
  | other r => exact ⟨n, few, stage.mono grown⟩
  | client j =>
    cases asks : (w.talk j).first? with
    | none =>
      rw [turn_quiet s o asks]
      refine ⟨n, ?_, stage⟩
      by_cases mine : i = j
      · subst mine
        have := (stage.settled (.inr asks)).1
        omega
      · simpa [Turn.isOf, mine] using few
    | some r =>
      rw [turn_asks s o asks] at grown ⊢
      by_cases mine : i = j
      · subst mine
        obtain ⟨m, fewer, next⟩ := stage.hear unlimited (bases i) o seeded named segment asks
        refine ⟨m, ?_, ?_⟩
        · simp only [Turn.isOf, decide_true, if_true]
          omega
        · simpa only [Function.update_self] using next
      · refine ⟨n, by simpa [Turn.isOf, mine] using few, ?_⟩
        simpa only [Function.update_of_ne mine] using stage.mono grown

theorem isEnsuring_run (turns : List (Occasion × Turn ι)) {left : ι → Nat} {w : Crowd ι (Except Failure Report.Wallet)}
    (h : w.IsEnsuring clients agent left) :
    (run s turns w).IsEnsuring clients agent fun i => left i - turns.countP (·.2.isOf i) := by
  induction turns generalizing left w with
  | nil => exact h
  | cons x turns ih =>
    intro i
    obtain ⟨n, few, stage⟩ := ih (isEnsuring_turn unlimited seeded named segment bases h x.1 x.2) i
    refine ⟨n, ?_, stage⟩
    dsimp only at few ⊢
    rw [List.countP_cons]
    omega

end

/-- Any clients that get or create the wallet of one agent at once, in turns of one request each and among any other
requests: each is done after two turns, and gets the wallet that the service has then and keeps; at most one is
created, and none if there was one. -/
theorem ensureWallet_agrees {ι : Type} [DecidableEq ι] {s : Settings} (unlimited : s.rateLimit = none) {seed : String}
    (seeded : s.masterSeed = some seed) {agent : String} (named : Text.isAllBlank agent = false) (carried : IsCarried agent)
    {clients : ι → Client} (bases : ∀ i, Url.openEnd (clients i).base.path = Service.Route.apiPath) {l : Ledger}
    (filed : l.Filed) (turns : List (Occasion × Turn ι)) :
    let w := run s turns ⟨l, fun i => (clients i).ensureWallet agent⟩
    (∀ i, 2 ≤ turns.countP (·.2.isOf i) → ∃ a, w.talk i = .done a) ∧
    (∀ i a, w.talk i = .done a →
      ∃ v, a = .ok v ∧ v.agentId = agent ∧ w.ledger.identity? agent = some v.identity) ∧
    (∀ who, l.identity? agent = some who → w.ledger.identity? agent = some who) ∧
    ∃ new, w.ledger.agents = l.agents ++ new ∧ new.count agent ≤ 1 ∧ (agent ∈ l.agents → new.count agent = 0) := by
  intro w
  let before : Crowd ι (Except Failure Report.Wallet) := ⟨l, fun i => (clients i).ensureWallet agent⟩
  have start : before.IsEnsuring clients agent fun _ => 2 := fun i => ⟨2, Nat.le_refl 2, .before⟩
  have final := isEnsuring_run unlimited seeded named (carried.isSegment named) bases turns start
  have grown := run_grows s turns before
  refine ⟨fun i enough => ?_, fun i a done => ?_, grown.identity agent, ?_⟩
  · obtain ⟨n, few, stage⟩ := final i
    dsimp only at few
    obtain ⟨-, v, done, -⟩ := stage.settled (.inl (by omega))
    exact ⟨.ok v, done⟩
  · obtain ⟨n, few, stage⟩ := final i
    have quiet : (w.talk i).first? = none := by
      rw [done]
      rfl
    obtain ⟨-, v, done', known⟩ := stage.settled (.inr quiet)
    obtain rfl : .ok v = a := Conversation.done.inj (done'.symm.trans done)
    exact ⟨v, rfl, (grown.filed filed).agent_of_identity? known, known⟩
  · obtain ⟨new, all, nodup, apart⟩ := grown.agents
    have once : new.count agent ≤ 1 := List.nodup_iff_count.mp nodup agent
    exact ⟨new, all, once, fun old => List.count_eq_zero.mpr fun h => apart agent h old⟩

def crossing : List (Occasion × Turn Bool) :=
  [.client false, .client true, .client true, .client false].map fun t => (⟨.epoch, ""⟩, t)

theorem crossing_agrees : ∃ c, Client.ofConfig {} = .ok c ∧
    let w := run {} crossing ⟨.empty, fun _ => c.ensureWallet "a/é"⟩
    ∃ v v', w.talk false = .done (.ok v) ∧ w.talk true = .done (.ok v') ∧ v.identity = v'.identity := by
  obtain ⟨c, made, base⟩ := Errand.ofConfig_default
  have named : Text.isAllBlank "a/é" = false := by decide
  have carried : IsCarried "a/é" := by decide
  have turns : ∀ i, 2 ≤ crossing.countP (·.2.isOf i) := by decide
  have filed : Ledger.empty.Filed := Ledger.sound_empty.filed
  obtain ⟨ended, right, -⟩ := ensureWallet_agrees (s := {}) rfl rfl named carried (fun _ : Bool => base) filed crossing
  obtain ⟨a, done⟩ := ended false (turns false)
  obtain ⟨b, done'⟩ := ended true (turns true)
  obtain ⟨v, rfl, -, known⟩ := right false a done
  obtain ⟨v', rfl, -, known'⟩ := right true b done'
  exact ⟨c, made, v, v', done, done', Option.some.inj (known.symm.trans known')⟩

end Crowd

end AgentLedger
