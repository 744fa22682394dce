import AgentLedger.Proofs.Client.Calls
import AgentLedger.Proofs.Client.Scripts
import AgentLedger.Proofs.Ledger.Activation
/-!
# Waiting at a service

A client that waits for a wallet while nobody else reads it sends one read
after the other, and each of them counts. So the number of reads that the
wallet is still pending for says how the waiting ends, and after how many.
-/

namespace AgentLedger

open Client (Conversation)

/-! ## Requests that a service gets -/

def Client.Conversation.sent {α : Type} (s : Settings) (draw : Ledger → Occasion) : Conversation α → Ledger → List Client.Request
  | .done _, _ => []
  | .ask r next, l =>
    let (response, l) := Service.respond s (draw l) (httpRequest r) l
    r :: (next (.reply response .complete)).sent s draw l

namespace Client

theorem location?_answer (r : Request) (route : Service.Route) (x : Except Refusal Answer) :
    location? r (Service.shared (Service.answer route x)) = none := by
  cases x with
  | error e => exact location?_refusal r e
  | ok a =>
    have good : (Service.shared (Service.answer route (.ok a))).status = 200 ∨
      (Service.shared (Service.answer route (.ok a))).status = 201 := Service.told_status route a
    apply location?_of_status
    rcases good with same | same <;> simp [same]

section
variable {s : Settings} {draw : Ledger → Occasion} {l l' : Ledger} {α β : Type}

theorem sent_bind (p : Conversation α) (f : α → Conversation β) :
    (p >>= f).sent s draw l = p.sent s draw l ++ (f (p.serve s draw l).1).sent s draw (p.serve s draw l).2 := by
  show (p.bind f).sent s draw l = _
  induction p generalizing l with
  | done a => rfl
  | ask r next ih => simp only [Conversation.bind, Conversation.sent, Conversation.serve, ih, List.cons_append]

/-- What only looks at a result sends nothing more. -/
theorem sent_bind_done (p : Conversation α) {f : α → Conversation β} (quiet : ∀ a, ∃ b, f a = .done b) :
    (p >>= f).sent s draw l = p.sent s draw l := by
  obtain ⟨b, done⟩ := quiet (p.serve s draw l).1
  rw [sent_bind, done]
  exact List.append_nil _

variable (c : Client) {r : Request} {response : Http.Response}
  (answered : Service.respond s (draw l) (Conversation.httpRequest r) l = (response, l'))
  (stays : location? r response = none)
include answered stays

theorem sent_execute : (c.execute r).sent s draw l = [r] := by
  unfold execute maxRedirects
  simp only [bind, Conversation.bind, send, Conversation.sent, answered, c.onOutcome_stays stays]
  rfl

theorem sent_ask (call : Call) (read : Json.Reads α) : (c.ask call read r).sent s draw l = [r] := by
  unfold ask
  rw [sent_bind_done, c.sent_execute answered stays]
  intro x
  cases x <;> exact ⟨_, rfl⟩

theorem sent_tell : (c.tell r).sent s draw l = [r] := by
  unfold tell
  rw [sent_bind_done, c.sent_execute answered stays]
  intro x
  cases x <;> exact ⟨_, rfl⟩

end

end Client

/-- An errand takes its one request. -/
theorem Errand.sent_conversation {α : Type} {s : Settings} (unlimited : s.rateLimit = none) {c : Client}
    (base : Url.openEnd c.base.path = Service.Route.apiPath) (e : Errand α) (segments : ∀ x ∈ e.inPath, IsSegment x)
    (draw : Ledger → Occasion) (l : Ledger) : (e.conversation c).sent s draw l = [e.request c] := by
  have answered := respond_request unlimited base (draw l) l e segments
  have stays := Client.location?_answer (e.request c) e.route (l.perform s (draw l) e.operation).1
  cases e with
  | readWallet agent =>
    show (c.readWallet agent).sent s draw l = _
    unfold Client.readWallet
    rw [Client.sent_bind_done]
    · exact c.sent_ask answered stays .readWallet Wire.readWallet
    · intro x
      cases x with
      | ok w => exact ⟨_, rfl⟩
      | error f => by_cases missing : f.isNotFound <;> exact ⟨_, by simp only [missing]; rfl⟩
  | pay _ _ _ | closeChannel _ _ => exact c.sent_tell answered stays
  | addWallet _ | readBalances _ | readBalance _ _ | openChannel _ _ _ _ | readChannels _ =>
    exact c.sent_ask answered stays _ _

/-! ## Reads one after the other -/

def Ledger.polled (agent : String) (l : Ledger) : Ledger :=
  (l.updateWallet agent Wallet.countRead).withServed (l.served + 1)

theorem Wallet.pending_iterate (n : Nat) (w : Wallet) : (countRead^[n] w).pending.toNat = w.pending.toNat - n := by
  induction n generalizing w with
  | zero => rfl
  | succ n ih => rw [Function.iterate_succ_apply, ih, pending_countRead, Nat.sub_sub, Nat.add_comm]

theorem Wallet.agent_iterate (n : Nat) (w : Wallet) : (countRead^[n] w).agent = w.agent := by
  induction n generalizing w with
  | zero => rfl
  | succ n ih => rw [Function.iterate_succ_apply, ih, countRead_agent]

namespace Ledger
variable {l : Ledger} {agent : String}

theorem wallet?_polled {w : Wallet} (found : l.wallet? agent = some w) :
    (l.polled agent).wallet? agent = some w.countRead := by
  rw [polled, wallet?_withServed, wallet?_updateWallet, if_pos rfl, found]
  rfl

theorem wallet?_iterate {w : Wallet} (found : l.wallet? agent = some w) (n : Nat) :
    ((polled agent)^[n] l).wallet? agent = some (Wallet.countRead^[n] w) := by
  induction n generalizing l w with
  | zero => exact found
  | succ n ih => exact ih (wallet?_polled found)

theorem Joined.iterate (l : Ledger) (agent : String) (n : Nat) : Joined [] l ((polled agent)^[n] l) := by
  induction n generalizing l with
  | zero => exact .refl l
  | succ n ih => exact ((Joined.readWallet l agent).withServed _).trans (ih (l.polled agent)) nofun

end Ledger

namespace Client

section
variable {s : Settings} (unlimited : s.rateLimit = none) {c : Client}
  (base : Url.openEnd c.base.path = Service.Route.apiPath) (draw : Ledger → Occasion) {agent : String}
include unlimited base

/-- Each read counts one down, and the read that comes to zero reports an active wallet. -/
theorem serve_poll (segment : IsSegment agent) (attempts : UInt32) (left : Nat) {l : Ledger} {w : Wallet}
    (found : l.wallet? agent = some w) :
    let reads := min left (max 1 w.pending.toNat)
    (c.poll agent attempts left).serve s draw l =
        (if max 1 w.pending.toNat ≤ left then .ok (Wallet.countRead^[reads] w).report
          else .error (.notActivated agent attempts), (Ledger.polled agent)^[reads] l) ∧
      (c.poll agent attempts left).sent s draw l = List.replicate reads (c.get ["wallets", agent]) := by
  -- On the reads left; what is pending goes down with them.
  induction left generalizing l w with
  | zero =>
    have never : ¬max 1 w.pending.toNat ≤ 0 := by omega
    simp only [Nat.zero_min, if_neg never]
    exact ⟨rfl, rfl⟩
  | succ left ih =>
    have read : (c.readWallet agent).serve s draw l = (.ok (some w.countRead.report), l.polled agent) :=
      serve_readWallet_known unlimited base draw segment found
    have asked : (c.readWallet agent).sent s draw l = [c.get ["wallets", agent]] :=
      (Errand.readWallet agent).sent_conversation unlimited base (by simpa [Errand.inPath] using segment) draw l
    have count := w.pending_countRead
    obtain ⟨served, sent⟩ := ih (Ledger.wallet?_polled found)
    unfold poll
    rw [serve_bind, sent_bind, read, asked]
    by_cases active : w.countRead.report.isActive = true
    · have zero := w.countRead.isActive_report.mp active
      have last : max 1 w.pending.toNat = 1 := by omega
      simp only [active, if_true, last]
      rw [Nat.min_eq_right (by omega), if_pos (by omega)]
      exact ⟨rfl, rfl⟩
    · have positive : w.countRead.pending.toNat ≠ 0 := fun zero => active (w.countRead.isActive_report.mpr zero)
      have more : max 1 w.pending.toNat = max 1 w.countRead.pending.toNat + 1 := by omega
      simp only [active, Bool.false_eq_true, if_false]
      rw [served, sent, more, Nat.succ_min_succ]
      refine ⟨?_, rfl⟩
      simp only [Nat.add_le_add_iff_right]
      rfl

theorem serve_awaitActive (segment : IsSegment agent) (attempts : UInt32) (positive : 0 < attempts.toNat) {l : Ledger}
    {w : Wallet} (found : l.wallet? agent = some w) :
    (w.pending.toNat ≤ attempts.toNat ∧ ∃ v l', (c.awaitActive agent attempts).serve s draw l = (.ok v, l') ∧
        v.agentId = w.agent ∧ Ledger.Joined [] l l') ∨
      (attempts.toNat < w.pending.toNat ∧ ∃ f l', (c.awaitActive agent attempts).serve s draw l = (.error f, l')) := by
  have played := (serve_poll unlimited base draw segment attempts attempts.toNat found).1
  by_cases enough : max 1 w.pending.toNat ≤ attempts.toNat
  · rw [if_pos enough] at played
    have named := w.agent_iterate (min attempts.toNat (max 1 w.pending.toNat))
    exact .inl ⟨by omega, _, _, played, named, .iterate l agent _⟩
  · rw [if_neg enough] at played
    exact .inr ⟨by omega, _, _, played⟩

end

/-- A new wallet is reported active if no reads are asked for, and from then on each of its own reads as soon as it and
those before it are enough, whatever happens between; an active wallet stays active. So a client that waits where
nobody else reads sends the reads that are pending, at least one, and gets an active wallet if it has as many attempts;
else it fails behind the last attempt, with the other reads still pending. -/
theorem awaitActive_counts (s : Settings) (agent : String) :
    (∀ before o later w, (Ledger.perform s o (.addWallet agent) (Ledger.behind s before)).1 = .ok (.wallet w) →
      let reads := readsOf agent (Ledger.history s later (Ledger.behind s (before ++ [(o, .addWallet agent)])))
      (w.isActive = true ↔ s.activationPolls = 0) ∧ readsOf agent (Ledger.past s before) = [] ∧
        (∀ (k : Nat) (v : Report.Wallet), reads[k]? = some v → (v.isActive = true ↔ s.activationPolls.toNat ≤ k + 1)) ∧
        (Ledger.behind s (before ++ (o, .addWallet agent) :: later)).PendsFor agent
          (s.activationPolls.toNat - reads.length)) ∧
    (∀ ops later v, (Ledger.behind s ops).wallet? agent = some v → v.report.isActive = true →
      ∃ v', (Ledger.behind s (ops ++ later)).wallet? agent = some v' ∧ v'.report.isActive = true) ∧
    ∀ (c : Client) (draw : Ledger → Occasion) (l : Ledger) (w : Wallet) (attempts : UInt32), s.rateLimit = none →
      Url.openEnd c.base.path = Service.Route.apiPath → IsSegment agent → l.wallet? agent = some w →
      let needed := max 1 w.pending.toNat
      let reads := min attempts.toNat needed
      let played := (c.awaitActive agent attempts).serve s draw l
      ∃ v, played.1 = (if needed ≤ attempts.toNat then .ok v.report else .error (.notActivated agent attempts)) ∧
        (c.awaitActive agent attempts).sent s draw l = List.replicate reads (c.get ["wallets", agent]) ∧
        played.2 = (Ledger.polled agent)^[reads] l ∧ played.2.wallet? agent = some v ∧
        v.pending.toNat = w.pending.toNat - reads := by
  refine ⟨fun before o later w created => ?_, fun ops later v found active => ?_, ?_⟩
  · intro reads
    obtain ⟨absent, pends, new⟩ := Ledger.pendsFor_created created
    obtain ⟨left, told⟩ := Ledger.pendsFor_run pends s later
    have joined : Ledger.behind s (before ++ [(o, .addWallet agent)]) =
        (Ledger.perform s o (.addWallet agent) (Ledger.behind s before)).2 := Ledger.behind_append s before _
    rw [← joined] at left told
    refine ⟨new, Ledger.readsOf_of_absent before absent, told, ?_⟩
    rw [List.append_cons, Ledger.behind_append]
    exact left
  · have pends : (Ledger.behind s ops).PendsFor agent 0 := ⟨v, found, v.isActive_report.mp active⟩
    obtain ⟨v', found', pending⟩ := (Ledger.pendsFor_run pends s later).1
    rw [Ledger.behind_append]
    refine ⟨v', found', v'.isActive_report.mpr ?_⟩
    rw [pending, Nat.zero_sub]
  · intro c draw l w attempts unlimited base segment found needed reads played
    obtain ⟨served, sent⟩ := serve_poll unlimited base draw segment attempts attempts.toNat found
    refine ⟨Wallet.countRead^[reads] w, congrArg Prod.fst served, sent, congrArg Prod.snd served, ?_,
      w.pending_iterate reads⟩
    rw [show played = _ from served]
    exact Ledger.wallet?_iterate found reads

def slow : Settings := { activationPolls := 2 }

def threeReads : List (Occasion × Operation) :=
  [.readWallet "alice", .readWallet "alice", .balances "alice", .readWallet "alice"].map fun op => (⟨.epoch, ""⟩, op)

theorem awaitActive_slow :
    let l := Ledger.behind slow [(⟨.epoch, ""⟩, .addWallet "alice")]
    (∃ v v' v'', readsOf "alice" (Ledger.history slow threeReads l) = [v, v', v''] ∧ v.isActive ≠ true ∧
        v'.isActive = true ∧ v''.isActive = true) ∧
      ∃ c, Client.ofConfig {} = .ok c ∧
        ((c.awaitActive "alice" 1).serve slow (fun _ => ⟨.epoch, ""⟩) l).1 = .error (.notActivated "alice" 1) ∧
        ∃ v : Wallet, v.pending.toNat = 0 ∧
          ((c.awaitActive "alice" 5).serve slow (fun _ => ⟨.epoch, ""⟩) l).1 = .ok v.report ∧
          (c.awaitActive "alice" 5).sent slow (fun _ => ⟨.epoch, ""⟩) l =
            List.replicate 2 (c.get ["wallets", "alice"]) := by
  intro l
  obtain ⟨counts, -, waits⟩ := awaitActive_counts slow "alice"
  obtain ⟨w, found, two⟩ : l.PendsFor "alice" 2 := ⟨_, rfl, rfl⟩
  obtain ⟨c, made, base⟩ := Errand.ofConfig_default
  refine ⟨?_, c, made, ?_, ?_⟩
  · obtain ⟨v, v', v'', three⟩ : ∃ v v' v'', readsOf "alice" (Ledger.history slow threeReads l) = [v, v', v''] :=
      ⟨_, _, _, rfl⟩
    obtain ⟨-, -, told, -⟩ := counts [] ⟨.epoch, ""⟩ threeReads _ rfl
    rw [List.nil_append, three] at told
    refine ⟨v, v', v'', three, fun active => ?_, (told 1 v' rfl).mpr (by decide), (told 2 v'' rfl).mpr (by decide)⟩
    have early := (told 0 v rfl).mp active
    exact absurd early (by decide)
  · obtain ⟨v, result, -⟩ := waits c (fun _ => ⟨.epoch, ""⟩) l w 1 rfl base (by decide) found
    rw [two] at result
    exact result
  · obtain ⟨v, result, sent, -, -, pending⟩ := waits c (fun _ => ⟨.epoch, ""⟩) l w 5 rfl base (by decide) found
    rw [two] at result sent pending
    exact ⟨v, pending, result, sent⟩

end Client

end AgentLedger
