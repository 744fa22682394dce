import Mathlib.Data.List.TakeDrop
import AgentLedger.Proofs.Client.Polling
/-!
# Batches on a script

A batch asks for its wallets one by one. An answer with a wallet and a
conflict let it go on; the first outcome of any other kind is what the whole
batch comes to, and nothing is asked behind it.
-/

namespace AgentLedger

theorem Failure.isConflict_ofAnswer (status : Nat) (retryAfter : Option String) (body : String) :
    (ofAnswer status retryAfter body).isConflict = (status == 409) := by
  unfold ofAnswer
  by_cases taken : status = 409
  · subst taken
    rfl
  · have other : (status == 409) = false := by simpa using taken
    simp only [taken, if_false, other]
    repeat' split
    all_goals rfl

namespace Client

theorem signals_isConflict : Signals 409 Failure.isConflict where
  fails := rfl
  stays := by decide
  ofAnswer := Failure.isConflict_ofAnswer
  transport _ := rfl
  timeout _ := rfl
  undecodable _ _ := rfl

/-! ## What an outcome says of a wallet asked for -/

namespace Outcome

def text? : Outcome → Option String
  | .reply response .complete => if Http.isSuccess response.status then some response.text else none
  | _ => none

def wallet? (o : Outcome) : Option Report.Wallet :=
  o.text?.bind fun body => (decode .addWallet Wire.readWallet body).toOption

def isConflict (o : Outcome) : Bool := o.hasStatus 409

def endsBatch (o : Outcome) : Bool := o.wallet?.isNone && !o.isConflict

theorem isConflict_of_wallet? {o : Outcome} {w : Report.Wallet} (h : o.wallet? = some w) : o.isConflict = false := by
  cases o with
  | lost | late => rfl
  | reply response body =>
    cases body with
    | broken | stalled => rfl
    | complete =>
      by_cases good : Http.isSuccess response.status = true
      · apply beq_eq_false_iff_ne.mpr
        intro taken
        rw [taken] at good
        cases good
      · have silent : (Outcome.reply response .complete).text? = none := if_neg good
        rw [wallet?, silent] at h
        cases h

end Outcome

theorem location?_of_success (r : Request) {response : Http.Response} (good : Http.isSuccess response.status = true) :
    location? r response = none := by
  apply location?_of_status
  intro redirect
  have all : ∀ status ∈ [301, 302, 303, 307, 308], Http.isSuccess status = false := by decide
  rw [all _ redirect] at good
  cases good

section
variable (c : Client) {agent : String} {o : Outcome}

theorem toOption_answered (r : Request) (o : Outcome) : (c.answered r o).toOption = o.text? := by
  cases o with
  | lost | late => rfl
  | reply response body =>
    by_cases good : Http.isSuccess response.status = true
    · have stays := location?_of_success r good
      cases body with
      | broken | stalled =>
        simp only [answered, stays, Option.isSome_none, Bool.false_eq_true, if_false]
        rfl
      | complete =>
        simp only [answered, Outcome.text?, stays, good, Option.isSome_none, Bool.false_eq_true, if_false, if_true]
        rfl
    · have silent : (Outcome.reply response body).text? = none := by
        cases body with
        | broken | stalled => rfl
        | complete => exact if_neg good
      rw [silent]
      simp only [answered, good, Bool.false_eq_true, if_false]
      split
      · rfl
      · cases body <;> rfl

def creating (agent : String) : Request := c.post ["wallets"] (Wire.creation agent)

def granted (agent : String) (o : Outcome) : Except Failure Report.Wallet :=
  c.understood .addWallet Wire.readWallet (c.creating agent) o

theorem toOption_granted (agent : String) (o : Outcome) : (c.granted agent o).toOption = o.wallet? := by
  unfold granted understood Outcome.wallet?
  rw [← c.toOption_answered (c.creating agent)]
  cases c.answered (c.creating agent) o <;> rfl

theorem wallet?_of_granted {w : Report.Wallet} (h : c.granted agent o = .ok w) : o.wallet? = some w := by
  rw [← c.toOption_granted agent, h]
  rfl

theorem wallet?_of_refused {f : Failure} (h : c.granted agent o = .error f) : o.wallet? = none := by
  rw [← c.toOption_granted agent, h]
  rfl

theorem isConflict_of_refused {f : Failure} (h : c.granted agent o = .error f) : f.isConflict = o.isConflict :=
  signals_isConflict.understood h

/-! ## One request after the other -/

/-- What a batch comes to that no outcome ends: the wallets that were reported, and the agents that had one. -/
def batchOf (agents : List String) (heard : List Outcome) : Batch where
  created := heard.filterMap (·.wallet?)
  skipped := ((agents.zip heard).filter (·.2.isConflict)).map (·.1)

variable {agents : List String} {script : List Outcome}

theorem batchOf_granted {w : Report.Wallet} (h : o.wallet? = some w) (heard : List Outcome) :
    batchOf (agent :: agents) (o :: heard) =
      { batchOf agents heard with created := w :: (batchOf agents heard).created } := by
  simp [batchOf, h, Outcome.isConflict_of_wallet? h]

theorem batchOf_taken (h : o.wallet? = none) (taken : o.isConflict = true) (heard : List Outcome) :
    batchOf (agent :: agents) (o :: heard) =
      { batchOf agents heard with skipped := agent :: (batchOf agents heard).skipped } := by
  simp [batchOf, h, taken]

theorem length_batchOf {heard : List Outcome} (good : ∀ o ∈ heard, o.endsBatch = false)
    (all : heard.length = agents.length) :
    (batchOf agents heard).created.length + (batchOf agents heard).skipped.length = agents.length := by
  induction agents generalizing heard with
  | nil =>
    rw [List.length_eq_zero_iff.mp all]
    rfl
  | cons agent agents ih =>
    cases heard with
    | nil => cases all
    | cons o heard =>
      rw [List.forall_mem_cons] at good
      have rest := ih good.2 (Nat.succ.inj all)
      have goes : o.endsBatch = false := good.1
      cases found : o.wallet? with
      | some w =>
        rw [batchOf_granted found]
        simp only [List.length_cons]
        omega
      | none =>
        have taken : o.isConflict = true := by simpa [Outcome.endsBatch, found] using goes
        rw [batchOf_taken found taken]
        simp only [List.length_cons]
        omega

/-- The first outcome ends the batch, or the rest of the batch goes on with one more agent accounted for. -/
theorem play_addWallets_cons (agents : List String) (stays : ¬(script.headD .lost).IsFollowed (c.creating agent)) :
    let o := script.headD .lost
    let played := (c.addWallets (agent :: agents)).play ⟨true, script⟩
    let rest := (c.addWallets agents).play ⟨true, script.tail⟩
    (o.endsBatch = true ∧ ∃ f, c.granted agent o = .error f ∧ played = (.error f, [c.creating agent], script.tail)) ∨
      (o.endsBatch = false ∧ ∃ more : Batch → Batch,
        (∀ heard, batchOf (agent :: agents) (o :: heard) = more (batchOf agents heard)) ∧
        played = (rest.1.map more, c.creating agent :: rest.2.1, rest.2.2)) := by
  intro o played rest
  have asked : (c.addWallet agent).play ⟨true, script⟩ = (c.granted agent o, [c.creating agent], script.tail) :=
    c.play_ask _ _ stays
  have first : played = _ := play_bind _ _ true script
  rw [asked] at first
  cases told : c.granted agent o with
  | ok w =>
    have found := c.wallet?_of_granted told
    refine .inr ⟨by simp [Outcome.endsBatch, found], fun b => { b with created := w :: b.created },
      batchOf_granted found, ?_⟩
    rw [first, told]
    simp only [play_map]
    rfl
  | error f =>
    have missing := c.wallet?_of_refused told
    have same := c.isConflict_of_refused told
    by_cases taken : f.isConflict = true
    · have conflict : o.isConflict = true := same.symm.trans taken
      refine .inr ⟨by simp [Outcome.endsBatch, conflict], fun b => { b with skipped := agent :: b.skipped },
        batchOf_taken missing conflict, ?_⟩
      rw [first, told]
      simp only [taken, if_true, play_map]
      rfl
    · have conflict : o.isConflict = false := same.symm.trans (Bool.eq_false_iff.mpr taken)
      refine .inl ⟨by simp [Outcome.endsBatch, missing, conflict], f, rfl, ?_⟩
      rw [first, told]
      simp only [taken, Bool.false_eq_true, if_false]
      rfl

/-- A batch goes on up to the first outcome that is no wallet and no conflict. -/
theorem play_addWallets (stays : ∀ agent ∈ agents, ∀ o ∈ script, ¬o.IsFollowed (c.creating agent)) :
    let heard := script.takeD agents.length .lost
    let k := heard.findIdx (·.endsBatch)
    let played := (c.addWallets agents).play ⟨true, script⟩
    (k < agents.length → ∃ agent f, agents[k]? = some agent ∧ c.granted agent (script.getD k .lost) = .error f ∧
        played = (.error f, (agents.take (k + 1)).map c.creating, script.drop (k + 1))) ∧
      (agents.length ≤ k →
        played = (.ok (batchOf agents heard), agents.map c.creating, script.drop agents.length)) := by
  induction agents generalizing script with
  | nil => exact ⟨nofun, fun _ => rfl⟩
  | cons agent agents ih =>
    have stays' : ∀ a ∈ agents, ∀ o ∈ script.tail, ¬o.IsFollowed (c.creating a) := by
      intro a ha o ho
      exact stays a (List.mem_cons_of_mem agent ha) o (List.mem_of_mem_tail ho)
    obtain ⟨stops, passes⟩ := ih stays'
    have here (n : Nat) : script.getD (n + 1) .lost = script.tail.getD n .lost := by cases script <;> rfl
    have beyond (n : Nat) : script.drop (n + 1) = script.tail.drop n := List.drop_tail.symm
    have front : script.takeD (agents.length + 1) .lost = script.headD .lost :: script.tail.takeD agents.length .lost := rfl
    simp only [List.length_cons, front, List.findIdx_cons]
    rcases c.play_addWallets_cons agents (not_isFollowed_headD (stays agent List.mem_cons_self)) with
      ⟨ends, f, told, played⟩ | ⟨goes, more, batch, played⟩
    · simp only [ends, cond_true]
      refine ⟨fun _ => ⟨agent, f, rfl, ?_, ?_⟩, nofun⟩
      · cases script <;> exact told
      · rw [played, Nat.zero_add, List.drop_one]
        rfl
    · simp only [goes, cond_false]
      refine ⟨fun within => ?_, fun through => ?_⟩
      · obtain ⟨a, f, ha, told, rest⟩ := stops (Nat.lt_of_succ_lt_succ within)
        refine ⟨a, f, ha, ?_, ?_⟩
        · rw [here]
          exact told
        · rw [played, rest, beyond]
          rfl
      · have rest := passes (Nat.le_of_succ_le_succ through)
        rw [played, rest, beyond, batch]
        rfl

/-- A batch asks for a wallet for each of its agents, once and in their order, up to the first outcome that is no
wallet and no conflict: that is its failure. If there is none, every agent is accounted for, by the wallet that was
reported or among those that had one. -/
theorem addWallets_sends (stays : ∀ agent ∈ agents, ∀ o ∈ script, ¬o.IsFollowed (c.creating agent)) :
    let heard := script.takeD agents.length .lost
    let k := heard.findIdx (·.endsBatch)
    let played := (c.addWallets agents).play ⟨true, script⟩
    (∀ agent, (c.creating agent).method = .post ∧
        Service.readBody Wire.readCreation (Conversation.httpRequest (c.creating agent)) = .ok agent) ∧
      (k < agents.length → ∃ agent f, agents[k]? = some agent ∧ c.granted agent (script.getD k .lost) = .error f ∧
        played = (.error f, (agents.take (k + 1)).map c.creating, script.drop (k + 1))) ∧
      (agents.length ≤ k →
        played = (.ok (batchOf agents heard), agents.map c.creating, script.drop agents.length) ∧
          (batchOf agents heard).created.length + (batchOf agents heard).skipped.length = agents.length) := by
  intro heard k played
  obtain ⟨stops, passes⟩ := c.play_addWallets stays
  have all : heard.length = agents.length := List.takeD_length _ _ _
  refine ⟨fun agent => ⟨rfl, ?_⟩, stops, fun through => ⟨passes through, ?_⟩⟩
  · exact readBody_text .post (c.endpoint ["wallets"]) (Wire.creation_isNatural agent) (Wire.readCreation_creation agent)
  · apply length_batchOf _ all
    intro o ho
    have none_ : k = heard.length := Nat.le_antisymm List.findIdx_le_length (all ▸ through)
    simpa using List.findIdx_eq_length.mp none_ o ho

end

def grantedOnce : List Outcome := [
  .reply (Service.shared (Service.json 201 (pendingAlice.json .millis))) .complete, .reply ⟨409, [], []⟩ .complete]

def faulty : List Outcome := [.reply ⟨500, [], []⟩ .complete, .late]

theorem addWallets_grantedOnce :
    (localClient.addWallets ["alice", "alice"]).play ⟨true, grantedOnce⟩ =
        (.ok ⟨[pendingAlice], ["alice"]⟩, List.replicate 2 (localClient.creating "alice"), []) ∧
      ∃ f, (localClient.addWallets ["alice", "alice", "bob", "carol"]).play ⟨true, grantedOnce ++ faulty⟩ =
        (.error f, ["alice", "alice", "bob"].map localClient.creating, [.late]) := by
  have stays (agent : String) : ∀ o ∈ grantedOnce ++ faulty,
      ¬o.IsFollowed (localClient.creating agent) := by
    simp only [grantedOnce, faulty, List.cons_append, List.nil_append, List.forall_mem_cons]
    exact ⟨not_isFollowed_of_status _ _ (by decide), not_isFollowed_of_status _ _ (by decide),
      not_isFollowed_of_status _ _ (by decide), id, by simp⟩
  have told : localClient.granted "alice" (.reply (Service.shared (Service.json 201 (pendingAlice.json .millis))) .complete) =
      .ok pendingAlice := by
    rw [granted, understood_reply _ _ _ (location?_json _ (.inr rfl) _)]
    exact heard_json _ _ (.inr rfl) (Report.Wallet.json_isNatural _) (Wire.readWallet_json rfl)
  have first := wallet?_of_granted _ told
  have unclaimed := Outcome.isConflict_of_wallet? first
  have second : (Outcome.reply ⟨409, [], []⟩ .complete).wallet? = none := rfl
  have conflict : (Outcome.reply ⟨409, [], []⟩ .complete).isConflict = true := rfl
  have third : (Outcome.reply ⟨500, [], []⟩ .complete).wallet? = none := rfl
  have fault : (Outcome.reply ⟨500, [], []⟩ .complete).isConflict = false := rfl
  constructor
  · obtain ⟨-, -, passes⟩ := @addWallets_sends localClient ["alice", "alice"] grantedOnce
      fun agent _ o ho => stays agent o (List.mem_append_left _ ho)
    have heard : grantedOnce.takeD 2 .lost = grantedOnce := rfl
    have index : grantedOnce.findIdx (·.endsBatch) = 2 := by
      simp [grantedOnce, List.findIdx_cons, Outcome.endsBatch, first, second, conflict]
    have batch : batchOf ["alice", "alice"] grantedOnce = ⟨[pendingAlice], ["alice"]⟩ := by
      simp [grantedOnce, batchOf, first, second, unclaimed, conflict]
    simp only [List.length_cons, List.length_nil, heard, index, batch] at passes
    exact (passes (Nat.le_refl 2)).1
  · obtain ⟨-, stops, -⟩ := @addWallets_sends localClient ["alice", "alice", "bob", "carol"]
      (grantedOnce ++ faulty) fun agent _ => stays agent
    have heard : (grantedOnce ++ faulty).takeD 4 .lost = grantedOnce ++ faulty := rfl
    have index : (grantedOnce ++ faulty).findIdx (·.endsBatch) = 2 := by
      simp [grantedOnce, faulty, List.findIdx_cons, Outcome.endsBatch, first, second, conflict, third, fault]
    simp only [List.length_cons, List.length_nil, heard, index] at stops
    obtain ⟨-, f, -, -, played⟩ := stops (by decide)
    exact ⟨f, played⟩

end Client

end AgentLedger
