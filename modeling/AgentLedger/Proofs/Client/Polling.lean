import AgentLedger.Ledger.Draw
import AgentLedger.Proofs.Client.Scripts
import AgentLedger.Proofs.Wire
/-!
# Waiting for a wallet

A wallet is read as often as it takes to hear anything but that it is still
pending. That answer settles the call; if none came within the given number of
attempts, the call says so.
-/

namespace AgentLedger

theorem Report.Wallet.isActive_iff {w : Report.Wallet} : w.isActive = true ↔ w.status = .active := by
  simp [isActive]

/-! ## Missing wallets -/

theorem Failure.isNotFound_ofAnswer (status : Nat) (retryAfter : Option String) (body : String) :
    (ofAnswer status retryAfter body).isNotFound = (status == 404) := by
  unfold ofAnswer
  by_cases missing : status = 404
  · simp [missing, isNotFound]
  · simp only [missing, if_false]
    have other : (status == 404) = false := by simpa using missing
    rw [other]
    repeat' split
    all_goals rfl

namespace Client

theorem signals_isNotFound : Signals 404 Failure.isNotFound where
  fails := rfl
  stays := by decide
  ofAnswer := Failure.isNotFound_ofAnswer
  transport _ := rfl
  timeout _ := rfl
  undecodable _ _ := rfl

def Outcome.isMissing : Outcome → Bool
  | .reply response .complete => response.status == 404
  | _ => false

section
variable {c : Client} {r : Request} {o : Outcome} {α : Type} {call : Call} {read : Json.Reads α}

theorem Outcome.hasStatus_missing (o : Outcome) : o.hasStatus 404 = o.isMissing := by
  cases o with
  | lost | late => rfl
  | reply response body => cases body <;> rfl

/-- A failure is "not found" where the answer was of this status, and for no other outcome. -/
theorem isNotFound_understood {f : Failure} (h : c.understood call read r o = .error f) : f.isNotFound = o.isMissing := by
  rw [← o.hasStatus_missing]
  exact signals_isNotFound.understood h

theorem isMissing_of_understood {a : α} (h : c.understood call read r o = .ok a) : o.isMissing = false := by
  rw [← o.hasStatus_missing]
  exact signals_isNotFound.understood_ok h

end

section
variable (c : Client) (agent : String)

def told : Outcome → Except Failure Report.Wallet :=
  c.understood .readWallet Wire.readWallet (c.get ["wallets", agent])

def tellsPending (o : Outcome) : Bool :=
  match c.told agent o with
  | .ok w => w.status ≠ .active
  | .error _ => false

theorem tellsPending_of_told {c : Client} {agent : String} {o : Outcome} {w : Report.Wallet}
    (h : c.told agent o = .ok w) : c.tellsPending agent o = !w.isActive := by
  simp only [tellsPending, h]
  by_cases active : w.status = .active <;> simp [Report.Wallet.isActive, active]

/-- How an outcome that tells of no pending wallet settles the call. -/
def verdict (o : Outcome) : Except Failure Report.Wallet :=
  if o.isMissing then .error (.notFound ("wallet for " ++ agent ++ " not found")) else c.told agent o

variable {script : List Outcome}

theorem play_readWallet (stays : ¬(script.headD .lost).IsFollowed (c.get ["wallets", agent])) :
    (c.readWallet agent).play ⟨true, script⟩ =
      (if (script.headD .lost).isMissing then .ok none else (c.told agent (script.headD .lost)).map some,
        [c.get ["wallets", agent]], script.tail) := by
  unfold readWallet
  rw [play_bind, c.play_ask .readWallet Wire.readWallet stays]
  cases heard : c.told agent (script.headD .lost) with
  | ok w =>
    have found := isMissing_of_understood heard
    change c.understood .readWallet Wire.readWallet (c.get ["wallets", agent]) (script.headD .lost) = _ at heard
    simp only [heard, found, Bool.false_eq_true, if_false]
    rfl
  | error f =>
    have missing := isNotFound_understood heard
    change c.understood .readWallet Wire.readWallet (c.get ["wallets", agent]) (script.headD .lost) = _ at heard
    simp only [heard, missing]
    by_cases gone : (script.headD .lost).isMissing = true
    · simp only [gone, if_true]
      rfl
    · simp only [gone, Bool.false_eq_true, if_false]
      rfl

/-- One attempt settles the call, or it only leaves one outcome less. -/
theorem play_poll_succ (stays : ¬(script.headD .lost).IsFollowed (c.get ["wallets", agent])) (attempts : UInt32)
    (left : Nat) :
    (c.poll agent attempts (left + 1)).play ⟨true, script⟩ =
      if c.tellsPending agent (script.headD .lost) then
        ((c.poll agent attempts left).play ⟨true, script.tail⟩).map id fun p =>
          (c.get ["wallets", agent] :: p.1, p.2)
      else (c.verdict agent (script.headD .lost), [c.get ["wallets", agent]], script.tail) := by
  rw [poll, play_bind, c.play_readWallet agent stays]
  unfold verdict
  generalize script.headD .lost = o
  cases heard : c.told agent o with
  | ok w =>
    have found := isMissing_of_understood heard
    rw [tellsPending_of_told heard]
    cases active : w.isActive with
    | true =>
      simp only [found, Except.map, active, Bool.false_eq_true, if_false, Bool.not_true, if_true]
      rfl
    | false =>
      simp only [found, Except.map, active, Bool.false_eq_true, if_false, Bool.not_false, if_true]
      rfl
  | error f =>
    have settled : c.tellsPending agent o = false := by simp only [tellsPending, heard]
    rw [settled]
    by_cases gone : o.isMissing = true
    · simp only [gone, Bool.false_eq_true, if_true, if_false]
      rfl
    · simp only [gone, Except.map, Bool.false_eq_true, if_false]
      rfl

theorem not_isFollowed_headD {r : Request} (stays : ∀ o ∈ script, ¬o.IsFollowed r) :
    ¬(script.headD .lost).IsFollowed r := by
  cases script with
  | nil => exact id
  | cons o os => exact stays o List.mem_cons_self

/-- Attempts go on up to the first outcome that tells of no pending wallet. -/
theorem play_poll (stays : ∀ o ∈ script, ¬o.IsFollowed (c.get ["wallets", agent])) (attempts : UInt32) (left : Nat) :
    (c.poll agent attempts left).play ⟨true, script⟩ =
      let k := script.findIdx fun o => !c.tellsPending agent o
      if k < left then
        (c.verdict agent (script.getD k .lost), List.replicate (k + 1) (c.get ["wallets", agent]), script.drop (k + 1))
      else
        (.error (.notActivated agent attempts), List.replicate left (c.get ["wallets", agent]), script.drop left) := by
  induction left generalizing script with
  | zero => rfl
  | succ left ih =>
    rw [c.play_poll_succ agent (not_isFollowed_headD stays)]
    cases script with
    | nil => rfl
    | cons o os =>
      rw [List.headD_cons, List.tail_cons]
      by_cases pending : c.tellsPending agent o = true
      · rw [if_pos pending, ih fun o' ho => stays o' (List.mem_cons_of_mem o ho)]
        simp only [List.findIdx_cons, pending, Bool.not_true, cond_false, Nat.add_lt_add_iff_right,
          List.getD_cons_succ, List.drop_succ_cons]
        split <;> rfl
      · rw [if_neg pending]
        simp [List.findIdx_cons, pending]

theorem active_of_verdict {o : Outcome} {w : Report.Wallet} (settled : c.tellsPending agent o = false)
    (h : c.verdict agent o = .ok w) : w.status = .active := by
  unfold verdict at h
  split at h
  · cases h
  · rw [tellsPending_of_told h] at settled
    exact Report.Wallet.isActive_iff.mp (by simpa using settled)

theorem verdict_of_told {o : Outcome} {w : Report.Wallet} (h : c.told agent o = .ok w) : c.verdict agent o = .ok w := by
  have found : ¬o.isMissing = true := by simp [isMissing_of_understood h]
  rw [verdict, if_neg found, h]

theorem tellsPending_getD_findIdx (script : List Outcome) :
    c.tellsPending agent (script.getD (script.findIdx fun o => !c.tellsPending agent o) .lost) = false := by
  by_cases found : script.findIdx (fun o => !c.tellsPending agent o) < script.length
  · have settled := List.findIdx_getElem (w := found)
    rw [List.getD_eq_getElem?_getD, List.getElem?_eq_getElem found]
    simpa using settled
  · rw [List.getD_eq_getElem?_getD, List.getElem?_eq_none (by omega)]
    rfl

/-- Waiting takes exactly the requests that it needs: up to the first outcome
that tells of no pending wallet, which settles the call, or else as many as
are allowed. A wallet is given if it is what settles the call, and then it is
active. -/
theorem awaitActive_sends (attempts : UInt32) (stays : ∀ o ∈ script, ¬o.IsFollowed (c.get ["wallets", agent])) :
    let r := c.get ["wallets", agent]
    let k := script.findIdx fun o => !c.tellsPending agent o
    let played := (c.awaitActive agent attempts).play ⟨true, script⟩
    (k < attempts.toNat →
        played = (c.verdict agent (script.getD k .lost), List.replicate (k + 1) r, script.drop (k + 1))) ∧
      (attempts.toNat ≤ k →
        played = (.error (.notActivated agent attempts), List.replicate attempts.toNat r,
          script.drop attempts.toNat)) ∧
      (∀ w, k < attempts.toNat → c.told agent (script.getD k .lost) = .ok w → played.1 = .ok w) ∧
      ∀ w, played.1 = .ok w → w.status = .active := by
  intro r k played
  have polled : played = _ := c.play_poll agent stays attempts attempts.toNat
  simp only at polled
  refine ⟨?_, ?_, ?_, ?_⟩
  · intro within
    rw [polled, if_pos within]
  · intro beyond
    rw [polled, if_neg (by omega)]
  · intro w within heard
    rw [polled, if_pos within]
    exact c.verdict_of_told agent heard
  · intro w given
    rw [polled] at given
    split at given
    · exact c.active_of_verdict agent (c.tellsPending_getD_findIdx agent script) given
    · cases given

end

def localClient : Client := ⟨⟨false, [], none, .domain "localhost".toList, none, [[]], none, none⟩, .ofSeconds 30⟩

def pendingAlice : Report.Wallet := ⟨"alice", "0x1", "r1", 0, .epoch, .pending⟩

def activeAlice : Report.Wallet := { pendingAlice with status := .active }

def walletReply (w : Report.Wallet) : Outcome := .reply (Service.shared (Service.json 200 (w.json .millis))) .complete

def withdrawn : List Outcome := [walletReply pendingAlice, .reply ⟨404, [], []⟩ .complete, .late]

def activated : List Outcome := [walletReply pendingAlice, walletReply activeAlice, .late]

theorem told_walletReply (c : Client) (agent : String) {w : Report.Wallet} (whole : w.createdAt.toMillis = w.createdAt) :
    c.told agent (walletReply w) = .ok w := by
  rw [told, walletReply, understood_reply _ _ _ (location?_json _ (.inl rfl) _)]
  exact heard_json _ _ (.inl rfl) w.json_isNatural (Wire.readWallet_json whole)

theorem awaitActive_alice :
    (localClient.awaitActive "alice" 5).play ⟨true, withdrawn⟩ =
        (.error (.notFound "wallet for alice not found"), List.replicate 2 (localClient.get ["wallets", "alice"]),
          [.late]) ∧
      (localClient.awaitActive "alice" 5).play ⟨true, activated⟩ =
        (.ok activeAlice, List.replicate 2 (localClient.get ["wallets", "alice"]), [.late]) := by
  have first := localClient.told_walletReply "alice" (w := pendingAlice) rfl
  have active := localClient.told_walletReply "alice" (w := activeAlice) rfl
  have pending : localClient.tellsPending "alice" (walletReply pendingAlice) = true := tellsPending_of_told first
  have waits (o : Outcome) (settled : localClient.tellsPending "alice" o = false) :
      [walletReply pendingAlice, o, .late].findIdx (fun o => !localClient.tellsPending "alice" o) = 1 := by
    simp [List.findIdx_cons, pending, settled]
  have stays (o : Outcome) (stay : ¬o.IsFollowed (localClient.get ["wallets", "alice"])) :
      ∀ o' ∈ [walletReply pendingAlice, o, .late], ¬o'.IsFollowed (localClient.get ["wallets", "alice"]) := by
    simp only [List.forall_mem_cons]
    exact ⟨not_isFollowed_of_status _ _ (by decide), stay, id, by simp⟩
  constructor
  · have key := (localClient.awaitActive_sends "alice" 5
      (stays (.reply ⟨404, [], []⟩ .complete) (not_isFollowed_of_status _ _ (by decide)))).1
    simp only [waits _ (show localClient.tellsPending "alice" (.reply ⟨404, [], []⟩ .complete) = false by decide +kernel)]
      at key
    exact key (by decide)
  · obtain ⟨key, -, given, -⟩ := localClient.awaitActive_sends "alice" 5
      (stays (walletReply activeAlice) (not_isFollowed_of_status _ _ (by decide)))
    simp only [waits _ (tellsPending_of_told active)] at key given
    refine Prod.ext (given activeAlice (by decide) active) ?_
    rw [activated, key (by decide)]
    rfl

end Client

end AgentLedger
