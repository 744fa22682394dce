import AgentLedger.Proofs.Client.Exchange
/-!
# Calls on a script

What a client gets out of one scripted outcome, as long as that is no redirect
to be followed: one request is sent, and one outcome is gone. A conversation
that is made of others takes the outcomes that those before it have left.
-/

namespace AgentLedger.Client

open Json (Reads)

/-! ## Conversations one after the other -/

theorem play_bind {α β : Type} (p : Conversation α) (f : α → Conversation β) (reachable : Bool)
    (script : List Outcome) :
    (p >>= f).play ⟨reachable, script⟩ =
      let (a, sent, left) := p.play ⟨reachable, script⟩
      let (b, sent', left') := (f a).play ⟨reachable, left⟩
      (b, sent ++ sent', left') := by
  show (p.bind f).play ⟨reachable, script⟩ = _
  induction p generalizing script with
  | done a => rfl
  | ask r next ih =>
    cases reachable with
    | false => exact ih .lost script
    | true =>
      cases script with
      | nil => simp only [Conversation.bind, Conversation.play, ih, List.cons_append]
      | cons o os => simp only [Conversation.bind, Conversation.play, ih, List.cons_append]

/-- What is only reckoned from a conversation's result sends nothing. -/
theorem play_map {α β : Type} (p : Conversation α) (g : α → β) (reachable : Bool) (script : List Outcome) :
    (p >>= fun a => pure (g a)).play ⟨reachable, script⟩ =
      (g (p.play ⟨reachable, script⟩).1, (p.play ⟨reachable, script⟩).2) := by
  rw [play_bind]
  show (_, _ ++ [], _) = _
  rw [List.append_nil]

/-- A peer that is reached gives the next outcome of its script. -/
theorem play_ask_done {α : Type} (r : Request) {next : Outcome → Conversation α} {script : List Outcome} {a : α}
    (h : next (script.headD .lost) = .done a) :
    (Conversation.ask r next).play ⟨true, script⟩ = (a, [r], script.tail) := by
  cases script with
  | nil =>
    change next .lost = .done a at h
    simp only [Conversation.play, h, List.tail_nil]
  | cons o os =>
    change next o = .done a at h
    simp only [Conversation.play, h, List.tail_cons]

/-! ## One outcome -/

def Outcome.IsFollowed (r : Request) : Outcome → Prop
  | .reply response _ => ∃ url, location? r response = some (some url)
  | _ => False

theorem location?_of_status (r : Request) {response : Http.Response} (h : response.status ∉ [301, 302, 303, 307, 308]) :
    location? r response = none := by
  unfold location?
  rw [if_neg]
  rwa [List.contains_iff_mem]

theorem not_isFollowed_of_status (r : Request) {response : Http.Response} (body : Arrival)
    (h : response.status ∉ [301, 302, 303, 307, 308]) : ¬(Outcome.reply response body).IsFollowed r := by
  rintro ⟨url, place⟩
  rw [location?_of_status r h] at place
  cases place

def answered (c : Client) (r : Request) : Outcome → Except Failure String
  | .lost => .error (.transport "connection failed")
  | .late => .error (.timeout c.timeout)
  | .reply response body =>
    if (location? r response).isSome then .error (.transport "redirect to a place outside the web")
    else
      match body with
      | .broken => .error (.transport "connection closed within the body")
      | .stalled => .error (.timeout c.timeout)
      | .complete =>
        if Http.isSuccess response.status then .ok response.text
        else .error (.ofResponse response)

def understood {α : Type} (c : Client) (call : Call) (read : Reads α) (r : Request) (o : Outcome) : Except Failure α :=
  (c.answered r o).bind (decode call read)

section
variable (c : Client) {r : Request} {script : List Outcome}

/-- A whole answer says on a script what it says from a service. -/
theorem understood_reply {α : Type} (call : Call) (read : Reads α) {response : Http.Response}
    (stays : location? r response = none) :
    c.understood call read r (.reply response .complete) = c.heard call read response := by
  unfold understood heard outcome
  simp only [answered, stays, Option.isSome_none, Bool.false_eq_true, if_false]
  by_cases good : Http.isSuccess response.status = true
  · simp only [good, if_true]
    rfl
  · simp only [good]
    rfl

theorem play_execute (stays : ¬(script.headD .lost).IsFollowed r) :
    (c.execute r).play ⟨true, script⟩ = (c.answered r (script.headD .lost), [r], script.tail) := by
  apply play_ask_done
  generalize script.headD .lost = o at stays ⊢
  cases o with
  | lost => rfl
  | late => rfl
  | reply response body =>
    have place : location? r response = none ∨ location? r response = some none := by
      cases place : location? r response with
      | none => exact .inl rfl
      | some web =>
        cases web with
        | none => exact .inr rfl
        | some url => exact absurd ⟨url, place⟩ stays
    simp only [onOutcome, answered]
    rcases place with place | place
    · simp only [place, Option.isSome_none, Bool.false_eq_true, if_false]
      cases body <;> rfl
    · simp only [place, Option.isSome_some, if_true]
      rfl

theorem play_ask {α : Type} (call : Call) (read : Reads α) (stays : ¬(script.headD .lost).IsFollowed r) :
    (c.ask call read r).play ⟨true, script⟩ = (c.understood call read r (script.headD .lost), [r], script.tail) := by
  unfold ask understood
  rw [play_bind, c.play_execute stays]
  cases c.answered r (script.headD .lost) <;> rfl

end

/-! ## Statuses that stand for a kind of failure -/

def Outcome.hasStatus (status : Nat) : Outcome → Bool
  | .reply response .complete => response.status == status
  | _ => false

/-- An answer with this status stands for a failure of this kind, and no other outcome does. -/
structure Signals (status : Nat) (kind : Failure → Bool) : Prop where
  fails : Http.isSuccess status = false
  stays : status ∉ [301, 302, 303, 307, 308]
  ofAnswer : ∀ n retryAfter body, kind (.ofAnswer n retryAfter body) = (n == status)
  transport : ∀ detail, kind (.transport detail) = false
  timeout : ∀ limit, kind (.timeout limit) = false
  undecodable : ∀ call fault, kind (.undecodable call fault) = false

namespace Signals
variable {status : Nat} {kind : Failure → Bool} (h : Signals status kind) {c : Client} {r : Request} {o : Outcome}
include h

theorem answered {f : Failure} (told : c.answered r o = .error f) : kind f = o.hasStatus status := by
  cases o with
  | lost => cases told; exact h.transport _
  | late => cases told; exact h.timeout _
  | reply response body =>
    by_cases elsewhere : (location? r response).isSome = true
    · -- A redirect to nowhere has one of five statuses, and this is none of them.
      have other : (response.status == status) = false := by
        rw [beq_eq_false_iff_ne]
        rintro rfl
        rw [location?_of_status r h.stays] at elsewhere
        cases elsewhere
      simp only [Client.answered, elsewhere, if_true] at told
      cases told
      rw [h.transport]
      cases body with
      | complete => exact other.symm
      | broken | stalled => rfl
    · simp only [Client.answered, elsewhere, Bool.false_eq_true, if_false] at told
      cases body with
      | broken => cases told; exact h.transport _
      | stalled => cases told; exact h.timeout _
      | complete =>
        by_cases good : Http.isSuccess response.status = true
        · rw [if_pos good] at told
          cases told
        · rw [if_neg good] at told
          cases told
          exact h.ofAnswer _ _ _

theorem answered_ok {body : String} (told : c.answered r o = .ok body) : o.hasStatus status = false := by
  cases o with
  | lost | late => rfl
  | reply response arrival =>
    cases arrival with
    | broken | stalled => rfl
    | complete =>
      by_cases elsewhere : (location? r response).isSome = true
      · simp only [Client.answered, elsewhere, if_true] at told
        cases told
      · simp only [Client.answered, elsewhere, Bool.false_eq_true, if_false] at told
        by_cases good : Http.isSuccess response.status = true
        · apply beq_eq_false_iff_ne.mpr
          rintro rfl
          rw [h.fails] at good
          cases good
        · rw [if_neg good] at told
          cases told

theorem understood {α : Type} {call : Call} {read : Reads α} {f : Failure} (told : c.understood call read r o = .error f) :
    kind f = o.hasStatus status := by
  unfold Client.understood at told
  cases text : c.answered r o with
  | error g =>
    rw [text] at told
    cases told
    exact h.answered text
  | ok body =>
    rw [text] at told
    change decode call read body = .error f at told
    unfold decode at told
    split at told
    · cases told
    · cases told
      rw [h.undecodable, h.answered_ok text]

theorem understood_ok {α : Type} {call : Call} {read : Reads α} {a : α} (told : c.understood call read r o = .ok a) :
    o.hasStatus status = false := by
  unfold Client.understood at told
  cases text : c.answered r o with
  | error g =>
    rw [text] at told
    cases told
  | ok body => exact h.answered_ok text

end Signals

end AgentLedger.Client
