import AgentLedger.Client
import AgentLedger.Proofs.Json.Records
import AgentLedger.Proofs.Service.Operations
import AgentLedger.Proofs.Text.Utf8
/-!
# One request and its answer

What a client gets out of the service's answer to one request: the value that
a body says, or the failure that a refusal stands for. The headers that share
an answer with other origins change nothing of it.
-/

namespace AgentLedger

open Json (Value Reads)
open Service (Route)

namespace Http

/-- A byte order mark begins beyond ASCII. -/
theorem ofMark?_ascii {b : UInt8} (ascii : b.toNat < 0x80) (bs : Text.Bytes) : Charset.ofMark? (b :: bs) = none := by
  have other {m : UInt8} (mark : 0x80 ≤ m.toNat) : b ≠ m := by
    rintro rfl
    omega
  unfold Charset.ofMark?
  split
  case h_4 => rfl
  all_goals
    rename_i h
    exact absurd (List.cons.inj h).1 (other (by decide))

theorem decodeBody_utf8 {hs : List Header} (unicode : Charset.ofHeaders hs = .utf8) {c : Char}
    (ascii : c.toNat < 0x80) (cs : List Char) : decodeBody hs (Text.utf8 (c :: cs)) = String.ofList (c :: cs) := by
  have byte : (UInt8.ofNat c.toNat).toNat < 0x80 := by rwa [Text.toNat_byte (by omega)]
  have whole := Text.decode_utf8 (c :: cs)
  unfold decodeBody
  rw [Text.utf8_cons_ascii ascii] at whole ⊢
  rw [ofMark?_ascii byte, unicode]
  show String.ofList (Text.decode _).lenient = _
  rw [whole, Text.lenient_some]

/-- Of its headers only the media type counts for a text. -/
theorem Response.text_congr {r r' : Response} (status : r'.status = r.status) (body : r'.body = r.body)
    (type : header? "content-type" r'.headers = header? "content-type" r.headers) : r'.text = r.text := by
  unfold text decodeBody Charset.ofHeaders
  rw [status, body, type]

end Http

namespace Service

theorem text_shared (r : Http.Response) : (shared r).text = r.text :=
  Http.Response.text_congr rfl rfl (header?_shared _ r (by decide))

theorem text_json (status : Nat) (body : status ≠ 204 ∧ status ≠ 304) (ms : List (String × Value)) :
    (json status (.object ms)).text = (Value.object ms).text := by
  have unicode : Http.Charset.ofHeaders [⟨"content-type", "application/json"⟩] = .utf8 := rfl
  obtain ⟨cs, hcs⟩ : ∃ cs, (Value.object ms).chars = '\x7b' :: cs := by cases ms <;> exact ⟨_, rfl⟩
  have given : ¬((json status (.object ms)).status = 204 ∨ (json status (.object ms)).status = 304) :=
    not_or.mpr body
  unfold Http.Response.text
  rw [if_neg given, Value.text, hcs]
  show Http.decodeBody _ (Text.utf8 (Value.object ms).chars) = _
  rw [hcs]
  exact Http.decodeBody_utf8 unicode (by decide) cs

end Service

/-! ## Failures -/

def Failure.ofResponse (r : Http.Response) : Failure :=
  .ofAnswer r.status ((Http.header? "retry-after" r.headers).bind Client.visible?) r.text

namespace Client

theorem outcome_refusal (c : Client) (e : Refusal) :
    c.outcome (Service.shared (Service.refusal e)) .complete = .error (.ofResponse (Service.refusal e)) := by
  have failed : Http.isSuccess (Service.shared (Service.refusal e)).status = false := by cases e <;> rfl
  unfold outcome Failure.ofResponse
  simp only [failed, Service.header?_shared "retry-after" _ (by decide), Service.text_shared,
    Bool.false_eq_true, if_false]
  rfl

theorem outcome_json (c : Client) {status : Nat} (good : status = 200 ∨ status = 201) (ms : List (String × Value)) :
    c.outcome (Service.shared (Service.json status (.object ms))) .complete = .ok (Value.object ms).text := by
  have succeeded : Http.isSuccess (Service.shared (Service.json status (.object ms))).status = true := by
    rcases good with rfl | rfl <;> rfl
  unfold outcome
  simp only [succeeded, Service.text_shared, Service.text_json status (by omega) ms, if_true]

theorem location?_refusal (r : Request) (e : Refusal) : location? r (Service.shared (Service.refusal e)) = none := by
  cases e <;> rfl

theorem location?_json (r : Request) {status : Nat} (good : status = 200 ∨ status = 201) (v : Value) :
    location? r (Service.shared (Service.json status v)) = none := by
  rcases good with rfl | rfl <;> rfl

theorem decode_text (call : Call) {α : Type} {read : Reads α} {v : Value} {a : α} (natural : v.IsNatural)
    (h : read v.doc = .ok a) : decode call read v.text = .ok a := by
  unfold decode
  rw [Json.readAll_text natural h]

/-- The service reads what the client wrote into the body of a request. -/
theorem readBody_text {α : Type} {read : Reads α} {v : Value} {a : α} (m : Http.Method) (url : Url)
    (natural : v.IsNatural) (h : read v.doc = .ok a) :
    Service.readBody read (Conversation.httpRequest ⟨m, url, some v.text⟩) = .ok a := by
  have typed : (!Service.isJson [⟨"content-type", "application/json"⟩]) = false := by decide
  have body : Text.decode (Conversation.httpRequest ⟨m, url, some v.text⟩).body = v.chars.map some := by
    show Text.decode (Text.utf8 v.text.toList) = _
    rw [Value.text, String.toList_ofList, Text.decode_utf8]
  unfold Service.readBody
  rw [body, Json.readFirst_chars natural h]
  exact if_neg (Bool.eq_false_iff.mp typed)

/-! ## Conversations of one request -/

def heard {α : Type} (c : Client) (call : Call) (read : Reads α) (response : Http.Response) : Except Failure α :=
  match c.outcome response .complete with
  | .error f => .error f
  | .ok body => decode call read body

section
variable (c : Client) (call : Call) {α : Type} {read : Reads α}

theorem heard_json {status : Nat} (good : status = 200 ∨ status = 201) {ms : List (String × Value)} {a : α}
    (natural : (Value.object ms).IsNatural) (h : read (Value.object ms).doc = .ok a) :
    c.heard call read (Service.shared (Service.json status (.object ms))) = .ok a := by
  rw [heard, c.outcome_json good]
  exact decode_text call natural h

theorem heard_refusal (read : Reads α) (e : Refusal) :
    c.heard call read (Service.shared (Service.refusal e)) = .error (.ofResponse (Service.refusal e)) := by
  rw [heard, c.outcome_refusal]

end

section
variable {s : Settings} {draw : Ledger → Occasion} {l l' : Ledger} {r : Request} (c : Client) {α : Type}

theorem onOutcome_stays {response : Http.Response} (h : location? r response = none) (body : Arrival)
    (again : Option (Request → Conversation (Except Failure (Http.Response × Arrival)))) :
    c.onOutcome r again (.reply response body) = .done (.ok (response, body)) := by
  simp only [onOutcome, h]

theorem serve_execute {response : Http.Response}
    (answered : Service.respond s (draw l) (Conversation.httpRequest r) l = (response, l'))
    (stays : location? r response = none) : (c.execute r).serve s draw l = (c.outcome response .complete, l') := by
  unfold execute maxRedirects
  simp only [bind, Conversation.bind, send, Conversation.serve, answered, c.onOutcome_stays stays]
  rfl

theorem serve_bind {β : Type} (p : Conversation α) (f : α → Conversation β) :
    (p >>= f).serve s draw l = (f (p.serve s draw l).1).serve s draw (p.serve s draw l).2 := by
  show (p.bind f).serve s draw l = _
  induction p generalizing l with
  | done a => rfl
  | ask r next ih => simp only [Conversation.bind, Conversation.serve, ih]

theorem serve_ask {response : Http.Response}
    (answered : Service.respond s (draw l) (Conversation.httpRequest r) l = (response, l'))
    (stays : location? r response = none) (call : Call) (read : Reads α) :
    (c.ask call read r).serve s draw l = (c.heard call read response, l') := by
  unfold ask heard
  rw [serve_bind, c.serve_execute answered stays]
  cases c.outcome response .complete <;> rfl

theorem serve_ask_ok {status : Nat} (good : status = 200 ∨ status = 201) {ms : List (String × Value)}
    (answered : Service.respond s (draw l) (Conversation.httpRequest r) l =
      (Service.shared (Service.json status (.object ms)), l'))
    (call : Call) {read : Reads α} {a : α} (natural : (Value.object ms).IsNatural)
    (h : read (Value.object ms).doc = .ok a) : (c.ask call read r).serve s draw l = (.ok a, l') := by
  rw [c.serve_ask answered (location?_json r good _), c.heard_json call good natural h]

theorem serve_ask_refused {e : Refusal}
    (answered : Service.respond s (draw l) (Conversation.httpRequest r) l = (Service.shared (Service.refusal e), l'))
    (call : Call) (read : Reads α) :
    (c.ask call read r).serve s draw l = (.error (.ofResponse (Service.refusal e)), l') := by
  rw [c.serve_ask answered (location?_refusal r e), c.heard_refusal]

theorem serve_tell_ok {status : Nat} (good : status = 200 ∨ status = 201) {ms : List (String × Value)}
    (answered : Service.respond s (draw l) (Conversation.httpRequest r) l =
      (Service.shared (Service.json status (.object ms)), l')) :
    (c.tell r).serve s draw l = (.ok (), l') := by
  unfold tell
  rw [serve_bind, c.serve_execute answered (location?_json r good _), c.outcome_json good]
  rfl

theorem serve_tell_refused {e : Refusal}
    (answered : Service.respond s (draw l) (Conversation.httpRequest r) l = (Service.shared (Service.refusal e), l')) :
    (c.tell r).serve s draw l = (.error (.ofResponse (Service.refusal e)), l') := by
  unfold tell
  rw [serve_bind, c.serve_execute answered (location?_refusal r e), c.outcome_refusal]
  rfl

/-! ## Operations behind a request -/

section
variable {β : Type} {route : Route} {n : UInt64} {a : β → Answer} {p : Except Refusal β × Ledger} {status : Nat}
  (good : status = 200 ∨ status = 201) {ms : β → List (String × Value)}
  (tells : ∀ b, Service.told route (a b) = Service.json status (.object (ms b)))
include good tells

/-- An operation's result is the client's, if the client reads what the service tells of it. -/
theorem serve_ask_answering (natural : ∀ b, (Value.object (ms b)).IsNatural)
    (answered : Service.respond s (draw l) (Conversation.httpRequest r) l =
      (Service.shared (Service.answer route (Ledger.answering a p).1), (Ledger.answering a p).2.withServed n))
    (call : Call) {read : Reads β} (reads : ∀ b, p.1 = .ok b → read (Value.object (ms b)).doc = .ok b) :
    (c.ask call read r).serve s draw l = (p.1.mapError fun e => .ofResponse (Service.refusal e), p.2.withServed n) := by
  obtain ⟨x, l'⟩ := p
  cases x with
  | ok b =>
    have told : Service.answer route (.ok (a b)) = _ := tells b
    rw [Ledger.answering, Except.map, told] at answered
    exact c.serve_ask_ok good answered call (natural b) (reads b rfl)
  | error e => exact c.serve_ask_refused answered call read

theorem serve_tell_answering
    (answered : Service.respond s (draw l) (Conversation.httpRequest r) l =
      (Service.shared (Service.answer route (Ledger.answering a p).1), (Ledger.answering a p).2.withServed n)) :
    (c.tell r).serve s draw l =
      ((p.1.map fun _ => ()).mapError fun e => .ofResponse (Service.refusal e), p.2.withServed n) := by
  obtain ⟨x, l'⟩ := p
  cases x with
  | ok b =>
    have told : Service.answer route (.ok (a b)) = _ := tells b
    rw [Ledger.answering, Except.map, told] at answered
    exact c.serve_tell_ok good answered
  | error e => exact c.serve_tell_refused answered

end

end

end Client

end AgentLedger
