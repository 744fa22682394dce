import AgentLedger.Ledger.Draw
import AgentLedger.Proofs.Ledger.History
import AgentLedger.Proofs.Service.Operations
/-!
# What a request does

A request is counted, if it counts, and is then turned away or handled. A
handled request either writes nothing or has one operation of the ledger
accepted, and is told so with a status of success. So a request that fails
leaves nothing behind but its count.
-/

namespace AgentLedger

def Settings.unlimited (s : Settings) : Settings := { s with rateLimit := none }

namespace Ledger

theorem perform_unlimited (s : Settings) (o : Occasion) {op : Operation} (h : op ≠ .countRequest) (l : Ledger) :
    perform s.unlimited o op l = perform s o op l := by
  cases op with
  | countRequest => exact absurd rfl h
  | _ => rfl

theorem countRequest_of_spent {s : Settings} {l : Ledger} {limit : UInt64} (limited : s.rateLimit = some limit)
    (spent : limit < l.served + 1) :
    l.countRequest s = (.error (.rateLimited s.retryAfterSecs), l.withServed (l.served + 1)) := by
  unfold countRequest
  rw [limited]
  exact if_pos spent

theorem countRequest_of_left {s : Settings} {l : Ledger} (left : ∀ limit, s.rateLimit = some limit → l.served + 1 ≤ limit) :
    l.countRequest s = (.ok (), l.withServed (l.served + 1)) := by
  unfold countRequest
  cases h : s.rateLimit with
  | none => rfl
  | some limit => exact if_neg (UInt64.not_lt.mpr (left limit h))

end Ledger

namespace Service

/-- Whether a request counts towards the limit: it takes a route of the API, with any method but `OPTIONS`. -/
def counts (r : Http.Request) : Bool := r.method ≠ .options && (Route.ofTarget? r.target).any (·.isCounted)

def counted (r : Http.Request) (l : Ledger) : Ledger := if counts r then l.withServed (l.served + 1) else l

/-- An answer to `HEAD` on a route that serves it has no body. -/
def clipped (route : Route) (r : Http.Request) (response : Http.Response) : Http.Response :=
  if r.method = .head ∧ route.serves .head then { response with body := [] } else response

/-- What becomes of a request that is not turned away, its count aside. -/
def handle (s : Settings) (o : Occasion) (r : Http.Request) (l : Ledger) : Http.Response × Ledger :=
  if r.method = .options then (shared (options (Route.ofTarget? r.target)), l)
  else
    match Route.ofTarget? r.target with
    | none => (shared (empty 404), l)
    | some route =>
      let answered := if route.serves r.method then serve s o route r l else (withHeader "allow" route.allow (empty 405), l)
      (shared (clipped route r answered.1), answered.2)

section
variable {s : Settings} (o : Occasion) {r : Http.Request} {l : Ledger}

theorem counts_of_route {route : Route} (found : Route.ofTarget? r.target = some route) (asked : r.method ≠ .options) :
    counts r = route.isCounted := by
  simp [counts, found, asked]

theorem respond_of_left
    (left : counts r = true → ∀ limit, s.rateLimit = some limit → l.served + 1 ≤ limit) :
    respond s o r l = handle s o r (counted r l) := by
  unfold respond handle
  by_cases asked : r.method = .options
  · have free : counts r = false := by simp [counts, asked]
    simp [asked, counted, free]
  rw [if_neg asked, if_neg asked]
  cases found : Route.ofTarget? r.target with
  | none =>
    have free : counts r = false := by simp [counts, found]
    simp [counted, free]
  | some route =>
    have admitted : countRequest s route l = (.ok (), counted r l) := by
      unfold countRequest counted
      rw [counts_of_route found asked]
      split
      · rename_i api
        exact Ledger.countRequest_of_left (left (by rw [counts_of_route found asked, api]))
      · rfl
    simp only [onRoute, admitted, clipped]
    cases route.serves r.method <;> rfl

theorem header?_withHeader {name added : String} (value : String) (response : Http.Response)
    (other : Http.lowerCase added ≠ Http.lowerCase name) :
    Http.header? name (withHeader added value response).headers = Http.header? name response.headers := by
  unfold Http.header? withHeader
  rw [List.find?_cons_of_neg (by simpa using other)]

theorem header?_refusal_rateLimited (seconds : UInt64) :
    Http.header? "retry-after" (refusal (.rateLimited seconds)).headers = some (Text.decimal seconds.toNat) := by
  unfold Http.header? refusal withHeader
  dsimp only [verdict]
  rw [List.find?_cons_of_pos (by simp)]
  rfl

structure IsTurnedAway (seconds : UInt64) (r : Http.Request) (response : Http.Response) : Prop where
  status : response.status = 429
  header : Http.header? "retry-after" response.headers = some (Text.decimal seconds.toNat)
  body : r.method ≠ .head → response.body = Text.utf8 (Json.Value.object [("error", .string "Rate limit exceeded"),
    ("code", .string "RATE_LIMITED"), ("retryAfter", .ofNat seconds.toNat)]).chars

theorem respond_of_spent {limit : UInt64} (limited : s.rateLimit = some limit) (api : counts r = true)
    (spent : limit < l.served + 1) :
    IsTurnedAway s.retryAfterSecs r (respond s o r l).1 ∧ (respond s o r l).2 = counted r l := by
  obtain ⟨asked, route, found, isCounted⟩ :
      r.method ≠ .options ∧ ∃ route, Route.ofTarget? r.target = some route ∧ route.isCounted = true := by
    simpa [counts, Option.any_eq_true] using api
  have refused : countRequest s route l = (.error (.rateLimited s.retryAfterSecs), counted r l) := by
    rw [countRequest, if_pos isCounted, Ledger.countRequest_of_spent limited spent, counted, if_pos api]
  unfold respond
  simp only [asked, found, onRoute, refused, if_false]
  -- A wrong method gets the right ones on top, and the answer to `HEAD` has lost its body.
  refine ⟨⟨?_, ?_, fun whole => ?_⟩, trivial⟩
  · cases route.serves r.method <;> split <;> rfl
  · rw [header?_shared _ _ (by decide)]
    have delay := header?_refusal_rateLimited s.retryAfterSecs
    have other : Http.lowerCase "allow" ≠ Http.lowerCase "retry-after" := by decide
    cases route.serves r.method <;> split <;>
      simpa only [Bool.false_eq_true, if_true, if_false, id, header?_withHeader _ _ other] using delay
  · simp only [whole, false_and, if_false]
    cases route.serves r.method <;> rfl

/-! ## Handling -/

theorem operation?_real {r : Http.Request} {route : Route} {op : Operation} (h : operation? r route = .ok (some op)) :
    op ≠ .countRequest := by
  rintro rfl
  cases route with
  | wallets | channels | credit _ | channel _ | payments _ =>
    simp only [operation?, bind, Except.bind, pure, Except.pure] at h
    split at h <;> cases h
  | _ => cases h

theorem serve_cases (s : Settings) (o : Occasion) (route : Route) (r : Http.Request) (l : Ledger) :
    (serve s o route r l).2 = l ∨ ∃ op a decoded, op ≠ .countRequest ∧ l.perform s o op = (.ok a, (serve s o route r l).2) ∧
      (serve s o route r l).1 = told decoded a := by
  unfold serve
  split
  · exact .inl rfl
  · rename_i decoded _
    split
    · exact .inl rfl
    · exact .inl rfl
    · rename_i op asked
      have real := operation?_real asked
      split
      · rename_i e l' refused
        refine .inl ?_
        have unchanged := Ledger.perform_refused (congrArg Prod.fst refused)
        rw [refused] at unchanged
        exact unchanged.resolve_right fun h => real h.1
      · rename_i a l' accepted
        exact .inr ⟨op, a, decoded, real, accepted, rfl⟩

theorem handle_cases (s : Settings) (o : Occasion) (r : Http.Request) (l : Ledger) :
    (handle s o r l).2 = l ∨ ∃ op a route, op ≠ .countRequest ∧ l.perform s o op = (.ok a, (handle s o r l).2) ∧
      (handle s o r l).1.status = (told route a).status := by
  unfold handle
  split
  · exact .inl rfl
  · split
    · exact .inl rfl
    · rename_i route _
      dsimp only
      split
      · rcases serve_cases s o route r l with unchanged | ⟨op, a, decoded, real, accepted, answer⟩
        · exact .inl unchanged
        · refine .inr ⟨op, a, decoded, real, accepted, ?_⟩
          rw [← answer, clipped]
          split <;> rfl
      · exact .inl rfl

/-- A request is counted, and writes nothing else or has one operation accepted. -/
theorem respond_cases (s : Settings) (o : Occasion) (r : Http.Request) (l : Ledger) :
    (respond s o r l).2 = counted r l ∨ ∃ op a route, op ≠ .countRequest ∧
      (counted r l).perform s o op = (.ok a, (respond s o r l).2) ∧
      (respond s o r l).1.status = (told route a).status := by
  by_cases spent : counts r = true ∧ ∃ limit, s.rateLimit = some limit ∧ limit < l.served + 1
  · obtain ⟨api, limit, limited, spent⟩ := spent
    exact .inl (respond_of_spent o limited api spent).2
  · rw [respond_of_left o fun api limit limited => UInt64.not_lt.mp fun h => spent ⟨api, limit, limited, h⟩]
    exact handle_cases s o r (counted r l)

/-- What counting and every operation keep, a request keeps. -/
theorem respond_keeps {P : Ledger → Prop} (counting : ∀ l n, P l → P (l.withServed n))
    (operating : ∀ op l, P l → P (l.perform s o op).2) (r : Http.Request) (h : P l) : P (respond s o r l).2 := by
  have hc : P (counted r l) := by
    unfold counted
    split
    · exact counting l _ h
    · exact h
  rcases respond_cases s o r l with same | ⟨op, a, route, -, accepted, -⟩
  · rwa [same]
  · have kept := operating op _ hc
    rwa [accepted] at kept

theorem told_status (route : Route) (a : Answer) : (told route a).status = 200 ∨ (told route a).status = 201 := by
  unfold told
  split <;> simp [json, empty]

/-- A request that is answered with a status of failure leaves the ledger as it was, but for its count; so does an
operation that is refused. -/
theorem failure_changes_nothing (s : Settings) (o : Occasion) (l : Ledger) :
    (∀ r, 400 ≤ (respond s o r l).1.status → (respond s o r l).2 = l ∨ (respond s o r l).2 = l.withServed (l.served + 1)) ∧
    ∀ op e, (l.perform s o op).1 = .error e →
      (l.perform s o op).2 = l ∨ op = .countRequest ∧ (l.perform s o op).2 = l.withServed (l.served + 1) := by
  refine ⟨fun r failed => ?_, fun op e refused => Ledger.perform_refused refused⟩
  rcases respond_cases s o r l with unchanged | ⟨op, a, route, -, -, answer⟩
  · rw [unchanged, counted]
    split
    · exact .inr rfl
    · exact .inl rfl
  · rw [answer] at failed
    rcases told_status route a with good | good <;> omega

def fiveGiven : Ledger :=
  .behind {} [(⟨.epoch, ""⟩, .addWallet "alice"), (⟨.epoch, ""⟩, .credit "alice" ⟨"evm", "USDC"⟩ "5")]

def nineIntoChannel : Terms := ⟨"alice", "bob", ⟨"evm", "USDC"⟩, "9"⟩

def openingRequest (t : Terms) : Http.Request :=
  ⟨.post, "/api/v1/channels", [⟨"content-type", "application/json"⟩], Text.utf8 (Wire.opening t).chars⟩

def overdraft : Http.Response × Ledger := respond {} ⟨.epoch, "ch"⟩ (openingRequest nineIntoChannel) fiveGiven

theorem overdraft_changes_nothing :
    overdraft.1.status = 400 ∧ (overdraft.2 = fiveGiven ∨ overdraft.2 = fiveGiven.withServed (fiveGiven.served + 1)) ∧
      ∃ e, (fiveGiven.perform {} ⟨.epoch, "ch"⟩ (.openChannel nineIntoChannel)).1 = .error e ∧
        (fiveGiven.perform {} ⟨.epoch, "ch"⟩ (.openChannel nineIntoChannel)).2 = fiveGiven := by
  have failed : overdraft.1.status = 400 := by decide +kernel
  have refused : (fiveGiven.perform {} ⟨.epoch, "ch"⟩ (.openChannel nineIntoChannel)).1 =
      .error (.insufficientFunds "wallet holds 5 USDC, channel needs 9") := by decide +kernel
  obtain ⟨request, operation⟩ := failure_changes_nothing {} ⟨.epoch, "ch"⟩ fiveGiven
  refine ⟨failed, request _ failed.ge, _, refused, ?_⟩
  exact (operation _ _ refused).resolve_right fun h => nomatch h.1

/-! ## What handling does not look at -/

theorem serve_unlimited (s : Settings) (route : Route) (r : Http.Request) (l : Ledger) :
    serve s.unlimited o route r l = serve s o route r l := by
  unfold serve
  split
  · rfl
  · split
    · rfl
    · rfl
    · rename_i op asked
      rw [Ledger.perform_unlimited s o (operation?_real asked)]

theorem serve_withServed (s : Settings) (route : Route) (r : Http.Request) (n : UInt64) (l : Ledger) :
    serve s o route r (l.withServed n) = ((serve s o route r l).1, (serve s o route r l).2.withServed n) := by
  unfold serve
  split
  · rfl
  · split
    · rfl
    · rfl
    · rename_i op asked
      rw [Ledger.perform_withServed n l s o (operation?_real asked)]
      generalize l.perform s o op = p
      obtain ⟨e | a, l'⟩ := p <;> rfl

theorem handle_unlimited (s : Settings) (r : Http.Request) (l : Ledger) : handle s.unlimited o r l = handle s o r l := by
  unfold handle
  simp only [serve_unlimited]

theorem handle_withServed (s : Settings) (r : Http.Request) (n : UInt64) (l : Ledger) :
    handle s o r (l.withServed n) = ((handle s o r l).1, (handle s o r l).2.withServed n) := by
  unfold handle
  split
  · rfl
  · split
    · rfl
    · rw [serve_withServed]
      dsimp only
      split <;> rfl

end

end Service

end AgentLedger
