import AgentLedger.Service
/-!
# Requests that ask the ledger

What the service does with a good request on a route of the API: it counts it,
asks the ledger once, and tells the answer. Nothing but counting touches the
count of requests, so that the operation may as well be asked before.
-/

namespace AgentLedger

/-! ## The count of requests -/

namespace Ledger

def withServed (n : UInt64) (l : Ledger) : Ledger := { l with served := n }

section
variable (n : UInt64) (l : Ledger)

@[simp] theorem wallet?_withServed (agent : String) : (l.withServed n).wallet? agent = l.wallet? agent := rfl

@[simp] theorem findWallet_withServed (agent : String) : (l.withServed n).findWallet agent = l.findWallet agent := rfl

@[simp] theorem findHolding_withServed (agent : String) (a : Asset) :
    (l.withServed n).findHolding agent a = l.findHolding agent a := rfl

@[simp] theorem findOwned_withServed (id agent : String) : (l.withServed n).findOwned id agent = l.findOwned id agent := rfl

/-! Nothing but counting looks at the count, or writes to it. -/

theorem addWallet_withServed (s : Settings) (now : Timestamp) (agent : String) :
    addWallet s now agent (l.withServed n) = (addWallet s now agent l).map id (withServed n) := by
  unfold addWallet
  rw [wallet?_withServed]
  repeat' split
  all_goals rfl

theorem readWallet_withServed (agent : String) :
    readWallet agent (l.withServed n) = (readWallet agent l).map id (withServed n) := by
  unfold readWallet
  rw [findWallet_withServed]
  split <;> rfl

theorem credit_withServed (now : Timestamp) (agent : String) (a : Asset) (x : Amount) :
    credit now agent a x (l.withServed n) = (credit now agent a x l).map id (withServed n) := by
  unfold credit
  rw [findHolding_withServed]
  repeat' split
  all_goals rfl

theorem openChannel_withServed (o : Occasion) (t : Terms) :
    openChannel o t (l.withServed n) = (openChannel o t l).map id (withServed n) := by
  unfold openChannel
  rw [findHolding_withServed]
  repeat' split
  all_goals rfl

theorem pay_withServed (i agent raw : String) :
    pay i agent raw (l.withServed n) = (pay i agent raw l).map id (withServed n) := by
  unfold pay
  rw [findOwned_withServed]
  repeat' split
  all_goals rfl

theorem closeChannel_withServed (now : Timestamp) (i agent : String) :
    closeChannel now i agent (l.withServed n) = (closeChannel now i agent l).map id (withServed n) := by
  unfold closeChannel
  rw [findOwned_withServed]
  split <;> rfl

theorem perform_withServed (s : Settings) (o : Occasion) {op : Operation} (h : op ≠ .countRequest) :
    perform s o op (l.withServed n) = ((perform s o op l).1, (perform s o op l).2.withServed n) := by
  cases op with
  | countRequest => exact absurd rfl h
  | addWallet agent => rw [perform, addWallet_withServed]; rfl
  | readWallet agent => rw [perform, readWallet_withServed]; rfl
  | credit agent a raw =>
    rw [perform, perform]
    split
    · rfl
    · rw [credit_withServed]
      rfl
  | openChannel t => rw [perform, openChannel_withServed]; rfl
  | pay id agent raw => rw [perform, pay_withServed]; rfl
  | closeChannel id agent => rw [perform, closeChannel_withServed]; rfl
  | balances _ | balance _ _ | channelsOf _ | channel _ => rfl

end

end Ledger

/-! ## Headers -/

theorem Http.header?_append {name : String} {hs added : List Header}
    (other : ∀ h ∈ added, lowerCase h.name ≠ lowerCase name) : header? name (hs ++ added) = header? name hs := by
  have none_ : added.find? (fun h => lowerCase h.name == lowerCase name) = none := by
    rw [List.find?_eq_none]
    intro h hh
    simpa using other h hh
  unfold header?
  rw [List.find?_append, none_, Option.or_none]

/-! ## Serving -/

namespace Service

theorem header?_shared (name : String) (r : Http.Response)
    (other : ∀ n ∈ ["access-control-allow-origin", "vary"], Http.lowerCase n ≠ Http.lowerCase name) :
    Http.header? name (shared r).headers = Http.header? name r.headers := by
  refine Http.header?_append fun h hh => ?_
  simp only [List.mem_cons, List.not_mem_nil, or_false] at hh
  rcases hh with rfl | rfl
  · exact other _ (by simp)
  · exact other _ (by simp)

def answer (route : Route) : Except Refusal Answer → Http.Response
  | .error e => refusal e
  | .ok a => told route a

/-- A good request on a route of the API does what the operation that it asks for does, and is counted. -/
theorem respond_operation {s : Settings} (unlimited : s.rateLimit = none) (o : Occasion) (l : Ledger)
    {r : Http.Request} {raw route : Route} {op : Operation} (found : Route.ofTarget? r.target = some raw)
    (api : raw.isCounted = true) (method : r.method = raw.method) (decoded : raw.decode = .ok route)
    (asked : operation? r route = .ok (some op)) (real : op ≠ .countRequest) :
    respond s o r l =
      (shared (answer route (l.perform s o op).1), (l.perform s o op).2.withServed (l.served + 1)) := by
  -- The count goes up before the ledger is asked; the operation does not see it.
  have served := Ledger.perform_withServed (l.served + 1) l s o real
  have right : raw.serves raw.method = true := by simp [Route.serves]
  have notOptions : raw.method ≠ .options := by cases raw <;> simp [Route.method]
  have notHead : raw.method ≠ .head := by cases raw <;> simp [Route.method]
  have counted : countRequest s raw l = (.ok (), l.withServed (l.served + 1)) := by
    rw [countRequest, if_pos api, Ledger.countRequest, unlimited]
    rfl
  have inner : serve s o raw r (l.withServed (l.served + 1)) =
      (answer route (l.perform s o op).1, (l.perform s o op).2.withServed (l.served + 1)) := by
    unfold serve
    simp only [decoded, asked, served]
    cases (l.perform s o op).1 <;> rfl
  unfold respond onRoute
  simp only [method, notOptions, notHead, found, right, counted, inner, if_true, if_false, false_and]

end Service

end AgentLedger
