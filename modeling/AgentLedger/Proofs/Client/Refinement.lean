import AgentLedger.Ledger.Draw
import AgentLedger.Proofs.Client.Exchange
import AgentLedger.Proofs.Ledger.History
import AgentLedger.Proofs.Service.Routes
import AgentLedger.Proofs.Wire
/-!
# The client refines the ledger

A call of the client on a service without a limit does to the ledger what the
ledger's own operation does, and returns what that one answers. Each call is
followed through its path, its body, the route, the operation, the answer's
body and the client's reading of it.
-/

namespace AgentLedger

open Client (Conversation)
open Service (Route)

inductive Errand : Type → Type where
  | addWallet (agent : String) : Errand Report.Wallet
  | readWallet (agent : String) : Errand (Option Report.Wallet)
  | readBalances (agent : String) : Errand (List Report.Balance)
  | readBalance (agent : String) (asset : Asset) : Errand Amount
  | openChannel (agent peer : String) (asset : Asset) (amount : Amount) : Errand String
  | pay (agent channel : String) (amount : Amount) : Errand Unit
  | closeChannel (agent channel : String) : Errand Unit
  | readChannels (agent : String) : Errand (List Report.Channel)

namespace Errand
variable {α : Type}

def conversation (c : Client) : Errand α → Conversation (Except Failure α)
  | .addWallet agent => c.addWallet agent
  | .readWallet agent => c.readWallet agent
  | .readBalances agent => c.readBalances agent
  | .readBalance agent asset => c.readBalance agent asset
  | .openChannel agent peer asset amount => c.openChannel agent peer asset amount
  | .pay agent channel amount => c.pay agent channel amount
  | .closeChannel agent channel => c.closeChannel agent channel
  | .readChannels agent => c.readChannels agent

/-- The arguments that stand in the path of its request. -/
def inPath : Errand α → List String
  | .addWallet _ | .openChannel .. => []
  | .readWallet agent | .readBalances agent | .readChannels agent => [agent]
  | .readBalance agent asset => [agent, asset.chain, asset.token]
  | .pay _ channel _ | .closeChannel _ channel => [channel]

def direct (s : Settings) (o : Occasion) (l : Ledger) : Errand α → Except Refusal α × Ledger
  | .addWallet agent => Ledger.addWallet s o.now agent l
  | .readWallet agent => Ledger.answering some (Ledger.readWallet agent l)
  | .readBalances agent => (Ledger.balances agent l, l)
  | .readBalance agent asset => (Ledger.balance agent asset l, l)
  | .openChannel agent peer asset amount => Ledger.openChannel o ⟨agent, peer, asset, amount.text⟩ l
  | .pay agent channel amount => Ledger.answering (fun _ => ()) (Ledger.pay channel agent amount.text l)
  | .closeChannel agent channel => Ledger.answering (fun _ => ()) (Ledger.closeChannel o.now channel agent l)
  | .readChannels agent => (Ledger.channelsOf agent l, l)

/-- What the call returns for the operation's result. A refusal is the failure that its response stands for, but a
wallet that is not found is no failure of reading it. -/
def told : Errand α → Except Refusal α → Except Failure α
  | .readWallet _, .error (.walletNotFound _) => .ok none
  | _, r => r.mapError fun e => .ofResponse (Service.refusal e)

/-! ## Requests arrive -/

def request (c : Client) : Errand α → Client.Request
  | .addWallet agent => c.post ["wallets"] (Wire.creation agent)
  | .readWallet agent => c.get ["wallets", agent]
  | .readBalances agent => c.get ["wallets", agent, "balances"]
  | .readBalance agent asset => c.get ["wallets", agent, "balances", asset.chain, asset.token]
  | .openChannel agent peer asset amount => c.post ["channels"] (Wire.opening ⟨agent, peer, asset, amount.text⟩)
  | .pay agent channel amount => c.post ["channels", channel, "payments"] (Wire.payment agent amount.text)
  | .closeChannel agent channel => c.delete ["channels", channel] (Wire.closing agent)
  | .readChannels agent => c.get ["wallets", agent, "channels"]

def route : Errand α → Route
  | .addWallet _ => .wallets
  | .readWallet agent => .wallet agent
  | .readBalances agent => .balances agent
  | .readBalance agent asset => .balance agent asset.chain asset.token
  | .openChannel .. => .channels
  | .pay _ channel _ => .payments channel
  | .closeChannel _ channel => .channel channel
  | .readChannels agent => .channelsOf agent

def operation : Errand α → Operation
  | .addWallet agent => .addWallet agent
  | .readWallet agent => .readWallet agent
  | .readBalances agent => .balances agent
  | .readBalance agent asset => .balance agent asset
  | .openChannel agent peer asset amount => .openChannel ⟨agent, peer, asset, amount.text⟩
  | .pay agent channel amount => .pay channel agent amount.text
  | .closeChannel agent channel => .closeChannel channel agent
  | .readChannels agent => .channelsOf agent

section
variable {c : Client}

/-- The route of an errand's request, its parameters as they were sent. -/
theorem found (base : Url.openEnd c.base.path = Route.apiPath) (e : Errand α) (segments : ∀ x ∈ e.inPath, IsSegment x) :
    ∃ raw, Route.ofTarget? (e.request c).url.target = some raw ∧ raw.isCounted = true ∧
      (e.request c).method = raw.method ∧ raw.decode = .ok e.route := by
  have arrive {path : List String} (h : ∀ x ∈ path, x ∈ Route.words ∨ x ∈ e.inPath) :
      Route.ofTarget? (c.endpoint path).target =
        Route.ofApiSegments? (path.map fun x => String.ofList (Url.sent x)) :=
    Route.ofTarget?_extend base fun x hx => (h x hx).elim (Route.isSegment_word x) (segments x)
  have wallets := Route.sent_word "wallets" (by decide)
  have balances := Route.sent_word "balances" (by decide)
  have channels := Route.sent_word "channels" (by decide)
  have payments := Route.sent_word "payments" (by decide)
  -- An argument that comes last in a path is found only if it is not empty.
  cases e with
  | addWallet agent =>
    refine ⟨.wallets, ?_, rfl, rfl, rfl⟩
    refine (arrive (by simp [Route.words])).trans ?_
    simp [wallets, Route.ofApiSegments?]
  | readWallet agent =>
    have named := segments agent (by simp [inPath])
    refine ⟨.wallet (String.ofList (Url.sent agent)), ?_, rfl, rfl, ?_⟩
    · refine (arrive (by simp [Route.words, inPath])).trans ?_
      simp [wallets, Route.ofApiSegments?, Route.ofList_sent_ne_empty named.ne_empty]
    · simp [Route.decode, Route.parameter_sent, route]
  | readBalances agent =>
    refine ⟨.balances (String.ofList (Url.sent agent)), ?_, rfl, rfl, ?_⟩
    · refine (arrive (by simp [Route.words, inPath])).trans ?_
      simp [wallets, balances, Route.ofApiSegments?]
    · simp [Route.decode, Route.parameter_sent, route]
  | readBalance agent asset =>
    have token := segments asset.token (by simp [inPath])
    refine ⟨.balance (String.ofList (Url.sent agent)) (String.ofList (Url.sent asset.chain))
      (String.ofList (Url.sent asset.token)), ?_, rfl, rfl, ?_⟩
    · refine (arrive (by simp [Route.words, inPath])).trans ?_
      simp [wallets, balances, Route.ofApiSegments?, Route.ofList_sent_ne_empty token.ne_empty]
    · simp only [Route.decode, Route.parameter_sent, route]
      rfl
  | openChannel agent peer asset amount =>
    refine ⟨.channels, ?_, rfl, rfl, rfl⟩
    refine (arrive (by simp [Route.words])).trans ?_
    simp [channels, Route.ofApiSegments?]
  | pay agent channel amount =>
    refine ⟨.payments (String.ofList (Url.sent channel)), ?_, rfl, rfl, ?_⟩
    · refine (arrive (by simp [Route.words, inPath])).trans ?_
      simp [channels, payments, Route.ofApiSegments?]
    · simp [Route.decode, Route.parameter_sent, route]
  | closeChannel agent channel =>
    have named := segments channel (by simp [inPath])
    refine ⟨.channel (String.ofList (Url.sent channel)), ?_, rfl, rfl, ?_⟩
    · refine (arrive (by simp [Route.words, inPath])).trans ?_
      simp [channels, Route.ofApiSegments?, Route.ofList_sent_ne_empty named.ne_empty]
    · simp [Route.decode, Route.parameter_sent, route]
  | readChannels agent =>
    refine ⟨.channelsOf (String.ofList (Url.sent agent)), ?_, rfl, rfl, ?_⟩
    · refine (arrive (by simp [Route.words, inPath])).trans ?_
      simp [wallets, channels, Route.ofApiSegments?]
    · simp [Route.decode, Route.parameter_sent, route]

theorem asked (c : Client) (e : Errand α) :
    Service.operation? (Conversation.httpRequest (e.request c)) e.route = .ok (some e.operation) := by
  cases e with
  | readWallet _ | readBalances _ | readBalance _ _ | readChannels _ => rfl
  | addWallet agent =>
    have said := Client.readBody_text .post (c.endpoint ["wallets"]) (Wire.creation_isNatural agent)
      (Wire.readCreation_creation agent)
    simp only [request, Client.post, route, Service.operation?, said]
    rfl
  | openChannel agent peer asset amount =>
    have said := Client.readBody_text .post (c.endpoint ["channels"]) (Wire.opening_isNatural _)
      (Wire.readOpening_opening ⟨agent, peer, asset, amount.text⟩)
    simp only [request, Client.post, route, Service.operation?, said]
    rfl
  | pay agent channel amount =>
    have said := Client.readBody_text .post (c.endpoint ["channels", channel, "payments"])
      (Wire.payment_isNatural agent amount.text) (Wire.readPayment_payment agent amount.text)
    simp only [request, Client.post, route, Service.operation?, said]
    rfl
  | closeChannel agent channel =>
    have said := Client.readBody_text .delete (c.endpoint ["channels", channel]) (Wire.closing_isNatural agent)
      (Wire.readClosing_closing agent)
    simp only [request, Client.delete, route, Service.operation?, said]
    rfl

/-- The service does the operation that the errand asks for. -/
theorem respond_request {s : Settings} (unlimited : s.rateLimit = none)
    (base : Url.openEnd c.base.path = Route.apiPath) (o : Occasion) (l : Ledger) (e : Errand α)
    (segments : ∀ x ∈ e.inPath, IsSegment x) :
    Service.respond s o (Conversation.httpRequest (e.request c)) l =
      (Service.shared (Service.answer e.route (l.perform s o e.operation).1),
        (l.perform s o e.operation).2.withServed (l.served + 1)) := by
  obtain ⟨raw, arrived, api, method, decoded⟩ := e.found base segments
  have real : e.operation ≠ .countRequest := by cases e <;> exact nofun
  exact Service.respond_operation unlimited o l arrived api method decoded (e.asked c) real

/-! ## Answers come back -/

theorem createdAt_addWallet {s : Settings} {now : Timestamp} {agent : String} {l : Ledger} {w : Report.Wallet}
    (h : (Ledger.addWallet s now agent l).1 = .ok w) : w.createdAt.toMillis = w.createdAt := by
  unfold Ledger.addWallet at h
  repeat' split at h
  all_goals cases h
  exact Timestamp.toMillis_toMillis now

theorem createdAt_readWallet {agent : String} {l : Ledger} {w : Report.Wallet}
    (h : (Ledger.readWallet agent l).1 = .ok w) : w.createdAt.toMillis = w.createdAt := by
  unfold Ledger.readWallet at h
  split at h <;> cases h
  exact Timestamp.toMillis_toMillis _

theorem lastUpdated_balances {agent : String} {l : Ledger} {bs : List Report.Balance}
    (h : Ledger.balances agent l = .ok bs) : ∀ b ∈ bs, b.lastUpdated.toMillis = b.lastUpdated := by
  unfold Ledger.balances at h
  split at h <;> cases h
  intro b hb
  obtain ⟨held, -, rfl⟩ := List.mem_map.mp hb
  exact Timestamp.toMillis_toMillis held.updated

theorem refused_readWallet {agent : String} {l : Ledger} {e : Refusal} (h : (Ledger.readWallet agent l).1 = .error e) :
    e = .walletNotFound agent := by
  unfold Ledger.readWallet Ledger.findWallet at h
  cases found : l.wallet? agent with
  | some w => rw [found] at h; cases h
  | none => rw [found] at h; cases h; rfl

theorem isNotFound_walletNotFound (agent : String) :
    (Failure.ofResponse (Service.refusal (.walletNotFound agent))).isNotFound = true := rfl

theorem serve_readWallet {s : Settings} {draw : Ledger → Occasion} {agent : String} {l : Ledger} {n : UInt64}
    (asked : (c.ask .readWallet Wire.readWallet (c.get ["wallets", agent])).serve s draw l =
      ((Ledger.readWallet agent l).1.mapError fun e => .ofResponse (Service.refusal e),
        (Ledger.readWallet agent l).2.withServed n)) :
    (c.readWallet agent).serve s draw l =
      ((Errand.readWallet agent).told ((Ledger.readWallet agent l).1.map some),
        (Ledger.readWallet agent l).2.withServed n) := by
  unfold Client.readWallet
  rw [Client.serve_bind, asked]
  cases h : (Ledger.readWallet agent l).1 with
  | ok w => rfl
  | error e =>
    obtain rfl := refused_readWallet h
    simp only [Except.map, Except.mapError, isNotFound_walletNotFound, if_true]
    rfl

/-- On a service without a limit, a call leaves the ledger that the operation itself leaves, with one more request
counted, and returns what the operation answers. -/
theorem serve_conversation {s : Settings} (unlimited : s.rateLimit = none)
    (base : Url.openEnd c.base.path = Route.apiPath) (e : Errand α) (segments : ∀ x ∈ e.inPath, IsSegment x)
    (draw : Ledger → Occasion) (l : Ledger) :
    (e.conversation c).serve s draw l =
      (e.told (e.direct s (draw l) l).1, (e.direct s (draw l) l).2.withServed (l.served + 1)) := by
  have answered := respond_request unlimited base (draw l) l e segments
  cases e with
  | addWallet agent =>
    exact c.serve_ask_answering (.inr rfl) (fun _ => rfl) (fun w => w.json_isNatural) answered .addWallet
      fun w h => Wire.readWallet_json (createdAt_addWallet h)
  | readWallet agent =>
    exact serve_readWallet (c.serve_ask_answering (.inl rfl) (fun _ => rfl) (fun w => w.json_isNatural) answered .readWallet
      fun w h => Wire.readWallet_json (createdAt_readWallet h))
  | readBalances agent =>
    exact c.serve_ask_answering (.inl rfl) (fun _ => rfl) Wire.balances_isNatural answered .readBalances
      fun bs h => Wire.readBalances_balances (lastUpdated_balances h)
  | readBalance agent asset =>
    exact c.serve_ask_answering (.inl rfl) (fun _ => rfl) Wire.balance_isNatural answered .readBalance
      fun a _ => Wire.readBalance_balance a
  | openChannel agent peer asset amount =>
    exact c.serve_ask_answering (.inr rfl) (fun _ => rfl) Wire.opened_isNatural answered .openChannel
      fun id _ => Wire.readOpened_opened id
  | pay agent channel amount => exact c.serve_tell_answering (.inl rfl) (fun _ => rfl) answered
  | closeChannel agent channel => exact c.serve_tell_answering (.inl rfl) (fun _ => rfl) answered
  | readChannels agent =>
    exact c.serve_ask_answering (.inl rfl) (fun _ => rfl) Wire.channels_isNatural answered .readChannels
      fun cs _ => Wire.readChannels_channels cs

theorem ofConfig_default : ∃ c, Client.ofConfig {} = .ok c ∧ Url.openEnd c.base.path = Route.apiPath := by
  have path : ((Client.ofConfig {}).toOption.map fun c => Url.openEnd c.base.path) = some Route.apiPath := by
    decide +kernel
  cases made : Client.ofConfig {} with
  | error f => rw [made] at path; cases path
  | ok c => rw [made] at path; exact ⟨c, rfl, Option.some.inj path⟩

def nineGiven : List (Occasion × Operation) :=
  [(⟨.epoch, ""⟩, .addWallet "a/é"), (⟨.epoch, ""⟩, .credit "a/é" ⟨"evm", "USDC"⟩ "9")]

theorem nine_read :
    ∃ c, Client.ofConfig {} = .ok c ∧
      ((Errand.readBalance "a/é" ⟨"evm", "USDC"⟩).conversation c).serve {} (fun _ => ⟨.epoch, ""⟩)
        (Ledger.behind {} nineGiven) = (.ok ⟨9, by decide⟩, (Ledger.behind {} nineGiven).withServed 1) := by
  obtain ⟨c, made, base⟩ := ofConfig_default
  have held : Ledger.balance "a/é" ⟨"evm", "USDC"⟩ (Ledger.behind {} nineGiven) = .ok ⟨9, by decide⟩ := by
    decide +kernel
  have first : (Ledger.behind {} nineGiven).served + 1 = 1 := by decide +kernel
  have key := serve_conversation (s := {}) rfl base (.readBalance "a/é" ⟨"evm", "USDC"⟩) (by decide)
    (fun _ => ⟨.epoch, ""⟩) (Ledger.behind {} nineGiven)
  rw [first, direct, held] at key
  exact ⟨c, made, key⟩

end

end Errand

end AgentLedger
