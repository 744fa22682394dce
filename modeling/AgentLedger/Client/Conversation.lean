import AgentLedger.Http.Message
import AgentLedger.Service
import AgentLedger.Url
/-!
# Conversations

What a client does is a tree: it is done, or it sends a request and goes on
with what comes of it. The same tree is played against a script of outcomes or
against a service in memory.
-/

namespace AgentLedger.Client

structure Request where
  method : Http.Method
  url : Url
  /-- The body, JSON text. -/
  body : Option String

/-- How far a response's body came. -/
inductive Arrival where
  | complete
  /-- The connection was closed within the body. -/
  | broken
  /-- Nothing more came within the limit. -/
  | stalled
deriving DecidableEq, Repr

/-- What comes of a request. -/
inductive Outcome where
  | reply (r : Http.Response) (body : Arrival)
  /-- The connection failed. -/
  | lost
  /-- Nothing came within the limit. -/
  | late

inductive Conversation (α : Type) where
  | done (a : α)
  | ask (r : Request) (next : Outcome → Conversation α)

namespace Conversation

def bind : Conversation α → (α → Conversation β) → Conversation β
  | .done a, f => f a
  | .ask r next, f => .ask r fun o => (next o).bind f

instance : Monad Conversation where
  pure := .done
  bind := Conversation.bind

/-! ## Scripts -/

/-- Who answers by a script. Requests that no outcome is left for are lost; if
the peer cannot be reached, all are lost before they are sent. -/
structure Peer where
  reachable : Bool
  script : List Outcome

/-- The result, the requests that were sent, and the outcomes that are left. -/
def play : Conversation α → Peer → α × List Request × List Outcome
  | .done a, p => (a, [], p.script)
  | .ask _ next, ⟨false, os⟩ => (next .lost).play ⟨false, os⟩
  | .ask r next, ⟨true, []⟩ =>
    let (a, sent, left) := (next .lost).play ⟨true, []⟩
    (a, r :: sent, left)
  | .ask r next, ⟨true, o :: os⟩ =>
    let (a, sent, left) := (next o).play ⟨true, os⟩
    (a, r :: sent, left)

/-! ## A service in memory -/

def httpRequest (r : Request) : Http.Request where
  method := r.method
  target := r.url.target
  headers := match r.body with
    | some _ => [⟨"content-type", "application/json"⟩]
    | none => []
  body := Text.utf8 (r.body.getD "").toList

/-- The result, and the ledger behind it. Each request has an occasion drawn for it. -/
def serve (s : Settings) (draw : Ledger → Occasion) : Conversation α → Ledger → α × Ledger
  | .done a, l => (a, l)
  | .ask r next, l =>
    let (response, l) := Service.respond s (draw l) (httpRequest r) l
    (next (.reply response .complete)).serve s draw l

end Conversation

end AgentLedger.Client
