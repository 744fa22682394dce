import AgentLedger.Proofs.Wire
/-!
# Reports survive their own text

A text may spell a report in many ways: members in any order, amounts as
numbers, times with an offset, statuses without a name here. What was read is
written in one way, and this one is read as the same report. Reading and
writing once more changes nothing.
-/

namespace AgentLedger.Report

open Json (Fault Reads Value)

def rewritten {α : Type} (read : Reads α) (write : α → Value) (s : String) : Except Fault String :=
  (Json.readAll read (Text.whole s)).map fun a => (write a).text

structure Survives {α : Type} (read : Reads α) (write : α → Value) : Prop where
  value : ∀ a, Json.readAll read (Text.whole (write a).text) = .ok a
  text : ∀ s, (rewritten read write s).bind (rewritten read write) = rewritten read write s

theorem Survives.of_read {α : Type} {read : Reads α} {write : α → Value} (natural : ∀ a, (write a).IsNatural)
    (back : ∀ a, read (write a).doc = .ok a) : Survives read write := by
  have value (a : α) := Json.readAll_text (natural a) (back a)
  refine ⟨value, fun s => ?_⟩
  cases h : Json.readAll read (Text.whole s) with
  | error e =>
    have refused : rewritten read write s = .error e := by rw [rewritten, h]; rfl
    rw [refused]
    rfl
  | ok a =>
    have once : rewritten read write s = .ok (write a).text := by rw [rewritten, h]; rfl
    rw [once]
    show rewritten read write (write a).text = _
    rw [rewritten, value a]
    rfl

/-- All that a wallet, a balance or a channel can hold comes back out of the text that is written for it. -/
theorem records_survive (room : Nat) :
    Survives Wallet.read (Wallet.json .exact) ∧ Survives (Balance.read room) (Balance.json .exact) ∧
      Survives (Channel.read room) Channel.json := by
  refine ⟨?_, ?_, ?_⟩
  · exact .of_read (fun w => w.json_isNatural) fun w => w.read_json .exact
  · exact .of_read (fun b => b.json_isNatural) fun b => b.read_json room .exact
  · exact .of_read (fun c => c.json_isNatural) fun c => c.read_json room

end AgentLedger.Report
