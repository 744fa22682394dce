import AgentLedger.Proofs.Ledger.Soundness
/-!
# Histories

What a run did, operation by operation. Sums and lists over a history are what
the ledger behind the run is held against.
-/

namespace AgentLedger

structure Event where
  before : Ledger
  operation : Operation
  answer : Except Refusal Answer

/-- What is picked out of a history begins with what its first event gives. -/
theorem filterMap_cons_toList {α β : Type} (f : α → Option β) (a : α) (as : List α) :
    (a :: as).filterMap f = (f a).toList ++ as.filterMap f := by
  rw [List.filterMap_cons]
  cases f a <;> rfl

namespace Ledger

def history (s : Settings) : List (Occasion × Operation) → Ledger → List Event
  | [], _ => []
  | (o, op) :: rest, l => ⟨l, op, (perform s o op l).1⟩ :: history s rest (perform s o op l).2

/-- The ledger behind a run of a new service. -/
def behind (s : Settings) (ops : List (Occasion × Operation)) : Ledger := (run s ops empty).2

/-- The history of a run of a new service. -/
def past (s : Settings) (ops : List (Occasion × Operation)) : List Event := history s ops empty

section
variable (s : Settings)

theorem run_cons (o : Occasion) (op : Operation) (rest : List (Occasion × Operation)) (l : Ledger) :
    (run s ((o, op) :: rest) l).2 = (run s rest (perform s o op l).2).2 := rfl

theorem run_append (xs ys : List (Occasion × Operation)) (l : Ledger) :
    (run s (xs ++ ys) l).2 = (run s ys (run s xs l).2).2 := by
  induction xs generalizing l with
  | nil => rfl
  | cons x xs ih => rw [List.cons_append, run_cons, run_cons, ih]

theorem history_append (xs ys : List (Occasion × Operation)) (l : Ledger) :
    history s (xs ++ ys) l = history s xs l ++ history s ys (run s xs l).2 := by
  induction xs generalizing l with
  | nil => rfl
  | cons x xs ih => rw [List.cons_append, history, history, ih, run_cons]; rfl

theorem behind_append (xs ys : List (Occasion × Operation)) : behind s (xs ++ ys) = (run s ys (behind s xs)).2 :=
  run_append s xs ys empty

theorem past_append (xs ys : List (Occasion × Operation)) : past s (xs ++ ys) = past s xs ++ history s ys (behind s xs) :=
  history_append s xs ys empty

/-- A list that each operation adds to as its event says is behind a run what it was, and what the history says. -/
theorem run_adds {β : Type} {v : Ledger → List β} {f : Event → Option β}
    (step : ∀ o op l, v (perform s o op l).2 = v l ++ (f ⟨l, op, (perform s o op l).1⟩).toList)
    (ops : List (Occasion × Operation)) (l : Ledger) : v (run s ops l).2 = v l ++ (history s ops l).filterMap f := by
  induction ops generalizing l with
  | nil => exact (List.append_nil _).symm
  | cons x ops ih =>
    obtain ⟨o, op⟩ := x
    rw [run_cons, ih, step, history, filterMap_cons_toList, List.append_assoc]

theorem Sound.run {l : Ledger} (hl : l.Sound) (ops : List (Occasion × Operation)) : (Ledger.run s ops l).2.Sound := by
  induction ops generalizing l with
  | nil => exact hl
  | cons x ops ih => rw [run_cons]; exact ih (hl.perform s x.1 x.2)

theorem behind_sound (ops : List (Occasion × Operation)) : (behind s ops).Sound := sound_empty.run s ops

end

end Ledger

end AgentLedger
