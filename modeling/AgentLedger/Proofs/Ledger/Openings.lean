import Mathlib.Data.List.Forall2
import AgentLedger.Proofs.Ledger.ChannelLife
/-!
# Channels in the order of their opening

The list of channels only grows, at its end, by the channel that an opening
answers. Payments and closings change records where they stand, so that list
and history of openings agree in everything that an opening settles.
-/

namespace AgentLedger

def Channel.asOpened (c : Channel) : Channel := { c with balance := c.deposit, payments := 0, closed := false }

def Event.opening? (e : Event) : Option Channel :=
  match e.operation, e.answer with
  | .openChannel t, .ok (.opened id) => (Ledger.readAmount t.amount).toOption.map (t.channel id)
  | _, _ => none

def openings (es : List Event) : List Channel := es.filterMap (·.opening?)

namespace Ledger
variable {s : Settings} {o : Occasion} {l : Ledger}

theorem opening?_refused (op : Operation) (r : Refusal) : Event.opening? ⟨l, op, .error r⟩ = none := by
  cases op <;> rfl

def origins (l : Ledger) : List Channel := l.channels.map (·.asOpened)

theorem origins_updateChannel (l : Ledger) (id : String) {f : Channel → Channel}
    (hf : ∀ c, (f c).asOpened = c.asOpened) : (l.updateChannel id f).origins = l.origins :=
  map_updateFirst fun c _ => hf c

theorem origins_effect {op : Operation} {a : Answer} {l' : Ledger} (e : Effect s o l op a l') :
    l'.origins = l.origins ++ (Event.opening? ⟨l, op, .ok a⟩).toList := by
  cases e with
  | opened t x w h _ _ _ amount =>
    have told : Event.opening? ⟨l, .openChannel t, .ok (.opened o.freshId)⟩ = some (t.channel o.freshId x) := by
      simp only [Event.opening?, amount]
      rfl
    rw [told]
    exact List.map_append
  | paid id agent raw x =>
    rw [origins_updateChannel l id (f := Channel.paid x) fun _ => rfl]
    exact (List.append_nil _).symm
  | closed id agent c =>
    have same : (l.withClosed o.now c).origins = (l.updateChannel c.id Channel.ended).origins := rfl
    rw [same, origins_updateChannel l c.id (f := Channel.ended) fun _ => rfl]
    exact (List.append_nil _).symm
  | counted | added | read | balances | balance | credited | channelsOf | channel => exact (List.append_nil _).symm

theorem origins_perform (s : Settings) (o : Occasion) (op : Operation) (l : Ledger) :
    (perform s o op l).2.origins = l.origins ++ (Event.opening? ⟨l, op, (perform s o op l).1⟩).toList := by
  cases answer : (perform s o op l).1 with
  | ok a => exact origins_effect (perform_effect answer)
  | error r =>
    rw [opening?_refused, origins, channels_refused answer]
    exact (List.append_nil _).symm

theorem origins_run (s : Settings) (ops : List (Occasion × Operation)) (l : Ledger) :
    (run s ops l).2.origins = l.origins ++ openings (history s ops l) := run_adds s (origins_perform s) ops l

/-! ## Runs of a new service -/

section
variable (s : Settings) (ops : List (Occasion × Operation))

theorem origins_behind : (behind s ops).origins = openings (past s ops) := origins_run s ops empty

theorem id_of_openings : (openings (past s ops)).map (·.id) = opened (past s ops) := by
  rw [← origins_behind, ← ids_behind, origins, List.map_map]
  rfl

theorem openings_owned (agent : String) :
    (openings (past s ops)).filter (·.owner == agent) =
      ((behind s ops).channels.filter (·.owner == agent)).map (·.asOpened) := by
  rw [← origins_behind, origins, List.filter_map]
  rfl

variable {s ops} (distinct : (opened (past s ops)).Nodup)
include distinct

theorem later_of_mem {c : Channel} (hc : c ∈ (behind s ops).channels) :
    c.asOpened.Later (paidOn c.id (past s ops)) (closings c.id (past s ops)) c := by
  have unique : (behind s ops).ids.Nodup := by rwa [ids_behind]
  have found := channel?_of_mem unique hc
  rcases born_run s ops (show empty.channel? c.id = none from rfl) with ⟨absent, -⟩ | ⟨t, x, d, -, found', later⟩
  · rw [behind, absent] at found
    cases found
  · obtain rfl : d = c := Option.some.inj (found'.symm.trans found)
    have origin : d.asOpened = t.channel d.id x := by
      rw [Channel.asOpened, later.owner, later.peer, later.asset, later.deposit]
      rfl
    rw [origin]
    exact later

/-- The channels of one agent, each behind its own payments and its closing. -/
theorem owned_later (agent : String) :
    List.Forall₂ (fun c c' => Channel.Later c (paidOn c.id (past s ops)) (closings c.id (past s ops)) c')
      ((openings (past s ops)).filter (·.owner == agent)) ((behind s ops).channels.filter (·.owner == agent)) := by
  rw [openings_owned, List.forall₂_map_left_iff, List.forall₂_same]
  intro c hc
  exact later_of_mem distinct (List.mem_of_mem_filter hc)

end

end Ledger

end AgentLedger
