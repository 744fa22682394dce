import AgentLedger.Proofs.Client.Calls
import AgentLedger.Proofs.Client.Refusals
/-!
# Batches of newcomers

What a batch does to a service that nobody else talks to. An agent that has no
wallet gets one at its first place in the batch, and is skipped at every other
place. A blank name ends the batch; what was done before it stays.
-/

namespace AgentLedger

open Client (Batch)

/-! ## Places -/

/-- The agent at this place of a batch has no wallet when its turn comes. -/
def isFirst (known agents : List String) (p : String × Nat) : Bool := decide (p.1 ∉ known ∧ p.1 ∉ agents.take p.2)

def atPlaces (first : Bool) (known agents : List String) : List String :=
  (agents.zipIdx.filter fun p => isFirst known agents p == first).map (·.1)

def newcomers (known agents : List String) : List String := atPlaces true known agents

def repeated (known agents : List String) : List String := atPlaces false known agents

section
variable {known : List String} (first : Bool) (agent : String) (agents : List String)

theorem isFirst_cons (known : List String) (p : String × Nat) :
    isFirst known (agent :: agents) (p.1, p.2 + 1) = isFirst (agent :: known) agents p := by
  unfold isFirst
  rw [List.take_succ_cons]
  apply decide_eq_decide.mpr
  simp only [List.mem_cons, not_or]
  tauto

theorem atPlaces_cons (known : List String) :
    atPlaces first known (agent :: agents) =
      (if decide (agent ∉ known) = first then [agent] else []) ++ atPlaces first (agent :: known) agents := by
  have head : isFirst known (agent :: agents) (agent, 0) = decide (agent ∉ known) := by simp [isFirst]
  unfold atPlaces
  rw [List.zipIdx_cons, List.zipIdx_succ, List.filter_cons, List.filter_map, head]
  simp only [Function.comp_def, isFirst_cons, beq_iff_eq]
  split <;> simp [Function.comp_def]

theorem atPlaces_congr {known' : List String} (same : ∀ a, a ∈ known' ↔ a ∈ known) :
    atPlaces first known' agents = atPlaces first known agents := by
  unfold atPlaces isFirst
  simp only [same]

theorem newcomers_singleton (known : List String) :
    newcomers known [agent] = if agent ∈ known then [] else [agent] := by
  rw [newcomers, atPlaces_cons]
  by_cases old : agent ∈ known <;> simp [old, atPlaces]

theorem repeated_singleton (known : List String) : repeated known [agent] = if agent ∈ known then [agent] else [] := by
  rw [repeated, atPlaces_cons]
  by_cases old : agent ∈ known <;> simp [old, atPlaces]

/-- Behind the first place the agent there is known, whether it was before or not. -/
theorem atPlaces_step (known : List String) :
    atPlaces first known (agent :: agents) =
      atPlaces first known [agent] ++ atPlaces first (known ++ newcomers known [agent]) agents := by
  have same : ∀ a, a ∈ known ++ newcomers known [agent] ↔ a ∈ agent :: known := by
    intro a
    rw [newcomers_singleton, List.mem_append, List.mem_cons]
    by_cases old : agent ∈ known
    · simp only [old, if_true, List.not_mem_nil, or_false]
      constructor
      · exact .inr
      · rintro (rfl | h)
        · exact old
        · exact h
    · rw [if_neg old, List.mem_singleton, or_comm]
  have alone : atPlaces first known [agent] = if decide (agent ∉ known) = first then [agent] else [] := by
    rw [atPlaces_cons]
    exact List.append_nil _
  rw [atPlaces_cons, atPlaces_congr first agents same, alone]

variable {agent agents}

theorem newcomers_of_nodup (distinct : agents.Nodup) : newcomers known agents = agents.filter (· ∉ known) := by
  induction agents generalizing known with
  | nil => rfl
  | cons a agents ih =>
    rw [List.nodup_cons] at distinct
    have apart : agents.filter (· ∉ a :: known) = agents.filter (· ∉ known) := by
      apply List.filter_congr
      intro b hb
      have other : b ≠ a := fun same => distinct.1 (same ▸ hb)
      simp [other]
    have rest : atPlaces true (a :: known) agents = agents.filter (· ∉ a :: known) := ih distinct.2
    rw [newcomers, atPlaces_cons, rest, apart]
    by_cases old : a ∈ known <;> simp [old]

end

/-! ## Ledgers -/

namespace Ledger

/-- `new` are the wallets of `names`, in their order, and all that is new; they bring no money with them. -/
structure Enrols (names : List String) (new : List Wallet) (l l' : Ledger) : Prop where
  files : l'.files = l.files ++ new.map fun w => (w.agent, w)
  named : new.map (·.agent) = names
  channels : l'.channels = l.channels
  funds : ∀ agent x, l'.funds agent x = l.funds agent x

namespace Enrols
variable {l l' l'' : Ledger} {names others : List String} {new more : List Wallet}

theorem of_same (files : l'.files = l.files) (channels : l'.channels = l.channels) : Enrols [] [] l l' where
  files := by rw [files, List.map_nil, List.append_nil]
  named := rfl
  channels := channels
  funds := funds_of_files files

theorem trans (h : Enrols names new l l') (h' : Enrols others more l' l'') :
    Enrols (names ++ others) (new ++ more) l l'' where
  files := by rw [h'.files, h.files, List.map_append, List.append_assoc]
  named := by rw [List.map_append, h.named, h'.named]
  channels := h'.channels.trans h.channels
  funds agent x := (h'.funds agent x).trans (h.funds agent x)

theorem withServed (h : Enrols names new l l') (n : UInt64) : Enrols names new l (l'.withServed n) :=
  ⟨h.files, h.named, h.channels, h.funds⟩

theorem wallets (h : Enrols names new l l') : l'.wallets = l.wallets ++ new := by
  rw [Ledger.wallets, h.files, List.map_append, List.map_map]
  exact congrArg (l.wallets ++ ·) (List.map_id new)

theorem agents (h : Enrols names new l l') : l'.agents = l.agents ++ names := by
  rw [Ledger.agents, h.files, List.map_append, List.map_map, ← h.named]
  rfl

/-- Where each name stands once, the newcomers are those that had no wallet. -/
theorem joined (h : Enrols (newcomers l.agents names) new l l') (distinct : names.Nodup) : Joined names l l' where
  enrolled := by rw [Enrolled, h.agents, newcomers_of_nodup distinct]
  channels := h.channels
  funds := h.funds

/-- New wallets take the next numbers. -/
theorem numbers {s : Settings} (h : Enrols names new l l') (before : l.Enumerated s) (behind : l'.Enumerated s)
    (few : l'.wallets.length < UInt32.size) :
    new.map (·.index.toNat) = List.range' l.nextIndex.toNat new.length := by
  have total : l'.wallets.length = l.wallets.length + new.length := by rw [h.wallets, List.length_append]
  have all := behind.numbers few
  rw [h.wallets, List.map_append, List.length_append, List.range_eq_range', ← List.range'_append_1,
    ← List.range_eq_range', before.numbers (by omega), Nat.zero_add] at all
  rw [before.next_toNat (by omega)]
  exact List.append_cancel_left all

end Enrols

end Ledger

/-! ## Requests of a batch -/

def Client.Batch.after (created : List Report.Wallet) (skipped : List String) (b : Batch) : Batch :=
  ⟨created ++ b.created, skipped ++ b.skipped⟩

namespace Client

section
variable {s : Settings} (unlimited : s.rateLimit = none) {c : Client}
  (base : Url.openEnd c.base.path = Service.Route.apiPath) (draw : Ledger → Occasion)
include unlimited base

variable {seed : String} (seeded : s.masterSeed = some seed)
include seeded

/-- One agent is enrolled or skipped, and the batch goes on. -/
theorem serve_addWallets_cons {agent : String} (named : Text.isAllBlank agent = false) (l : Ledger) :
    ∃ new l', Ledger.Enrols (newcomers l.agents [agent]) new l l' ∧
      ∀ agents, (c.addWallets (agent :: agents)).serve s draw l =
        (((c.addWallets agents).serve s draw l').1.map (Batch.after (new.map (·.report)) (repeated l.agents [agent])),
          ((c.addWallets agents).serve s draw l').2) := by
  rw [newcomers_singleton, repeated_singleton]
  cases found : l.wallet? agent with
  | some w =>
    have old : agent ∈ l.agents := Ledger.mem_agents_of_wallet? found
    obtain ⟨f, refused, conflict⟩ := serve_addWallet_known unlimited base draw seeded named found
    rw [if_pos old, if_pos old]
    refine ⟨[], l.withServed (l.served + 1), .of_same rfl rfl, fun agents => ?_⟩
    rw [addWallets, serve_bind, refused]
    simp only [conflict, if_true, serve_bind]
    rfl
  | none =>
    have unknown : agent ∉ l.agents := by
      rw [← Ledger.wallet?_isSome, found]
      exact nofun
    obtain ⟨v, l', added, own, files, -, joined⟩ := serve_addWallet_unknown unlimited base draw seeded named found
    rw [if_neg unknown, if_neg unknown]
    refine ⟨[v], l', ⟨?_, ?_, joined.channels, joined.funds⟩, fun agents => ?_⟩
    · rw [files, List.map_singleton, own]
    · rw [List.map_singleton, own]
    · rw [addWallets, serve_bind, added]
      simp only [serve_bind]
      rfl

/-- Names that are not blank are enrolled or skipped, whatever the batch goes on with. -/
theorem serve_addWallets_append {front : List String} (named : ∀ a ∈ front, Text.isAllBlank a = false) (l : Ledger) :
    ∃ new l', Ledger.Enrols (newcomers l.agents front) new l l' ∧
      ∀ rest, (c.addWallets (front ++ rest)).serve s draw l =
        (((c.addWallets rest).serve s draw l').1.map (Batch.after (new.map (·.report)) (repeated l.agents front)),
          ((c.addWallets rest).serve s draw l').2) := by
  induction front generalizing l with
  | nil =>
    refine ⟨[], l, .of_same rfl rfl, fun rest => ?_⟩
    rw [List.nil_append]
    generalize (c.addWallets rest).serve s draw l = played
    obtain ⟨r, m⟩ := played
    cases r <;> rfl
  | cons agent front ih =>
    rw [List.forall_mem_cons] at named
    obtain ⟨new, m, one, step⟩ := serve_addWallets_cons unlimited base draw seeded named.1 l
    obtain ⟨more, l', enrols, run⟩ := ih named.2 m
    have places (first : Bool) : atPlaces first l.agents (agent :: front) =
        atPlaces first l.agents [agent] ++ atPlaces first m.agents front := by
      rw [atPlaces_step, one.agents]
    have added : newcomers l.agents (agent :: front) = newcomers l.agents [agent] ++ newcomers m.agents front := places true
    have skipped : repeated l.agents (agent :: front) = repeated l.agents [agent] ++ repeated m.agents front := places false
    refine ⟨new ++ more, l', ?_, fun rest => ?_⟩
    · rw [added]
      exact one.trans enrols
    · rw [List.cons_append, step, run, skipped]
      cases ((c.addWallets rest).serve s draw l').1 with
      | error f => rfl
      | ok b => simp [Except.map, Batch.after]

theorem serve_addWallets_named {agents : List String} (named : ∀ a ∈ agents, Text.isAllBlank a = false) (l : Ledger) :
    ∃ new l', Ledger.Enrols (newcomers l.agents agents) new l l' ∧
      (c.addWallets agents).serve s draw l = (.ok ⟨new.map (·.report), repeated l.agents agents⟩, l') := by
  obtain ⟨new, l', enrols, run⟩ := serve_addWallets_append unlimited base draw seeded named l
  refine ⟨new, l', enrols, ?_⟩
  have whole := run []
  rw [List.append_nil] at whole
  rw [whole]
  show (Except.ok (Batch.mk (_ ++ []) (_ ++ [])), l') = _
  rw [List.append_nil, List.append_nil]

theorem serve_addWallets {agents : List String} (named : ∀ a ∈ agents, Text.isAllBlank a = false)
    (distinct : agents.Nodup) (l : Ledger) :
    ∃ b l', (c.addWallets agents).serve s draw l = (.ok b, l') ∧ Ledger.Joined agents l l' := by
  obtain ⟨new, l', enrols, played⟩ := serve_addWallets_named unlimited base draw seeded named l
  exact ⟨_, l', played, enrols.joined distinct⟩

end

end Client

end AgentLedger
