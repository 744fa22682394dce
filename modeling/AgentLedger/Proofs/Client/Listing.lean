import AgentLedger.Proofs.Client.Calls
import AgentLedger.Proofs.Ledger.Openings
/-!
# Listings of channels

What an agent is shown of its channels: all that were opened for it, each once
and in the order of the openings, closed ones too, and none that another agent
opened. Each is shown with its parties, its asset and its deposit, and with the
balance, the count of payments and the status that it has by then.
-/

namespace AgentLedger

structure Channel.IsShownAs (c : Channel) (r : Report.Channel) : Prop where
  id : r.id = c.id
  agentId : r.agentId = c.owner
  peerId : r.peerId = c.peer
  chain : r.chain = c.asset.chain
  token : r.token = c.asset.token
  balance : r.balance = c.balance
  initialAmount : r.initialAmount = c.deposit
  paymentsCount : r.paymentsCount = c.payments
  closed : r.status = .closed ↔ c.closed = true
  opened : r.status = .opened ↔ c.closed = false

theorem Channel.isShownAs_report (c : Channel) : c.IsShownAs c.report := by
  refine ⟨rfl, rfl, rfl, rfl, rfl, rfl, rfl, rfl, ?_, ?_⟩
  all_goals
    unfold report
    cases c.closed <;> simp

section
variable {cs : List Channel}

theorem find?_report (cs : List Channel) (id : String) :
    (cs.map (·.report)).find? (·.id == id) = (cs.find? (·.id == id)).map (·.report) := by
  rw [List.find?_map]
  rfl

theorem find?_report_of_mem (distinct : (cs.map (·.id)).Nodup) {c : Channel} (hc : c ∈ cs) :
    (cs.map (·.report)).find? (·.id == c.id) = some c.report := by
  have known := Ledger.channel?_of_mem (l := { Ledger.empty with channels := cs }) distinct hc
  change cs.find? (·.id == c.id) = some c at known
  rw [find?_report, known]
  rfl

theorem find?_report_of_not_mem {id : String} (absent : id ∉ cs.map (·.id)) :
    (cs.map (·.report)).find? (·.id == id) = none := by
  have unknown := Ledger.channel?_eq_none (l := { Ledger.empty with channels := cs }).mpr absent
  change cs.find? (·.id == id) = none at unknown
  rw [find?_report, unknown]
  rfl

end

namespace Client

/-- An agent's channels are listed as they were opened, each behind its own payments and its closing, by the ledger
and by a client; and a client finds a channel of the agent's by its id, and no other. -/
theorem readChannels_complete {s : Settings} {ops : List (Occasion × Operation)}
    (distinct : (opened (Ledger.past s ops)).Nodup) {agent : String} {w : Wallet}
    (found : (Ledger.behind s ops).wallet? agent = some w) :
    let l := Ledger.behind s ops
    let es := Ledger.past s ops
    let own := (openings es).filter (·.owner == agent)
    (openings es).map (·.id) = opened es ∧
      ∃ (cs : List Channel) (rs : List Report.Channel),
        List.Forall₂ (fun c c' => Channel.Later c (paidOn c.id es) (closings c.id es) c') own cs ∧
        (∀ ch ∈ cs, l.channel? ch.id = some ch) ∧ List.Forall₂ Channel.IsShownAs cs rs ∧
        rs.map (·.id) = own.map (·.id) ∧ (own.map (·.id)).Nodup ∧ Ledger.channelsOf agent l = .ok rs ∧
        ∀ (c : Client) (draw : Ledger → Occasion), s.rateLimit = none →
          Url.openEnd c.base.path = Service.Route.apiPath → IsSegment agent →
          (c.readChannels agent).serve s draw l = (.ok rs, l.withServed (l.served + 1)) ∧
          (∀ r ∈ rs, ((c.readChannel agent r.id).serve s draw l).1 = .ok (some r)) ∧
          ∀ id, id ∉ own.map (·.id) → ((c.readChannel agent id).serve s draw l).1 = .ok none := by
  intro l es own
  let cs := l.channels.filter (·.owner == agent)
  have later : List.Forall₂ _ own cs := Ledger.owned_later distinct agent
  have same : cs.map (·.id) = own.map (·.id) := by
    rw [show own = cs.map (·.asOpened) from Ledger.openings_owned s ops agent, List.map_map]
    rfl
  have all : ((openings es).map (·.id)).Nodup := by rwa [Ledger.id_of_openings]
  have once : (own.map (·.id)).Nodup := all.sublist (List.filter_sublist.map _)
  have unique : l.ids.Nodup := by rwa [Ledger.ids_behind]
  have shown : List.Forall₂ Channel.IsShownAs cs (cs.map (·.report)) := by
    rw [List.forall₂_map_right_iff, List.forall₂_same]
    exact fun c _ => c.isShownAs_report
  refine ⟨Ledger.id_of_openings s ops, cs, cs.map (·.report), later, ?_, shown, ?_, once, ?_, ?_⟩
  · exact fun ch hch => Ledger.channel?_of_mem unique (List.mem_of_mem_filter hch)
  · rw [← same, List.map_map]
    rfl
  · rw [Ledger.channelsOf, Ledger.findWallet_eq_ok.mpr found]
  · intro c draw unlimited base segment
    refine ⟨serve_readChannels_known unlimited base draw segment found, fun r hr => ?_, fun id absent => ?_⟩
    · obtain ⟨ch, hch, rfl⟩ := List.mem_map.mp hr
      rw [serve_readChannel_known unlimited base draw segment _ found]
      rw [← same] at once
      exact congrArg Except.ok (find?_report_of_mem once hch)
    · rw [serve_readChannel_known unlimited base draw segment id found]
      rw [← same] at absent
      exact congrArg Except.ok (find?_report_of_not_mem absent)

def threeOpened : List (Occasion × Operation) :=
  [(⟨.epoch, ""⟩, .addWallet "alice"), (⟨.epoch, ""⟩, .credit "alice" ⟨"evm", "USDC"⟩ "9"),
    (⟨.epoch, ""⟩, .addWallet "bob"), (⟨.epoch, ""⟩, .credit "bob" ⟨"evm", "USDC"⟩ "9"),
    (⟨.epoch, "ch_0"⟩, .openChannel ⟨"alice", "bob", ⟨"evm", "USDC"⟩, "5"⟩),
    (⟨.epoch, "ch_1"⟩, .openChannel ⟨"bob", "alice", ⟨"evm", "USDC"⟩, "5"⟩),
    (⟨.epoch, "ch_2"⟩, .openChannel ⟨"alice", "carol", ⟨"evm", "USDC"⟩, "4"⟩),
    (⟨.epoch, ""⟩, .pay "ch_0" "alice" "2"), (⟨.epoch, ""⟩, .closeChannel "ch_0" "alice")]

theorem readChannels_alice :
    let l := Ledger.behind {} threeOpened
    let first : Report.Channel :=
      ⟨"ch_0", "alice", "bob", "evm", "USDC", ⟨3, by decide⟩, ⟨5, by decide⟩, 1, .closed⟩
    let second : Report.Channel :=
      ⟨"ch_2", "alice", "carol", "evm", "USDC", ⟨4, by decide⟩, ⟨4, by decide⟩, 0, .opened⟩
    ∃ c, Client.ofConfig {} = .ok c ∧
      ((c.readChannels "alice").serve {} (fun _ => ⟨.epoch, ""⟩) l).1 = .ok [first, second] ∧
      ((c.readChannel "alice" "ch_0").serve {} (fun _ => ⟨.epoch, ""⟩) l).1 = .ok (some first) ∧
      ((c.readChannel "alice" "ch_1").serve {} (fun _ => ⟨.epoch, ""⟩) l).1 = .ok none := by
  intro l first second
  obtain ⟨c, made, base⟩ := Errand.ofConfig_default
  have distinct : (opened (Ledger.past {} threeOpened)).Nodup := by decide +kernel
  have own : ((openings (Ledger.past {} threeOpened)).filter (·.owner == "alice")).map (·.id) = ["ch_0", "ch_2"] := by
    decide +kernel
  have known : "alice" ∈ l.agents := by decide +kernel
  have told : Ledger.channelsOf "alice" l = .ok [first, second] := by decide +kernel
  obtain ⟨w, found⟩ := Option.isSome_iff_exists.mp (Ledger.wallet?_isSome.mpr known)
  obtain ⟨-, cs, rs, -, -, -, -, -, listed, heard⟩ := readChannels_complete distinct found
  obtain rfl : rs = [first, second] := Except.ok.inj (listed.symm.trans told)
  obtain ⟨all, one, other⟩ := heard c (fun _ => ⟨.epoch, ""⟩) rfl base (by decide)
  rw [own] at other
  exact ⟨c, made, congrArg Prod.fst all, one first (by simp), other "ch_1" (by decide)⟩

end Client

end AgentLedger
