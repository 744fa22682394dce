import AgentLedger.Proofs.Service.Requests
/-!
# The limit cuts a run

A service with a limit answers as one without it that is not sent the requests
behind the limit. Both handle a request alike, and handling does not see the
count; so the two runs meet the same ledgers, their counts aside. What counts
is a request for one of the eight paths of the API, by any method but
`OPTIONS`.
-/

namespace AgentLedger.Service

/-! ## Requests that count -/

/-- The paths of the API behind what they have in common; an argument that comes last is not empty. -/
inductive IsApiPath : List String → Prop
  | wallets : IsApiPath ["wallets"]
  | wallet (agent : String) : agent ≠ "" → IsApiPath ["wallets", agent]
  | balances (agent : String) : IsApiPath ["wallets", agent, "balances"]
  | balance (agent chain token : String) : token ≠ "" → IsApiPath ["wallets", agent, "balances", chain, token]
  | channelsOf (agent : String) : IsApiPath ["wallets", agent, "channels"]
  | channels : IsApiPath ["channels"]
  | channel (id : String) : id ≠ "" → IsApiPath ["channels", id]
  | payments (id : String) : IsApiPath ["channels", id, "payments"]

theorem Route.ofApiSegments?_isSome {segments : List String} :
    (ofApiSegments? segments).isSome = true ↔ IsApiPath segments := by
  constructor
  · intro found
    unfold ofApiSegments? at found
    split at found
    · exact .wallets
    · rename_i agent
      exact .wallet agent fun empty => by simp [empty] at found
    · exact .balances _
    · rename_i agent chain token
      exact .balance agent chain token fun empty => by simp [empty] at found
    · exact .channelsOf _
    · exact .channels
    · rename_i id
      exact .channel id fun empty => by simp [empty] at found
    · exact .payments _
    · cases found
  · intro path
    cases path with
    | wallet agent named | balance agent chain token named | channel id named => simp [ofApiSegments?, named]
    | _ => rfl

theorem Route.isCounted_of_ofApiSegments? {segments : List String} {route : Route}
    (found : ofApiSegments? segments = some route) : route.isCounted = true := by
  unfold ofApiSegments? at found
  repeat' split at found
  all_goals cases found
  all_goals rfl

def segmentsOf (r : Http.Request) : List String :=
  (Text.split '/' (r.target.toList.takeWhile fun c => c ≠ '?' ∧ c ≠ '#')).map String.ofList

/-- Exactly the requests for a path of the API count, whether it serves their method or not, unless they ask for the
options that there are. -/
theorem counts_iff {r : Http.Request} :
    counts r = true ↔ r.method ≠ .options ∧ ∃ path, segmentsOf r = "" :: "api" :: "v1" :: path ∧ IsApiPath path := by
  have found : Route.ofTarget? r.target = Route.ofSegments? (segmentsOf r) := rfl
  simp only [counts, found, Bool.and_eq_true, decide_eq_true_eq, and_congr_right_iff]
  intro _
  generalize segmentsOf r = segments
  constructor
  · intro counted
    unfold Route.ofSegments? at counted
    split at counted
    · cases counted
    · cases counted
    · rename_i path
      rw [Option.any_eq_true] at counted
      obtain ⟨route, known, -⟩ := counted
      exact ⟨path, rfl, Route.ofApiSegments?_isSome.mp (Option.isSome_of_eq_some known)⟩
    · cases counted
  · rintro ⟨path, rfl, api⟩
    obtain ⟨route, known⟩ := Option.isSome_iff_exists.mp (Route.ofApiSegments?_isSome.mpr api)
    have same : Route.ofSegments? ("" :: "api" :: "v1" :: path) = some route := known
    rw [same, Option.any_some]
    exact Route.isCounted_of_ofApiSegments? known

/-! ## Runs of requests -/

def respondAll (s : Settings) : List (Occasion × Http.Request) → Ledger → List Http.Response × Ledger
  | [], l => ([], l)
  | (o, r) :: rest, l =>
    let (response, l) := respond s o r l
    let (responses, l) := respondAll s rest l
    (response :: responses, l)

theorem respondAll_cons (s : Settings) (o : Occasion) (r : Http.Request) (rest : List (Occasion × Http.Request)) (l : Ledger) :
    respondAll s ((o, r) :: rest) l =
      ((respond s o r l).1 :: (respondAll s rest (respond s o r l).2).1, (respondAll s rest (respond s o r l).2).2) := rfl

/-- Which of some requests are let through where `n` more may count: all that do not count, and the first `n` that do. -/
def admitted : Nat → List (Occasion × Http.Request) → List Bool
  | _, [] => []
  | n, (_, r) :: rest => if counts r then decide (0 < n) :: admitted (n - 1) rest else true :: admitted n rest

def chosen {α : Type} : List Bool → List α → List α
  | mark :: marks, a :: as => if mark then a :: chosen marks as else chosen marks as
  | _, _ => []

/-! ## One request -/

def countBehind (r : Http.Request) (n : UInt64) : UInt64 := if counts r then n + 1 else n

theorem counted_withServed (r : Http.Request) (n : UInt64) (l : Ledger) :
    counted r (l.withServed n) = l.withServed (countBehind r n) := by
  unfold counted countBehind
  split <;> rfl

section
variable (o : Occasion) {r : Http.Request} (l : Ledger) {n : UInt64}

/-- A request that is let through is handled; what the ledger has counted so far makes no difference. -/
theorem respond_admitted {s : Settings}
    (left : counts r = true → ∀ limit, s.rateLimit = some limit → n + 1 ≤ limit) :
    respond s o r (l.withServed n) = ((handle s o r l).1, (handle s o r l).2.withServed (countBehind r n)) := by
  rw [respond_of_left o (l := l.withServed n) left, counted_withServed, handle_withServed]

theorem respond_unlimited (s : Settings) :
    respond s.unlimited o r (l.withServed n) = ((handle s o r l).1, (handle s o r l).2.withServed (countBehind r n)) := by
  have free : ∀ limit, s.unlimited.rateLimit ≠ some limit := fun limit => nofun
  rw [respond_admitted o l fun _ limit limited => absurd limited (free limit), handle_unlimited]

end

/-! ## Runs -/

/-- `run` answers `xs` as `cut` answers those of them that are marked, and turns the others away. -/
structure IsCut (s : Settings) (marks : List Bool) (xs : List (Occasion × Http.Request))
    (run cut : List Http.Response × Ledger) : Prop where
  answers : chosen marks run.1 = cut.1
  /-- The ledgers are the same, their counts aside. -/
  ledgers : run.2.withServed 0 = cut.2.withServed 0
  turnedAway : ∀ p ∈ chosen (marks.map not) (xs.zip run.1), IsTurnedAway s.retryAfterSecs p.1.2 p.2

section
variable {s : Settings} {marks : List Bool} {xs : List (Occasion × Http.Request)} {run cut : List Http.Response × Ledger}
  (o : Occasion) {r : Http.Request} {response : Http.Response}

theorem IsCut.admit (h : IsCut s marks xs run cut) :
    IsCut s (true :: marks) ((o, r) :: xs) (response :: run.1, run.2) (response :: cut.1, cut.2) where
  answers := congrArg (response :: ·) h.answers
  ledgers := h.ledgers
  turnedAway := h.turnedAway

theorem IsCut.refuse (h : IsCut s marks xs run cut) (away : IsTurnedAway s.retryAfterSecs r response) :
    IsCut s (false :: marks) ((o, r) :: xs) (response :: run.1, run.2) cut where
  answers := h.answers
  ledgers := h.ledgers
  turnedAway := List.forall_mem_cons.mpr ⟨away, h.turnedAway⟩

/-- The two runs from two counts of one ledger on, where the first has counted `k` requests. -/
theorem respondAll_cut {limit : UInt64} (limited : s.rateLimit = some limit) (l : Ledger) (k m : UInt64)
    (few : k.toNat + xs.length < UInt64.size) :
    IsCut s (admitted (limit.toNat - k.toNat) xs) xs (respondAll s xs (l.withServed k))
      (respondAll s.unlimited (chosen (admitted (limit.toNat - k.toNat) xs) xs) (l.withServed m)) := by
  induction xs generalizing l k m with
  | nil => exact ⟨rfl, rfl, by simp [admitted, chosen]⟩
  | cons x xs ih =>
    obtain ⟨o, r⟩ := x
    rw [List.length_cons] at few
    by_cases api : counts r = true
    · -- The count does not wrap around, so that it is the number of requests that counted.
      have size : UInt64.size = 18446744073709551616 := rfl
      have next : (k + 1).toNat = k.toNat + 1 := by
        rw [UInt64.toNat_add, UInt64.toNat_one, Nat.mod_eq_of_lt]
        omega
      have less : limit.toNat - k.toNat - 1 = limit.toNat - (k + 1).toNat := by omega
      have behind (n : UInt64) : countBehind r n = n + 1 := if_pos api
      rw [admitted, if_pos api, less]
      by_cases left : k + 1 ≤ limit
      · have room : 0 < limit.toNat - k.toNat := by
          have := UInt64.le_iff_toNat_le.mp left
          omega
        have step := respond_admitted (s := s) o l (r := r) (n := k) fun _ limit' h => by
          rw [limited] at h
          cases h
          exact left
        have rest := ih (handle s o r l).2 (k + 1) (m + 1) (by omega)
        rw [decide_eq_true room, chosen, if_pos rfl, respondAll_cons, respondAll_cons, step, respond_unlimited, behind, behind]
        exact rest.admit o
      · -- A request turned away changes nothing but the count, which handling does not see.
        have none_ : ¬0 < limit.toNat - k.toNat := by
          have := mt UInt64.le_iff_toNat_le.mpr left
          omega
        obtain ⟨away, same⟩ := respond_of_spent o (l := l.withServed k) limited api (UInt64.not_le.mp left)
        rw [counted_withServed, behind] at same
        have rest := ih l (k + 1) m (by omega)
        rw [decide_eq_false none_, chosen, if_neg (by decide), respondAll_cons, same]
        exact rest.refuse o away
    · have behind (n : UInt64) : countBehind r n = n := if_neg api
      have step := respond_admitted (s := s) o l (r := r) (n := k) fun h => absurd h api
      have rest := ih (handle s o r l).2 k m (by omega)
      rw [admitted, if_neg api, chosen, if_pos rfl, respondAll_cons, respondAll_cons, step, respond_unlimited, behind, behind]
      exact rest.admit o

end

/-- A limit of `n` requests is a clean cut: a service that has counted none yet answers all requests that do not count,
and the first `n` that do, as a service without a limit answers them alone, ends with the same ledger, and turns all
others away. Those that count are the requests for one of the paths of the API. -/
theorem limit_is_cut {s : Settings} {limit : UInt64} (limited : s.rateLimit = some limit) {l : Ledger}
    (uncounted : l.served = 0) {xs : List (Occasion × Http.Request)} (few : xs.length < UInt64.size) :
    IsCut s (admitted limit.toNat xs) xs (respondAll s xs l)
        (respondAll s.unlimited (chosen (admitted limit.toNat xs) xs) l) ∧
      ∀ r, counts r = true ↔
        r.method ≠ .options ∧ ∃ path, segmentsOf r = "" :: "api" :: "v1" :: path ∧ IsApiPath path := by
  have start : l.withServed 0 = l := by rw [← uncounted]; rfl
  have key := respondAll_cut limited l 0 0 (by simpa using few)
  rw [start] at key
  exact ⟨key, fun _ => counts_iff⟩

def takesOne : Settings := { rateLimit := some 1, activationPolls := 2 }

def pendingWallet : Ledger := .behind takesOne [(⟨.epoch, ""⟩, .addWallet "alice")]

def looks : List (Occasion × Http.Request) :=
  ["/api/v1/wallets/alice", "/health", "/api/v1/wallets/alice", "/health"].map fun target =>
    (⟨.epoch, ""⟩, ⟨.get, target, [], []⟩)

theorem second_look_turned_away : admitted 1 looks = [true, true, false, true] ∧
    IsCut takesOne (admitted 1 looks) looks (respondAll takesOne looks pendingWallet)
      (respondAll takesOne.unlimited (chosen (admitted 1 looks) looks) pendingWallet) ∧
    counts ⟨.get, "/api/v1/wallets/alice?full", [], []⟩ = true := by
  have marks : admitted 1 looks = [true, true, false, true] := by decide +kernel
  have limited : takesOne.rateLimit = some 1 := rfl
  have uncounted : pendingWallet.served = 0 := by decide +kernel
  have few : looks.length < UInt64.size := by decide
  obtain ⟨cut, counting⟩ := limit_is_cut limited uncounted few
  refine ⟨marks, cut, (counting _).mpr ⟨by decide, ["wallets", "alice"], by decide +kernel, ?_⟩⟩
  exact .wallet "alice" (by decide)

end AgentLedger.Service
