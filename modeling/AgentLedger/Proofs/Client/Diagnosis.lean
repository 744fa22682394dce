import Mathlib.Data.List.DropRight
import AgentLedger.Failure
import AgentLedger.Proofs.Json.Members
/-!
# What a failure keeps of an answer

An answer without success is told by its status, and in two places by its
body: a code that flags an overdraft and a delay. The body's diagnostics are
read together, as one record, so that they count together or not at all.
-/

namespace AgentLedger

open Json (Doc IsObject IsText IsCount Tells)

theorem Text.trim_ne_empty {s : String} {c : Char} (mem : c ∈ s.toList) (visible : isBlank c = false) :
    trim s ≠ "" := by
  intro empty
  have nothing : trimmed s.toList = [] := by
    rw [← String.toList_ofList (l := trimmed s.toList)]
    exact congrArg String.toList empty
  rw [trimmed, dropTail, List.reverse_eq_nil_iff, List.dropWhile_eq_nil_iff] at nothing
  have rest : (s.toList.dropWhile isBlank).dropWhile isBlank = [] :=
    List.dropWhile_eq_nil_iff.mpr fun d hd => nothing d (List.mem_reverse.mpr hd)
  rw [List.dropWhile_idempotent] at rest
  have blank := List.dropWhile_eq_nil_iff.mp rest c mem
  rw [visible] at blank
  cases blank

namespace Failure

/-! ## The classification -/

def TellsOverdraft (status : Nat) (body : String) : Prop :=
  status = 402 ∨ (Http.isClientError status = true ∧ status ≠ 404 ∧ status ≠ 409 ∧ status ≠ 429 ∧
    (Diagnosis.ofBody body).code = some insufficientFundsCode)

instance (status : Nat) (body : String) : Decidable (TellsOverdraft status body) :=
  inferInstanceAs (Decidable (_ ∨ _))

def headerSeconds (header : Option String) : Option UInt64 :=
  header.bind fun v => (Text.readUInt64 (Text.trim v)).toOption

section
variable (status : Nat) (header : Option String) (body : String)

theorem ofAnswer_of_overdraft (h : TellsOverdraft status body) :
    ofAnswer status header body = .insufficientFunds (diagnostic (Diagnosis.ofBody body) status body) := by
  unfold ofAnswer
  rcases h with rfl | ⟨client, missing, conflict, limited, code⟩
  · rfl
  · by_cases unpaid : status = 402
    · subst unpaid
      rfl
    · simp only [missing, conflict, limited, unpaid, client, code, if_true, if_false]

theorem status?_of_not_overdraft (h : ¬TellsOverdraft status body) :
    (ofAnswer status header body).status? = some status := by
  unfold TellsOverdraft at h
  unfold ofAnswer
  by_cases missing : status = 404
  · subst missing
    rfl
  by_cases conflict : status = 409
  · subst conflict
    rfl
  by_cases limited : status = 429
  · subst limited
    rfl
  rw [not_or] at h
  obtain ⟨paid, uncoded⟩ := h
  simp only [missing, conflict, limited, paid, if_false]
  by_cases client : Http.isClientError status = true
  · have other : (Diagnosis.ofBody body).code ≠ some insufficientFundsCode :=
      fun code => uncoded ⟨client, missing, conflict, limited, code⟩
    simp only [client, other, if_true, if_false]
    rfl
  · simp only [client, Bool.false_eq_true, if_false]
    split <;> rfl

theorem overdrawn_iff : (∃ m, ofAnswer status header body = .insufficientFunds m) ↔ TellsOverdraft status body := by
  constructor
  · rintro ⟨m, same⟩
    by_contra h
    have kept := status?_of_not_overdraft status header body h
    rw [same] at kept
    cases kept
  · intro h
    exact ⟨_, ofAnswer_of_overdraft status header body h⟩

/-- An answer's failure gives the answer's status, save where it tells an overdraft: then it gives none. -/
theorem status?_ofAnswer :
    (ofAnswer status header body).status? = (if TellsOverdraft status body then none else some status) ∧
      ((∃ m, ofAnswer status header body = .insufficientFunds m) ↔ TellsOverdraft status body) := by
  refine ⟨?_, overdrawn_iff status header body⟩
  by_cases h : TellsOverdraft status body
  · rw [if_pos h, ofAnswer_of_overdraft status header body h]
    rfl
  · rw [if_neg h]
    exact status?_of_not_overdraft status header body h

end

/-- An overdrawn wallet, told by the status alone and by the code in a body. -/
theorem overdraft_loses_status :
    (Http.isSuccess 402 = false ∧ (ofAnswer 402 none "").status? = none) ∧
      Http.isSuccess 400 = false ∧
        (ofAnswer 400 none "\x7b\"error\":\"channel balance too low\",\"code\":\"INSUFFICIENT_FUNDS\"\x7d").status? =
          none := by
  decide +kernel

theorem serverMessage?_ofAnswer (status : Nat) (header : Option String) (body : String) :
    (ofAnswer status header body).serverMessage? = some (diagnostic (Diagnosis.ofBody body) status body) := by
  unfold ofAnswer
  simp only
  repeat' split
  all_goals rfl

theorem retryAfter?_ofAnswer_limited (header : Option String) (body : String) :
    (ofAnswer 429 header body).retryAfter? =
      (headerSeconds header <|> (Diagnosis.ofBody body).retryAfter).map fun s => .ofSeconds s.toNat := rfl

theorem diagnostic_of_error {d : Diagnosis} {message : String} (told : d.error = some message) (some_ : message ≠ "")
    (status : Nat) (body : String) : diagnostic d status body = message := by
  have kept : (some message <|> d.message).filter (· != "") = some message := by simp [some_]
  unfold diagnostic
  rw [told, kept]

/-! ## What an object shows -/

structure Diagnosis.Shows (ds : List (String × Doc)) (d : Diagnosis) : Prop where
  error : Tells IsText (ds.lookup "error") d.error
  message : Tells IsText (ds.lookup "message") d.message
  code : Tells IsText (ds.lookup "code") d.code
  retryAfter : Tells IsCount (ds.lookup "retryAfter") d.retryAfter

def Diagnosis.WellTyped (ds : List (String × Doc)) : Prop := ∃ d, Shows ds d

namespace Diagnosis

theorem isThorough_members : members.IsThorough := by
  have text (name : String) := Json.isThorough_optional name Json.readAnyText
  have count (name : String) := Json.isThorough_optional name Json.readUInt64
  exact .seq (.seq (.seq (.map (text _) _) (text _)) (text _)) (count _)

theorem build_members {ds : List (String × Doc)} {d : Diagnosis} :
    members.build (ds.lookup ·) = .ok d ↔ Shows ds d := by
  have text (name : String) := Json.takes_text.build_optional name (ds.lookup ·)
  have count (name : String) := Json.takes_count.build_optional name (ds.lookup ·)
  unfold members
  simp only [Json.Members.build_seq, Json.Members.build_map, text, count]
  constructor
  · rintro ⟨_, retryAfter, ⟨_, code, ⟨_, message, ⟨error, error', rfl⟩, message', rfl⟩, code', rfl⟩, retryAfter', rfl⟩
    exact ⟨error', message', code', retryAfter'⟩
  · rintro ⟨error, message, code, retryAfter⟩
    exact ⟨_, _, ⟨_, _, ⟨_, _, ⟨_, error, rfl⟩, message, rfl⟩, code, rfl⟩, retryAfter, rfl⟩

section
variable {body : String} {ds : List (String × Doc)} (object : IsObject (Text.whole body) ds)
  (distinct : (ds.map Prod.fst).Nodup)
include object distinct

theorem readAll_eq_ok {d : Diagnosis} :
    Json.readAll (members.read "ErrorBody") (Text.whole body) = .ok d ↔ Shows ds d :=
  (object.readAll_eq_ok isThorough_members _ distinct).trans build_members

theorem ofBody_of_shows {d : Diagnosis} (shown : Shows ds d) : ofBody body = d := by
  unfold ofBody
  rw [(readAll_eq_ok object distinct).mpr shown]

theorem ofBody_of_mistyped (mistyped : ¬WellTyped ds) : ofBody body = {} := by
  unfold ofBody
  split
  · rename_i d read
    exact absurd ⟨d, (readAll_eq_ok object distinct).mp read⟩ mistyped
  · rfl

end

end Diagnosis

structure Honours (ds : List (String × Doc)) (status : Nat) (header : Option String) (f : Failure) : Prop where
  code : ds.lookup "code" = some (.string insufficientFundsCode) → Http.isClientError status = true →
    status ≠ 404 → status ≠ 409 → status ≠ 429 → ∃ m, f = .insufficientFunds m
  retryAfter : status = 429 → headerSeconds header = none →
    ∀ d seconds, ds.lookup "retryAfter" = some d → IsCount d seconds → f.retryAfter? = some (.ofSeconds seconds.toNat)
  error : ∀ m, ds.lookup "error" = some (.string m) → m ≠ "" → f.serverMessage? = some m

/-- What is left of an object's diagnostics as soon as one of them is of another type: the body's own text is the
message, the code does not count, and only the header gives a delay. -/
structure Ignores (body : String) (status : Nat) (header : Option String) (f : Failure) : Prop where
  code : (∃ m, f = .insufficientFunds m) ↔ status = 402
  retryAfter : status = 429 → f.retryAfter? = (headerSeconds header).map fun s => .ofSeconds s.toNat
  error : f.serverMessage? = some (Text.trim body)

section
variable {body : String} {ds : List (String × Doc)} (object : IsObject (Text.whole body) ds)
  (distinct : (ds.map Prod.fst).Nodup) (status : Nat) (header : Option String)
include object distinct

theorem honours_of_wellTyped (typed : Diagnosis.WellTyped ds) :
    Honours ds status header (ofAnswer status header body) := by
  obtain ⟨d, shown⟩ := typed
  have told := Diagnosis.ofBody_of_shows object distinct shown
  refine ⟨fun code client missing conflict limited => ?_, fun limited silent d' seconds found count => ?_,
    fun m found some_ => ?_⟩
  · have same : d.code = some insufficientFundsCode := Json.takes_text.tells_unique shown.code ⟨_, code, rfl⟩
    refine (overdrawn_iff status header body).mpr (.inr ⟨client, missing, conflict, limited, ?_⟩)
    rw [told, same]
  · have same : d.retryAfter = some seconds := Json.takes_count.tells_unique shown.retryAfter ⟨d', found, count⟩
    subst limited
    rw [retryAfter?_ofAnswer_limited, silent, told, same]
    rfl
  · have same : d.error = some m := Json.takes_text.tells_unique shown.error ⟨_, found, rfl⟩
    rw [serverMessage?_ofAnswer, told, diagnostic_of_error same some_]

theorem ignores_of_mistyped (mistyped : ¬Diagnosis.WellTyped ds) :
    Ignores body status header (ofAnswer status header body) := by
  have told := Diagnosis.ofBody_of_mistyped object distinct mistyped
  refine ⟨?_, fun limited => ?_, ?_⟩
  · rw [overdrawn_iff, TellsOverdraft, told]
    simp
  · subst limited
    rw [retryAfter?_ofAnswer_limited, told]
    simp
  · have visible : Text.trim body ≠ "" := by
      obtain ⟨c, mem, same⟩ := List.mem_map.mp object.brace_mem
      cases same
      exact Text.trim_ne_empty mem (by decide)
    rw [serverMessage?_ofAnswer, told]
    simp [diagnostic, visible]

/-- The diagnostics of an object count together: as soon as one of them is of another type, none does. -/
theorem diagnostics_count_together :
    (Diagnosis.WellTyped ds → Honours ds status header (ofAnswer status header body)) ∧
      (¬Diagnosis.WellTyped ds → Ignores body status header (ofAnswer status header body)) :=
  ⟨honours_of_wellTyped object distinct status header, ignores_of_mistyped object distinct status header⟩

end

def slowDown : Json.Value := .object [("error", .string "slow down"), ("retryAfter", .ofNat 5)]

def misreported : Json.Value := .object [("error", .string "slow down"), ("code", .ofNat 7), ("retryAfter", .ofNat 5)]

theorem slow_down_counts :
    slowDown.text = "\x7b\"error\":\"slow down\",\"retryAfter\":5\x7d" ∧
      (ofAnswer 429 none slowDown.text).retryAfter? = some (.ofSeconds 5) := by
  have object := Json.isObject_text [("error", .string "slow down"), ("retryAfter", .ofNat 5)]
    ⟨trivial, ⟨5, rfl⟩, trivial⟩
  have five : (Json.Numeral.ofNat (Text.decimalDigits 5)).integer? = some 5 := Json.integer?_ofNat (by decide)
  have typed : Diagnosis.WellTyped [("error", .string "slow down"), ("retryAfter", (Json.Value.ofNat 5).doc)] :=
    ⟨⟨some "slow down", none, none, some 5⟩, ⟨_, rfl, rfl⟩, .inl rfl, .inl rfl, ⟨_, rfl, _, rfl, five⟩⟩
  have honours := (diagnostics_count_together object (by simp) 429 none).1 typed
  exact ⟨by decide +kernel, honours.retryAfter rfl rfl _ 5 rfl ⟨_, rfl, five⟩⟩

theorem number_hides_delay :
    misreported.text = "\x7b\"error\":\"slow down\",\"code\":7,\"retryAfter\":5\x7d" ∧
      ∃ ds, IsObject (Text.whole misreported.text) ds ∧ (ds.map Prod.fst).Nodup ∧
        ¬Honours ds 429 none (ofAnswer 429 none misreported.text) := by
  have object := Json.isObject_text [("error", .string "slow down"), ("code", .ofNat 7), ("retryAfter", .ofNat 5)]
    ⟨trivial, ⟨7, rfl⟩, ⟨5, rfl⟩, trivial⟩
  refine ⟨by decide +kernel, _, object, by simp, fun honours => ?_⟩
  have five : (Json.Numeral.ofNat (Text.decimalDigits 5)).integer? = some 5 := Json.integer?_ofNat (by decide)
  have delay := honours.retryAfter rfl rfl _ 5 rfl ⟨_, rfl, five⟩
  have none_given : (ofAnswer 429 none misreported.text).retryAfter? = none := by decide +kernel
  rw [none_given] at delay
  cases delay

end Failure

end AgentLedger
