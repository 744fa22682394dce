import AgentLedger.Proofs.Client.Diagnosis
/-!
# The text of a failure

A failure's text is the first that is not empty: the body's error, its message,
the body itself, the reason of the status. One case is out of this order. An
error that is there and empty hides the message, and the body stands for it.
-/

namespace AgentLedger

open Json (IsList IsObject Presents)

theorem Http.reason_ne_empty {status : Nat} {r : String} (h : reason? status = some r) : r ≠ "" := by
  unfold reason? at h
  split at h <;> cases h <;> decide

namespace Failure

/-! ## What a body says -/

def Diagnosis.names : List String := ["error", "message", "code", "retryAfter"]

def Tells (body : String) (d : Diagnosis) : Prop := ∃ ds, Presents Diagnosis.names (Text.whole body) ds ∧ d.Shows ds

def Has (o : Option String) (m : String) : Prop := o = some m ∧ m ≠ ""

def IsSilent (body : String) : Prop := ∀ d m, Tells body d → ¬Has d.error m ∧ ¬Has d.message m

inductive IsFirstText (status : Nat) (body : String) : String → Prop
  | error {d : Diagnosis} {m : String} : Tells body d → Has d.error m → IsFirstText status body m
  | message {d : Diagnosis} {m : String} : Tells body d → (∀ e, ¬Has d.error e) → Has d.message m →
      IsFirstText status body m
  | body : IsSilent body → Text.trim body ≠ "" → IsFirstText status body (Text.trim body)
  | reason : IsSilent body → Text.trim body = "" →
      IsFirstText status body ((Http.reason? status).getD "no response body")

def IsMasked (body : String) : Prop := ∃ d m, Tells body d ∧ d.error = some "" ∧ Has d.message m

/-! ## What becomes of it -/

theorem tells_iff {body : String} {d : Diagnosis} :
    Tells body d ↔ Json.readAll (Diagnosis.members.read "ErrorBody") (Text.whole body) = .ok d := by
  rw [Json.readAll_iff_presents Diagnosis.isThorough_members (by decide)]
  exact exists_congr fun ds => and_congr_right' Diagnosis.build_members.symm

theorem Tells.ofBody {body : String} {d : Diagnosis} (told : Tells body d) : Diagnosis.ofBody body = d := by
  unfold Diagnosis.ofBody
  rw [tells_iff.mp told]

theorem Tells.unique {body : String} {d d' : Diagnosis} (told : Tells body d) (told' : Tells body d') : d = d' :=
  told.ofBody.symm.trans told'.ofBody

theorem ofBody_of_not_tells {body : String} (nothing : ∀ d, ¬Tells body d) : Diagnosis.ofBody body = {} := by
  unfold Diagnosis.ofBody
  split
  · rename_i d read
    exact absurd (tells_iff.mpr read) (nothing d)
  · rfl

theorem has_cases (o : Option String) : o = none ∨ o = some "" ∨ ∃ m, Has o m := by
  cases o with
  | none => exact .inl rfl
  | some m =>
    by_cases empty : m = ""
    · exact .inr (.inl (congrArg some empty))
    · exact .inr (.inr ⟨m, rfl, empty⟩)

theorem not_has_none (m : String) : ¬Has none m := fun h => nomatch h.1

theorem not_has_empty (m : String) : ¬Has (some "") m := fun h => h.2 (Option.some.inj h.1).symm

theorem Tells.isMasked_iff {body : String} {d : Diagnosis} (told : Tells body d) :
    IsMasked body ↔ d.error = some "" ∧ ∃ m, Has d.message m := by
  constructor
  · rintro ⟨d', m, told', empty, shown⟩
    rw [told'.unique told] at empty shown
    exact ⟨empty, m, shown⟩
  · rintro ⟨empty, m, shown⟩
    exact ⟨d, m, told, empty, shown⟩

theorem Tells.isSilent {body : String} {d : Diagnosis} (told : Tells body d) (noError : ∀ m, ¬Has d.error m)
    (noMessage : ∀ m, ¬Has d.message m) : IsSilent body := by
  intro d' m told'
  rw [told'.unique told]
  exact ⟨noError m, noMessage m⟩

theorem Tells.trim_ne_empty {body : String} {d : Diagnosis} (told : Tells body d) : Text.trim body ≠ "" := by
  obtain ⟨ds, presented, -⟩ := told
  cases presented with
  | object object _ =>
    obtain ⟨c, mem, same⟩ := List.mem_map.mp object.brace_mem
    cases same
    exact Text.trim_ne_empty mem (by decide)
  | list list _ =>
    obtain ⟨c, mem, same⟩ := List.mem_map.mp list.bracket_mem
    cases same
    exact Text.trim_ne_empty mem (by decide)

def plainText (status : Nat) (body : String) : String :=
  if Text.trim body = "" then (Http.reason? status).getD "no response body" else Text.trim body

section
variable {status : Nat} {body : String}

theorem IsFirstText.ne_empty {m : String} (first : IsFirstText status body m) : m ≠ "" := by
  cases first with
  | error _ has => exact has.2
  | message _ _ has => exact has.2
  | body _ some_ => exact some_
  | reason _ _ =>
    cases reason : Http.reason? status with
    | none => simp
    | some r => exact Http.reason_ne_empty reason

theorem isFirstText_plainText (silent : IsSilent body) : IsFirstText status body (plainText status body) := by
  unfold plainText
  split
  · exact .reason silent ‹_›
  · exact .body silent ‹_›

theorem diagnostic_eq (d : Diagnosis) :
    diagnostic d status body = ((d.error <|> d.message).filter (· != "")).getD (plainText status body) := by
  unfold diagnostic
  split
  · rename_i shown
    rw [shown, Option.getD_some]
  · rename_i shown
    rw [shown, Option.getD_none, plainText]

theorem diagnostic_of_has {d : Diagnosis} {m : String} (h : Has (d.error <|> d.message) m) :
    diagnostic d status body = m := by
  obtain ⟨shown, some_⟩ := h
  have kept : (some m).filter (· != "") = some m := by simp [Option.filter, some_]
  rw [diagnostic_eq, shown, kept, Option.getD_some]

theorem diagnostic_of_not_has {d : Diagnosis} (h : ∀ m, ¬Has (d.error <|> d.message) m) :
    diagnostic d status body = plainText status body := by
  have dropped : (some "").filter (· != "") = none := rfl
  rw [diagnostic_eq]
  rcases has_cases (d.error <|> d.message) with absent | empty | ⟨m, shown⟩
  · rw [absent, Option.filter_none, Option.getD_none]
  · rw [empty, dropped, Option.getD_none]
  · exact absurd shown (h m)

theorem isFirstText_of_error_none {d : Diagnosis} (told : Tells body d) (absent : d.error = none) :
    IsFirstText status body (diagnostic d status body) := by
  have noError : ∀ m, ¬Has d.error m := by
    rw [absent]
    exact not_has_none
  have second : (d.error <|> d.message) = d.message := by
    rw [absent]
    rfl
  by_cases message : ∃ m, Has d.message m
  · obtain ⟨m, shown⟩ := message
    rw [diagnostic_of_has (by rw [second]; exact shown)]
    exact .message told noError shown
  · have noMessage (m : String) (h : Has d.message m) : False := message ⟨m, h⟩
    rw [diagnostic_of_not_has (by rw [second]; exact noMessage)]
    exact isFirstText_plainText (told.isSilent noError noMessage)

/-- An empty error stands for the message, whatever that is, so that the body is what is left. -/
theorem diagnostic_of_error_empty {d : Diagnosis} (told : Tells body d) (empty : d.error = some "") :
    diagnostic d status body = Text.trim body := by
  have first : (d.error <|> d.message) = some "" := by
    rw [empty]
    rfl
  rw [diagnostic_of_not_has (first ▸ not_has_empty)]
  exact if_neg told.trim_ne_empty

theorem diagnostic_of_tells {d : Diagnosis} (told : Tells body d) :
    diagnostic d status body ≠ "" ∧ (¬IsMasked body → IsFirstText status body (diagnostic d status body)) ∧
      (IsMasked body → diagnostic d status body = Text.trim body) := by
  have masked := told.isMasked_iff
  -- The message counts only where the error is absent, so the cases are the error's.
  rcases has_cases d.error with absent | empty | ⟨e, shown⟩
  · have first : IsFirstText status body _ := isFirstText_of_error_none told absent
    exact ⟨first.ne_empty, fun _ => first, fun h => nomatch absent ▸ (masked.mp h).1⟩
  · have hidden : diagnostic d status body = _ := diagnostic_of_error_empty told empty
    rw [hidden]
    refine ⟨told.trim_ne_empty, fun h => ?_, fun _ => rfl⟩
    refine .body (told.isSilent (empty ▸ not_has_empty) ?_) told.trim_ne_empty
    exact fun m shown => h (masked.mpr ⟨empty, m, shown⟩)
  · have unmasked (h : IsMasked body) : False := not_has_empty e ((masked.mp h).1 ▸ shown)
    rw [diagnostic_of_has (by rw [Has, shown.1]; exact ⟨rfl, shown.2⟩)]
    exact ⟨shown.2, fun _ => .error told shown, fun h => (unmasked h).elim⟩

end

/-- The text of an answer's failure is never empty. It is the first that is not, unless the body's error hides its
message; then it is the body itself. -/
theorem serverMessage_isFirstText (status : Nat) (header : Option String) (body : String) :
    ∃ m, (ofAnswer status header body).serverMessage? = some m ∧ m ≠ "" ∧
      (¬IsMasked body → IsFirstText status body m) ∧ (IsMasked body → m = Text.trim body) := by
  rw [serverMessage?_ofAnswer]
  refine ⟨_, rfl, ?_⟩
  by_cases told : ∃ d, Tells body d
  · obtain ⟨d, told⟩ := told
    rw [told.ofBody]
    exact diagnostic_of_tells told
  · have nothing (d : Diagnosis) (h : Tells body d) : False := told ⟨d, h⟩
    have silent : IsSilent body := fun d _ h => absurd h (nothing d)
    have first : IsFirstText status body _ := isFirstText_plainText silent
    rw [ofBody_of_not_tells nothing, diagnostic_of_not_has (d := {}) not_has_none]
    refine ⟨first.ne_empty, fun _ => first, ?_⟩
    rintro ⟨d, _, h, -⟩
    exact (nothing d h).elim

def maskedReport : Json.Value := .object [("error", .string ""), ("message", .string "no such agent")]

theorem empty_error_hides_message :
    maskedReport.text = "\x7b\"error\":\"\",\"message\":\"no such agent\"\x7d" ∧ Http.isSuccess 400 = false ∧
      ¬∃ m, (ofAnswer 400 none maskedReport.text).serverMessage? = some m ∧ IsFirstText 400 maskedReport.text m := by
  refine ⟨by decide +kernel, rfl, ?_⟩
  rintro ⟨m, shown, first⟩
  have object := Json.isObject_text [("error", .string ""), ("message", .string "no such agent")]
    ⟨trivial, trivial, trivial⟩
  have told : Tells maskedReport.text ⟨some "", some "no such agent", none, none⟩ :=
    ⟨_, .object object (by decide), ⟨_, rfl, rfl⟩, ⟨_, rfl, rfl⟩, .inl rfl, .inl rfl⟩
  have given : Has (some "no such agent") "no such agent" := ⟨rfl, by decide⟩
  cases first with
  | error told' has =>
    rw [told'.unique told] at has
    exact has.2 (Option.some.inj has.1).symm
  | message told' _ has =>
    rw [told'.unique told] at has
    obtain rfl : "no such agent" = m := Option.some.inj has.1
    revert shown
    decide +kernel
  | body silent => exact (silent _ _ told).2 given
  | reason silent => exact (silent _ _ told).2 given

end Failure

end AgentLedger
