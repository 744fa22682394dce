import AgentLedger.Proofs.Client.Diagnosis
import AgentLedger.Proofs.Client.Exchange
import AgentLedger.Proofs.Service.Requests
import AgentLedger.Proofs.Wire
/-!
# Refusals survive the wire

A refusal goes out as a status, perhaps a delay in a header, and a body with
its text and a code. The client makes one failure of it, in which the text is
the refusal's own, whatever stands in it.
-/

namespace AgentLedger

open Json (Value)

namespace Refusal

def delay? : Refusal → Option UInt64
  | .rateLimited seconds => some seconds
  | _ => none

def failure (e : Refusal) : Failure :=
  match e with
  | .walletExists _ | .channelClosed _ => .conflict e.message
  | .walletNotFound _ | .channelNotFound _ | .balanceNotFound _ => .notFound e.message
  | .invalid _ => .validation 400 e.message
  | .insufficientFunds _ => .insufficientFunds e.message
  | .notOwner .. => .validation 403 e.message
  | .missingMasterSeed => .serverFault 500 e.message
  | .rateLimited seconds => .rateLimited (some (.ofSeconds seconds.toNat)) e.message

theorem message_ne_empty (e : Refusal) : e.message ≠ "" := by
  delta message
  cases e <;> simp

end Refusal

/-! ## What the service sends -/

namespace Service

theorem status_refusal (e : Refusal) : (refusal e).status = (verdict e).1 := by cases e <;> rfl

theorem header?_refusal (e : Refusal) :
    Http.header? "retry-after" (refusal e).headers = e.delay?.map fun seconds => Text.decimal seconds.toNat := by
  cases e with
  | rateLimited seconds => exact header?_refusal_rateLimited seconds
  | _ => rfl

theorem text_withHeader {name : String} (value : String) (response : Http.Response)
    (other : Http.lowerCase name ≠ Http.lowerCase "content-type") :
    (withHeader name value response).text = response.text :=
  Http.Response.text_congr rfl rfl (header?_withHeader value response other)

theorem text_refusal (e : Refusal) : (refusal e).text = (Wire.refused e.message (verdict e).2 e.delay?).text := by
  have body : (verdict e).1 ≠ 204 ∧ (verdict e).1 ≠ 304 := by cases e <;> simp [verdict]
  have plain := text_json (verdict e).1 body
  cases e with
  | rateLimited seconds => exact (text_withHeader _ _ (by decide)).trans (plain _)
  | _ => exact plain _

end Service

/-! ## What the client reads -/

namespace Wire

theorem refused_isNatural (message code : String) (delay : Option UInt64) : (refused message code delay).IsNatural := by
  cases delay with
  | none => exact ⟨trivial, trivial, trivial⟩
  | some seconds => exact ⟨trivial, trivial, Value.isNatural_ofNat _, trivial⟩

end Wire

namespace Failure

theorem Diagnosis.ofBody_refused (message code : String) (delay : Option UInt64) :
    ofBody (Wire.refused message code delay).text = { error := some message, code := some code, retryAfter := delay } := by
  have natural := Wire.refused_isNatural message code delay
  cases delay with
  | none =>
    have object := Json.isObject_text [("error", .string message), ("code", .string code)] natural
    exact ofBody_of_shows object (by simp) ⟨⟨_, rfl, rfl⟩, .inl rfl, ⟨_, rfl, rfl⟩, .inl rfl⟩
  | some seconds =>
    have object := Json.isObject_text
      [("error", .string message), ("code", .string code), ("retryAfter", .ofNat seconds.toNat)] natural
    have count := Json.integer?_ofNat seconds.toNat_lt
    exact ofBody_of_shows object (by simp) ⟨⟨_, rfl, rfl⟩, .inl rfl, ⟨_, rfl, rfl⟩, ⟨_, rfl, _, rfl, count⟩⟩

/-- What the client makes of a refusal's status, header and body. -/
theorem ofAnswer_refused (e : Refusal) :
    ofAnswer (Service.verdict e).1 (e.delay?.map fun seconds => Text.decimal seconds.toNat)
      (Wire.refused e.message (Service.verdict e).2 e.delay?).text = e.failure := by
  let d : Diagnosis := { error := some e.message, code := some (Service.verdict e).2, retryAfter := e.delay? }
  have message := diagnostic_of_error (d := d) rfl e.message_ne_empty
  unfold ofAnswer Refusal.failure
  rw [Diagnosis.ofBody_refused]
  simp only [d] at message
  simp only [message]
  -- Which text it is does not matter for the classification.
  generalize e.message = message
  cases e with
  | rateLimited seconds =>
    have header : Text.readUInt64 (Text.trim (Text.decimal seconds.toNat)) = .ok seconds := by
      rw [Text.trim_decimal, Text.readUInt64_decimal]
    simp [Service.verdict, Refusal.delay?, header, Except.toOption]
  | _ => simp [Service.verdict, insufficientFundsCode, Http.isClientError, Http.isServerError]

end Failure

/-- Every refusal, with any texts and any delay in it, is told apart again. -/
theorem refusal_survives (e : Refusal) :
    let response := Service.refusal e
    let failure := Failure.ofAnswer response.status (Http.header? "retry-after" response.headers) response.text
    failure = e.failure ∧ failure.serverMessage? = some e.message ∧
      (failure.isSeedMissing = true ↔ e = .missingMasterSeed) := by
  intro response failure
  have told : failure = e.failure := by
    rw [← Failure.ofAnswer_refused, ← Service.status_refusal, ← Service.header?_refusal, ← Service.text_refusal]
  rw [told]
  refine ⟨rfl, ?_, ?_⟩
  · cases e <;> rfl
  · cases e with
    | missingMasterSeed =>
      have found : (Failure.serverFault 500 "master-seed not found").isSeedMissing = true := by decide
      exact ⟨fun _ => rfl, fun _ => found⟩
    | _ => exact ⟨nofun, nofun⟩

end AgentLedger
