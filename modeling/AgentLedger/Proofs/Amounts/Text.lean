import Mathlib.Logic.Function.Basic
import AgentLedger.Failure
import AgentLedger.Ledger.Rules
import AgentLedger.Proofs.Text.Decimal
/-!
# Amounts as text

A client and the ledger read amounts from the same texts, and each refuses the
others in its own words. The text that shows an amount with a token's places
is exact for any number of them, also where ten to their number is more than
any amount, so that it is different for different amounts.
-/

namespace AgentLedger

/-! ## Reading -/

structure ReadsDecimal {ε : Type} (read : String → Except ε Amount) (invalid : String → ε) : Prop where
  accepts : ∀ raw n, (read raw).map Amount.units = .ok n ↔ Text.Spells raw n ∧ n < Amount.limit
  refuses : ∀ raw, (∃ detail, read raw = .error (invalid detail)) ↔ ¬∃ n, Text.Spells raw n ∧ n < Amount.limit
  text : ∀ a, read a.text = .ok a

section
variable {ε : Type} {read : String → Except ε Amount} {invalid : String → ε}

theorem ReadsDecimal.of_read (takes : ∀ raw a, Amount.read raw = .ok a → read raw = .ok a)
    (turnsDown : ∀ raw f, Amount.read raw = .error f → ∃ detail, read raw = .error (invalid detail)) :
    ReadsDecimal read invalid := by
  have spelled (raw : String) (n : Nat) :
      Text.Spells raw n ∧ n < Amount.limit ↔ ∃ a, Amount.read raw = .ok a ∧ a.units = n := by
    constructor
    · rintro ⟨spells, fits⟩
      exact ⟨⟨n, fits⟩, Amount.read_eq_ok.mpr spells, rfl⟩
    · rintro ⟨a, h, rfl⟩
      exact ⟨Amount.read_eq_ok.mp h, a.units_lt⟩
  refine ⟨?_, ?_, fun a => takes a.text a a.read_text⟩
  · intro raw n
    rw [spelled]
    cases h : Amount.read raw with
    | ok a => simp [takes raw a h, Except.map]
    | error f =>
      obtain ⟨detail, refused⟩ := turnsDown raw f h
      simp [refused, Except.map]
  · intro raw
    simp only [spelled]
    cases h : Amount.read raw with
    | ok a => simp [takes raw a h]
    | error f => simp [turnsDown raw f h]

end

theorem Amount.parse_eq_ok {raw : String} {a : Amount} : parse raw = .ok a ↔ Text.Spells raw a.units := by
  rw [← read_eq_ok, parse]
  cases read raw <;> simp

theorem parse_readsDecimal : ReadsDecimal Amount.parse .invalidAmount := by
  refine .of_read ?_ ?_
  · intro raw a h
    rw [Amount.parse, h]
  · intro raw f h
    rw [Amount.parse, h]
    exact ⟨_, rfl⟩

theorem readAmount_readsDecimal : ReadsDecimal Ledger.readAmount .invalid := by
  refine .of_read ?_ ?_
  · intro raw a h
    rw [Ledger.readAmount, h]
  · intro raw f h
    rw [Ledger.readAmount, h]
    cases f <;> exact ⟨_, rfl⟩

/-- A client and the ledger read amounts from the same texts. -/
theorem parse_agrees_readAmount :
    ReadsDecimal Amount.parse .invalidAmount ∧ ReadsDecimal Ledger.readAmount .invalid ∧
      ∀ raw, (Amount.parse raw).toOption = (Ledger.readAmount raw).toOption := by
  refine ⟨parse_readsDecimal, readAmount_readsDecimal, ?_⟩
  intro raw
  rw [Amount.parse, Ledger.readAmount]
  cases Amount.read raw with
  | ok a => rfl
  | error f => cases f <;> rfl

/-! ## Showing -/

namespace Amount

/-- The unit divides the amount with remainder, also where it is no amount itself. -/
theorem parts_eq (a : Amount) (places : Nat) :
    a.parts places = (a.units / Nat.pow 10 places, a.units % Nat.pow 10 places) := by
  unfold parts
  split
  · rename_i unit h
    rw [ofNat?_eq_some.mp h]
  · rename_i h
    have small : a.units < Nat.pow 10 places := Nat.lt_of_lt_of_le a.units_lt (ofNat?_eq_none.mp h)
    rw [Nat.div_eq_of_lt small, Nat.mod_eq_of_lt small]

/-- A whole part, a point and a fraction, of which the last of `places` digits counts single units. -/
structure Shown (a : Amount) (places : Nat) (text : String) (whole fraction : List Char) : Prop where
  joined : text.toList = whole ++ '.' :: fraction
  canonical : Text.IsCanonical whole (Text.digitsValue whole)
  digits : ∀ c ∈ fraction, c.isDigit = true
  length : fraction.length = max 1 places
  value : Text.digitsValue whole * Nat.pow 10 places + Text.digitsValue fraction = a.units

theorem toList_format (a : Amount) (decimals : UInt8) :
    (a.format decimals).toList = Text.decimalDigits (a.units / Nat.pow 10 decimals.toNat) ++ '.' ::
      Text.zeroPadded decimals.toNat (Text.decimalDigits (a.units % Nat.pow 10 decimals.toNat)) := by
  rw [format, parts_eq, String.toList_ofList]

theorem shown_format (a : Amount) (decimals : UInt8) :
    ∃ whole fraction, Shown a decimals.toNat (a.format decimals) whole fraction := by
  refine ⟨_, _, a.toList_format decimals, ?_, Text.zeroPadded_isDigit _ _, ?_, ?_⟩
  · rw [Text.digitsValue_decimalDigits]
    exact Text.isCanonical_decimalDigits _
  · cases decimals.toNat with
    | zero =>
      have nothing : a.units % Nat.pow 10 0 = 0 := Nat.mod_one _
      rw [nothing]
      rfl
    | succ k =>
      have below : a.units % Nat.pow 10 (k + 1) < Nat.pow 10 (k + 1) := Nat.mod_lt _ (Nat.pow_pos (by decide))
      rw [Text.length_zeroPadded (Text.length_digits_le (Nat.succ_pos k) below)]
      omega
  · rw [Text.digitsValue_decimalDigits, Text.digitsValue_zeroPadded, Nat.mul_comm]
    exact Nat.div_add_mod _ _

/-- Without places nothing is left over, and a single zero stands for it. -/
theorem format_zero (a : Amount) : a.format 0 = a.text ++ ".0" := by
  have nothing : a.units % Nat.pow 10 0 = 0 := Nat.mod_one _
  have all : a.units / Nat.pow 10 0 = a.units := Nat.div_one _
  have shown := a.toList_format 0
  rw [show UInt8.toNat 0 = 0 from rfl, nothing, all] at shown
  apply String.toList_injective
  rw [shown, String.toList_append, text, Text.decimal, String.toList_ofList]
  rfl

section
variable {a b : Amount} {places : Nat} {text : String} {whole fraction whole' fraction' : List Char}
  (h : Shown a places text whole fraction)
include h

/-- The whole part ends at the first point. -/
theorem Shown.takeWhile_isDigit : text.toList.takeWhile Char.isDigit = whole := by
  rw [h.joined, List.takeWhile_append_of_pos h.canonical.digits, List.takeWhile_cons_of_neg (by decide),
    List.append_nil]

/-- The amount can be read off the text that shows it. -/
theorem Shown.unique (h' : Shown b places text whole' fraction') : a = b := by
  obtain rfl : whole = whole' := h.takeWhile_isDigit.symm.trans h'.takeWhile_isDigit
  have joined := h.joined.symm.trans h'.joined
  obtain rfl : fraction = fraction' := (List.cons.inj (List.append_cancel_left joined)).2
  apply ext
  rw [← h.value, h'.value]

end

/-- With any number of places an amount is shown exactly. -/
theorem format_exact (decimals : UInt8) :
    (∀ a : Amount, ∃ whole fraction, Shown a decimals.toNat (a.format decimals) whole fraction) ∧
      (∀ a : Amount, a.format 0 = a.text ++ ".0" ∧ Text.IsCanonical a.text.toList a.units) ∧
      Function.Injective fun a : Amount => a.format decimals := by
  refine ⟨fun a => a.shown_format decimals, fun a => ⟨a.format_zero, a.isCanonical_text⟩, ?_⟩
  intro a b same
  obtain ⟨w, f, shown⟩ := a.shown_format decimals
  obtain ⟨w', f', shown'⟩ := b.shown_format decimals
  have same : a.format decimals = b.format decimals := same
  rw [← same] at shown'
  exact shown.unique shown'

end Amount

end AgentLedger
