import AgentLedger.Text.Blank
import AgentLedger.Text.Number
/-!
# Amounts

An amount counts a token's smallest units and stays below 2^256. Sums come in
two kinds: one that refuses to pass the limit, one that stops at it. So do
differences: one goes round at zero, as machine words do, and one stops there.

Amounts are read from decimal text, and shown with as many places as the
token divides its unit into.
-/

namespace AgentLedger

/-- One more than the largest amount. -/
def Amount.limit : Nat := Nat.pow 2 256

structure Amount where
  units : Nat
  units_lt : units < Amount.limit
deriving DecidableEq

namespace Amount

theorem limit_pos : 0 < limit := by decide

@[ext] theorem ext {a b : Amount} (h : a.units = b.units) : a = b := by
  cases a; cases b; simp_all

instance : LE Amount := ⟨fun a b => a.units ≤ b.units⟩
instance : LT Amount := ⟨fun a b => a.units < b.units⟩
instance (a b : Amount) : Decidable (a ≤ b) := inferInstanceAs (Decidable (a.units ≤ b.units))
instance (a b : Amount) : Decidable (a < b) := inferInstanceAs (Decidable (a.units < b.units))

def zero : Amount := ⟨0, limit_pos⟩

def largest : Amount := ⟨limit - 1, by have := limit_pos; omega⟩

def ofNat? (n : Nat) : Option Amount := if h : n < limit then some ⟨n, h⟩ else none

theorem ofNat?_eq_some {n : Nat} {a : Amount} : ofNat? n = some a ↔ a.units = n := by
  unfold ofNat?
  constructor
  · intro h
    split at h
    · cases h; rfl
    · cases h
  · rintro rfl
    simp [a.units_lt]

theorem ofNat?_eq_none {n : Nat} : ofNat? n = none ↔ limit ≤ n := by
  unfold ofNat?
  split <;> simp <;> omega

def add? (a b : Amount) : Option Amount := ofNat? (a.units + b.units)

/-- The sum, or the largest amount where that is less. -/
def addCapped (a b : Amount) : Amount := (a.add? b).getD largest

/-- The difference modulo 2^256. -/
def sub (a b : Amount) : Amount := ⟨(a.units + (limit - b.units)) % limit, Nat.mod_lt _ limit_pos⟩

/-- The difference, or zero where there is none. -/
def monus (a b : Amount) : Amount := ⟨a.units - b.units, by have := a.units_lt; omega⟩

/-! ## Decimal text -/

def text (a : Amount) : String := Text.decimal a.units

inductive ReadFault where
  | notDigits
  | tooLarge
deriving DecidableEq, Repr

/-- One more digit behind those of the amount, if that is still an amount. -/
def appendDigit? (a : Amount) (d : Char) : Option Amount := ofNat? (10 * a.units + Text.digitValue d)

/-- Reads ASCII digits, any number of leading zeros included, between blanks. -/
def read (raw : String) : Except ReadFault Amount :=
  let digits := Text.trimmed raw.toList
  if digits.isEmpty || !digits.all Char.isDigit then .error .notDigits
  else
    match digits.foldlM appendDigit? zero with
    | some a => .ok a
    | none => .error .tooLarge

/-- What is said of a text that is no amount. -/
def ReadFault.text (raw : String) : ReadFault → String
  | .notDigits => "expected a non-negative integer, got '" ++ raw ++ "'"
  | .tooLarge => "'" ++ raw ++ "': the value is too large to fit the target type"

/-- How often `10 ^ places` goes into the amount, and what is left over. -/
def parts (a : Amount) (places : Nat) : Nat × Nat :=
  match ofNat? (Nat.pow 10 places) with
  | some unit => (a.units / unit.units, a.units % unit.units)
  -- The unit is more than any amount.
  | none => (0, a.units)

/-- The amount over `10 ^ decimals`, all places written. Without places a
single zero stands after the point. -/
def format (a : Amount) (decimals : UInt8) : String :=
  let (whole, rest) := a.parts decimals.toNat
  String.ofList (Text.decimalDigits whole ++ '.' ::
    Text.zeroPadded decimals.toNat (Text.decimalDigits rest))

end Amount

end AgentLedger
