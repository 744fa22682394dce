import AgentLedger.Json.Doc
import AgentLedger.Text.Binary64
/-!
# What a numeral stands for

An integer of 64 bits, or a number of double precision; minus zero is of the
latter, for no integer keeps its sign. A double is worked out from as many
leading digits as fit 64 bits and from one power of ten, each step rounded; it
is only shown in diagnostics.
-/

namespace AgentLedger.Json.Numeral

open Text (Binary64)

/-- The integer, if the numeral has no fraction and no exponent, is not minus
zero, and fits 64 bits: signed behind a minus sign, unsigned else. -/
def integer? (n : Numeral) : Option Int :=
  if !n.fraction.isEmpty || n.exponent.isSome then none
  else
    let v := Text.digitsValue n.whole
    if n.negative then (if 0 < v ∧ v ≤ 9223372036854775808 then some (-(v : Int)) else none)
    else if v < UInt64.size then some v
    else none

/-- The leading digits as a number of 64 bits, and a power of ten. -/
structure Parts where
  significand : Nat
  exponent : Int

def fits (significand : Nat) (c : Char) : Bool := 10 * significand + Text.digitValue c < UInt64.size

/-- Digits before the point; from the first one that does not fit each counts as a power of ten. -/
def wholeParts (significand : Nat) : List Char → Parts
  | [] => ⟨significand, 0⟩
  | c :: cs =>
    if fits significand c then wholeParts (10 * significand + Text.digitValue c) cs
    else ⟨significand, (c :: cs).length⟩

/-- Digits behind the point; from the first one that does not fit they do not count. -/
def fractionParts : Parts → List Char → Parts
  | p, [] => p
  | p, c :: cs =>
    if fits p.significand c then fractionParts ⟨10 * p.significand + Text.digitValue c, p.exponent - 1⟩ cs
    else p

def tenTo (k : Nat) : Option Binary64 := Binary64.nearest (Nat.pow 10 k) 1

/-- `x * 10 ^ e`, none past the largest number. -/
def timesTen : Nat → Binary64 → Int → Option Binary64
  | 0, x, _ => some x
  | fuel + 1, x, e =>
    if e.natAbs ≤ 308 then do
      let p ← tenTo e.natAbs
      if 0 ≤ e then x.mul p else x.div p
    else if x.mantissa = 0 then some x
    else if 0 ≤ e then none
    else do
      let x ← x.div (← tenTo 308)
      timesTen fuel x (e + 308)

/-- The magnitude in double precision, none past the largest number. -/
def magnitude? (n : Numeral) : Option Binary64 := do
  let p := fractionParts (wholeParts 0 n.whole) n.fraction
  let x ← Binary64.nearest p.significand 1
  match n.exponent with
  | none => timesTen 8 x p.exponent
  | some (neg, ds) =>
    let e := Text.digitsValue ds
    if 2147483648 ≤ e then (if p.significand = 0 ∨ neg then some Binary64.zero else none)
    else timesTen 8 x (if neg then p.exponent - e else p.exponent + e)

/-- The number in double precision as text. -/
def doubleText? (n : Numeral) : Option String :=
  n.magnitude?.map fun x => String.ofList ((if n.negative then ['-'] else []) ++ x.chars)

end AgentLedger.Json.Numeral
