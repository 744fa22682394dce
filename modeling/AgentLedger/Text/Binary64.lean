import AgentLedger.Text.Number
/-!
# Numbers of double precision

A non-negative binary fraction with a mantissa of at most 53 bits, the
nearest one to a quotient, and the shortest decimal that reads back as it.
-/

namespace AgentLedger.Text

structure Binary64 where
  mantissa : Nat
  exponent : Int
deriving DecidableEq, Repr

namespace Binary64

def zero : Binary64 := ⟨0, 0⟩

/-- The least mantissa of 53 bits. -/
def fullMantissa : Nat := 4503599627370496

/-- `num / den` to the nearest whole number, a half to the even neighbour. -/
def roundQuotient (num den : Nat) : Nat :=
  let q := num / den
  let r := num % den
  if 2 * r < den then q
  else if den < 2 * r then q + 1
  else q + q % 2

/-- Numerator and denominator of `num / den` over `2 ^ e`. -/
def scaled (num den : Nat) (e : Int) : Nat × Nat :=
  if 0 ≤ e then (num, den * Nat.pow 2 e.toNat) else (num * Nat.pow 2 (-e).toNat, den)

/-- The exponent that gives `num / den` a mantissa of 53 bits, or the least
exponent there is. -/
def exponentOf (num den : Nat) : Int :=
  let e : Int := (num.log2 : Int) - den.log2 - 52
  let (n, d) := scaled num den e
  let e := if n < d * fullMantissa then e - 1 else e
  max e (-1074)

/-- The nearest number to `num / den`, unless that lies beyond the largest. -/
def nearest (num den : Nat) : Option Binary64 :=
  if num = 0 then some zero
  else
    let e := exponentOf num den
    let (n, d) := scaled num den e
    let m := roundQuotient n d
    let (m, e) := if m = 2 * fullMantissa then (fullMantissa, e + 1) else (m, e)
    if 971 < e then none else some ⟨m, e⟩

def numerator (x : Binary64) : Nat := x.mantissa * Nat.pow 2 x.exponent.toNat
def denominator (x : Binary64) : Nat := Nat.pow 2 (-x.exponent).toNat

def mul (x y : Binary64) : Option Binary64 :=
  nearest (x.numerator * y.numerator) (x.denominator * y.denominator)

def div (x y : Binary64) : Option Binary64 :=
  nearest (x.numerator * y.denominator) (x.denominator * y.numerator)

/-! ## Shortest decimal -/

structure Decimal where
  digits : Nat
  exponent : Int

/-- Numerator and denominator of a quotient over `10 ^ k`. -/
def overTen (num den : Nat) (k : Int) : Nat × Nat :=
  if 0 ≤ k then (num, den * Nat.pow 10 k.toNat) else (num * Nat.pow 10 (-k).toNat, den)

/-- Four times the value, and how far four times a decimal may lie below and
above it to read back: all over one denominator. -/
def reach (x : Binary64) : Nat × Nat × Nat × Nat :=
  let unit := Nat.pow 2 x.exponent.toNat
  let below := if x.mantissa = fullMantissa ∧ -1074 < x.exponent then unit else 2 * unit
  (4 * x.numerator, below, 2 * unit, x.denominator)

/-- Of the two neighbours of `x` on the grid of multiples of `10 ^ k`, the
nearer one that reads back as `x`. -/
def onGrid (x : Binary64) (k : Int) : Option Decimal :=
  let (value, below, above, den) := x.reach
  let (n, d) := overTen value den k
  let (b, _) := overTen below den k
  let (a, _) := overTen above den k
  let lower := n / (4 * d)
  let closed := x.mantissa % 2 == 0
  let down := n - lower * (4 * d)
  let up := (lower + 1) * (4 * d) - n
  let lowerOk := 0 < lower && (down < b || (closed && down == b))
  let upperOk := up < a || (closed && up == a)
  if lowerOk && (!upperOk || down < up || (down == up && lower % 2 == 0)) then some ⟨lower, k⟩
  else if upperOk then some ⟨lower + 1, k⟩
  else none

/-- The power of ten of the first digit of `num / den`. -/
def leadingPower (num den : Nat) : Int :=
  if den ≤ num then ((decimalDigits (num / den)).length : Int) - 1
  else
    let rec go : Nat → Nat → Int
      | 0, j => -(j : Int)
      | fuel + 1, j => if den ≤ num * Nat.pow 10 j then -(j : Int) else go fuel (j + 1)
    go 400 1

def shortest (x : Binary64) : Decimal :=
  let p := leadingPower x.numerator x.denominator
  let grids := (List.range 17).map fun (i : Nat) => p - (i : Int)
  (grids.findSome? x.onGrid).getD ⟨x.mantissa, x.exponent⟩

/-! ## Text -/

/-- Plain notation from 10^-5 up to below 10^16, always with a point; beyond
that one digit, a point where more digits follow, and a signed exponent. -/
def chars (x : Binary64) : List Char :=
  if x.mantissa = 0 then ['0', '.', '0']
  else
    let s := x.shortest
    let ds := dropTail0 (decimalDigits s.digits)
    let point := s.exponent + (decimalDigits s.digits).length
    if point ≤ -5 ∨ 16 < point then
      let e := point - 1
      ds.take 1 ++ (if ds.length = 1 then [] else '.' :: ds.drop 1) ++
        'e' :: (if e < 0 then '-' else '+') :: decimalDigits e.natAbs
    else if point ≤ 0 then '0' :: '.' :: List.replicate (-point).toNat '0' ++ ds
    else if ds.length ≤ point.toNat then ds ++ List.replicate (point.toNat - ds.length) '0' ++ ['.', '0']
    else ds.take point.toNat ++ '.' :: ds.drop point.toNat
where
  dropTail0 (ds : List Char) : List Char := (ds.reverse.dropWhile (· == '0')).reverse

end Binary64

end AgentLedger.Text
