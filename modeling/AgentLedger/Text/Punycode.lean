/-!
# Punycode

Text in ASCII for text of any characters: the ASCII characters, a hyphen, and
one number of variable length for each of the others. A number says how many
states of the decoder, a position and a code point, are passed before the
character is inserted.
-/

namespace AgentLedger.Text.Punycode

def digit (n : Nat) : Char := if n < 26 then Char.ofNat (n + 97) else Char.ofNat (n + 22)

def digitValue? (c : Char) : Option Nat :=
  if c.isDigit then some (c.toNat - 22)
  else if c.isLower then some (c.toNat - 97)
  else if c.isUpper then some (c.toNat - 65)
  else none

/-- The least value of the digit in place `k` that is followed by another one. -/
def threshold (k bias : Nat) : Nat := min 26 (max 1 (k - bias))

/-- `number` in digits from place `k` on, at most `fuel + 1` of them. -/
def digits (bias : Nat) : Nat → Nat → Nat → List Char
  | 0, _, number => [digit number]
  | fuel + 1, k, number =>
    let t := threshold k bias
    if number < t then [digit number]
    else digit (t + (number - t) % (36 - t)) :: digits bias fuel (k + 36) ((number - t) / (36 - t))

def adaptedBias : Nat → Nat → Nat → Nat
  | 0, k, delta => k + 36 * delta / (delta + 38)
  | fuel + 1, k, delta =>
    if 455 < delta then adaptedBias fuel (k + 36) (delta / 35) else k + 36 * delta / (delta + 38)

/-- The bias behind a number of size `delta` that made `count` characters. -/
def adapt (delta count : Nat) (first : Bool) : Nat :=
  let delta := if first then delta / 700 else delta / 2
  adaptedBias 16 0 (delta + delta / count)

/-! ## Encoding -/

structure Encoder where
  delta : Nat := 0
  bias : Nat := 72
  /-- Characters written so far. -/
  count : Nat
  first : Bool := true
  output : List Char

/-- Passes a character of the text while characters of code `code` are written. -/
def Encoder.pass (code : Nat) (e : Encoder) (c : Char) : Encoder :=
  if c.toNat < code then { e with delta := e.delta + 1 }
  else if c.toNat = code then
    { delta := 0, bias := adapt e.delta (e.count + 1) e.first, count := e.count + 1, first := false,
      output := e.output ++ digits e.bias 32 36 e.delta }
  else e

def insertSorted (n : Nat) : List Nat → List Nat
  | [] => [n]
  | m :: ms => if n < m then n :: m :: ms else if n = m then m :: ms else m :: insertSorted n ms

def encode (cs : List Char) : List Char :=
  let basic := cs.filter (·.toNat < 128)
  let codes := (cs.filter (128 ≤ ·.toNat)).foldl (fun ms c => insertSorted c.toNat ms) []
  let start : Encoder := { count := basic.length, output := if basic.isEmpty then [] else basic ++ ['-'] }
  let write := fun (p : Encoder × Nat) code =>
    let e := { p.1 with delta := p.1.delta + (code - p.2) * (p.1.count + 1) }
    let e := cs.foldl (Encoder.pass code) e
    ({ e with delta := e.delta + 1 }, code + 1)
  (codes.foldl write (start, 128)).1.output

/-! ## Decoding -/

/-- A number from its digits, added to `sum`, and what follows them. Sums and weights have 32 bits. -/
def readNumber (bias : Nat) : Nat → Nat → Nat → List Char → Option (Nat × List Char)
  | _, _, _, [] => none
  | k, weight, sum, c :: cs =>
    match digitValue? c with
    | none => none
    | some d =>
      let t := threshold k bias
      let sum := sum + d * weight
      if UInt32.size ≤ sum then none
      else if d < t then some (sum, cs)
      else if UInt32.size ≤ weight * (36 - t) then none
      else readNumber bias (k + 36) (weight * (36 - t)) sum cs

/-- Inserts characters into `out`. `place` is where the next one goes if its
number is zero. -/
def decodeFrom : Nat → Bool → Nat → Nat → Nat → List Char → List Char → Option (List Char)
  | _, _, _, _, _, out, [] => some out
  | 0, _, _, _, _, _, _ => none
  | fuel + 1, first, code, place, bias, out, cs =>
    match readNumber bias 36 1 place cs with
    | none => none
    | some (sum, rest) =>
      let count := out.length + 1
      let spot := sum % count
      let code := code + sum / count
      if code.isValidChar then
        decodeFrom fuel false code (spot + 1) (adapt (sum - place) count first)
          (out.take spot ++ Char.ofNat code :: out.drop spot) rest
      else none

/-- The last hyphen ends the characters of ASCII; it is written only if there are any. -/
def decode (cs : List Char) : Option (List Char) :=
  match cs.reverse.span (· != '-') with
  | (_, ['-']) => none
  | (tail, '-' :: basic) => decodeFrom cs.length true 128 0 72 basic.reverse tail.reverse
  | _ => decodeFrom cs.length true 128 0 72 [] cs

end AgentLedger.Text.Punycode
