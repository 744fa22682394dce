import AgentLedger.Text.Hex
import AgentLedger.Text.Split
/-!
# Tables of characters

What a standard says of characters by their code points, as sorted, disjoint
spans with a look-up by halving. A table is written down in words: `A0-AF`
are neighbours, `100-12E/2` every second one of them, and `AF=B1.B2` one that
two numbers go with.
-/

namespace AgentLedger.Text

/-- Every `step`-th code point from `first` to `last`, and the numbers that go with them. -/
structure Span where
  first : Nat
  last : Nat
  step : Nat
  values : List Nat

/-- A word of a table. -/
def Span.read? (word : List Char) : Option Span := do
  let (key, values) := cut '=' word
  let (bounds, step) := cut '/' key
  let (first, last) := cut '-' bounds
  let first ← hexNumber? first
  let last ← (last.map hexNumber?).getD (some first)
  let step ← (step.map hexNumber?).getD (some 1)
  let values ← (values.map fun cs => (split '.' cs).mapM hexNumber?).getD (some [])
  return ⟨first, last, step, values⟩

/-- The numbers that go with a character, one for one if there is one of them for a whole span. -/
def Span.charsOf (s : Span) (c : Char) : List Char :=
  match s.values with
  | [v] => [Char.ofNat (v + (c.toNat - s.first))]
  | vs => vs.map Char.ofNat

structure Table where
  spans : Array Span

namespace Table

/-- The table that lines of words write down. -/
def ofLines (lines : List String) : Table :=
  ⟨(lines.flatMap fun line => (split ' ' line.toList).filterMap Span.read?).toArray⟩

/-- The span among those numbered `lo` to `hi - 1` whose bounds `n` lies between. -/
def search (t : Table) (n : Nat) : Nat → Nat → Nat → Option Span
  | 0, _, _ => none
  | fuel + 1, lo, hi =>
    if hi ≤ lo then none
    else
      let mid := (lo + hi) / 2
      match t.spans[mid]? with
      | none => none
      | some s =>
        if n < s.first then search t n fuel lo mid
        else if s.last < n then search t n fuel (mid + 1) hi
        else some s

/-- The span that a character belongs to. -/
def spanOf? (t : Table) (c : Char) : Option Span :=
  (t.search c.toNat (t.spans.size + 1) 0 t.spans.size).filter fun s => (c.toNat - s.first) % s.step == 0

def has (t : Table) (c : Char) : Bool := (t.spanOf? c).isSome

def spanWith? (t : Table) (values : List Nat) : Option Span := t.spans.find? fun s => s.values == values

end Table

end AgentLedger.Text
