import AgentLedger.Text.Blank
import AgentLedger.Text.Number
/-!
# Durations

A span of whole seconds and a rest in nanoseconds. It is shown in the largest
unit that has a whole part, with a fraction that ends in no zero.
-/

namespace AgentLedger

structure Duration where
  seconds : Nat
  nanos : Nat
deriving DecidableEq, Repr

namespace Duration

def ofSeconds (n : Nat) : Duration := ⟨n, 0⟩

def of (seconds nanos : Nat) : Duration := ⟨seconds + nanos / 1000000000, nanos % 1000000000⟩

/-- A point and `places` digits of `fraction` without the zeros at the end; nothing for zero. -/
def fractionText (places fraction : Nat) : List Char :=
  if fraction = 0 then []
  else '.' :: Text.dropTail (· == '0') (Text.zeroPadded places (Text.decimalDigits fraction))

def inUnit (whole places fraction : Nat) (name : String) : String :=
  String.ofList (Text.decimalDigits whole ++ fractionText places fraction ++ name.toList)

def text (d : Duration) : String :=
  if 0 < d.seconds then inUnit d.seconds 9 d.nanos "s"
  else if 1000000 ≤ d.nanos then inUnit (d.nanos / 1000000) 6 (d.nanos % 1000000) "ms"
  else if 1000 ≤ d.nanos then inUnit (d.nanos / 1000) 3 (d.nanos % 1000) "µs"
  else inUnit d.nanos 0 0 "ns"

end Duration

end AgentLedger
