import AgentLedger.Ledger.Rules
/-!
# Time and chance

What a running service draws for an operation: the time from a clock that
counts from the beginning of 1970, and a channel's id from random bytes.
-/

namespace AgentLedger

namespace Timestamp

def epoch : Timestamp := ⟨⟨1970, 1, 1⟩, 0, 0, by decide, by decide, by decide⟩

/-- The time `nanos` behind the epoch, as far as the calendar goes. -/
def ofEpoch (nanos : Nat) : Timestamp :=
  let seconds := nanos / 1000000000
  let minutes := seconds / 60
  (of? (epoch.date.after (minutes / 1440)) (minutes % 1440) (nanos % 60000000000)).getD epoch

end Timestamp

/-- The bytes of a random identifier: four bits name its version and two its variant. -/
def marked (bytes : List UInt8) : List UInt8 :=
  (bytes.modify 6 fun b => (b &&& 0x0F) ||| 0x40).modify 8 fun b => (b &&& 0x3F) ||| 0x80

def Channel.idOf (bytes : List UInt8) : String := String.ofList (['c', 'h', '_'] ++ Text.hex (marked bytes))

def Occasion.drawn (nanos : Nat) (bytes : List UInt8) : Occasion := ⟨.ofEpoch nanos, Channel.idOf bytes⟩

end AgentLedger
