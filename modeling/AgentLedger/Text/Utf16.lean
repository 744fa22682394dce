import AgentLedger.Text.Utf8
/-!
# UTF-16

Two bytes are a unit, and a leading and a trailing unit are a character
together. The decoder never fails: a unit without its partner gives one
`none`, and so does what is left when a text ends within a character.
-/

namespace AgentLedger.Text

inductive ByteOrder where
  | littleEndian
  | bigEndian

def ByteOrder.unit (o : ByteOrder) (a b : UInt8) : Nat :=
  match o with
  | .littleEndian => a.toNat + 256 * b.toNat
  | .bigEndian => 256 * a.toNat + b.toNat

def isLeading (unit : Nat) : Bool := 0xD800 ≤ unit && unit < 0xDC00

def isTrailing (unit : Nat) : Bool := 0xDC00 ≤ unit && unit < 0xE000

/-- The rest of a text, behind a leading unit or behind none. -/
def decodeUtf16From (o : ByteOrder) : Option Nat → Bytes → Received
  | none, [] => []
  | some _, [] => [none]
  | _, [_] => [none]
  | none, a :: b :: bs =>
    let unit := o.unit a b
    if isLeading unit then decodeUtf16From o (some unit) bs
    else if isTrailing unit then none :: decodeUtf16From o none bs
    else some (Char.ofNat unit) :: decodeUtf16From o none bs
  | some leading, a :: b :: bs =>
    let unit := o.unit a b
    if isTrailing unit then
      some (Char.ofNat (0x10000 + (leading - 0xD800) * 0x400 + (unit - 0xDC00))) :: decodeUtf16From o none bs
    else if isLeading unit then none :: decodeUtf16From o (some unit) bs
    else none :: some (Char.ofNat unit) :: decodeUtf16From o none bs

def decodeUtf16 (o : ByteOrder) (bs : Bytes) : Received := decodeUtf16From o none bs

end AgentLedger.Text
