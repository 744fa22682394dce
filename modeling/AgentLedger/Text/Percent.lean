import AgentLedger.Text.Hex
import AgentLedger.Text.Utf8
/-!
# Percent-encoding

Bytes written as a percent sign and two hexadecimal digits. The decoder leaves
alone what is no such triple.
-/

namespace AgentLedger.Text

def percentEncodedByte (b : UInt8) : List Char :=
  ['%', upperHexDigit (b.toNat / 16), upperHexDigit (b.toNat % 16)]

/-- Characters with `encoded` byte by byte, the others as they are. -/
def percentEncoded (encoded : Char → Bool) (cs : List Char) : List Char :=
  cs.flatMap fun c => if encoded c then (String.utf8EncodeChar c).flatMap percentEncodedByte else [c]

def percentDecoded : List Char → Bytes
  | [] => []
  | '%' :: a :: b :: cs =>
    match hexValue? a, hexValue? b with
    | some x, some y => UInt8.ofNat (16 * x + y) :: percentDecoded cs
    | _, _ => 0x25 :: percentDecoded (a :: b :: cs)
  | c :: cs => String.utf8EncodeChar c ++ percentDecoded cs

end AgentLedger.Text
