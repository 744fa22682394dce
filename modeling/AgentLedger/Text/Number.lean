/-!
# Numbers in decimal

Decimal digits of a natural number, and the reading of an unsigned number of
bounded width: an optional plus sign, then ASCII digits. The first character
that is no digit, or the first digit that carries the value past the width,
settles the fault.
-/

namespace AgentLedger.Text

def decimalDigits (n : Nat) : List Char := Nat.toDigits 10 n

/-- Canonical decimal: no sign, no leading zero. -/
def decimal (n : Nat) : String := String.ofList (decimalDigits n)

def digitValue (c : Char) : Nat := c.toNat - '0'.toNat

/-- The number that a run of digits writes; leading zeros do not matter. -/
def digitsValue (ds : List Char) : Nat := Nat.ofDigitChars 10 ds 0

/-- `ds` behind as many zeros as make `width` characters. -/
def zeroPadded (width : Nat) (ds : List Char) : List Char := List.replicate (width - ds.length) '0' ++ ds

inductive NumberFault where
  | empty
  | badDigit
  | tooLarge
deriving DecidableEq, Repr

def NumberFault.message : NumberFault → String
  | .empty => "cannot parse integer from empty string"
  | .badDigit => "invalid digit found in string"
  | .tooLarge => "number too large to fit in target type"

def accumulate (limit n : Nat) : List Char → Except NumberFault Nat
  | [] => .ok n
  | c :: cs =>
    if !c.isDigit then .error .badDigit
    else if limit ≤ 10 * n + digitValue c then .error .tooLarge
    else accumulate limit (10 * n + digitValue c) cs

/-- Reads an unsigned number below `limit`. -/
def readUnsigned (limit : Nat) (s : String) : Except NumberFault Nat :=
  match s.toList with
  | [] => .error .empty
  | ['+'] => .error .badDigit
  | '+' :: cs => accumulate limit 0 cs
  | cs => accumulate limit 0 cs

def readUInt16 (s : String) : Except NumberFault UInt16 := (readUnsigned UInt16.size s).map UInt16.ofNat
def readUInt32 (s : String) : Except NumberFault UInt32 := (readUnsigned UInt32.size s).map UInt32.ofNat
def readUInt64 (s : String) : Except NumberFault UInt64 := (readUnsigned UInt64.size s).map UInt64.ofNat

end AgentLedger.Text
