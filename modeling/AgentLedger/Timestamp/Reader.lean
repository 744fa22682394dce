import AgentLedger.Text.Blank
import AgentLedger.Timestamp
/-!
# Reading points in time

The relaxed form of date and time: numbers need no leading zeros, blanks may
stand before every number, before `-` and `:` between numbers, before the
zone and at the end. Digits of a second after the ninth are dropped.
-/

namespace AgentLedger.Timestamp

def skipBlanks (cs : List Char) : List Char := cs.dropWhile Text.isBlank

/-- At least one and at most `most` digits. -/
def digits (most : Nat) (cs : List Char) : Option (List Char × List Char) :=
  let ds := (cs.take most).takeWhile Char.isDigit
  if ds.isEmpty then none else some (ds, cs.drop ds.length)

/-- One or two digits, perhaps after blanks. -/
def twoDigit (cs : List Char) : Option (Nat × List Char) := do
  let (ds, rest) ← digits 2 (skipBlanks cs)
  return (Text.digitsValue ds, rest)

/-- Up to four digits, or a sign and any number of them. -/
def year (cs : List Char) : Option (Int × List Char) :=
  match skipBlanks cs with
  | '-' :: cs => do
    let (ds, rest) ← digits cs.length cs
    return (-(Text.digitsValue ds : Int), rest)
  | '+' :: cs => do
    let (ds, rest) ← digits cs.length cs
    return ((Text.digitsValue ds : Int), rest)
  | cs => do
    let (ds, rest) ← digits 4 cs
    return ((Text.digitsValue ds : Int), rest)

/-- `c`, perhaps after blanks. -/
def separator (c : Char) (cs : List Char) : Option (List Char) :=
  match skipBlanks cs with
  | d :: rest => if d = c then some rest else none
  | [] => none

def middle : List Char → Option (List Char)
  | 'T' :: cs | 't' :: cs | ' ' :: cs => some cs
  | _ => none

/-- Nanoseconds of a fraction, if there is one. -/
def fraction : List Char → Option (Nat × List Char)
  | '.' :: cs => do
    let (ds, rest) ← digits 9 cs
    return (Text.digitsValue ds * Nat.pow 10 (9 - ds.length), rest.dropWhile Char.isDigit)
  | cs => some (0, cs)

def offsetMinutes (cs : List Char) : Option (Int × List Char) :=
  match cs with
  | a :: b :: rest =>
    if a.isDigit && b.isDigit then
      match rest.dropWhile (fun c => c = ':' || Text.isBlank c) with
      | c :: d :: rest =>
        if '0' ≤ c ∧ c ≤ '5' ∧ d.isDigit then
          some ((Text.digitsValue [a, b] * 60 + Text.digitsValue [c, d] : Nat), rest)
        else none
      | _ => none
    else none
  | _ => none

/-- Minutes ahead of universal time. -/
def zone (cs : List Char) : Option (Int × List Char) :=
  match cs with
  | 'Z' :: rest | 'z' :: rest => some (0, rest)
  | '+' :: rest => offsetMinutes rest
  | '-' :: rest | '−' :: rest => (offsetMinutes rest).map fun (m, rest) => (-m, rest)
  | a :: b :: c :: rest =>
    if a.toUpper = 'U' ∧ b.toUpper = 'T' ∧ c.toUpper = 'C' then some (0, rest) else none
  | _ => none

def readChars (cs : List Char) : Option Timestamp := do
  let (y, cs) ← year cs
  let cs ← separator '-' cs
  let (mo, cs) ← twoDigit cs
  let cs ← separator '-' cs
  let (d, cs) ← twoDigit cs
  let cs ← middle cs
  let (h, cs) ← twoDigit cs
  let cs ← separator ':' cs
  let (mi, cs) ← twoDigit cs
  let cs ← separator ':' cs
  let (s, cs) ← twoDigit cs
  let (f, cs) ← fraction cs
  let (offset, cs) ← zone (skipBlanks cs)
  let date : Date := ⟨y, mo, d⟩
  if cs.all Text.isBlank ∧ date.Valid ∧ h < 24 ∧ mi < 60 ∧ s ≤ 60 ∧ offset.natAbs < 1440 then
    ofLocal? date (h * 60 + mi) (s * 1000000000 + f) offset
  else none

def read? (s : String) : Option Timestamp := readChars s.toList

end AgentLedger.Timestamp
