import AgentLedger.Url
import AgentLedger.Url.Domain
/-!
# Reading hosts

Addresses of both kinds and domain names. A name whose last label is a number
must be an address, and so must one that folding turns into numbers.
-/

namespace AgentLedger

inductive Url.Fault where
  | relative
  | emptyHost
  | invalidPort
  | invalidIpv4
  | invalidIpv6
  | invalidName
  | forbiddenCharacter
deriving DecidableEq, Repr

def Url.Fault.message : Url.Fault → String
  | .relative => "relative URL without a base"
  | .emptyHost => "empty host"
  | .invalidPort => "invalid port number"
  | .invalidIpv4 => "invalid IPv4 address"
  | .invalidIpv6 => "invalid IPv6 address"
  | .invalidName => "invalid international domain name"
  | .forbiddenCharacter => "invalid domain character"

namespace Host

/-! ## Addresses of four bytes -/

/-- A number in decimal, in octal behind a zero, or in hexadecimal behind `0x`. -/
def readNumber? : List Char → Option Nat
  | [] => none
  | '0' :: 'x' :: cs | '0' :: 'X' :: cs => Text.hexNumber? cs
  | '0' :: c :: cs =>
    if (c :: cs).all fun c => '0' ≤ c && c ≤ '7' then some (Nat.ofDigitChars 8 (c :: cs) 0) else none
  | cs => if cs.all Char.isDigit then some (Text.digitsValue cs) else none

/-- The labels of a name; a last one that is empty does not count. -/
def labels (name : List Char) : List (List Char) :=
  match (Text.split '.' name).reverse with
  | [] :: l :: ls => (l :: ls).reverse
  | ls => ls.reverse

def endsInNumber (name : List Char) : Bool :=
  match (labels name).getLast? with
  | none | some [] => false
  | some l => l.all Char.isDigit || (readNumber? l).isSome

/-- The numbers but the last are bytes; the last one fills the rest. -/
def readIpv4? (name : List Char) : Option Nat := do
  let numbers ← (labels name).mapM readNumber?
  let last ← numbers.getLast?
  let bytes := numbers.dropLast
  if 4 < numbers.length ∨ Nat.pow 256 (4 - bytes.length) ≤ last ∨ bytes.any (255 < ·) then none
  else some (bytes.foldr (fun b (sum, weight) => (sum + b * weight, weight * 256))
    (last, Nat.pow 256 (4 - bytes.length))).1

/-! ## Addresses of eight numbers -/

/-- Up to three decimal digits, no leading zero. -/
def readByte? (cs : List Char) : Option Nat :=
  if cs.isEmpty || !cs.all Char.isDigit || (cs.length ≠ 1 && cs.head? = some '0') then none
  else if Text.digitsValue cs < 256 then some (Text.digitsValue cs)
  else none

/-- Groups of up to four hexadecimal digits; an address of four bytes may be the last two. -/
def readGroups? : List (List Char) → Option (List Nat)
  | [] => some []
  | [g] =>
    if g.contains '.' then
      match (Text.split '.' g).mapM readByte? with
      | some [a, b, c, d] => some [256 * a + b, 256 * c + d]
      | _ => none
    else if g.isEmpty || 4 < g.length then none
    else (Text.hexNumber? g).map ([·])
  | g :: gs => if g.isEmpty || 4 < g.length then none else do return (← Text.hexNumber? g) :: (← readGroups? gs)

/-- The text in front of the first two colons, and behind them. -/
def cutAtColons : List Char → Option (List Char × List Char)
  | ':' :: ':' :: cs => some ([], cs)
  | c :: cs => (cutAtColons cs).map fun (a, b) => (c :: a, b)
  | [] => none

def groupsOf (cs : List Char) : List (List Char) := if cs.isEmpty then [] else Text.split ':' cs

def readIpv6? (cs : List Char) : Option (List Nat) :=
  match cutAtColons cs with
  | none => do
    let gs ← readGroups? (groupsOf cs)
    if gs.length = 8 then some gs else none
  | some (front, back) => do
    let front ← if front.contains '.' then none else readGroups? (groupsOf front)
    let back ← readGroups? (groupsOf back)
    let zeros := 8 - (front.length + back.length)
    if zeros = 0 then none else some (front ++ List.replicate zeros 0 ++ back)

/-! ## Hosts -/

def ofBrackets (cs : List Char) : Except Url.Fault Host :=
  match cs.getLast? with
  | some ']' =>
    match readIpv6? cs.dropLast with
    | some ns => .ok (.ipv6 ns)
    | none => .error .invalidIpv6
  | _ => .error .invalidIpv6

/-- The host of a URL of the web. Percent-encoded characters count as themselves. -/
def read : List Char → Except Url.Fault Host
  | '[' :: cs => ofBrackets cs
  | cs =>
    match ((Text.decode (Text.percentDecoded cs)).strict?).bind Domain.ascii? with
    | none => .error .invalidName
    | some [] => .error .emptyHost
    | some name =>
      if endsInNumber name then
        match readIpv4? name with
        | some n => .ok (.ipv4 n)
        | none => .error .invalidIpv4
      else .ok (.domain name)

/-- Characters that no host holds, whatever the scheme. -/
def isNeverInHost (c : Char) : Bool :=
  ['\x00', '\t', '\n', '\r', ' ', '#', '/', ':', '<', '>', '?', '@', '[', '\\', ']', '^', '|'].contains c

/-- Whether a URL of some other scheme has a proper host. -/
def checkOpaque : List Char → Except Url.Fault Unit
  | '[' :: cs => (ofBrackets cs).map fun _ => ()
  | cs => if cs.any isNeverInHost then .error .forbiddenCharacter else .ok ()

end Host

end AgentLedger
