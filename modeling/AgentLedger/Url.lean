import AgentLedger.Text.Hex
import AgentLedger.Text.Number
import AgentLedger.Text.Percent
import AgentLedger.Text.Split
/-!
# URLs of the web

A URL of `http` or `https` in its parts, the text that they make, and the
growing of its path. A path is a list of segments with at least one; the root
has a single empty one. Texts of the parts are percent-encoded.
-/

namespace AgentLedger

inductive Host where
  | domain (name : List Char)
  | ipv4 (address : Nat)
  | ipv6 (pieces : List Nat)
deriving DecidableEq, Repr

structure Url where
  secure : Bool
  user : List Char
  password : Option (List Char)
  host : Host
  /-- Given unless it is the usual one of the scheme. -/
  port : Option Nat
  path : List (List Char)
  query : Option (List Char)
  fragment : Option (List Char)
deriving DecidableEq, Repr

/-! ## Text -/

namespace Host

/-- The first of the longest runs of zeros, as its start and its length. -/
def longestZeros : Nat → List Nat → Nat × Nat
  | _, [] => (0, 0)
  | i, n :: ns =>
    let run := ((n :: ns).takeWhile (· = 0)).length
    let (start, length) := longestZeros (i + 1) ns
    if length ≤ run then (i, run) else (start, length)

def joined (ns : List Nat) : List Char := (List.intersperse [':'] (ns.map (Nat.toDigits 16))).flatten

/-- Eight numbers in hexadecimal; the longest run of zeros, if it has two or
more, is left out. -/
def ipv6Text (ns : List Nat) : List Char :=
  let (start, length) := longestZeros 0 ns
  if length < 2 then joined ns
  else joined (ns.take start) ++ [':', ':'] ++ joined (ns.drop (start + length))

def chars : Host → List Char
  | .domain name => name
  | .ipv4 n =>
    (List.intersperse ['.'] ([n / 16777216, n / 65536 % 256, n / 256 % 256, n % 256].map Text.decimalDigits)).flatten
  | .ipv6 ns => '[' :: ipv6Text ns ++ [']']

end Host

namespace Url

def scheme (u : Url) : List Char := if u.secure then "https".toList else "http".toList

def defaultPort (secure : Bool) : Nat := if secure then 443 else 80

def pathChars (path : List (List Char)) : List Char := path.flatMap ('/' :: ·)

def credentials (u : Url) : List Char :=
  match u.user, u.password with
  | [], none => []
  | user, none => user ++ ['@']
  | user, some password => user ++ ':' :: password ++ ['@']

def portChars : Option Nat → List Char
  | some p => ':' :: Text.decimalDigits p
  | none => []

def queryChars : Option (List Char) → List Char
  | some q => '?' :: q
  | none => []

def targetChars (u : Url) : List Char := pathChars u.path ++ queryChars u.query

def target (u : Url) : String := String.ofList u.targetChars

def requestChars (u : Url) : List Char :=
  u.scheme ++ [':', '/', '/'] ++ u.credentials ++ u.host.chars ++ portChars u.port ++ u.targetChars

def chars (u : Url) : List Char :=
  u.requestChars ++ match u.fragment with
    | some f => '#' :: f
    | none => []

def text (u : Url) : String := String.ofList u.chars

/-! ## Growing the path -/

def isControlOrForeign (c : Char) : Bool := c.toNat < 0x20 || 0x7E < c.toNat

/-- What a path does not hold as it is. -/
def pathEncoded (c : Char) : Bool :=
  isControlOrForeign c || [' ', '"', '#', '<', '>', '?', '\x60', '\x7b', '\x7d'].contains c

/-- What a segment that is added does not hold as it is. -/
def segmentEncoded (c : Char) : Bool := pathEncoded c || c == '/' || c == '%' || c == '\\'

def isTabOrBreak (c : Char) : Bool := c == '\t' || c == '\n' || c == '\r'

/-- Puts a segment at the end. The root's empty segment gives way. -/
def pushed (path : List (List Char)) (segment : List Char) : List (List Char) :=
  if path = [[]] then [segment] else path ++ [segment]

/-- Adds a segment. Tabs and line breaks are dropped; single and double dots
are left out, or, if they come about only then, walk in the path. -/
def addSegment (path : List (List Char)) (segment : String) : List (List Char) :=
  if segment = "." ∨ segment = ".." then path
  else
    let cs := segment.toList.filter (!isTabOrBreak ·)
    if cs = ['.', '.'] then (pushed path []).dropLast.dropLast ++ [[]]
    else if cs = ['.'] then pushed path []
    else pushed path (Text.percentEncoded segmentEncoded cs)

/-- The path without an empty segment at its end, the root aside. -/
def openEnd (path : List (List Char)) : List (List Char) :=
  match path.reverse with
  | [] :: s :: rest => (s :: rest).reverse
  | _ => path

def extend (u : Url) (segments : List String) : Url :=
  { u with path := segments.foldl addSegment (openEnd u.path) }

end Url

end AgentLedger
