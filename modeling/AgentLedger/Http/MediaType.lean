/-!
# Media types

A type, a subtype and parameters. Tokens hold letters, digits and some marks;
a parameter's value is a token or stands between quotes. One space and more
may stand before a parameter, and behind a quoted value.
-/

namespace AgentLedger.Http

structure MediaType where
  type : List Char
  subtype : List Char
  parameters : List (List Char × List Char)

namespace MediaType

def isTokenChar (c : Char) : Bool :=
  c.isAlphanum || ['!', '#', '$', '%', '&', '\'', '*', '+', '-', '.', '^', '_', '\x60', '|', '~'].contains c

def isQuotedChar (c : Char) : Bool := 31 < c.toNat && c.toNat < 127

/-- The text up to the closing quote, and what follows it. -/
def closeQuote : List Char → Option (List Char × List Char)
  | [] => none
  | '"' :: cs => some ([], cs)
  | c :: cs => if isQuotedChar c then (closeQuote cs).map fun (v, rest) => (c :: v, rest) else none

/-- A quoted value behind its opening quote. Its first character never closes it. -/
def readQuoted : List Char → Option (List Char × List Char)
  | [] => none
  | c :: cs => if isQuotedChar c then (closeQuote cs).map fun (v, rest) => (c :: v, rest) else none

/-- A parameter's value, and the text of the parameters that follow. -/
def readValue : List Char → Option (List Char × List Char)
  | '"' :: cs =>
    match readQuoted cs with
    | none => none
    | some (v, rest) =>
      match rest.dropWhile (· == ' ') with
      | [] => some (v, [])
      | ';' :: rest => some (v, rest)
      | _ => none
  | cs =>
    match cs.takeWhile isTokenChar, cs.dropWhile isTokenChar with
    | v, [] => some (v, [])
    | v, ';' :: rest => if v.isEmpty then none else some (v, rest)
    | _, _ => none

/-- At most `n` parameters. -/
def readParameters (n : Nat) (cs : List Char) : Option (List (List Char × List Char)) :=
  match n, cs.dropWhile (· == ' ') with
  | _, [] => some []
  | 0, _ => none
  | n + 1, cs =>
    match cs.takeWhile isTokenChar, cs.dropWhile isTokenChar with
    | [], _ => none
    | name, '=' :: rest =>
      match readValue rest with
      | none => none
      | some (v, rest) => (readParameters n rest).map ((name, v) :: ·)
    | _, _ => none

def read? (s : String) : Option MediaType :=
  match s.toList.takeWhile isTokenChar, s.toList.dropWhile isTokenChar with
  | [], _ => none
  | type, '/' :: rest =>
    match rest.takeWhile isTokenChar, rest.dropWhile isTokenChar with
    | subtype, [] => some ⟨type, subtype, []⟩
    | [], _ => none
    | subtype, ';' :: rest => (readParameters rest.length rest).map (⟨type, subtype, ·⟩)
    | _, _ => none
  | _, _ => none

def lower (cs : List Char) : List Char := cs.map Char.toLower

/-- The subtype up to its last plus sign and what stands behind; a leading plus sign is none. -/
def subtypeParts (m : MediaType) : List Char × Option (List Char) :=
  match m.subtype.reverse.span (· != '+') with
  | (suffix, '+' :: front@(_ :: _)) => (front.reverse, some suffix.reverse)
  | _ => (m.subtype, none)

/-- JSON, or a format on top of it. -/
def isJson (m : MediaType) : Bool :=
  let (front, suffix) := m.subtypeParts
  let json := ['j', 's', 'o', 'n']
  lower m.type == "application".toList && (lower front == json || suffix.map lower == some json)

def parameter? (m : MediaType) (name : String) : Option (List Char) :=
  (m.parameters.find? fun p => lower p.1 == name.toList).map (·.2)

end MediaType

end AgentLedger.Http
