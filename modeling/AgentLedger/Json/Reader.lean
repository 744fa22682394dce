import AgentLedger.Json.Doc
import AgentLedger.Text.Hex
import AgentLedger.Text.Utf8
/-!
# Reading JSON

From a text as it was received to the document in it and the text behind.
-/

namespace AgentLedger.Json

open Text (Received)

def isSpace : Option Char → Bool
  | some c => c == ' ' || c == '\n' || c == '\t' || c == '\r'
  | none => false

def skipSpace (s : Received) : Received := s.dropWhile isSpace

def isDigit : Option Char → Bool
  | some c => c.isDigit
  | none => false

/-- The digits ahead, and what follows them. -/
def takeDigits : Received → List Char × Received
  | some c :: s =>
    if c.isDigit then
      let (ds, rest) := takeDigits s
      (c :: ds, rest)
    else ([], some c :: s)
  | s => ([], s)

/-! ## Words and numbers -/

/-- The rest of a word whose first letter was seen. -/
def readWord (doc : Doc) : List Char → Received → Doc × Received
  | [], s => (doc, s)
  | _ :: _, [] => (.damaged ⟨.cut .value, .cut .value, .malformed .noValue⟩, [])
  | c :: cs, d :: s => if d = some c then readWord doc cs s else (.damaged (.all (.malformed .noWord)), d :: s)

/-- A number that the end of the text cuts off; one that is skipped counts as
no number then. -/
def Damage.ofNumber : Received → Damage
  | [] => ⟨.cut .value, .malformed .noNumber, .malformed .noValue⟩
  | _ => .all (.malformed .noNumber)

def readWhole (s : Received) : Except Damage (List Char × Received) :=
  match takeDigits s with
  | ([], _) => .error (.ofNumber s)
  | ('0' :: _ :: _, _) => .error (.all (.malformed .noNumber))
  | r => .ok r

def readFraction : Received → Except Damage (List Char × Received)
  | some '.' :: s =>
    match takeDigits s with
    | ([], _) => .error (.ofNumber s)
    | r => .ok r
  | s => .ok ([], s)

def readExponent : Received → Except Damage (Option (Bool × List Char) × Received)
  | some c :: s =>
    if c = 'e' ∨ c = 'E' then
      let (neg, t) := match s with
        | some '-' :: t => (true, t)
        | some '+' :: t => (false, t)
        | t => (false, t)
      match takeDigits t with
      | ([], _) => .error (.ofNumber t)
      | (ds, rest) => .ok (some (neg, ds), rest)
    else .ok (none, some c :: s)
  | s => .ok (none, s)

def readUnsignedNumeral (negative : Bool) (s : Received) : Except Damage (Numeral × Received) := do
  let (whole, s) ← readWhole s
  let (fraction, s) ← readFraction s
  let (exponent, s) ← readExponent s
  return (⟨negative, whole, fraction, exponent⟩, s)

def readNumeral : Received → Except Damage (Numeral × Received)
  | some '-' :: s => readUnsignedNumeral true s
  | s => readUnsignedNumeral false s

def readNumber (s : Received) : Doc × Received :=
  match readNumeral s with
  | .ok (n, rest) => (.number n, rest)
  | .error d => (.damaged d, [])

/-! ## Strings -/

/-- Fewer than four bytes are left. -/
def isShort (s : Received) : Bool :=
  (s.take 4).foldl (fun n c => n + (c.elim 1 Char.utf8Size)) 0 < 4

def readUnit16 (s : Received) : Except Break (Nat × Received) :=
  if isShort s then .error (.cut .string)
  else
    match s with
    | some a :: some b :: some c :: some d :: rest =>
      match Text.hexNumber? [a, b, c, d] with
      | some n => .ok (n, rest)
      | none => .error (.malformed .noEscape)
    | _ => .error (.malformed .noEscape)

def simpleEscape? : Char → Option Char
  | '"' => some '"'
  | '\\' => some '\\'
  | '/' => some '/'
  | 'b' => some '\x08'
  | 'f' => some '\x0C'
  | 'n' => some '\n'
  | 'r' => some '\r'
  | 't' => some '\t'
  | _ => none

/-- The character that stands behind `\u`; surrogates must come in pairs. -/
def readCodePoint (s : Received) : Except Break (Char × Received) :=
  match readUnit16 s with
  | .error b => .error b
  | .ok (n, rest) =>
    if 0xDC00 ≤ n ∧ n ≤ 0xDFFF then .error (.malformed .loneSurrogate)
    else if n < 0xD800 ∨ 0xDBFF < n then .ok (Char.ofNat n, rest)
    else
      match rest with
      | [] => .error (.cut .string)
      | some '\\' :: [] => .error (.cut .string)
      | some '\\' :: some 'u' :: rest =>
        match readUnit16 rest with
        | .error b => .error b
        | .ok (m, rest) =>
          if 0xDC00 ≤ m ∧ m ≤ 0xDFFF then .ok (Char.ofNat (0x10000 + (n - 0xD800) * 0x400 + (m - 0xDC00)), rest)
          else .error (.malformed .loneSurrogate)
      | _ => .error (.malformed .halfPair)

/-- The characters up to the closing quote. -/
def readString : Nat → Received → Except Break (List Char × Received)
  | 0, _ => .error (.cut .string)
  | _, [] => .error (.cut .string)
  | _, none :: _ => .error (.malformed .noCharacter)
  | fuel + 1, some c :: s =>
    if c = '"' then .ok ([], s)
    else if c = '\\' then
      match s with
      | [] => .error (.cut .string)
      | some 'u' :: s =>
        match readCodePoint s with
        | .error b => .error b
        | .ok (d, rest) => (readString fuel rest).map fun (cs, rest) => (d :: cs, rest)
      | some e :: s =>
        match simpleEscape? e with
        | none => .error (.malformed .noEscape)
        | some d => (readString fuel s).map fun (cs, rest) => (d :: cs, rest)
      | none :: _ => .error (.malformed .noEscape)
    else if c.toNat < 0x20 then .error (.malformed .control)
    else (readString fuel s).map fun (cs, rest) => (c :: cs, rest)

/-- What stands behind the closing quote of a string that nobody reads. Any
four digits may follow `\u`, and any bytes may stand between the quotes. -/
def skipString : Nat → Received → Except Break Received
  | 0, _ => .error (.cut .string)
  | _, [] => .error (.cut .string)
  | fuel + 1, none :: s => skipString fuel s
  | fuel + 1, some c :: s =>
    if c = '"' then .ok s
    else if c = '\\' then
      match s with
      | [] => .error (.cut .string)
      | some 'u' :: s =>
        match readUnit16 s with
        | .error b => .error b
        | .ok (_, rest) => skipString fuel rest
      | some e :: s => if (simpleEscape? e).isSome then skipString fuel s else .error (.malformed .noEscape)
      | none :: _ => .error (.malformed .noEscape)
    else if c.toNat < 0x20 then .error (.malformed .control)
    else skipString fuel s

/-- A string whose opening quote was seen: its text, or a token that may only
be skipped, or the damage that ends the reading. -/
def readStringToken (s : Received) : Except Damage (Except Break String × Received) :=
  match readString (s.length + 1) s with
  | .ok (cs, rest) => .ok (.ok (String.ofList cs), rest)
  | .error b =>
    match skipString (s.length + 1) s with
    | .ok rest => .ok (.error b, rest)
    | .error k => .error ⟨b, k, b⟩

/-! ## Documents -/

mutual
def readDoc : Nat → Received → Doc × Received
  | 0, s => (.damaged (.all (.malformed .noValue)), s)
  | fuel + 1, s =>
    match skipSpace s with
    | [] => (.damaged (.all (.cut .value)), [])
    | some '"' :: s =>
      match readStringToken s with
      | .ok (.ok t, rest) => (.string t, rest)
      | .ok (.error b, rest) => (.unreadable b, rest)
      | .error d => (.damaged d, [])
    | some '[' :: s =>
      let (items, ending, rest) := readItems fuel true s
      (.array items ending, rest)
    | some '\x7b' :: s =>
      let (members, ending, rest) := readMembers fuel true s
      (.object members ending, rest)
    | some 'n' :: s => readWord .null ['u', 'l', 'l'] s
    | some 't' :: s => readWord (.bool true) ['r', 'u', 'e'] s
    | some 'f' :: s => readWord (.bool false) ['a', 'l', 's', 'e'] s
    | c :: s => if c = some '-' ∨ isDigit c then readNumber (c :: s) else (.damaged (.all (.malformed .noValue)), c :: s)

/-- The items that follow `[`, or, if not `first`, an item. -/
def readItems : Nat → Bool → Received → List Doc × Ending × Received
  | 0, _, s => ([], .broken false (.all (.malformed .noListComma)), s)
  | fuel + 1, first, s =>
    match skipSpace s with
    | [] => ([], .broken false (.all (.cut .list)), [])
    | some ']' :: s => ([], .closed, s)
    | some ',' :: s =>
      if first then ([], .broken true (.all (.malformed .noValue)), s)
      else
        match skipSpace s with
        | [] => ([], .broken true (.all (.cut .value)), [])
        | some ']' :: s => ([], .broken true (.all (.malformed .trailingComma)), s)
        | s => readItem fuel s
    | s => if first then readItem fuel s else ([], .broken false (.all (.malformed .noListComma)), s)

def readItem : Nat → Received → List Doc × Ending × Received
  | 0, s => ([], .broken false (.all (.malformed .noValue)), s)
  | fuel + 1, s =>
    let (d, rest) := readDoc fuel s
    if d.isBroken then ([d], .broken false (.all (.malformed .noListComma)), rest)
    else
      let (ds, ending, rest) := readItems fuel false rest
      (d :: ds, ending, rest)

/-- The members that follow an opening brace, or, if not `first`, a member. -/
def readMembers : Nat → Bool → Received → List (Except Break String × Doc) × Ending × Received
  | 0, _, s => ([], .broken false (.all (.malformed .noObjectComma)), s)
  | fuel + 1, first, s =>
    match skipSpace s with
    | [] => ([], .broken false (.all (.cut .object)), [])
    | some '\x7d' :: s => ([], .closed, s)
    | some ',' :: s =>
      if first then ([], .broken true (.all (.malformed .noName)), s)
      else
        match skipSpace s with
        | [] => ([], .broken true (.all (.cut .value)), [])
        | some '"' :: s => readMember fuel s
        | some '\x7d' :: s => ([], .broken true (.all (.malformed .trailingComma)), s)
        | s => ([], .broken true (.all (.malformed .noName)), s)
    | some '"' :: s => if first then readMember fuel s else ([], .broken false (.all (.malformed .noObjectComma)), s)
    | s => ([], .broken false (.all (.malformed (if first then .noName else .noObjectComma))), s)

/-- A member whose name's opening quote was seen, and those behind it. -/
def readMember : Nat → Received → List (Except Break String × Doc) × Ending × Received
  | 0, s => ([], .broken false (.all (.malformed .noName)), s)
  | fuel + 1, s =>
    match readStringToken s with
    | .error d => ([], .broken true d, [])
    | .ok (key, rest) =>
      match skipSpace rest with
      | [] => ([(key, .damaged (.all (.cut .object)))], .broken false (.all (.cut .object)), [])
      | some ':' :: rest =>
        let (d, rest) := readDoc fuel rest
        if d.isBroken then ([(key, d)], .broken false (.all (.malformed .noObjectComma)), rest)
        else
          let (ms, ending, rest) := readMembers fuel false rest
          ((key, d) :: ms, ending, rest)
      | rest => ([(key, .damaged (.all (.malformed .noColon)))], .broken false (.all (.malformed .noColon)), rest)
end

/-- The document at the head of a text, and the text behind it. -/
def parse (s : Received) : Doc × Received := readDoc (3 * s.length + 3) s

end AgentLedger.Json
