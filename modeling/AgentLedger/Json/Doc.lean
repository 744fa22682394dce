/-!
# JSON as far as it was read

A document is the tree that a reader found in a text, the place where reading
broke off included. Nothing is refused at this stage: a damaged token, an
unfinished list, a string that no text can hold all have their place in the
tree, and whoever reads a record out of it meets them in the order of the text.
-/

namespace AgentLedger.Json

/-- What a text that ends too early is in the middle of. -/
inductive Part where
  | value
  | string
  | list
  | object
deriving DecidableEq, Repr

def Part.text : Part → String
  | .value => "a value"
  | .string => "a string"
  | .list => "a list"
  | .object => "an object"

/-- Why a text is no JSON. -/
inductive Flaw where
  | noValue
  | noWord
  | noNumber
  | tooLarge
  | noEscape
  | control
  | noCharacter
  | loneSurrogate
  | halfPair
  | noName
  | noColon
  | noListComma
  | noObjectComma
  | trailingComma
  | trailingText
  | tooDeep
deriving DecidableEq, Repr

def Flaw.text : Flaw → String
  | .noValue => "expected value"
  | .noWord => "expected ident"
  | .noNumber => "invalid number"
  | .tooLarge => "number out of range"
  | .noEscape => "invalid escape"
  | .control => "control character (\\u0000-\\u001F) found while parsing a string"
  | .noCharacter => "invalid unicode code point"
  | .loneSurrogate => "lone leading surrogate in hex escape"
  | .halfPair => "unexpected end of hex escape"
  | .noName => "key must be a string"
  | .noColon => "expected \x60:\x60"
  | .noListComma => "expected \x60,\x60 or \x60]\x60"
  | .noObjectComma => "expected \x60,\x60 or \x60\x7d\x60"
  | .trailingComma => "trailing comma"
  | .trailingText => "trailing characters"
  | .tooDeep => "recursion limit exceeded"

/-- How reading breaks off: the text ends too early, or it is no JSON. -/
inductive Break where
  | cut (inside : Part)
  | malformed (flaw : Flaw)
deriving DecidableEq, Repr

def Break.text : Break → String
  | .cut inside => "EOF while parsing " ++ inside.text
  | .malformed flaw => flaw.text

/-- What a damaged token is reported as where a value is read, where a value
is skipped, and where the name of a status is read. -/
structure Damage where
  value : Break
  skipped : Break
  name : Break
deriving DecidableEq, Repr

def Damage.all (b : Break) : Damage := ⟨b, b, b⟩

/-- A number as written, its exponent given with a sign. -/
structure Numeral where
  negative : Bool
  whole : List Char
  fraction : List Char
  exponent : Option (Bool × List Char)
deriving DecidableEq, Repr

namespace Numeral

/-- The number's own digits; an exponent always shows `e` and a sign. -/
def chars (n : Numeral) : List Char :=
  (if n.negative then ['-'] else []) ++ n.whole ++
  (if n.fraction.isEmpty then [] else '.' :: n.fraction) ++
  (match n.exponent with
   | none => []
   | some (neg, ds) => 'e' :: (if neg then '-' else '+') :: ds)

def text (n : Numeral) : String := String.ofList n.chars

/-- A natural number's numeral. -/
def ofNat (ds : List Char) : Numeral := ⟨false, ds, [], none⟩

end Numeral

/-- How a list or an object ends. `broken true` stands for a text that breaks
off behind a comma. -/
inductive Ending where
  | closed
  | broken (afterComma : Bool) (damage : Damage)
deriving DecidableEq, Repr

inductive Doc where
  | null
  | bool (b : Bool)
  | number (n : Numeral)
  | string (s : String)
  /-- A complete string token that holds no text; it may only be skipped. -/
  | unreadable (b : Break)
  | array (items : List Doc) (ending : Ending)
  | object (members : List (Except Break String × Doc)) (ending : Ending)
  | damaged (d : Damage)

def Doc.isBroken : Doc → Bool
  | .damaged _ | .array _ (.broken ..) | .object _ (.broken ..) => true
  | _ => false

/-! ## Skipping -/

def Ending.skip : Ending → Option Break
  | .closed => none
  | .broken _ d => some d.skipped

mutual
/-- The first break that skipping the document meets. -/
def Doc.skip : Doc → Option Break
  | .damaged d => some d.skipped
  | .array items e => skipItems items e
  | .object members e => skipMembers members e
  | _ => none
def skipItems : List Doc → Ending → Option Break
  | [], e => e.skip
  | d :: ds, e => d.skip <|> skipItems ds e
def skipMembers : List (Except Break String × Doc) → Ending → Option Break
  | [], e => e.skip
  | (_, d) :: ms, e => d.skip <|> skipMembers ms e
end

end AgentLedger.Json
