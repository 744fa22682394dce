import AgentLedger.Json.Reader
/-!
# JSON texts as they are written

A source is a JSON text with all that the document of it leaves out: space,
escapes, the spelling of numbers.
-/

namespace AgentLedger.Json

/-! ## Tokens -/

structure Blank where
  chars : List Char
  spaces : ∀ c ∈ chars, isSpace (some c) = true

def Blank.empty : Blank := ⟨[], fun _ h => absurd h List.not_mem_nil⟩

def Blank.append (a b : Blank) : Blank :=
  ⟨a.chars ++ b.chars, fun c hc => (List.mem_append.mp hc).elim (a.spaces c) (b.spaces c)⟩

/-- A character of a string as it is written, or half of one: a unit may be a surrogate. -/
inductive Glyph where
  | plain (c : Char) (visible : c ≠ '"' ∧ c ≠ '\\' ∧ 0x20 ≤ c.toNat)
  | short (e c : Char) (known : simpleEscape? e = some c)
  | unit (a b c d : Char) (n : Nat) (known : Text.hexNumber? [a, b, c, d] = some n)

def Glyph.chars : Glyph → List Char
  | .plain c _ => [c]
  | .short e _ _ => ['\\', e]
  | .unit a b c d _ _ => ['\\', 'u', a, b, c, d]

abbrev Literal := List Glyph

namespace Literal

def chars (gs : Literal) : List Char := gs.flatMap Glyph.chars

theorem chars_cons (g : Glyph) (gs : Literal) : chars (g :: gs) = g.chars ++ chars gs := List.flatMap_cons

def content : Literal → Except Break (List Char)
  | [] => .ok []
  | .plain c _ :: gs => (content gs).map (c :: ·)
  | .short _ c _ :: gs => (content gs).map (c :: ·)
  | .unit _ _ _ _ n _ :: gs =>
    if 0xDC00 ≤ n ∧ n ≤ 0xDFFF then .error (.malformed .loneSurrogate)
    else if n < 0xD800 ∨ 0xDBFF < n then (content gs).map (Char.ofNat n :: ·)
    else
      match gs with
      | .unit _ _ _ _ m _ :: gs =>
        if 0xDC00 ≤ m ∧ m ≤ 0xDFFF then
          (content gs).map (Char.ofNat (0x10000 + (n - 0xD800) * 0x400 + (m - 0xDC00)) :: ·)
        else .error (.malformed .loneSurrogate)
      | _ => .error (.malformed .halfPair)

def text (gs : Literal) : Except Break String := gs.content.map String.ofList

end Literal

structure Digits where
  chars : List Char
  ne_nil : chars ≠ []
  digits : ∀ c ∈ chars, c.isDigit = true

/-- What stands in front of an exponent's digits. -/
structure Mark where
  upper : Bool
  sign : Option Bool

def Mark.chars (m : Mark) : List Char :=
  (if m.upper then 'E' else 'e') ::
    match m.sign with
    | none => []
    | some minus => [if minus then '-' else '+']

structure Figure where
  negative : Bool
  whole : Digits
  noLeadingZero : ∀ c cs, whole.chars ≠ '0' :: c :: cs
  fraction : Option Digits
  exponent : Option (Mark × Digits)

namespace Figure

def fractionChars : Option Digits → List Char
  | none => []
  | some ds => '.' :: ds.chars

def exponentChars : Option (Mark × Digits) → List Char
  | none => []
  | some (m, ds) => m.chars ++ ds.chars

def chars (f : Figure) : List Char :=
  (if f.negative then ['-'] else []) ++ (f.whole.chars ++ (fractionChars f.fraction ++ exponentChars f.exponent))

def numeral (f : Figure) : Numeral where
  negative := f.negative
  whole := f.whole.chars
  fraction := (f.fraction.map (·.chars)).getD []
  exponent := f.exponent.map fun (m, ds) => (m.sign.getD false, ds.chars)

end Figure

/-! ## Sources -/

/-- The space in front of an item, on both sides of the comma if there is one. -/
structure Gap where
  outer : Blank
  inner : Blank

def Gap.chars (first : Bool) (g : Gap) : List Char :=
  g.outer.chars ++ ((if first then [] else [',']) ++ g.inner.chars)

structure Label where
  gap : Gap
  name : Literal
  beforeColon : Blank
  afterColon : Blank

def Label.chars (first : Bool) (l : Label) : List Char :=
  l.gap.chars first ++ ('"' :: (l.name.chars ++ '"' :: (l.beforeColon.chars ++ ':' :: l.afterColon.chars)))

inductive Source where
  | null
  | bool (b : Bool)
  | number (f : Figure)
  | string (name : Literal)
  | array (items : List (Gap × Source)) (last : Blank)
  | object (members : List (Label × Source)) (last : Blank)

namespace Source

mutual
def chars : Source → List Char
  | .null => ['n', 'u', 'l', 'l']
  | .bool true => ['t', 'r', 'u', 'e']
  | .bool false => ['f', 'a', 'l', 's', 'e']
  | .number f => f.chars
  | .string l => '"' :: (l.chars ++ ['"'])
  | .array items last => '[' :: (itemsChars true items ++ (last.chars ++ [']']))
  | .object members last => '\x7b' :: (membersChars true members ++ (last.chars ++ ['\x7d']))
def itemsChars (first : Bool) : List (Gap × Source) → List Char
  | [] => []
  | (g, v) :: is => g.chars first ++ (v.chars ++ itemsChars false is)
def membersChars (first : Bool) : List (Label × Source) → List Char
  | [] => []
  | (l, v) :: ms => l.chars first ++ (v.chars ++ membersChars false ms)
end

mutual
def doc : Source → Doc
  | .null => .null
  | .bool b => .bool b
  | .number f => .number f.numeral
  | .string l =>
    match l.text with
    | .ok s => .string s
    | .error b => .unreadable b
  | .array items _ => .array (itemDocs items) .closed
  | .object members _ => .object (memberDocs members) .closed
def itemDocs : List (Gap × Source) → List Doc
  | [] => []
  | (_, v) :: is => v.doc :: itemDocs is
def memberDocs : List (Label × Source) → List (Except Break String × Doc)
  | [] => []
  | (l, v) :: ms => (l.name.text, v.doc) :: memberDocs ms
end

end Source

end AgentLedger.Json
