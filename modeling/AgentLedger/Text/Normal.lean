import AgentLedger.Text.Combining
import AgentLedger.Text.Composites
/-!
# Normal form

One text of all those that are canonically equivalent: composites are taken
apart, marks are brought into the order of their classes, and then every mark
that can join the character in front of it does (Normalization Form C).
-/

namespace AgentLedger.Text

/-! ## Syllables

The Korean syllables are put together from a leading consonant, a vowel and
perhaps a trailing consonant by their numbers. -/

def isSyllable (n : Nat) : Bool := 0xAC00 ≤ n && n ≤ 0xD7A3

/-- The letters of the syllable numbered `n`. -/
def syllableParts (n : Nat) : List Char :=
  let tail := n % 28
  Char.ofNat (0x1100 + n / 588) :: Char.ofNat (0x1161 + n % 588 / 28) ::
    (if tail = 0 then [] else [Char.ofNat (0x11A7 + tail)])

/-- The syllable that a consonant and a vowel, or a syllable and a consonant, are put together to. -/
def syllable? (a b : Nat) : Option Char :=
  if 0x1100 ≤ a ∧ a ≤ 0x1112 ∧ 0x1161 ≤ b ∧ b ≤ 0x1175 then
    some (Char.ofNat (0xAC00 + ((a - 0x1100) * 21 + (b - 0x1161)) * 28))
  else if isSyllable a ∧ (a - 0xAC00) % 28 = 0 ∧ 0x11A8 ≤ b ∧ b ≤ 0x11C2 then
    some (Char.ofNat (a + (b - 0x11A7)))
  else none

/-! ## Taking apart -/

/-- A character taken apart, `depth` composites deep. -/
def partsOf : Nat → Char → List Char
  | 0, c => [c]
  | depth + 1, c =>
    if isSyllable c.toNat then syllableParts (c.toNat - 0xAC00)
    else
      match composites.spanOf? c with
      | some s =>
        match s.charsOf c with
        | first :: others => partsOf depth first ++ others
        | [] => []
      | none =>
        match variants.spanOf? c with
        | some s => s.charsOf c
        | none => [c]

/-- A text without composites; none of them is more than four deep. -/
def decomposed (cs : List Char) : List Char :=
  cs.flatMap fun c => if c.toNat < 0xC0 then [c] else partsOf 4 c

/-! ## Order -/

/-- Puts a character behind a text, whose last character comes first, and in front of the marks of higher classes. -/
def placeMark (c : Char) : List Char → List Char
  | [] => [c]
  | d :: ds =>
    if 0 < combiningClass c ∧ combiningClass c < combiningClass d then d :: placeMark c ds else c :: d :: ds

def ordered (cs : List Char) : List Char := (cs.foldl (fun ds c => placeMark c ds) []).reverse

/-! ## Putting together -/

def composite? (a b : Char) : Option Char :=
  match syllable? a.toNat b.toNat with
  | some c => some c
  | none => (composites.spanWith? [a.toNat, b.toNat]).map fun s => Char.ofNat s.first

/-- Joins the marks that follow to `base`. `held` are those that stand behind it already, the last of them of class
`last`; a mark of the same class keeps a later one away. -/
def joined (base : Char) (held : List Char) (last : Nat) : List Char → List Char
  | [] => base :: held
  | c :: cs =>
    match (if held.isEmpty || last < combiningClass c then composite? base c else none) with
    | some d => joined d held last cs
    | none =>
      if combiningClass c = 0 then base :: held ++ joined c [] 0 cs
      else joined base (held ++ [c]) (combiningClass c) cs

/-- Joins marks to the characters in front of them; marks at the start have none. -/
def composed : List Char → List Char
  | [] => []
  | c :: cs => if combiningClass c = 0 then joined c [] 0 cs else c :: composed cs

def normal (cs : List Char) : List Char :=
  if cs.all (·.toNat < 0x300) then cs else composed (ordered (decomposed cs))

end AgentLedger.Text
