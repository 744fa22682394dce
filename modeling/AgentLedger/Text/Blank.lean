/-!
# Blanks

The characters of the Unicode property `White_Space`, and a text freed of
them at both ends. Zero-width characters and the byte order mark are no
blanks.
-/

namespace AgentLedger.Text

/-- The Unicode property `White_Space`. -/
def isBlank (c : Char) : Bool :=
  let n := c.toNat
  (0x09 ≤ n && n ≤ 0x0D) || n == 0x20 || n == 0x85 || n == 0xA0 || n == 0x1680 ||
  (0x2000 ≤ n && n ≤ 0x200A) || n == 0x2028 || n == 0x2029 || n == 0x202F || n == 0x205F || n == 0x3000

/-- Drops the characters with `p` from the end. -/
def dropTail (p : Char → Bool) (cs : List Char) : List Char := (cs.reverse.dropWhile p).reverse

def trimmed (cs : List Char) : List Char := dropTail isBlank (cs.dropWhile isBlank)

def trim (s : String) : String := String.ofList (trimmed s.toList)

/-- Nothing but blanks, or nothing at all. -/
def isAllBlank (s : String) : Bool := s.toList.all isBlank

end AgentLedger.Text
