import AgentLedger.Text.Punycode
import AgentLedger.Text.Split
import AgentLedger.Url.Domain.Direction
import AgentLedger.Url.Domain.Joining
import AgentLedger.Url.Domain.Mapping
/-!
# Domain names

A name is folded and brought into normal form, then it falls into labels. A
label beyond ASCII is written in Punycode behind `xn--`; a label that comes so
must stand for one that could have been written out. Any label may be empty.
-/

namespace AgentLedger.Domain

/-- Characters of ASCII that no name holds. -/
def isForbidden (c : Char) : Bool :=
  c.toNat ≤ 0x20 || c.toNat == 0x7F ||
  ['#', '%', '/', ':', '<', '>', '?', '@', '[', '\\', ']', '^', '|'].contains c

def isAscii (cs : List Char) : Bool := cs.all (·.toNat < 0x80)

def punycodeMark : List Char := ['x', 'n', '-', '-']

/-- A label as it is written out, and as it is sent. -/
structure Label where
  chars : List Char
  ascii : List Char

namespace Label

/-- Whether a label begins and joins its letters as it should, and is short enough to be written in Punycode. -/
def isProper (cs : List Char) : Bool :=
  !cs.head?.any Text.isMark && joinersFit [] cs && cs.length ≤ 1000

/-- The label that Punycode stands for, if it is in normal form and folded. -/
def ofPunycode? (code : List Char) : Option Label :=
  match (if code.length ≤ 2000 then Text.Punycode.decode code else none) with
  | none => none
  | some cs =>
    if !isAscii cs && isProper cs && Text.normal cs == cs && cs.all (fun c => folded? c == some [c]) &&
        !cs.any isForbidden && !cs.contains '.' && !punycodeMark.isPrefixOf cs then
      some ⟨cs, punycodeMark ++ code⟩
    else none

def ofFolded? (cs : List Char) : Option Label :=
  if cs.any isForbidden then none
  else if punycodeMark.isPrefixOf cs then ofPunycode? (cs.drop 4)
  else if isAscii cs then some ⟨cs, cs⟩
  else if isProper cs then some ⟨cs, punycodeMark ++ Text.Punycode.encode cs⟩
  else none

def directions (l : Label) : List Direction := l.chars.map direction

end Label

def folded (name : List Char) : Option (List Char) := do
  let pieces ← name.mapM folded?
  return Text.normal pieces.flatten

/-- The labels of a name. If one of them runs from right to left, the directions of each must agree. -/
def labels? (name : List Char) : Option (List Label) := do
  let ls ← (Text.split '.' (← folded name)).mapM Label.ofFolded?
  if ls.any (·.directions.any Direction.isBackward) && !ls.all (fun l => agree l.directions) then none
  return ls

/-- A name as it is sent: in ASCII and lower case. -/
def ascii? (name : List Char) : Option (List Char) := do
  let ls ← labels? name
  return (List.intersperse ['.'] (ls.map (·.ascii))).flatten

end AgentLedger.Domain
