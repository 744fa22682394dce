import AgentLedger.Text.Category
/-!
# Directions

The direction that a character is written in, for the characters that names
may hold, and the rule for names in which a label runs from right to left.
Spans may run over marks and over characters that no name holds.
-/

namespace AgentLedger.Domain

open Text (Table)

inductive Direction where
  | leftToRight
  | rightToLeft
  /-- An Arabic number. -/
  | arabic
  /-- A European number. -/
  | european
  /-- Signs that go along with what is around them. -/
  | neutral
  /-- Marks that go along with the character in front of them. -/
  | mark
deriving DecidableEq, Repr

/-- Letters and signs that are written from right to left. -/
def rightToLeft : Table := .ofLines [
  "5BE-5F4 608 60B 60D 61B-64A 66D-6D5 6E5-6E6 6EE-6EF 6FA-7F5 7FA-8C9 FB1D-FBC2 FE73 10800-1091B 10920-10B35",
  "10B40-10D23 10D4A-10D4F 10D6F-10D8F 10E80-10EC7 10F00-10FF6 1E800-1ED3D"]

/-- Digits that numbers within Arabic text are written with. -/
def arabicNumbers : Table := .ofLines [
  "660-669 66B-66C 10D30-10D49 10E60-10E7E"]

/-- Digits that are written like those of ASCII. -/
def europeanNumbers : Table := .ofLines [
  "6F0-6F9 102E1-102FB"]

/-- Signs without a direction of their own. -/
def neutrals : Table := .ofLines [
  "A1-D7 F7 2B9-2BA 2C2-2CF 2D2-2ED 2EF-2FF 374-375 37E-387 3F6 58A-58F 606-607 609-60A 60C 60E-60F 66A 6DE",
  "6E9 7F6-7F9 9F2-9F3 9FB AF1 BF3-BFA C78-C7E E3F F3A-F3D 1390-1399 1400 169B-169C 17DB 17F0-180A 1940-1945",
  "19DE-19FF 1FEF 200C-214D 218A-2335 237B-2394 2396-26AB 26AD-27FF 2900-2BFF 2CE5-2CEA 2CF9-2CFF 2E00-3004",
  "3008-3020 3030 3037 303D-303F 30A0 30FB 31C0-31E5 4DC0-4DFF A490-A4C6 A60D-A60F A673-A67F A700-A721 A788",
  "A828-A82B A838-A839 A874-A877 AB6A-AB6B FBC3-FE46 10101 10140-1018C 10190-101A0 1091F 10B39-10B3F 10D6E",
  "10ED0-10ED8 11052-11065 11660-1166C 11FD5-11FF1 16FE2 1CC00-1CEF0 1D1E9-1D245 1D300-1D356 1E2FF 1EEF0-1F12F",
  "1F16D-1F16F 1F1AD 1F260-1FBFA"]

/-- Nonspacing marks that are written from left to right. -/
def directedMarks : Table := .ofLines [
  "CBF CC6 11A07-11A08 11C3F"]

def direction (c : Char) : Direction :=
  if c.toNat < 0x80 then
    if c.isAlpha then .leftToRight else if c.isDigit then .european else .neutral
  else if Text.isNonspacing c && !directedMarks.has c then .mark
  else if rightToLeft.has c then .rightToLeft
  else if arabicNumbers.has c then .arabic
  else if europeanNumbers.has c then .european
  else if neutrals.has c then .neutral
  else .leftToRight

/-- A label with such characters makes the whole name subject to the rule. -/
def Direction.isBackward (d : Direction) : Bool := d = .rightToLeft || d = .arabic

/-- The direction of the last character that is no mark. -/
def lastDirection? (ds : List Direction) : Option Direction := ds.reverse.find? (· ≠ .mark)

/-- Whether the directions of a label agree: all with the first one, which is that of a letter. The last one is that
of a letter or a number, and numbers of both kinds do not meet in a label from right to left. -/
def agree : List Direction → Bool
  | [] => true
  | d :: ds =>
    let last := lastDirection? (d :: ds)
    match d with
    | .leftToRight => !ds.any Direction.isBackward && (last = some .leftToRight || last = some .european)
    | .rightToLeft =>
      !ds.contains .leftToRight && (last = some .rightToLeft || last = some .arabic || last = some .european) &&
      !(ds.contains .arabic && ds.contains .european)
    | _ => false

end AgentLedger.Domain
