import AgentLedger.Text.Category
/-!
# Printable characters

Characters that show by themselves: no controls, no formats, no separators
but the space, nothing that is ignored where it cannot be shown, and nothing
that is drawn onto the character in front of it.
-/

namespace AgentLedger.Text

/-- Controls, formats, separators and fillers. -/
def invisible : Table := .ofLines [
  "0-1F 7F-A0 AD 600-605 61C 6DD 70F 890-891 8E2 115F-1160 1680 180E 2000-200F 2028-202F 205F-206F 3000 3164",
  "FEFF FFA0 FFF9-FFFB 110BD 110CD 13430-1343F 1BCA0-1BCA3 1D173-1D17A E0001-E007F"]

/-- Characters besides the nonspacing marks that extend the character in front of them. -/
def extending : Table := .ofLines [
  "9BE 9D7 B3E B57 BBE BD7 CC0 CC2 CC7-CD6 D3E D57 DCF DDF 1715 1734 1B35-1B3D 1B43-1B44 1BAA 1BF2-1BF3 200C",
  "302E-302F A953 A9C0 FF9E-FF9F 111C0 11235 1133E 1134D 11357 113B8 113C2-113C9 113CF 114B0 114BD 115AF 116B6",
  "11930 1193D 11F41 16FF0-16FF1 1D165-1D166 1D16D-1D172 E0020-E007F"]

/-- Shows by itself when it is quoted. -/
def isPrintable (c : Char) : Bool :=
  if c.toNat < 0x7F then 0x20 ≤ c.toNat
  else !(isUnassigned c || isNonspacing c || invisible.has c || extending.has c)

end AgentLedger.Text
