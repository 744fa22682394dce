/-! # Texts cut at a character -/

namespace AgentLedger.Text

/-- The pieces between the characters `c`. There is one more piece than there are such characters. -/
def split (c : Char) : List Char → List (List Char)
  | [] => [[]]
  | d :: ds =>
    if d = c then [] :: split c ds
    else
      match split c ds with
      | [] => [[d]]
      | piece :: pieces => (d :: piece) :: pieces

/-- The text up to the first character `c`, and what stands behind that character, if it occurs. -/
def cut (c : Char) : List Char → List Char × Option (List Char)
  | [] => ([], none)
  | d :: ds =>
    if d = c then ([], some ds)
    else
      let (before, behind) := cut c ds
      (d :: before, behind)

end AgentLedger.Text
