import AgentLedger.Json.Fault
import AgentLedger.Json.Reader
/-!
# Documents as values

A document that is read as a value shows everything that is in it. An object
whose first member has one of two reserved names is no object then, but an
envelope: its only member is a string that spells a number, which may be of
any size, or a whole document.
-/

namespace AgentLedger.Json

inductive Envelope where
  | number
  | document
deriving DecidableEq, Repr

namespace Envelope

def ofName? (name : String) : Option Envelope :=
  if name = "$serde_json::private::Number" then some .number
  else if name = "$serde_json::private::RawValue" then some .document
  else none

/-- The number that a string spells, with nothing around it. -/
def numberOf (s : String) : Except Fault Value :=
  match readNumeral (s.toList.map some) with
  | .ok (n, []) => .ok (.number n.chars)
  | .ok _ => .error (.ofMisfit (.misspelled (.malformed .noNumber)))
  | .error d => .error (.ofMisfit (.misspelled d.value))

/-- What is in an envelope; `document` reads the document that a string spells. -/
def contents (document : String → Except Fault Value) (d : Doc) : Envelope → Except Fault Value
  | .number =>
    match readText .numberText d with
    | .ok s => numberOf s
    | .error f => .error f
  | .document =>
    match readText .documentText d with
    | .ok s => document s
    | .error f => .error f

/-- Nothing may follow the member of an envelope. -/
def close (others : List (Except Break String × Doc)) (e : Ending) : Except Fault Unit :=
  match others, e with
  | [], .closed => .ok ()
  | [], .broken false d =>
    match d.value with
    | .cut _ => .error (.broken (.cut .object))
    | .malformed _ => .error (.broken (.malformed .trailingText))
  | _, _ => .error (.broken (.malformed .trailingComma))

end Envelope

def Ending.read : Ending → Except Fault Unit
  | .closed => .ok ()
  | .broken _ d => .error (.broken d.value)

mutual
/-- The value that a document shows, if at most `room` lists and objects stand
inside each other. Objects have their members by name, the last of equal names. -/
def Doc.shown (document : String → Except Fault Value) (room : Nat) : Doc → Except Fault Value
  | .null => .ok .null
  | .bool b => .ok (.bool b)
  -- As it is written, so that minus zero does not show as zero.
  | .number n => .ok (.number n.chars)
  | .string s => .ok (.string s)
  | .unreadable b => .error (.broken b)
  | .damaged d => .error (.broken d.value)
  | .array items e =>
    if room = 0 then .error (.broken (.malformed .tooDeep))
    else (showItems document (room - 1) items e).map .array
  | .object members e =>
    if room = 0 then .error (.broken (.malformed .tooDeep))
    else
      match members with
      | (.ok name, d) :: others =>
        match Envelope.ofName? name with
        | some kind =>
          match kind.contents document d with
          | .ok v => (Envelope.close others e).map fun _ => v
          | .error f => .error f
        | none => (showMembers document (room - 1) members e []).map .object
      | _ => (showMembers document (room - 1) members e []).map .object
def showItems (document : String → Except Fault Value) (room : Nat) : List Doc → Ending →
    Except Fault (List Value)
  | [], e => e.read.map fun _ => []
  | d :: ds, e =>
    match d.shown document room with
    | .error f => .error f
    | .ok v => (showItems document room ds e).map (v :: ·)
def showMembers (document : String → Except Fault Value) (room : Nat) :
    List (Except Break String × Doc) → Ending → List (String × Value) → Except Fault (List (String × Value))
  | [], e, ms => e.read.map fun _ => ms
  | (.error b, _) :: _, _, _ => .error (.broken b)
  | (.ok k, d) :: rest, e, ms =>
    match d.shown document room with
    | .error f => .error f
    | .ok v => showMembers document room rest e (Value.insertMember k v ms)
end

/-- The value that a string spells, if at most `depth` envelopes stand inside each other. -/
def Envelope.documentOf : Nat → String → Except Fault Value
  | 0, _ => .error (.broken (.malformed .tooDeep))
  | depth + 1, s =>
    let (d, rest) := parse (s.toList.map some)
    match d.shown (Envelope.documentOf depth) 127 with
    | .error (.broken b) => .error (.ofMisfit (.misspelled b))
    | .error f => .error f
    | .ok v =>
      if rest.all isSpace then .ok v else .error (.ofMisfit (.misspelled (.malformed .trailingText)))

/-- The value that a document shows. A string is longer than what the envelopes in it hold, so that its length bounds
their depth. -/
def Doc.toValue (room : Nat) (d : Doc) : Except Fault Value :=
  d.shown (fun s => Envelope.documentOf (s.length + 1) s) room

end AgentLedger.Json
