import AgentLedger.Json.Envelope
/-!
# Reading records

A record is described once, by its members in the order of declaration and by
what is built from them. It is read from an object, whose members may stand in
any order and among others, or from a list of its members' values. Faults are
met in the order of the text; only then a missing member counts.
-/

namespace AgentLedger.Json

abbrev Reads (α : Type) := Doc → Except Fault α

/-! ## Members -/

structure Member where
  name : String
  check : Reads Unit

/-- A record's members, and what is built from their values. -/
structure Members (α : Type) where
  list : List Member
  build : (String → Option Doc) → Except Fault α

namespace Members

def required (name : String) (read : Reads α) : Members α where
  list := [⟨name, fun d => (read d).map fun _ => ()⟩]
  build values :=
    match values name with
    | some d => read d
    | none => .error (.ofMisfit (.missingField name))

/-- A value that may be null, or nothing. -/
def nullable (read : Reads α) : Reads (Option α)
  | .null => .ok none
  | d => (read d).map some

def optional (name : String) (read : Reads α) : Members (Option α) where
  list := [⟨name, fun d => (nullable read d).map fun _ => ()⟩]
  build values :=
    match values name with
    | some d => nullable read d
    | none => .ok none

def map (f : α → β) (m : Members α) : Members β where
  list := m.list
  build values := (m.build values).map f

def and (m : Members (α → β)) (n : Members α) : Members β where
  list := m.list ++ n.list
  build values :=
    match m.build values with
    | .error e => .error e
    | .ok f => (n.build values).map f

instance : Functor Members where
  map := Members.map

instance : Seq Members where
  seq m n := m.and (n ())

end Members

def checkMember (ms : List Member) (seen : List String) (name : String) (d : Doc) : Except Fault (List String) :=
  match ms.find? (·.name == name) with
  | none =>
    match d.skip with
    | none => .ok seen
    | some b => .error (.broken b)
  | some m =>
    if name ∈ seen then .error (.ofMisfit (.duplicateField name))
    else
      match m.check d with
      | .ok () => .ok (name :: seen)
      | .error e => .error (e.under (.member name))

/-- The first fault among an object's members. -/
def checkObject (ms : List Member) (seen : List String) :
    List (Except Break String × Doc) → Ending → Except Fault Unit
  | [], .closed => .ok ()
  | [], .broken _ d => .error (.broken d.value)
  | (.error b, _) :: _, _ => .error (.broken b)
  | (.ok name, d) :: rest, e =>
    match checkMember ms seen name d with
    | .error f => .error f
    | .ok seen => checkObject ms seen rest e

/-- The first fault among a list's items, the list standing for `record`. -/
def checkList (record : String) (size index : Nat) : List Member → List Doc → Ending → Except Fault Unit
  | [], [], .closed => .ok ()
  | [], [], .broken false d => .error (.broken d.value)
  | [], _, _ => .error (.broken (.malformed .trailingComma))
  | _ :: _, [], .closed => .error (.ofMisfit (.invalidLength index record size))
  | _ :: _, [], .broken _ d => .error (.broken d.value)
  | m :: ms, d :: ds, e =>
    match m.check d with
    | .error f => .error (f.under (.item index))
    | .ok () => checkList record size (index + 1) ms ds e

/-- The value of the member called `name`. -/
def memberValue? (members : List (Except Break String × Doc)) (name : String) : Option Doc :=
  members.findSome? fun (key, d) =>
    match key with
    | .ok k => if k = name then some d else none
    | .error _ => none

/-- The item in the place of the member called `name`. -/
def itemValue? (ms : List Member) (items : List Doc) (name : String) : Option Doc :=
  (ms.zip items).findSome? fun (m, d) => if m.name = name then some d else none

def Members.read (record : String) (ms : Members α) : Reads α
  | .object members e =>
    match checkObject ms.list [] members e with
    | .error f => .error f
    | .ok () => ms.build (memberValue? members)
  | .array items e =>
    match checkList record ms.list.length 0 ms.list items e with
    | .error f => .error f
    | .ok () => ms.build (itemValue? ms.list items)
  | d => .error (d.refuse (.record record))

/-! ## Values -/

def readAnyText : Reads String := readText .string

/-- An unsigned integer below `limit`. -/
def readNatural (limit : Nat) (expected : Expected) : Reads Nat
  | .number n =>
    match n.integer? with
    | some i =>
      if 0 ≤ i ∧ i < limit then .ok i.toNat
      else .error (.ofMisfit (.outOfRange i expected))
    | none =>
      match n.doubleText? with
      | some x => .error (.ofMisfit (.invalidType (.double x) expected))
      | none => .error (.broken (.malformed .tooLarge))
  | d => .error (d.refuse expected)

def readUInt8 : Reads UInt8 := fun d => (readNatural UInt8.size .uint8 d).map UInt8.ofNat
def readUInt32 : Reads UInt32 := fun d => (readNatural UInt32.size .uint32 d).map UInt32.ofNat
def readUInt64 : Reads UInt64 := fun d => (readNatural UInt64.size .uint64 d).map UInt64.ofNat

def readUnit : Reads Unit
  | .null => .ok ()
  | d => .error (d.refuse .unit)

/-- Items up to the end of the list. -/
def readItemsAs (read : Reads α) (index : Nat) : List Doc → Ending → Except Fault (List α)
  | [], .closed => .ok []
  | [], .broken _ d => .error (.broken d.value)
  | d :: ds, e =>
    match read d with
    | .error f => .error (f.under (.item index))
    | .ok a => (readItemsAs read (index + 1) ds e).map (a :: ·)

def readList (read : Reads α) : Reads (List α)
  | .array items e => readItemsAs read 0 items e
  | d => .error (d.refuse .sequence)

/-- A name out of `names`, or `other` for every other name: a string, or an
object with one member of that name that holds null. -/
def readName (names : List (String × α)) (other : α) : Reads α
  | .string s => .ok ((names.lookup s).getD other)
  | .unreadable b => .error (.broken b)
  | .damaged d => .error (.broken d.name)
  | .object [] (.broken _ d) => .error (.broken d.value)
  | .object ((.error b, _) :: _) _ => .error (.broken b)
  | .object ((.ok s, d) :: rest) e =>
    match readUnit d with
    | .error f => .error f
    | .ok () =>
      match rest, e with
      | [], .closed => .ok ((names.lookup s).getD other)
      | [], .broken false d => .error (.broken d.value)
      | _, _ => .error (.broken (.malformed .trailingText))
  | _ => .error (.broken (.malformed .noValue))

/-- An amount: a string or a number that an amount is read from. `room` lists
and objects may stand inside each other in what is no amount. -/
def readAmount (room : Nat) (d : Doc) : Except Fault Amount :=
  let ofText (raw : String) : Except Fault Amount :=
    match Amount.read raw with
    | .ok a => .ok a
    | .error f => .error (.ofMisfit (.invalidAmount raw f))
  match d.toValue room with
  | .ok (.string s) => ofText s
  | .ok (.number ds) => ofText (String.ofList ds)
  | .ok v => .error (.ofMisfit (.notAmount v))
  | .error f => .error f

/-! ## Texts -/

/-- Reads a whole text: nothing but space may follow the document. -/
def readAll (read : Reads α) (s : Text.Received) : Except Fault α :=
  let (d, rest) := parse s
  match read d with
  | .error f => .error f
  | .ok a => if rest.all isSpace then .ok a else .error (.broken (.malformed .trailingText))

/-- Reads the document at the head of a text. -/
def readFirst (read : Reads α) (s : Text.Received) : Except Fault α := read (parse s).1

end AgentLedger.Json
