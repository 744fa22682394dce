import AgentLedger.Amount
import AgentLedger.Json.Value
import AgentLedger.Json.Numeral
import AgentLedger.Text.Quoted
/-!
# Why a record could not be read

Either reading breaks off, or the text is well-formed so far and does not fit
the record. A misfit knows where it was met: inside which member or item.
-/

namespace AgentLedger.Json

/-- What was met where something else was expected. -/
inductive Found where
  | null
  | bool (b : Bool)
  | string (s : String)
  | sequence
  | map
  | integer (i : Int)
  /-- A number where no number was expected and that is no integer of 64 bits. -/
  | number
  /-- A number where an integer was expected, in double precision. -/
  | double (text : String)

def Found.text : Found → String
  | .null => "null"
  | .bool true => "boolean `true`"
  | .bool false => "boolean `false`"
  | .string s => "string " ++ Text.quoted s
  | .sequence => "sequence"
  | .map => "map"
  | .integer i => "integer `" ++ (if i < 0 then "-" else "") ++ Text.decimal i.natAbs ++ "`"
  | .number => "number"
  | .double x => "floating point `" ++ x ++ "`"

inductive Expected where
  | string
  | uint8
  | uint32
  | uint64
  | unit
  | timestamp
  | sequence
  /-- A string that spells a number. -/
  | numberText
  /-- A string that spells a document. -/
  | documentText
  | record (name : String)

def Expected.text : Expected → String
  | .string => "a string"
  | .uint8 => "u8"
  | .uint32 => "u32"
  | .uint64 => "u64"
  | .unit => "unit"
  | .timestamp => "an RFC 3339 formatted date and time string"
  | .sequence => "a sequence"
  | .numberText => "string containing a number"
  | .documentText => "raw value"
  | .record name => "struct " ++ name

/-- How a well-formed value does not fit. -/
inductive Misfit where
  | missingField (name : String)
  | duplicateField (name : String)
  | invalidType (found : Found) (expected : Expected)
  | outOfRange (i : Int) (expected : Expected)
  | invalidLength (length : Nat) (record : String) (size : Nat)
  | invalidTimestamp
  | invalidAmount (raw : String) (fault : Amount.ReadFault)
  | notAmount (value : Value)
  /-- A string should spell something and is no JSON itself. -/
  | misspelled (b : Break)

def Misfit.text : Misfit → String
  | .missingField name => "missing field `" ++ name ++ "`"
  | .duplicateField name => "duplicate field `" ++ name ++ "`"
  | .invalidType found expected => "invalid type: " ++ found.text ++ ", expected " ++ expected.text
  | .outOfRange i expected => "invalid value: " ++ (Found.integer i).text ++ ", expected " ++ expected.text
  | .invalidLength length record size =>
    "invalid length " ++ Text.decimal length ++ ", expected struct " ++ record ++ " with " ++
      Text.decimal size ++ (if size = 1 then " element" else " elements")
  | .invalidTimestamp => "invalid timestamp"
  | .invalidAmount raw fault => "Invalid amount: " ++ fault.text raw
  | .notAmount value => "expected an amount string or integer, got " ++ value.text
  | .misspelled b => b.text

inductive Step where
  | member (name : String)
  | item (index : Nat)

def Step.text : Step → String
  | .member name => name
  | .item i => "[" ++ Text.decimal i ++ "]"

inductive Fault where
  | broken (b : Break)
  | misfit (path : List Step) (m : Misfit)

namespace Fault

def ofMisfit (m : Misfit) : Fault := .misfit [] m

def under (s : Step) : Fault → Fault
  | .broken b => .broken b
  | .misfit path m => .misfit (s :: path) m

/-- Steps joined to a path: names by dots, indexes as they are. -/
def pathText : List Step → String
  | [] => ""
  | [s] => s.text
  | s :: .item i :: rest => s.text ++ pathText (.item i :: rest)
  | s :: rest => s.text ++ "." ++ pathText rest

/-- A misfit with its path in front. -/
def locatedText : Fault → String
  | .broken _ => ""
  | .misfit [] m => m.text
  | .misfit path m => pathText path ++ ": " ++ m.text

def text : Fault → String
  | .broken _ => ""
  | .misfit _ m => m.text

end Fault

/-! ## Refusing documents -/

/-- The fault of a document that is none of what was expected. -/
def Doc.refuse (expected : Expected) (d : Doc) : Fault :=
  let wrong found := Fault.ofMisfit (.invalidType found expected)
  match d with
  | .null => wrong .null
  | .bool b => wrong (.bool b)
  | .number n =>
    match n.integer? with
    | some i => wrong (.integer i)
    | none => wrong .number
  | .string s => wrong (.string s)
  | .unreadable b => .broken b
  | .array .. => wrong .sequence
  | .object .. => wrong .map
  | .damaged d => .broken d.value

def readText (expected : Expected) : Doc → Except Fault String
  | .string s => .ok s
  | d => .error (d.refuse expected)

end AgentLedger.Json
