import AgentLedger.Text.Utf8
/-! # Requests and responses -/

namespace AgentLedger.Http

open Text (Bytes)

inductive Method where
  | get
  | head
  | post
  | delete
  | options
  | other (name : String)
deriving DecidableEq, Repr

namespace Method

def name : Method → String
  | .get => "GET"
  | .head => "HEAD"
  | .post => "POST"
  | .delete => "DELETE"
  | .options => "OPTIONS"
  | .other name => name

/-- Names of methods are in upper case. -/
def ofName : String → Method
  | "GET" => .get
  | "HEAD" => .head
  | "POST" => .post
  | "DELETE" => .delete
  | "OPTIONS" => .options
  | name => .other name

end Method

structure Header where
  name : String
  value : String
deriving DecidableEq, Repr

def lowerCase (s : String) : List Char := s.toList.map Char.toLower

/-- The value of the first header called `name`, in whatever case. -/
def header? (name : String) (hs : List Header) : Option String :=
  (hs.find? fun h => lowerCase h.name == lowerCase name).map (·.value)

structure Request where
  method : Method
  /-- The path, and the query, if there is one. -/
  target : String
  headers : List Header
  body : Bytes

structure Response where
  status : Nat
  headers : List Header
  body : Bytes
deriving DecidableEq

end AgentLedger.Http
