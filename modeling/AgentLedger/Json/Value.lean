import AgentLedger.Text.Hex
import AgentLedger.Text.Number
/-!
# JSON values and their compact text

The compact text has no spaces. Strings escape the quote, the backslash and
the controls below U+0020, and leave every other character as it is.
-/

namespace AgentLedger.Json

inductive Value where
  | null
  | bool (b : Bool)
  | number (digits : List Char)
  | string (s : String)
  | array (items : List Value)
  | object (members : List (String × Value))

namespace Value

def ofNat (n : Nat) : Value := .number (Text.decimalDigits n)

def escape (c : Char) : List Char :=
  if c = '"' then ['\\', '"']
  else if c = '\\' then ['\\', '\\']
  else if c = '\x08' then ['\\', 'b']
  else if c = '\x0C' then ['\\', 'f']
  else if c = '\n' then ['\\', 'n']
  else if c = '\r' then ['\\', 'r']
  else if c = '\t' then ['\\', 't']
  else if c.toNat < 0x20 then
    ['\\', 'u', '0', '0', Text.hexDigit (c.toNat / 16), Text.hexDigit (c.toNat % 16)]
  else [c]

def quote (s : String) : List Char := '"' :: s.toList.flatMap escape ++ ['"']

mutual
def chars : Value → List Char
  | .null => ['n', 'u', 'l', 'l']
  | .bool true => ['t', 'r', 'u', 'e']
  | .bool false => ['f', 'a', 'l', 's', 'e']
  | .number ds => ds
  | .string s => quote s
  | .array [] => ['[', ']']
  | .array (v :: vs) => '[' :: v.chars ++ itemChars vs ++ [']']
  | .object [] => ['\x7b', '\x7d']
  | .object ((k, v) :: ms) => '\x7b' :: quote k ++ ':' :: v.chars ++ memberChars ms ++ ['\x7d']
def itemChars : List Value → List Char
  | [] => []
  | v :: vs => ',' :: v.chars ++ itemChars vs
def memberChars : List (String × Value) → List Char
  | [] => []
  | (k, v) :: ms => ',' :: quote k ++ ':' :: v.chars ++ memberChars ms
end

def text (v : Value) : String := String.ofList v.chars

/-- Puts a member into its place by name; a member of the same name gives way. -/
def insertMember (k : String) (v : Value) : List (String × Value) → List (String × Value)
  | [] => [(k, v)]
  | (k', v') :: ms =>
    if k = k' then (k, v) :: ms
    else if k < k' then (k, v) :: (k', v') :: ms
    else (k', v') :: insertMember k v ms

end Value

end AgentLedger.Json
