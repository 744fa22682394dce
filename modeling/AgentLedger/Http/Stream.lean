import AgentLedger.Http.Message
import AgentLedger.Http.Status
import AgentLedger.Text.Blank
import AgentLedger.Text.Number
import AgentLedger.Text.Split
/-!
# Messages on a stream

A message is a first line, headers, an empty line and a body. The length of a
request's body stands in its headers; a response ends where the stream does.
-/

namespace AgentLedger.Http

open Text (Bytes)

/-- What the bytes so far hold. -/
inductive Progress (α : Type) where
  /-- A message has begun and not ended. -/
  | more
  | malformed
  | complete (a : α)

/-- The bytes up to an empty line, and those behind it. -/
def cutHead? : Bytes → Option (Bytes × Bytes)
  | 0x0D :: 0x0A :: 0x0D :: 0x0A :: bs => some ([], bs)
  | b :: bs => (cutHead? bs).map fun (head, rest) => (b :: head, rest)
  | [] => none

def readHeader? (line : List Char) : Option Header :=
  match Text.cut ':' line with
  | (name, some value) => some ⟨String.ofList name, String.ofList (Text.trimmed value)⟩
  | (_, none) => none

def readHead? (head : Bytes) : Option (List Char × List Header) :=
  match (Text.split '\n' (Text.decode head).lenient).map (Text.dropTail (· == '\r')) with
  | [] => none
  | first :: lines => (lines.mapM readHeader?).map (first, ·)

/-- The length that headers give to a body; none if they give no number. -/
def bodyLength? (hs : List Header) : Option Nat :=
  match header? "content-length" hs with
  | none => some 0
  | some s => (Text.readUInt64 s).toOption.map (·.toNat)

def readRequest (bs : Bytes) : Progress Request :=
  match cutHead? bs with
  | none => .more
  | some (head, rest) =>
    match readHead? head with
    | none => .malformed
    | some (first, hs) =>
      match Text.split ' ' first, bodyLength? hs with
      | [method, target, _], some n =>
        if rest.length < n then .more
        else .complete ⟨.ofName (String.ofList method), String.ofList target, hs, rest.take n⟩
      | _, _ => .malformed

def readResponse? (bs : Bytes) : Option Response := do
  let (head, body) ← cutHead? bs
  let (first, hs) ← readHead? head
  match Text.split ' ' first with
  | _ :: status :: _ => do
    let n ← (Text.readUInt16 (String.ofList status)).toOption
    return ⟨n.toNat, hs, body⟩
  | _ => none

/-- A head: its first line, headers, and how long the body is. One message is sent on a stream. -/
def headBytes (first : String) (hs : List Header) (length : Nat) : Bytes :=
  let lines := first :: hs.map (fun h => h.name ++ ": " ++ h.value) ++
    ["content-length: " ++ Text.decimal length, "connection: close", "", ""]
  Text.utf8 ("\r\n".intercalate lines).toList

def Request.bytes (host : String) (r : Request) : Bytes :=
  let first := r.method.name ++ " " ++ r.target ++ " HTTP/1.1"
  headBytes first (⟨"host", host⟩ :: r.headers) r.body.length ++ r.body

/-- The answer to a method; `HEAD` is told the length of a body only. -/
def Response.bytes (asked : Method) (r : Response) : Bytes :=
  let first := "HTTP/1.1 " ++ Text.decimal r.status ++ " " ++ (reason? r.status).getD ""
  headBytes first r.headers r.body.length ++ (if asked = .head then [] else r.body)

end AgentLedger.Http
