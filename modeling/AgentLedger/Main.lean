import AgentLedger.Client.Config
import AgentLedger.Demo
import AgentLedger.Http.Stream
import AgentLedger.Ledger.Draw
import AgentLedger.Service.Config
import Std.Async.DNS
import Std.Async.TCP
import Std.Time
/-!
# The programs

`serve` keeps a ledger in memory and answers requests; `demo` plays the life
of an agent against a service. Both take their configuration from the
environment and from a file `.env`.
-/

namespace AgentLedger.Program

open Std.Async
open Std.Net (IPAddr IPv4Addr SocketAddress)

/-! ## Environment -/

def names : List String :=
  ["MASTER_SEED", "RATE_LIMIT", "RETRY_AFTER_SECS", "ACTIVATION_POLLS", "SERVER_HOST", "SERVER_PORT",
    "AGENT_WALLET_API_URL", "AGENT_WALLET_API_TIMEOUT_SECS"]

def environment : IO Environment := do
  let vars ← names.filterMapM fun n => do return (← IO.getEnv n).map (n, ·)
  let text ← try IO.FS.readFile ".env" catch _ => pure ""
  return Environment.load text vars

/-! ## Sockets -/

def address (host : String) (port : UInt16) : IO SocketAddress := do
  match IPv4Addr.ofString host with
  | some a => return .v4 ⟨a, port⟩
  | none =>
    match (← (DNS.getAddrInfo host (Text.decimal port.toNat)).block).toList with
    | IPAddr.v4 a :: _ => return .v4 ⟨a, port⟩
    | IPAddr.v6 a :: _ => return .v6 ⟨a, port⟩
    | [] => throw (IO.userError ("unknown host " ++ host))

def chunk : UInt64 := 65536

def packed (bs : Text.Bytes) : ByteArray := ⟨bs.toArray⟩

/-! ## The service -/

def draw : IO Occasion := do
  let now ← Std.Time.Timestamp.now
  let random ← IO.getRandomBytes 16
  return .drawn now.toNanosecondsSinceUnixEpoch.val.toNat random.toList

/-- Reads one request from a stream; none if there is no proper one. -/
partial def receive (c : TCP.Socket.Client) (sofar : Text.Bytes) : IO (Option Http.Request) := do
  match Http.readRequest sofar with
  | .complete r => return some r
  | .malformed => return none
  | .more =>
    match ← (c.recv? chunk).block with
    | some bs => receive c (sofar ++ bs.toList)
    | none => return none

def answer (s : Settings) (ledger : IO.Ref Ledger) (c : TCP.Socket.Client) : IO Unit := do
  let response ← match ← receive c [] with
    | some r => do
      let o ← draw
      let response ← ledger.modifyGet fun l => Service.respond s o r l
      pure (response.bytes r.method)
    | none => pure ((Service.plain 400 "").bytes .get)
  (c.send (packed response)).block
  c.shutdown.block

partial def accept (s : Settings) (ledger : IO.Ref Ledger) (server : TCP.Socket.Server) : IO Unit := do
  let c ← server.accept.block
  let _ ← IO.asTask (answer s ledger c) .dedicated
  accept s ledger server

def serve (env : Environment) : IO UInt32 := do
  match Service.Config.ofEnvironment env with
  | .error f =>
    IO.eprintln ("Error: " ++ f.message)
    return 1
  | .ok c =>
    let server ← TCP.Socket.Server.mk
    server.bind (← address c.host c.port)
    server.listen 128
    accept c.settings (← IO.mkRef .empty) server
    return 0

/-! ## The demonstration -/

partial def drain (c : TCP.Socket.Client) (sofar : Text.Bytes) : IO Text.Bytes := do
  match ← (c.recv? chunk).block with
  | some bs => drain c (sofar ++ bs.toList)
  | none => return sofar

/-- Sends a request on a stream of its own. -/
def exchange (r : Client.Request) : IO Client.Outcome := do
  try
    let host := match r.url.host with
      | .ipv6 ns => String.ofList (Host.ipv6Text ns)
      | h => String.ofList h.chars
    let port := r.url.port.getD (Url.defaultPort r.url.secure)
    let c ← TCP.Socket.Client.mk
    (c.connect (← address host (UInt16.ofNat port))).block
    let authority := String.ofList (r.url.host.chars ++ Url.portChars r.url.port)
    (c.send (packed ((Client.Conversation.httpRequest r).bytes authority))).block
    match Http.readResponse? (← drain c []) with
    | some response => return .reply response .complete
    | none => return .lost
  catch _ => return .lost

def converse : Client.Conversation α → IO α
  | .done a => return a
  | .ask r next => do converse (next (← exchange r))

def demo (env : Environment) : IO UInt32 := do
  match Client.ofConfig (.ofEnvironment env) with
  | .error f =>
    IO.eprintln ("Error: Failed to build agent wallet client: " ++ f.message)
    return 1
  | .ok c =>
    let t ← converse (Demo.run c)
    IO.print t.stdout
    IO.eprint t.stderr
    return t.exit

end AgentLedger.Program

def main (args : List String) : IO UInt32 := do
  let env ← AgentLedger.Program.environment
  match args with
  | ["demo"] => AgentLedger.Program.demo env
  | _ => AgentLedger.Program.serve env
