import AgentLedger.Ledger.Rules
/-!
# Runs of the ledger

All operations under one type. A run takes one occasion for each of its
operations, and goes on from the ledger that each leaves, refused or not.
-/

namespace AgentLedger

inductive Operation where
  | countRequest
  | addWallet (agent : String)
  | readWallet (agent : String)
  | balances (agent : String)
  | balance (agent : String) (asset : Asset)
  | credit (agent : String) (asset : Asset) (amount : String)
  | openChannel (terms : Terms)
  | pay (channel agent amount : String)
  | closeChannel (channel agent : String)
  | channelsOf (agent : String)
  | channel (id : String)
deriving DecidableEq

inductive Answer where
  | done
  | wallet (w : Report.Wallet)
  | balances (bs : List Report.Balance)
  | amount (a : Amount)
  | opened (id : String)
  | channel (c : Report.Channel)
  | channels (cs : List Report.Channel)
  | found (c : Option Report.Channel)
deriving DecidableEq

namespace Ledger

/-- The outcome of an operation with its answer told as `answer` does. -/
def answering (answer : α → β) (p : Except Refusal α × Ledger) : Except Refusal β × Ledger := (p.1.map answer, p.2)

def perform (s : Settings) (o : Occasion) (op : Operation) (l : Ledger) : Except Refusal Answer × Ledger :=
  match op with
  | .countRequest => answering (fun _ => .done) (countRequest s l)
  | .addWallet agent => answering .wallet (addWallet s o.now agent l)
  | .readWallet agent => answering .wallet (readWallet agent l)
  | .balances agent => ((balances agent l).map .balances, l)
  | .balance agent asset => ((balance agent asset l).map .amount, l)
  | .credit agent asset raw =>
    match readAmount raw with
    | .error e => (.error e, l)
    | .ok a => answering .amount (credit o.now agent asset a l)
  | .openChannel terms => answering .opened (openChannel o terms l)
  | .pay id agent raw => answering .channel (pay id agent raw l)
  | .closeChannel id agent => answering .channel (closeChannel o.now id agent l)
  | .channelsOf agent => ((channelsOf agent l).map .channels, l)
  | .channel id => (.ok (.found (channel id l)), l)

def run (s : Settings) : List (Occasion × Operation) → Ledger → List (Except Refusal Answer) × Ledger
  | [], l => ([], l)
  | (o, op) :: rest, l =>
    let (r, l) := perform s o op l
    let (rs, l) := run s rest l
    (r :: rs, l)

end Ledger

end AgentLedger
