import AgentLedger.Ledger.Refusal
import AgentLedger.Ledger.Rules
/-!
# Bodies of requests and answers

What travels as JSON between client and service, for each body the writer of
one side and the reader of the other. Amounts travel as decimal strings.
-/

namespace AgentLedger.Wire

open Json (Members Reads Value)

/-! ## Requests -/

def creation (agent : String) : Value := .object [("agentId", .string agent)]

def readCreation : Reads String :=
  (Members.required "agentId" Json.readAnyText).read "CreateWalletRequest"

def opening (t : Terms) : Value :=
  .object [("agentId", .string t.owner), ("peerId", .string t.peer), ("chain", .string t.asset.chain),
    ("token", .string t.asset.token), ("amount", .string t.amount)]

def readOpening : Reads Terms :=
  Members.read "OpenChannelRequest" <|
    (fun owner peer chain token amount => ⟨owner, peer, ⟨chain, token⟩, amount⟩) <$>
      .required "agentId" Json.readAnyText <*> .required "peerId" Json.readAnyText <*>
      .required "chain" Json.readAnyText <*> .required "token" Json.readAnyText <*>
      .required "amount" Json.readAnyText

def payment (agent amount : String) : Value :=
  .object [("agentId", .string agent), ("amount", .string amount)]

def readPayment : Reads (String × String) :=
  Members.read "SendPaymentRequest" <|
    Prod.mk <$> .required "agentId" Json.readAnyText <*> .required "amount" Json.readAnyText

def closing (agent : String) : Value := .object [("agentId", .string agent)]

def readClosing : Reads String :=
  (Members.required "agentId" Json.readAnyText).read "CloseChannelRequest"

def readCredit : Reads (Asset × String) :=
  Members.read "CreditRequest" <|
    (fun chain token amount => (⟨chain, token⟩, amount)) <$> .required "chain" Json.readAnyText <*>
      .required "token" Json.readAnyText <*> .required "amount" Json.readAnyText

/-! ## Answers -/

/-- Room for what is nested in a record's member. -/
def roomInRecord : Nat := Report.nesting - 1

/-- Room for what is nested in a member of a record that stands in a record's list. -/
def roomInListed : Nat := Report.nesting - 3

def readWallet : Reads Report.Wallet := Report.Wallet.read

def balances (bs : List Report.Balance) : Value := .object [("balances", .array (bs.map (·.json .millis)))]

def readBalances : Reads (List Report.Balance) :=
  (Members.required "balances" (Json.readList (Report.Balance.read roomInListed))).read "BalancesResponse"

def balance (a : Amount) : Value := .object [("balance", .string a.text)]

def readBalance : Reads Amount :=
  (Members.required "balance" (Json.readAmount roomInRecord)).read "BalanceResponse"

def opened (id : String) : Value := .object [("channelId", .string id)]

def readOpened : Reads String :=
  (Members.required "channelId" Json.readAnyText).read "OpenChannelResponse"

def channels (cs : List Report.Channel) : Value := .object [("channels", .array (cs.map (·.json)))]

def readChannels : Reads (List Report.Channel) :=
  (Members.required "channels" (Json.readList (Report.Channel.read roomInListed))).read "ChannelsResponse"

/-- What a payment and the closing of a channel answer. -/
def done (id : String) : Value := .object [("success", .bool true), ("channelId", .string id)]

def refused (message code : String) (retryAfter : Option UInt64) : Value :=
  .object ([("error", .string message), ("code", .string code)] ++
    match retryAfter with
    | some s => [("retryAfter", .ofNat s.toNat)]
    | none => [])

end AgentLedger.Wire
