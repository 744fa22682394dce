import AgentLedger.Proofs.Json.Records
import AgentLedger.Proofs.Timestamp
import AgentLedger.Wire
/-!
# Bodies are read back

What one side writes into a body the other side reads out of it: every body of
a request and of an answer, field by field. Times come back as precisely as they
were written.
-/

namespace AgentLedger

open Json (Value fits_required read_object readAnyText_string)

theorem Json.Value.isNatural_ofNat (n : Nat) : (ofNat n).IsNatural := ⟨n, rfl⟩

/-! ## Reports -/

namespace Report

theorem readTimestamp_text (p : Timestamp.Precision) (t : Timestamp) :
    readTimestamp (Value.string (t.text p)).doc = .ok (t.kept p) := by
  unfold readTimestamp
  simp only [Value.doc, Json.readText, Timestamp.read?_text]

theorem WalletStatus.read_text (s : WalletStatus) : read (Value.string s.text).doc = .ok s := by
  cases s <;> rfl

theorem ChannelStatus.read_text (s : ChannelStatus) : read (Value.string s.text).doc = .ok s := by
  cases s <;> rfl

theorem Wallet.read_json (p : Timestamp.Precision) (w : Wallet) :
    read (w.json p).doc = .ok { w with createdAt := w.createdAt.kept p } := by
  have agentId := fits_required "agentId" (readAnyText_string w.agentId)
  have evmAddress := fits_required "evmAddress" (readAnyText_string w.evmAddress)
  have xrpAddress := fits_required "xrpAddress" (readAnyText_string w.xrpAddress)
  have index := fits_required "derivationIndex" (Json.readUInt32_ofNat w.derivationIndex)
  have createdAt := fits_required "createdAt" (readTimestamp_text p w.createdAt)
  have status := fits_required "status" (WalletStatus.read_text w.status)
  have all := (((((agentId.map Wallet.mk).seq evmAddress).seq xrpAddress).seq index).seq createdAt).seq status
  exact read_object "Wallet" all (by simp)

theorem Wallet.json_isNatural {p : Timestamp.Precision} (w : Wallet) : (w.json p).IsNatural :=
  ⟨trivial, trivial, trivial, Value.isNatural_ofNat _, trivial, trivial, trivial⟩

theorem Balance.read_json (room : Nat) (p : Timestamp.Precision) (b : Balance) :
    read room (b.json p).doc = .ok { b with lastUpdated := b.lastUpdated.kept p } := by
  have agentId := fits_required "agentId" (readAnyText_string b.agentId)
  have chain := fits_required "chain" (readAnyText_string b.chain)
  have token := fits_required "token" (readAnyText_string b.token)
  have balance := fits_required "balance" (Json.readAmount_text room b.balance)
  have decimals := fits_required "decimals" (Json.readUInt8_ofNat b.decimals)
  have lastUpdated := fits_required "lastUpdated" (readTimestamp_text p b.lastUpdated)
  have all := (((((agentId.map Balance.mk).seq chain).seq token).seq balance).seq decimals).seq lastUpdated
  exact read_object "Balance" all (by simp)

theorem Balance.json_isNatural {p : Timestamp.Precision} (b : Balance) : (b.json p).IsNatural :=
  ⟨trivial, trivial, trivial, trivial, Value.isNatural_ofNat _, trivial, trivial⟩

theorem Channel.read_json (room : Nat) (c : Channel) : read room c.json.doc = .ok c := by
  have id := fits_required "id" (readAnyText_string c.id)
  have agentId := fits_required "agentId" (readAnyText_string c.agentId)
  have peerId := fits_required "peerId" (readAnyText_string c.peerId)
  have chain := fits_required "chain" (readAnyText_string c.chain)
  have token := fits_required "token" (readAnyText_string c.token)
  have balance := fits_required "balance" (Json.readAmount_text room c.balance)
  have initialAmount := fits_required "initialAmount" (Json.readAmount_text room c.initialAmount)
  have payments := fits_required "paymentsCount" (Json.readUInt64_ofNat c.paymentsCount)
  have status := fits_required "status" (ChannelStatus.read_text c.status)
  have all := ((((((((id.map Channel.mk).seq agentId).seq peerId).seq chain).seq token).seq balance).seq
    initialAmount).seq payments).seq status
  exact read_object "Channel" all (by simp)

theorem Channel.json_isNatural (c : Channel) : c.json.IsNatural :=
  ⟨trivial, trivial, trivial, trivial, trivial, trivial, trivial, Value.isNatural_ofNat _, trivial, trivial⟩

end Report

/-! ## Requests -/

namespace Wire

theorem readCreation_creation (agent : String) : readCreation (creation agent).doc = .ok agent :=
  read_object "CreateWalletRequest" (fits_required "agentId" (readAnyText_string agent)) (by simp)

theorem creation_isNatural (agent : String) : (creation agent).IsNatural := ⟨trivial, trivial⟩

theorem readOpening_opening (t : Terms) : readOpening (opening t).doc = .ok t := by
  have owner := fits_required "agentId" (readAnyText_string t.owner)
  have peer := fits_required "peerId" (readAnyText_string t.peer)
  have chain := fits_required "chain" (readAnyText_string t.asset.chain)
  have token := fits_required "token" (readAnyText_string t.asset.token)
  have amount := fits_required "amount" (readAnyText_string t.amount)
  have all := ((((owner.map fun owner peer chain token amount => Terms.mk owner peer ⟨chain, token⟩ amount).seq
    peer).seq chain).seq token).seq amount
  exact read_object "OpenChannelRequest" all (by simp)

theorem opening_isNatural (t : Terms) : (opening t).IsNatural := ⟨trivial, trivial, trivial, trivial, trivial, trivial⟩

theorem readPayment_payment (agent amount : String) : readPayment (payment agent amount).doc = .ok (agent, amount) := by
  have agent_ := fits_required "agentId" (readAnyText_string agent)
  have amount_ := fits_required "amount" (readAnyText_string amount)
  exact read_object "SendPaymentRequest" ((agent_.map Prod.mk).seq amount_) (by simp)

theorem payment_isNatural (agent amount : String) : (payment agent amount).IsNatural := ⟨trivial, trivial, trivial⟩

theorem readClosing_closing (agent : String) : readClosing (closing agent).doc = .ok agent :=
  read_object "CloseChannelRequest" (fits_required "agentId" (readAnyText_string agent)) (by simp)

theorem closing_isNatural (agent : String) : (closing agent).IsNatural := ⟨trivial, trivial⟩

/-! ## Answers -/

theorem readWallet_json {w : Report.Wallet} (h : w.createdAt.toMillis = w.createdAt) :
    readWallet (w.json .millis).doc = .ok w := by
  have key := Report.Wallet.read_json .millis w
  rwa [Timestamp.kept_millis, h] at key

theorem readBalances_balances {bs : List Report.Balance} (h : ∀ b ∈ bs, b.lastUpdated.toMillis = b.lastUpdated) :
    readBalances (balances bs).doc = .ok bs := by
  have each : ∀ b ∈ bs, Report.Balance.read roomInListed (b.json .millis).doc = .ok b := by
    intro b hb
    have key := Report.Balance.read_json roomInListed .millis b
    rwa [Timestamp.kept_millis, h b hb] at key
  have list := Json.readList_map (g := id) each
  rw [List.map_id] at list
  exact read_object "BalancesResponse" (fits_required "balances" list) (by simp)

theorem balances_isNatural (bs : List Report.Balance) : (balances bs).IsNatural := by
  refine ⟨(Value.areNatural_iff _).mpr fun v hv => ?_, trivial⟩
  obtain ⟨b, -, rfl⟩ := List.mem_map.mp hv
  exact b.json_isNatural

theorem readBalance_balance (a : Amount) : readBalance (balance a).doc = .ok a :=
  read_object "BalanceResponse" (fits_required "balance" (Json.readAmount_text roomInRecord a)) (by simp)

theorem balance_isNatural (a : Amount) : (balance a).IsNatural := ⟨trivial, trivial⟩

theorem readOpened_opened (id : String) : readOpened (opened id).doc = .ok id :=
  read_object "OpenChannelResponse" (fits_required "channelId" (readAnyText_string id)) (by simp)

theorem opened_isNatural (id : String) : (opened id).IsNatural := ⟨trivial, trivial⟩

theorem readChannels_channels (cs : List Report.Channel) : readChannels (channels cs).doc = .ok cs := by
  have list := Json.readList_map (g := id) fun c (_ : c ∈ cs) => Report.Channel.read_json roomInListed c
  rw [List.map_id] at list
  exact read_object "ChannelsResponse" (fits_required "channels" list) (by simp)

theorem channels_isNatural (cs : List Report.Channel) : (channels cs).IsNatural := by
  refine ⟨(Value.areNatural_iff _).mpr fun v hv => ?_, trivial⟩
  obtain ⟨c, -, rfl⟩ := List.mem_map.mp hv
  exact c.json_isNatural

end Wire

end AgentLedger
