import AgentLedger.Ledger
/-!
# Refusals

Why the ledger refuses an operation. A refused operation changes nothing.
-/

namespace AgentLedger

inductive Refusal where
  | walletExists (agent : String)
  | walletNotFound (agent : String)
  | channelNotFound (channel : String)
  | balanceNotFound (asset : Asset)
  | invalid (detail : String)
  | insufficientFunds (detail : String)
  | channelClosed (channel : String)
  | notOwner (agent channel : String)
  | missingMasterSeed
  | rateLimited (retryAfter : UInt64)
deriving DecidableEq

namespace Refusal

def message : Refusal → String
  | .walletExists agent => "Wallet already exists: " ++ agent
  | .walletNotFound agent => "Wallet not found: " ++ agent
  | .channelNotFound channel => "Channel not found: " ++ channel
  | .balanceNotFound asset => "Balance not found: " ++ asset.chain ++ "/" ++ asset.token
  | .invalid detail => "Invalid request: " ++ detail
  | .insufficientFunds detail => "Insufficient funds: " ++ detail
  | .channelClosed channel => "Channel already closed: " ++ channel
  | .notOwner agent channel => "Agent " ++ agent ++ " does not own channel " ++ channel
  | .missingMasterSeed => "master-seed not found"
  | .rateLimited _ => "Rate limit exceeded"

end Refusal

end AgentLedger
