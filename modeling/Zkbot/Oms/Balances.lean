import Zkbot.Oms.Models

/-!
# Balance store

`balance_v2.rs`: what the exchange last said about cash.  Assets the config does not know are kept
apart, under their name.
-/

namespace Zkbot

structure BalanceStoreV2 where
  exchBalances : Dict (Int × ℕ) ExchBalanceSnapshot := ∅
  unknownExchBalances : Dict (Int × String) ExchBalanceSnapshot := ∅
  /-- symbol of the exchange account → account -/
  accountIdByExchAccountSym : Dict ℕ Int := ∅

namespace BalanceStoreV2

variable (s : BalanceStoreV2)

def getBalance (accountId : Int) (assetId : ℕ) : Option ExchBalanceSnapshot :=
  s.exchBalances.lookup (accountId, assetId)

/-- What `get_or_create_balance` finds or inserts. -/
def balanceOr (accountId : Int) (assetId : ℕ) : ExchBalanceSnapshot :=
  s.exchBalances.getD (accountId, assetId) { accountId, asset := "", balanceState := {} }

def resolveAccountId (exchAccountSym : ℕ) : Option Int :=
  s.accountIdByExchAccountSym.lookup exchAccountSym

def setBalance (accountId : Int) (assetId : ℕ) (snap : ExchBalanceSnapshot) : BalanceStoreV2 :=
  { s with exchBalances := s.exchBalances.insert (accountId, assetId) snap }

def setUnknownBalance (accountId : Int) (asset : String)
    (snap : ExchBalanceSnapshot) : BalanceStoreV2 :=
  { s with unknownExchBalances := s.unknownExchBalances.insert (accountId, asset) snap }

def removeUnknownBalance (accountId : Int) (asset : String) : BalanceStoreV2 :=
  { s with unknownExchBalances := s.unknownExchBalances.erase (accountId, asset) }

end BalanceStoreV2

end Zkbot
