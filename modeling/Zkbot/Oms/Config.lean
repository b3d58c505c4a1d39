import Zkbot.Core.Dict
import Zkbot.Oms.Proto
import Mathlib.Data.Rat.Floor

/-!
# Configuration and shared helpers

The string-keyed configuration of `config.rs`, the number helpers of `utils.rs` and the request
checks of `validation.rs`.

A Rust `HashMap` iterates in no particular order.  Here the order is the order of the entries of a
`Dict`, so a statement about every `ConfdataManager` is a statement about every iteration order.
-/

namespace Zkbot

open Dict

/-- `InstrumentTradingConfig`: per-instrument trading behaviour. -/
structure InstrumentTradingConfig where
  instrumentCode : String
  bookkeepingBalance : Bool := false
  balanceCheck : Bool := false
  publishBalanceOnTrade : Bool := true
  publishBalanceOnBook : Bool := false
  publishBalanceOnCancel : Bool := false
  useMargin : Bool := false
  marginRatio : ℚ := 1
  maxOrderSize : Option ℚ := none
  deriving DecidableEq

/-- `ConfdataManager`: the maps that `MetadataTables` is built from. -/
structure ConfdataManager where
  accountRoutes : Dict Int OmsRouteEntry
  gwConfigs : Dict String GwConfigEntry
  /-- exchange name (upper case) → keys of the gateways serving it -/
  exchNameToGwKeys : Dict String (List String)
  /-- gateway key → the accounts routed to it -/
  gwKeyToAccountIds : Dict String (List Int) := ∅
  refdata : Dict String InstrumentRefData
  tradingConfigs : Dict String InstrumentTradingConfig

/-! ## Building a configuration -/

def InstrumentTradingConfig.defaultFor (instrumentCode : String) : InstrumentTradingConfig :=
  { instrumentCode }

namespace ConfdataManager

/-- The keys of the gateways serving each exchange, under the upper-case name of the exchange. -/
def gwKeysByExchange (gwConfigs : Dict String GwConfigEntry) : Dict String (List String) :=
  gwConfigs.entries.foldl
    (fun m e => m.insert e.2.exchName.toUpper ((m.getD e.2.exchName.toUpper []).insert e.1)) ∅

/-- The accounts routed to each gateway. -/
def accountsByGw (routes : List OmsRouteEntry) : Dict String (List Int) :=
  routes.foldl (fun m r => m.insert r.gwKey ((m.getD r.gwKey []).insert r.accountId)) ∅

/-- Trading configs, with defaults for the instruments that have none. -/
def fillTradingConfigs (refdata : Dict String InstrumentRefData)
    (tradingConfigs : Dict String InstrumentTradingConfig) : Dict String InstrumentTradingConfig :=
  refdata.keys.foldl
    (fun m code => if code ∈ m then m else m.insert code (.defaultFor code)) tradingConfigs

/-- `ConfdataManager::new`.  Only managed accounts, gateways that some route names and enabled
instruments are kept. -/
def new (managedAccountIds : List Int) (accountRoutes : List OmsRouteEntry)
    (gwConfigs : List GwConfigEntry) (refdata : List InstrumentRefData)
    (tradingConfigs : List InstrumentTradingConfig) : ConfdataManager :=
  let routes := accountRoutes.filter fun r => r.accountId ∈ managedAccountIds
  let gws := gwConfigs.filter fun g => g.gwKey ∈ routes.map (·.gwKey)
  let gwMap := collectBy (·.gwKey) gws
  let refdataMap := collectBy (·.instrumentId) (refdata.filter fun r => !r.disabled)
  { accountRoutes := collectBy (·.accountId) routes
    gwConfigs := gwMap
    exchNameToGwKeys := gwKeysByExchange gwMap
    gwKeyToAccountIds := accountsByGw routes
    refdata := refdataMap
    tradingConfigs := fillTradingConfigs refdataMap
      (collectBy (·.instrumentCode) tradingConfigs) }

/-- Every route, gateway and instrument stands under its own key.  The fields of a configuration are
public, but only `new` fills them. -/
structure Keyed (config : ConfdataManager) : Prop where
  accountRoutes : ∀ a r, config.accountRoutes.lookup a = some r → r.accountId = a
  gwConfigs : ∀ k g, config.gwConfigs.lookup k = some g → g.gwKey = k
  refdata : ∀ k r, config.refdata.lookup k = some r → r.instrumentId = k

theorem keyed_new (managedAccountIds : List Int) (accountRoutes : List OmsRouteEntry)
    (gwConfigs : List GwConfigEntry) (refdata : List InstrumentRefData)
    (tradingConfigs : List InstrumentTradingConfig) :
    (new managedAccountIds accountRoutes gwConfigs refdata tradingConfigs).Keyed where
  accountRoutes _ _ h := key_of_lookup_collectBy h
  gwConfigs _ _ h := key_of_lookup_collectBy h
  refdata _ _ h := key_of_lookup_collectBy h

end ConfdataManager

/-- A configuration as `ConfdataManager::new` builds it, its maps in any order of iteration. -/
structure Confdata extends ConfdataManager where
  keyed : toConfdataManager.Keyed

/-! ## `utils.rs` -/

/-- Truncate to `precision` decimal places. -/
def roundToPrecision (val : ℚ) (precision : Int) : ℚ :=
  let factor : ℚ := 10 ^ precision
  (⌊val * factor⌋ : ℚ) / factor

lemma roundToPrecision_le (val : ℚ) (precision : Int) : roundToPrecision val precision ≤ val := by
  have hf : (0 : ℚ) < 10 ^ precision := zpow_pos (by norm_num) precision
  show (⌊val * 10 ^ precision⌋ : ℚ) / 10 ^ precision ≤ val
  rw [div_le_iff₀ hf]
  exact Int.floor_le _

lemma roundToPrecision_nonneg {val : ℚ} (h : 0 ≤ val) (precision : Int) :
    0 ≤ roundToPrecision val precision := by
  have hf : (0 : ℚ) < 10 ^ precision := zpow_pos (by norm_num) precision
  show (0 : ℚ) ≤ (⌊val * 10 ^ precision⌋ : ℚ) / 10 ^ precision
  refine div_nonneg ?_ hf.le
  exact_mod_cast Int.floor_nonneg.mpr (mul_nonneg h hf.le)

/-! ## `validation.rs` -/

/-- Rust's `char::is_whitespace`: the Unicode `White_Space` property. -/
def isWhitespace (c : Char) : Bool :=
  let n := c.toNat
  (0x9 ≤ n && n ≤ 0xD) || n == 0x20 || n == 0x85 || n == 0xA0 || n == 0x1680
    || (0x2000 ≤ n && n ≤ 0x200A) || n == 0x2028 || n == 0x2029 || n == 0x202F || n == 0x205F
    || n == 0x3000

/-- `s.trim().is_empty()`. -/
def trimIsEmpty (s : String) : Bool := s.toList.all isWhitespace

/-- `validate_order_request`.  Rationals are finite, so the two `is_finite` tests always pass. -/
def validateOrderRequest (req : OrderRequest) : Except String Unit :=
  if req.orderId ≤ 0 then .error "place_order: order_id must be > 0"
  else if req.accountId ≤ 0 then .error "place_order: account_id must be > 0"
  else if trimIsEmpty req.instrumentCode then .error "place_order: instrument_code is required"
  else if req.qty ≤ 0 then .error "place_order: qty must be finite and > 0"
  else .ok ()

lemma validateOrderRequest_ok {req : OrderRequest} (h : validateOrderRequest req = .ok ()) :
    0 < req.orderId ∧ 0 < req.accountId ∧ 0 < req.qty := by
  simp only [validateOrderRequest] at h
  split_ifs at h with h1 h2 h3 h4
  exact ⟨not_le.mp h1, not_le.mp h2, not_le.mp h4⟩

def validateCancelRequest (req : OrderCancelRequest) : Except String Unit :=
  if req.orderId ≤ 0 then .error "cancel_order: order_id must be > 0" else .ok ()

end Zkbot
