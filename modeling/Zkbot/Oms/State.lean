import Zkbot.Oms.Metadata
import Zkbot.Oms.OrderStore
import Zkbot.Oms.Positions
import Zkbot.Oms.Balances
import Zkbot.Oms.Reservations

/-!
# The core's state

`OmsCoreV2` of `oms_core_v2.rs`: its stores, its construction from a config, warm start from
persisted orders, positions and balances, and reload.  `RetryState` is left out: nothing reads it.

Every function of the core that can panic (`unwrap`, `resolve` of an unknown id, a vector index)
returns an `Option`, with `none` for the panic.  `gen_timestamp_ms()` is a reading `now` of the
wall clock that comes with the message being handled.
-/

namespace Zkbot

structure OmsCoreV2 where
  metadata : MetadataTables
  orders : OrderStoreV2
  reservations : ReservationStoreV2 := {}
  positions : PositionStoreV2 := {}
  balances : BalanceStoreV2 := {}
  pendingReports : Dict (ℕ × ℕ) (List OrderReport) := ∅
  panicAccounts : Finset Int := ∅
  useTimeEmulation : Bool
  riskCheckEnabled : Bool
  handleExternalOrders : Bool

namespace OmsCoreV2

/-- `OmsCoreV2::new`. -/
def new (config : ConfdataManager) (useTimeEmulation riskCheckEnabled handleExternalOrders : Bool)
    (maxCachedOrders subsecMicros : ℕ) : OmsCoreV2 :=
  let metadata := MetadataTables.fromConfdata config
  let reverseMap := metadata.routeByAccount.entries.foldl
    (fun (m : Dict ℕ Int) e => m.insert e.2.exchAccountSym e.1) ∅
  { metadata
    orders := OrderStoreV2.new maxCachedOrders useTimeEmulation subsecMicros
    balances := { accountIdByExchAccountSym := reverseMap }
    useTimeEmulation, riskCheckEnabled, handleExternalOrders }

/-! ## Warm start -/

section

variable (s : OmsCoreV2)

def warmLive (v1 : OmsOrder) : LiveOrder :=
  let o := v1.orderState
  { orderId := v1.orderId
    accountId := v1.accountId
    instrumentId := ((s.metadata.resolveInstrument o.instrument).map (·.instrumentId)).getD 0
    gwId := (s.metadata.gwIdOfKey o.gwKey).getD 0
    routeExchAccountSym := ((s.metadata.route v1.accountId).map (·.exchAccountSym)).getD 0
    sourceSym := if o.sourceId = "" then 0 else (s.metadata.intern o.sourceId).2
    orderStatus := o.orderStatus
    buySellType := o.buySellType
    openCloseType := o.openCloseType
    orderType := .unspecified
    tifType := .unspecified
    price := o.price
    qty := o.qty
    filledQty := o.filledQty
    filledAvgPrice := o.filledAvgPrice
    accTradesFilledQty := v1.accTradesFilledQty
    accTradesValue := v1.accTradesValue
    exchOrderRefId := v1.exchOrderRef.map fun r => (s.orders.dynStrings.intern r).2
    snapshotVersion := o.snapshotVersion
    createdAt := o.createdAt
    updatedAt := o.updatedAt
    isExternal := v1.isFromExternal
    cancelAttempts := v1.cancelAttempts
    accountingFlags := {}
    errorMsg := o.errorMsg
    -- backfilled for orders that are terminal already
    terminalAt := if o.orderStatus.isTerminal then some o.updatedAt else none }

def warmDetail (v1 : OmsOrder) : OrderDetailLog :=
  { orderId := v1.orderId, originalReq := v1.omsReq, lastGwReq := v1.gwReq,
    cancelReq := v1.cancelReq, trades := v1.trades, inferredTrades := v1.orderInferredTrades,
    execMsgs := v1.execMsgs, fees := v1.fees }

/-- `convert_v1_order`.  It interns the order's source and exchange reference, hence the new
core. -/
def convertV1Order (v1 : OmsOrder) : OmsCoreV2 × LiveOrder × OrderDetailLog :=
  ({ s with
     metadata :=
       if v1.orderState.sourceId = "" then s.metadata
       else (s.metadata.intern v1.orderState.sourceId).1
     orders := { s.orders with
       dynStrings :=
         v1.exchOrderRef.elim s.orders.dynStrings fun r => (s.orders.dynStrings.intern r).1 } },
   s.warmLive v1, warmDetail v1)

def initOrder (v1 : OmsOrder) : OmsCoreV2 :=
  let converted := s.convertV1Order v1
  { converted.1 with
    orders := converted.1.orders.initWithOrder converted.2.1 converted.2.2 }

/-- One persisted position, stored under the index of its instrument in the table. -/
def initPosition (pos : OmsManagedPosition) : OmsCoreV2 :=
  match s.metadata.resolveInstrument pos.instrumentCode with
  | none => s
  | some inst =>
    let v2Pos : ManagedPositionV2 :=
      { accountId := pos.accountId, instrumentId := inst.instrumentId,
        instrumentType := pos.instrumentType, isShort := pos.isShort, qtyTotal := pos.qtyTotal,
        qtyFrozen := pos.qtyFrozen, qtyAvailable := pos.qtyAvailable,
        lastLocalUpdateTs := pos.lastLocalUpdateTs, lastExchSyncTs := pos.lastExchSyncTs,
        reconcileStatus := pos.reconcileStatus, lastExchQty := pos.lastExchQty,
        firstDivergedTs := pos.firstDivergedTs, divergenceCount := pos.divergenceCount }
    { s with
      positions := { s.positions with
        managed := s.positions.managed.insert (pos.accountId, inst.instrumentId) v2Pos } }

def initBalance (snap : ExchBalanceSnapshot) : OmsCoreV2 :=
  match (s.metadata.strings.lookup snap.asset).bind s.metadata.assetBySymbol.lookup with
  | some assetId => { s with balances := s.balances.setBalance snap.accountId assetId snap }
  | none => { s with balances := s.balances.setUnknownBalance snap.accountId snap.asset snap }

def initState (warmOrders : List OmsOrder) (positions : List OmsManagedPosition)
    (balances : List ExchBalanceSnapshot) : OmsCoreV2 :=
  balances.foldl initBalance (positions.foldl initPosition (warmOrders.foldl initOrder s))

def reloadConfig (newConfig : ConfdataManager) : Option OmsCoreV2 := do
  let metadata ← s.metadata.rebuildFromConfig newConfig
  some { s with metadata }

variable {s} in
lemma reloadConfig_eq {s' : OmsCoreV2} {newConfig : ConfdataManager}
    (h : s.reloadConfig newConfig = some s') : ∃ metadata, s' = { s with metadata } := by
  obtain ⟨metadata, -, h⟩ := Option.bind_eq_some_iff.mp h
  exact ⟨metadata, (Option.some.inj h).symm⟩

/-- The time stamp of a request: its own under time emulation, the clock's otherwise. -/
def timeOf (reqTs now : Int) : Int := if s.useTimeEmulation then reqTs else now

end

end OmsCoreV2

end Zkbot
