import Zkbot.Oms.Proto
import Zkbot.Core.Dict

/-!
# State records of the core

The records of `models_v2.rs`, and those of `models.rs` that cross the boundary of the core: warm
start (`OmsOrder`, `OmsManagedPosition`, `ExchBalanceSnapshot`), messages in and actions out.
-/

namespace Zkbot

/-- `OrderAccountingFlags`: bookkeeping decided once, when the order is created. -/
structure OrderAccountingFlags where
  bookkeepingBalance : Bool := false
  balanceCheck : Bool := false
  useMargin : Bool := false
  isBuy : Bool := false
  fundAssetId : Option ℕ := none
  posInstrumentId : Option ℕ := none
  deriving DecidableEq, Inhabited

/-- `LiveOrder`: the hot state of an order. -/
structure LiveOrder where
  orderId : Int
  accountId : Int
  instrumentId : ℕ
  gwId : ℕ
  routeExchAccountSym : ℕ
  sourceSym : ℕ
  orderStatus : OrderStatus
  buySellType : BuySellType
  openCloseType : OpenCloseType
  orderType : BasicOrderType
  tifType : TimeInForceType
  price : ℚ
  qty : ℚ
  filledQty : ℚ
  filledAvgPrice : ℚ
  /-- accumulated from explicit trade reports only -/
  accTradesFilledQty : ℚ
  accTradesValue : ℚ
  exchOrderRefId : Option ℕ
  snapshotVersion : ℕ
  createdAt : Int
  updatedAt : Int
  isExternal : Bool
  cancelAttempts : ℕ
  accountingFlags : OrderAccountingFlags
  errorMsg : String
  terminalAt : Option Int
  deriving DecidableEq

def OrderStatus.isTerminal : OrderStatus → Bool
  | .filled | .cancelled | .rejected => true
  | _ => false

def LiveOrder.isInTerminalState (o : LiveOrder) : Bool := o.orderStatus.isTerminal

/-- `OrderDetailLog`: the cold history of an order. -/
structure OrderDetailLog where
  orderId : Int
  originalReq : Option OrderRequest := none
  lastGwReq : Option SendOrderRequest := none
  cancelReq : Option CancelOrderRequest := none
  trades : List Trade := []
  inferredTrades : List Trade := []
  execMsgs : List ExecMessage := []
  fees : List Fee := []
  deriving DecidableEq

/-- `ResolvedOrderMeta`: the config an order is placed under. -/
structure ResolvedOrderMeta where
  accountId : Int
  gwId : ℕ
  instrumentId : ℕ
  instrumentExchSym : ℕ
  exchAccountSym : ℕ
  sourceSym : ℕ
  fundAssetId : Option ℕ
  posInstrumentId : Option ℕ
  bookkeepingBalance : Bool
  balanceCheck : Bool
  useMargin : Bool
  maxOrderSize : Option ℚ
  qtyPrecision : Int
  pricePrecision : Int
  deriving DecidableEq

inductive ReconcileStatus where
  | unknown | inSync | divergedTransient | divergedPersistent | exchangeOnly | omsOnly
  deriving DecidableEq, Inhabited

/-- `ManagedPositionV2`: a magnitude with a direction flag. -/
structure ManagedPositionV2 where
  accountId : Int
  instrumentId : ℕ
  instrumentType : InstrumentType
  isShort : Bool
  qtyTotal : ℚ := 0
  qtyFrozen : ℚ := 0
  qtyAvailable : ℚ := 0
  lastLocalUpdateTs : Int := 0
  lastExchSyncTs : Int := 0
  reconcileStatus : ReconcileStatus := .unknown
  lastExchQty : ℚ := 0
  firstDivergedTs : Int := 0
  divergenceCount : ℕ := 0
  deriving DecidableEq

inductive ReserveKind where
  | cashAsset | inventoryInstrument
  deriving DecidableEq

structure ReservationRecordV2 where
  orderId : Int
  accountId : Int
  kind : ReserveKind
  targetId : ℕ
  reservedQty : ℚ
  deriving DecidableEq

/-- `PositionDeltaV2`: what a fill does to a position. -/
structure PositionDeltaV2 where
  accountId : Int
  instrumentId : ℕ
  isShort : Bool
  availChange : ℚ
  frozenChange : ℚ
  totalChange : ℚ
  deriving DecidableEq

/-- `OmsActionV2`.  The core never emits the two batch actions of the source. -/
inductive OmsActionV2 where
  | sendOrderToGw (gwId : ℕ) (orderId : Int) (orderCreatedAt : Int)
  | sendCancelToGw (gwId : ℕ) (orderId : Int)
  | publishOrderUpdate (orderId : Int) (includeLastTrade includeLastFee includeExecMessage
      includeInferredTrade : Bool)
  | publishBalanceUpdate (accountId : Int)
  | publishPositionUpdate (accountId : Int)
  | persistOrder (orderId : Int) (setExpire setClosed : Bool)
  | persistBalance (accountId : Int) (assetId : ℕ)
  | persistPosition (accountId : Int) (instrumentId : ℕ)
  deriving DecidableEq

/-! ## Records of `models.rs` -/

/-- `OmsManagedPosition`: a position as it is persisted, keyed by instrument code. -/
structure OmsManagedPosition where
  accountId : Int
  instrumentCode : String
  symbolExch : Option String := none
  instrumentType : InstrumentType
  isShort : Bool
  qtyTotal : ℚ := 0
  qtyFrozen : ℚ := 0
  qtyAvailable : ℚ := 0
  lastLocalUpdateTs : Int := 0
  lastExchSyncTs : Int := 0
  reconcileStatus : ReconcileStatus := .unknown
  lastExchQty : ℚ := 0
  firstDivergedTs : Int := 0
  divergenceCount : ℕ := 0
  deriving DecidableEq

structure ExchPositionSnapshot where
  accountId : Int
  instrumentCode : String
  symbolExch : Option String
  positionState : Position
  exchDataRaw : String
  syncTs : Int
  deriving DecidableEq

structure ExchBalanceSnapshot where
  accountId : Int
  asset : String
  symbolExch : Option String := none
  balanceState : Balance
  exchDataRaw : String := ""
  syncTs : Int := 0
  deriving DecidableEq

/-- `OmsOrder`: an order as it is persisted. -/
structure OmsOrder where
  isFromExternal : Bool
  orderId : Int
  accountId : Int
  exchOrderRef : Option String
  omsReq : Option OrderRequest
  gwReq : Option SendOrderRequest
  cancelReq : Option CancelOrderRequest
  orderState : Order
  trades : List Trade
  accTradesFilledQty : ℚ
  accTradesValue : ℚ
  orderInferredTrades : List Trade
  execMsgs : List ExecMessage
  fees : List Fee
  cancelAttempts : ℕ
  deriving DecidableEq

/-- `OmsMessage`: everything the core can be handed.  The payloads of the recheck messages are
left out: the core ignores them. -/
inductive OmsMessage where
  | placeOrder (req : OrderRequest)
  | batchPlaceOrders (reqs : List OrderRequest)
  | cancelOrder (req : OrderCancelRequest)
  | batchCancelOrders (reqs : List OrderCancelRequest)
  | gatewayOrderReport (report : OrderReport)
  | balanceUpdate (update : BalanceUpdate)
  | recheckOrder
  | recheckCancel
  | panic (accountId : Int)
  | dontPanic (accountId : Int)
  | cleanup (tsMs : Int)
  | reloadConfig
  | positionRecheck
  | gatewaySendFailed (orderId : Int) (gwId : ℕ) (errorMsg : String)
  | gatewayCancelSendFailed (orderId : Int) (gwId : ℕ) (errorMsg : String)

end Zkbot
