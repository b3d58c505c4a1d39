import Zkbot.Oms.Models
import Zkbot.Oms.Intern
import Mathlib.Data.Finset.Basic
import Mathlib.Algebra.Order.Ring.Rat

/-!
# Order store

`order_store_v2.rs`.  An order has a hot record in `live` and a cold one in `detail`; beside them
the store keeps an index of open orders, an index of exchange references, an index of external
orders and the eviction queue of closed orders.  Nothing in the types ties these together: each
function below maintains some of them, and what holds of all of them along a run is proved in the
modules that follow.

The functions on one record (`applyStateReport` and its siblings) come first, then those on the
store.  `gen_order_id` draws from a process-wide counter, which is the field `idCounter` here.
-/

namespace Zkbot

/-! ## Status -/

def mapOrderStatus : ExchangeOrderStatus → OrderStatus
  | .booked => .booked
  | .partialFilled => .partiallyFilled
  | .filled => .filled
  | .cancelled => .cancelled
  | .exchRejected => .rejected
  | .expired => .cancelled
  | .unspecified => .unspecified

def canUpdateStatus (old new : OrderStatus) : Bool :=
  !(old == .cancelled || old == .filled) && new != .unspecified

def inferTradePrice (origQty origAvg newQty newAvg : ℚ) : Option ℚ :=
  if newQty = 0 then none
  else if origAvg = 0 then some newAvg
  else if newAvg = 0 then none
  else
    let increment := newQty - origQty
    if increment = 0 then none
    else some ((newAvg * newQty - origAvg * origQty) / increment)

/-- The smallest fill increment for which a trade is inferred. -/
def fillTolerance : ℚ := 1 / 10 ^ 8

/-! ## Reports on one order -/

def applyStateReport (live : LiveOrder) (detail : OrderDetailLog) (filledQtyFromReport : Option ℚ)
    (avgPrice : ℚ) (exchStatus : ExchangeOrderStatus) (ts : Int) : LiveOrder × OrderDetailLog :=
  let origFilled := live.filledQty
  let origAvg := live.filledAvgPrice
  -- a report of zero is no report
  let newFilled := filledQtyFromReport.filter (· ≠ 0)
  let filledQty := newFilled.elim origFilled fun nf => max nf origFilled
  let filledAvgPrice := if avgPrice ≠ 0 then avgPrice else origAvg
  let fillIncrement := filledQty - origFilled
  let detail :=
    if fillIncrement > fillTolerance then
      let pseudoId := s!"{live.orderId}_{detail.inferredTrades.length}"
      let inferredPrice := inferTradePrice origFilled origAvg filledQty filledAvgPrice
      { detail with
        inferredTrades := detail.inferredTrades ++
          [{ orderId := live.orderId, extTradeId := pseudoId, filledTs := ts,
             filledQty := fillIncrement, filledPrice := inferredPrice.getD 0 }] }
    else detail
  let newStatus := mapOrderStatus exchStatus
  ({ live with
     filledQty, filledAvgPrice
     orderStatus := if canUpdateStatus live.orderStatus newStatus then newStatus
                    else live.orderStatus },
   detail)

def applyTradeReport (live : LiveOrder) (detail : OrderDetailLog) (trade : Trade) :
    LiveOrder × OrderDetailLog :=
  ({ live with
     accTradesFilledQty := live.accTradesFilledQty + trade.filledQty
     accTradesValue := live.accTradesValue + trade.filledQty * trade.filledPrice },
   { detail with trades := detail.trades ++ [trade] })

def applyFeeReport (detail : OrderDetailLog) (fee : Fee) : OrderDetailLog :=
  { detail with fees := detail.fees ++ [fee] }

/-- `apply_oms_error`.  Only a placing error touches the live record, and it asks nobody: the
status becomes `rejected` whatever it was. -/
def applyOmsError (live : LiveOrder) (detail : OrderDetailLog) (errorMsg : String) (ts : Int)
    (execType : ExecType) (rejection : Rejection) : LiveOrder × OrderDetailLog :=
  let execMsg : ExecMessage :=
    { orderId := live.orderId, execType, execSuccess := false, timestamp := ts, errorMsg,
      rejectionInfo := some rejection }
  (if execType = .placingOrder then
     { live with
       snapshotVersion := live.snapshotVersion + 1
       orderStatus := .rejected
       updatedAt := ts
       errorMsg
       terminalAt := some (live.terminalAt.getD ts) }
   else live,
   { detail with execMsgs := detail.execMsgs ++ [execMsg] })

/-- The trade payloads of a report, whatever the entries' type tags say. -/
def tradePayloads (entries : List OrderReportEntry) : List TradeReport :=
  entries.filterMap fun e =>
    match e.report with
    | some (.tradeReport t) => some t
    | _ => none

/-- Whether some entry has a state payload. -/
def hasStatePayload (entries : List OrderReportEntry) : Bool :=
  entries.any fun e =>
    match e.report with
    | some (.orderStateReport _) => true
    | _ => false

/-- `infer_state_from_trades`: a state entry for a report that has trades and no state. -/
def inferStateFromTrades (entries : List OrderReportEntry) (live : LiveOrder) :
    Option OrderReportEntry :=
  if live.isInTerminalState then none
  else if hasStatePayload entries then none
  else
    let trades := tradePayloads entries
    let newQty := (trades.map (·.filledQty)).sum
    let newValue := (trades.map fun t => t.filledQty * t.filledPrice).sum
    if trades = [] then none
    else
      let totalQty := newQty + live.accTradesFilledQty
      if totalQty > live.qty then none
      else
        let avgPrice := if totalQty ≠ 0 then (live.accTradesValue + newValue) / totalQty else 0
        let exchStatus : ExchangeOrderStatus :=
          if |totalQty - live.qty| < fillTolerance then .filled else .partialFilled
        some
          { reportType := .state
            report := some (.orderStateReport
              { exchOrderStatus := exchStatus, filledQty := totalQty,
                unfilledQty := live.qty - totalQty, avgPrice }) }

/-! ## The store -/

structure OrderStoreV2 where
  live : Dict Int LiveOrder := ∅
  detail : Dict Int OrderDetailLog := ∅
  openOrderIds : Finset Int := ∅
  openByAccount : Dict Int (Finset Int) := ∅
  orderIdByExchRef : Dict (ℕ × ℕ) Int := ∅
  externalOrderIds : Dict (ℕ × ℕ) Int := ∅
  closedLru : List Int := []
  maxCachedOrders : ℕ
  dynStrings : DynStringTable := InternTable.new
  useTimeEmulation : Bool
  /-- the counter behind `gen_order_id` -/
  idCounter : Int

namespace OrderStoreV2

/-- `OrderStoreV2::new`, which also seeds the id counter with the microseconds of the clock. -/
def new (maxCachedOrders : ℕ) (useTimeEmulation : Bool) (subsecMicros : ℕ) : OrderStoreV2 :=
  { maxCachedOrders, useTimeEmulation, idCounter := subsecMicros * 2 ^ 20 }

def addOpenByAccount (m : Dict Int (Finset Int)) (accountId orderId : Int) :
    Dict Int (Finset Int) :=
  m.insert accountId (insert orderId (m.getD accountId ∅))

section

variable (os : OrderStoreV2)

/-- One order of `init_with_orders`. -/
def initWithOrder (live : LiveOrder) (detail : OrderDetailLog) : OrderStoreV2 :=
  let oid := live.orderId
  if oid = 0 then os
  else
    { os with
      openOrderIds :=
        if live.isInTerminalState then os.openOrderIds else insert oid os.openOrderIds
      openByAccount :=
        if live.isInTerminalState then os.openByAccount
        else addOpenByAccount os.openByAccount live.accountId oid
      orderIdByExchRef :=
        live.exchOrderRefId.elim os.orderIdByExchRef fun refId =>
          os.orderIdByExchRef.insert (live.gwId, refId) oid
      live := os.live.insert oid live
      detail := os.detail.insert oid detail }

/-- The live record `create_order` starts an order with. -/
def newLive (orderId : Int) (req : OrderRequest) (orderMeta : ResolvedOrderMeta)
    (flags : OrderAccountingFlags) (ts : Int) : LiveOrder :=
  { orderId
    accountId := req.accountId
    instrumentId := orderMeta.instrumentId
    gwId := orderMeta.gwId
    routeExchAccountSym := orderMeta.exchAccountSym
    sourceSym := orderMeta.sourceSym
    orderStatus := .pending
    buySellType := req.buySellType
    openCloseType := req.openCloseType
    orderType := req.orderType
    tifType := req.timeInforceType
    price := req.price
    qty := req.qty
    filledQty := 0
    filledAvgPrice := 0
    accTradesFilledQty := 0
    accTradesValue := 0
    exchOrderRefId := none
    snapshotVersion := 1
    createdAt := ts
    updatedAt := ts
    isExternal := false
    cancelAttempts := 0
    accountingFlags := flags
    errorMsg := ""
    terminalAt := none }

def createOrder (now : Int) (orderId : Int) (req : OrderRequest)
    (orderMeta : ResolvedOrderMeta) (flags : OrderAccountingFlags)
    (gwReq : Option SendOrderRequest) :
    OrderStoreV2 :=
  let ts := if os.useTimeEmulation then req.timestamp else now
  { os with
    live := os.live.insert orderId (newLive orderId req orderMeta flags ts)
    detail := os.detail.insert orderId
      { orderId, originalReq := some req, lastGwReq := gwReq }
    openOrderIds := insert orderId os.openOrderIds
    openByAccount := addOpenByAccount os.openByAccount req.accountId orderId }

def resolveOrderId (orderId : Int) (gwId : ℕ) (exchRef : String) : Option Int :=
  if orderId ≠ 0 ∧ orderId ∈ os.live then some orderId
  else do
    let dynId ← os.dynStrings.lookup exchRef
    os.orderIdByExchRef.lookup (gwId, dynId)

def exchRefString (live : LiveOrder) : Option String :=
  match live.exchOrderRefId with
  | none => some ""
  | some i => os.dynStrings.resolve i

/-- Update both records of an order; `none` where the source's `unwrap` panics. -/
def updateLiveAndDetail (orderId : Int)
    (f : LiveOrder → OrderDetailLog → LiveOrder × OrderDetailLog) : Option OrderStoreV2 := do
  let live ← os.live.lookup orderId
  let detail ← os.detail.lookup orderId
  some { os with
    live := os.live.insert orderId (f live detail).1
    detail := os.detail.insert orderId (f live detail).2 }

/-- Set the update time of an order whose live record is `live`. -/
def touch (orderId : Int) (live : LiveOrder) (ts : Int) : OrderStoreV2 :=
  { os with live := os.live.insert orderId { live with updatedAt := ts } }

def registerExchRef (orderId : Int) (gwId : ℕ) (exchRef : String) : OrderStoreV2 :=
  let interned := os.dynStrings.intern exchRef
  let dynId := interned.2
  { os with
    dynStrings := interned.1
    orderIdByExchRef := os.orderIdByExchRef.insert (gwId, dynId) orderId
    live := os.live.modify orderId fun l => { l with exchOrderRefId := some dynId } }

def refKey (orderId : Int) : Option (ℕ × ℕ) :=
  (os.live.lookup orderId).bind fun l => l.exchOrderRefId.map fun r => (l.gwId, r)

def cleanupOrder (orderId : Int) : OrderStoreV2 :=
  { os with
    live := os.live.erase orderId
    orderIdByExchRef := (os.refKey orderId).elim os.orderIdByExchRef os.orderIdByExchRef.erase
    detail := os.detail.erase orderId }

def markClosed (orderId : Int) : OrderStoreV2 :=
  let os :=
    { os with
      openOrderIds := os.openOrderIds.erase orderId
      openByAccount :=
        match os.live.lookup orderId with
        | some live => os.openByAccount.modify live.accountId (·.erase orderId)
        | none => os.openByAccount
      closedLru := os.closedLru ++ [orderId] }
  if os.closedLru.length > os.maxCachedOrders then
    match os.closedLru with
    | oldest :: rest => cleanupOrder { os with closedLru := rest } oldest
    | [] => os
  else os

/-- The live record of a dummy external order. -/
def externalLive (orderId : Int) (gwId dynId : ℕ) (accountId ts : Int) (sourceSym : ℕ) :
    LiveOrder :=
  { orderId, accountId, instrumentId := 0, gwId, routeExchAccountSym := 0, sourceSym,
    orderStatus := .pending, buySellType := .unspecified, openCloseType := .unspecified,
    orderType := .unspecified, tifType := .unspecified, price := 0, qty := 0, filledQty := 0,
    filledAvgPrice := 0, accTradesFilledQty := 0, accTradesValue := 0,
    exchOrderRefId := some dynId, snapshotVersion := 1, createdAt := ts, updatedAt := ts,
    isExternal := true, cancelAttempts := 0, accountingFlags := {}, errorMsg := "",
    terminalAt := none }

/-- `create_external_order`.  The new order is entered in both reference indices and in neither
index of open orders. -/
def createExternalOrder (gwId : ℕ) (exchRef : String) (accountId ts : Int)
    (sourceSym : ℕ) : OrderStoreV2 × Int :=
  let orderId := os.idCounter
  let interned := os.dynStrings.intern exchRef
  let dynId := interned.2
  ({ os with
     idCounter := os.idCounter + 1
     dynStrings := interned.1
     externalOrderIds := os.externalOrderIds.insert (gwId, dynId) orderId
     orderIdByExchRef := os.orderIdByExchRef.insert (gwId, dynId) orderId
     live := os.live.insert orderId (externalLive orderId gwId dynId accountId ts sourceSym)
     detail := os.detail.insert orderId { orderId } }, orderId)

def applyLinkagePromotion (orderId : Int) : OrderStoreV2 :=
  { os with
    live := os.live.modify orderId fun l =>
      if l.orderStatus = .pending ∨ l.orderStatus = .rejected then
        { l with orderStatus := .booked }
      else l }

end

end OrderStoreV2

end Zkbot
