import Zkbot.V1.OrderMgr
import Zkbot.Oms.Messages

/-!
# The first core

`OmsCore` of `oms_core.rs`, which the backtester runs.  It has no panics to model: every `unwrap`
and `expect` is guarded by what precedes it, so its functions are total.

`OmsCore` maps iterate in no particular order; here the order is that of the entries.  The sends
of a batch are listed one by one, and the fields a gateway wants with a cancel are left out, as for
`OmsCoreV2`.
-/

namespace Zkbot

structure OrderRecheckRequest where
  orderId : Int
  checkDelaySecs : Int
  timestamp : Int
  deriving DecidableEq

structure CancelRecheckRequest where
  origCancelRequest : CancelOrderRequest
  checkDelaySecs : Int
  timestamp : Int
  deriving DecidableEq

/-- The `OmsMessage`s that `OmsCore` acts on, with the payloads of the rechecks. -/
inductive OmsCoreMessage where
  | placeOrder (req : OrderRequest)
  | batchPlaceOrders (reqs : List OrderRequest)
  | cancelOrder (req : OrderCancelRequest)
  | batchCancelOrders (reqs : List OrderCancelRequest)
  | gatewayOrderReport (report : OrderReport)
  | balanceUpdate (update : BalanceUpdate)
  | recheckOrder (req : OrderRecheckRequest)
  | recheckCancel (req : CancelRecheckRequest)
  | panic (accountId : Int)
  | dontPanic (accountId : Int)
  | cleanup (tsMs : Int)
  | reloadConfig
  | positionRecheck
  | gatewaySendFailed (orderId : Int) (gwId : ℕ) (errorMsg : String)
  | gatewayCancelSendFailed (orderId : Int) (gwId : ℕ) (errorMsg : String)

/-- What can happen to a core: a message, with the clock reading it is handled at, or a reload of
the config. -/
inductive OmsCoreEvent where
  | message (now : Int) (msg : OmsCoreMessage)
  | reload (newConfig : ConfdataManager)

structure OmsCore where
  config : ConfdataManager
  orderMgr : OrderManager
  positionMgr : PositionManager := {}
  balanceMgr : BalanceManager := {}
  reservationMgr : ReservationManager := {}
  useTimeEmulation : Bool
  riskCheckEnabled : Bool
  handleExternalOrders : Bool
  panicAccounts : Finset Int := ∅
  /-- reports that arrived before their order, by gateway key and reference -/
  pendingOrderReports : Dict (String × String) (List OrderReport) := ∅
  totalRetriesOrders : ℕ := 0
  totalRetriesCancels : ℕ := 0

namespace OmsCore

def new (config : ConfdataManager) (useTimeEmulation riskCheckEnabled handleExternalOrders : Bool)
    (maxCachedOrders subsecMicros : ℕ) : OmsCore :=
  { config
    orderMgr := { maxCachedOrders, useTimeEmulation, idCounter := subsecMicros * 2 ^ 20 }
    useTimeEmulation, riskCheckEnabled, handleExternalOrders }

section

variable (s : OmsCore)

def initState (orders : List OmsOrder) (positions : List OmsManagedPosition)
    (balances : List ExchBalanceSnapshot) : OmsCore :=
  { s with
    orderMgr := s.orderMgr.initWithOrders orders
    positionMgr := s.positionMgr.initPositions positions
    balanceMgr := s.balanceMgr.initBalances balances }

/-! ## Contexts -/

def accountingSymbols (refData : InstrumentRefData) : String × String :=
  if refData.instrumentType = .spot then (refData.quoteAsset, refData.baseAsset)
  else
    (if refData.settlementAsset ≠ "" then refData.settlementAsset else refData.quoteAsset,
     refData.instrumentId)

def resolveContext (instrumentCode : String) (accountId : Int) : OrderContext :=
  let symbolRef := s.config.refdata.lookup instrumentCode
  let route := s.config.accountRoutes.lookup accountId
  { accountId
    fundSymbol := symbolRef.map fun r => (accountingSymbols r).1
    posSymbol := symbolRef.map fun r => (accountingSymbols r).2
    route
    tradingConfig := s.config.tradingConfigs.lookup instrumentCode
    symbolRef
    gwConfig := route.bind fun r => s.config.gwConfigs.lookup r.gwKey
    order := none
    errors := [] }

def resolveContextForOrder (orderId : Int) : Option OrderContext :=
  (s.orderMgr.orderDict.lookup orderId).map fun order =>
    let instrument := (order.omsReq.map (·.instrumentCode)).getD order.orderState.instrument
    { s.resolveContext instrument order.accountId with order := some order }

/-! ## Placing -/

/-- The context of a request after the routing and risk checks. -/
def checkedContext (req : OrderRequest) : OrderContext :=
  let ctx := s.resolveContext req.instrumentCode req.accountId
  let routing : List String :=
    if ctx.symbolRef.isNone then ["Instrument not found"]
    else if ctx.gwConfig.isNone then ["Exchange gw not found"]
    else []
  let qty := req.qty
  let risk : List String :=
    match ctx.tradingConfig.bind (·.maxOrderSize) with
    | some maxSize =>
      if s.riskCheckEnabled && decide (qty > maxSize) then
        [s!"order qty {qty} exceeds max {maxSize}"]
      else []
    | none => []
  { ctx with errors := routing ++ risk }

/-- The pre-trade check of a buy: the cash is there, and is reserved. -/
def preTradeBuy (req : OrderRequest) (ctx : OrderContext)
    (tc : InstrumentTradingConfig) : OmsCore × OrderContext :=
  let fundSym := ctx.fundSymbol.getD ""
  let orderValue := req.qty * req.price
  let exchAvail :=
    ((s.balanceMgr.getBalance req.accountId fundSym).map (·.balanceState.availQty)).getD 0
  let checked : Except String Unit :=
    if tc.balanceCheck then
      s.reservationMgr.checkAvailable req.accountId fundSym orderValue exchAvail
    else .ok ()
  match checked with
  | .error e => (s, { ctx with errors := ctx.errors ++ [e] })
  | .ok _ =>
    ({ s with
       reservationMgr := s.reservationMgr.tryReserve req.orderId req.accountId fundSym orderValue
         false }, ctx)

/-- The pre-trade check of a sell: the inventory is there and is frozen, and is reserved. -/
def preTradeSell (req : OrderRequest) (ctx : OrderContext)
    (tc : InstrumentTradingConfig) : OmsCore × OrderContext :=
  let posSym := ctx.posSymbol.getD ""
  let frozen : Except String PositionManager :=
    if tc.balanceCheck then s.positionMgr.checkAndFreeze req.accountId posSym req.qty false
    else .ok s.positionMgr
  match frozen with
  | .error e => (s, { ctx with errors := ctx.errors ++ [e] })
  | .ok positionMgr =>
    ({ s with
       positionMgr
       reservationMgr := s.reservationMgr.tryReserve req.orderId req.accountId posSym req.qty
         true }, ctx)

/-- The pre-trade checks and their bookings.  `none` where the side is neither buy nor sell. -/
def preTrade (req : OrderRequest) (ctx : OrderContext) : Option (OmsCore × OrderContext) :=
  match ctx.tradingConfig with
  | none => some (s, ctx)
  | some tc =>
    if !ctx.hasError && tc.bookkeepingBalance && !tc.useMargin then
      match req.buySellType with
      | .buy => some (s.preTradeBuy req ctx tc)
      | .sell => some (s.preTradeSell req ctx tc)
      | .unspecified => none
    else some (s, ctx)

def isTerminal (orderId : Int) : Bool :=
  ((s.orderMgr.orderDict.lookup orderId).map (·.isInTerminalState)).getD false

/-- The end of `process_order_inner`: record the order and cache the context it was placed under.
The context has no order in it. -/
def recordOrder (now : Int) (req : OrderRequest) (ctx : OrderContext) : OmsCore × List OmsAction :=
  let (orderMgr, order) := s.orderMgr.createOrder now req (if ctx.hasError then none else some ctx)
  let orderMgr := { orderMgr with contextCache := orderMgr.contextCache.insert req.orderId ctx }
  let s := { s with orderMgr }
  let (s, actions) : OmsCore × List OmsAction :=
    if ctx.hasError then
      let s := { s with reservationMgr := s.reservationMgr.release req.orderId }
      let (orderMgr, event) := s.orderMgr.updateWithOmsError now (some order) req
        (String.intercalate "; " ctx.errors) { source := .omsReject, reason := .omsInvalidState }
      ({ s with orderMgr }, [.publishOrderUpdate event])
    else
      (s, (order.gwReq.map fun gwReq =>
        .sendOrderToGw ((ctx.gwConfig.map (·.gwKey)).getD "") gwReq order.orderId
          order.orderState.createdAt).toList)
  let terminal := s.isTerminal req.orderId
  (s, actions ++ [.persistOrder order terminal terminal])

/-- `process_order`, with `process_order_inner`. -/
def processOrder (now : Int) (req : OrderRequest) : OmsCore × List OmsAction :=
  if req.accountId ∈ s.panicAccounts then (s, [])
  else
    match s.preTrade req (s.checkedContext req) with
    | some (s, ctx) => s.recordOrder now req ctx
    | none =>
      let e := "unsupported buy_sell_type"
      let (orderMgr, event) := s.orderMgr.updateWithOmsError now none req e
        { source := .omsReject, reason := .omsInternalError, errorMessage := e }
      ({ s with orderMgr }, [.publishOrderUpdate event])

/-! ## Cancelling -/

def processCancel (req : OrderCancelRequest) : OmsCore × List OmsAction :=
  match s.orderMgr.orderDict.lookup req.orderId with
  | none => (s, [])
  | some order =>
    -- reconstruct the context if it is missing
    let ctx := s.orderMgr.contextCache.getD req.orderId
      (s.resolveContext order.orderState.instrument order.accountId)
    let order := { order with cancelAttempts := order.cancelAttempts + 1 }
    let orderMgr := { s.orderMgr with
      contextCache := s.orderMgr.contextCache.insert req.orderId ctx
      orderDict := s.orderMgr.orderDict.insert req.orderId order }
    let exchOrderRef := order.orderState.exchOrderRef
    let rejection : Option Rejection :=
      if exchOrderRef = "" then
        some { source := .omsReject, recoverable := true, reason := .omsInvalidState }
      else if order.isInTerminalState then
        some { source := .omsReject, recoverable := true, reason := .omsInvalidState
               errorMessage := "order already in terminal state" }
      else none
    match rejection with
    | some rej =>
      match orderMgr.updateWithGwError req.orderId req.timestamp rej.errorMessage .cancel rej with
      | some (orderMgr, event) => ({ s with orderMgr }, [.publishOrderUpdate event])
      | none => ({ s with orderMgr }, [])
    | none =>
      ({ s with orderMgr },
       [.sendCancelToGw ((ctx.route.map (·.gwKey)).getD "")
         { exchOrderRef, orderId := req.orderId, timestamp := req.timestamp }])

/-! ## Order reports -/

def eventActions (event : OrderUpdateEvent) : List OmsAction :=
  let terminal := s.isTerminal event.orderId
  ((s.orderMgr.orderDict.lookup event.orderId).map fun order =>
    .persistOrder order terminal terminal).toList ++ [.publishOrderUpdate event]

def addToPendingReports (report : OrderReport) : OmsCore :=
  let key := (report.exchange, report.exchOrderRef)
  if report.exchOrderRef = "" then s
  else
    { s with
      pendingOrderReports :=
        s.pendingOrderReports.insert key (s.pendingOrderReports.getD key [] ++ [report]) }

/-- `pop_pending_reports`: the reports, and the core without them. -/
def popPendingReports (gwKey exchOrderRef : String) : OmsCore × List OrderReport :=
  ({ s with pendingOrderReports := s.pendingOrderReports.erase (gwKey, exchOrderRef) },
   s.pendingOrderReports.getD (gwKey, exchOrderRef) [])

/-- The side a fill is applied with: what the context says, and a sell if it has no order. -/
def fillIsBuy (ctx : OrderContext) : Bool :=
  (ctx.order.map fun o => decide (o.orderState.buySellType = .buy)).getD false

def fillDelta (ctx : OrderContext) (trade : TradeReport) : PositionDelta :=
  let isBuy := fillIsBuy ctx
  let sellWasFrozen := !isBuy && ctx.balanceCheck
  { accountId := ctx.accountId
    instrumentCode := ctx.posSymbol.getD ""
    isShort := false
    availChange := if isBuy then trade.filledQty else 0
    frozenChange := if sellWasFrozen then -trade.filledQty else 0
    totalChange := if isBuy then trade.filledQty else -trade.filledQty }

def fillRelease (ctx : OrderContext) (trade : TradeReport) : ℚ :=
  let orderPrice := (ctx.order.map (·.orderState.price)).getD trade.filledPrice
  if fillIsBuy ctx then trade.filledQty * orderPrice else trade.filledQty

/-- One turn of the loop of `process_fill_for_report`. -/
def applyFill (orderId ts : Int) (s : OmsCore) (fill : PositionDelta × ℚ) : OmsCore :=
  { s with
    positionMgr := s.positionMgr.applyDelta fill.1 ts
    reservationMgr := s.reservationMgr.releasePartial orderId fill.2 }

/-- What the loop hands to the two managers: a delta and a release for each trade payload. -/
def fillsFor (ctx : OrderContext) (report : OrderReport) : List (PositionDelta × ℚ) :=
  (tradePayloads report.orderReportEntries).map fun t => (fillDelta ctx t, fillRelease ctx t)

def processFillForReport (ctx : OrderContext) (report : OrderReport) : OmsCore × List OmsAction :=
  let ts := report.updateTimestamp
  let fills := fillsFor ctx report
  let s := fills.foldl (applyFill report.orderId ts) s
  let posSym := ctx.posSymbol.getD ""
  (s,
   if fills.isEmpty then []
   else
     .publishPositionUpdate (s.positionMgr.buildPositionSnapshot ctx.accountId ts) ::
       ((s.positionMgr.getPosition ctx.accountId posSym).map fun pos =>
         .persistPosition
           { accountId := ctx.accountId, instrumentCode := posSym
             side := if pos.isShort then "short" else "long", position := pos }).toList)

/-- The fills that a report of an order with this context is booked with. -/
def bookedFills (ctx : Option OrderContext) (report : OrderReport) : List (PositionDelta × ℚ) :=
  match ctx with
  | some ctx => if ctx.bookkeeping then fillsFor ctx report else []
  | none => []

/-- The fill stage of `process_order_report`. -/
def fillStage (ctx : Option OrderContext) (report : OrderReport) : OmsCore × List OmsAction :=
  match ctx with
  | some ctx => if ctx.bookkeeping then s.processFillForReport ctx report else (s, [])
  | none => (s, [])

/-- Give back what a terminal order still holds. -/
def releaseTerminal (ctx : Option OrderContext) (s : OmsCore) (event : OrderUpdateEvent) :
    OmsCore :=
  match s.orderMgr.orderDict.lookup event.orderId with
  | none => s
  | some order =>
    if order.isInTerminalState then
      let s := { s with reservationMgr := s.reservationMgr.release event.orderId }
      match ctx with
      | none => s
      | some ctx =>
        let unfilled := order.orderState.qty - order.orderState.filledQty
        match ctx.posSymbol with
        | some posSym =>
          if ctx.bookkeeping && ctx.balanceCheck &&
              decide (order.orderState.buySellType = .sell) && decide (unfilled > 0) then
            { s with
              positionMgr := s.positionMgr.unfreeze ctx.accountId posSym unfilled }
          else s
        | none => s
    else s

/-- Apply reports that had been buffered. -/
def replay (now : Int) (acc : OmsCore × List OmsAction) (report : OrderReport) :
    OmsCore × List OmsAction :=
  let (orderMgr, events) := acc.1.orderMgr.updateWithReport now report
  let s := { acc.1 with orderMgr }
  (s, acc.2 ++ events.flatMap s.eventActions)

/-- Replay what is buffered for the order in the context, if there is one. -/
def replayPending (now : Int) (ctx : Option OrderContext) (report : OrderReport) :
    OmsCore × List OmsAction :=
  match ctx.bind (·.order) with
  | none => (s, [])
  | some order =>
    let (s, pending) := s.popPendingReports report.exchange order.orderState.exchOrderRef
    pending.foldl (replay now) (s, [])

/-- The order stage of `process_order_report`: update the order, and give back what it holds if
that closes it. -/
def orderStage (now : Int) (ctx : Option OrderContext) (report : OrderReport) :
    OmsCore × List OrderUpdateEvent :=
  let updated := s.orderMgr.updateWithReport now report
  (updated.2.foldl (releaseTerminal ctx) { s with orderMgr := updated.1 }, updated.2)

/-- A report of an order with this context. -/
def applyReport (now : Int) (ctx : Option OrderContext) (report : OrderReport) :
    OmsCore × List OmsAction :=
  let filled := s.fillStage ctx report
  let ordered := filled.1.orderStage now ctx report
  let replayed := ordered.1.replayPending now ctx report
  (replayed.1, filled.2 ++ replayed.2 ++ ordered.2.flatMap replayed.1.eventActions)

/-- The context that a report with this order id is handled under. -/
def contextOf (orderId : Int) : Option OrderContext :=
  (s.orderMgr.contextCache.lookup orderId).or (s.resolveContextForOrder orderId)

/-- A report of an order of this OMS. -/
def processTqReport (now : Int) (report : OrderReport) : OmsCore × List OmsAction :=
  if report.orderId ≠ 0 then s.applyReport now (s.contextOf report.orderId) report
  else
    match s.orderMgr.getOrderByExchRef report.exchange report.exchOrderRef with
    | some order => s.applyReport now (s.resolveContextForOrder order.orderId) report
    | none => (s.addToPendingReports report, [])

def reportAccount (report : OrderReport) : Option Int :=
  if report.accountId ≠ 0 then some report.accountId
  else
    match s.config.gwKeyToAccountIds.lookup report.exchange with
    | some [accountId] => some accountId
    | _ => none

/-- The report is about an order that this OMS did not place. -/
def isExternalReport (report : OrderReport) : Bool :=
  match report.orderSourceType with
  | .nonTq => true
  | .unknown => s.orderMgr.isMarkedAsExternal report.exchange report.exchOrderRef
  | _ => false

/-- One report of an external order. -/
def externalReport (now : Int) (acc : OmsCore × List OrderUpdateEvent) (report : OrderReport) :
    OmsCore × List OrderUpdateEvent :=
  let (orderMgr, event) := acc.1.orderMgr.handleExternalOrderReport now report
  ({ acc.1 with orderMgr }, acc.2 ++ event.toList)

/-- A report of an external order, and those that are buffered for it. -/
def processExternalReport (now : Int) (report : OrderReport) : OmsCore × List OmsAction :=
  let first := externalReport now (s, []) report
  let popped := first.1.popPendingReports report.exchange report.exchOrderRef
  let all := popped.2.foldl (externalReport now) (popped.1, first.2)
  (all.1, all.2.flatMap all.1.eventActions)

def processOrderReport (now : Int) (report : OrderReport) : OmsCore × List OmsAction :=
  if s.handleExternalOrders then
    match s.reportAccount report with
    | none => (s, [])
    | some accountId =>
      let report := { report with accountId }
      if s.isExternalReport report then s.processExternalReport now report
      else s.processTqReport now report
  else s.processTqReport now report

/-! ## Balances, rechecks, cleanup -/

def processBalanceUpdate (now : Int) (update : BalanceUpdate) : OmsCore × List OmsAction :=
  match update.balances with
  | [] => (s, [])
  | first :: _ =>
    match BalanceManager.resolveAccountId s.config first.exchAccountCode with
    | none => (s, [])
    | some accountId =>
      let balanceEntries :=
        update.balances.filter fun e => decide (e.instrumentType = .spot)
      let positionEntries :=
        update.balances.filter fun e => decide (e.instrumentType ≠ .spot)
      let exchTs := first.updateTimestamp
      let balanceMgr := s.balanceMgr.mergeGwBalanceEntries balanceEntries accountId now
      let balanceActions : List OmsAction :=
        if balanceEntries.isEmpty then []
        else
          .publishBalanceUpdate (balanceMgr.buildBalanceSnapshot accountId exchTs) ::
            balanceEntries.filterMap fun e =>
              (balanceMgr.getBalance accountId e.instrumentCode).map
                (.persistBalance accountId e.instrumentCode ·)
      let positionMgr :=
        if positionEntries.isEmpty then s.positionMgr
        else s.positionMgr.mergeGwPositionEntries s.config positionEntries accountId now
      let positionActions : List OmsAction :=
        if positionEntries.isEmpty then []
        else
          .publishPositionUpdate (positionMgr.buildPositionSnapshot accountId exchTs) ::
            positionEntries.filterMap fun e =>
              (positionMgr.getPosition accountId e.instrumentCode).map fun pos =>
                .persistPosition
                  { accountId, instrumentCode := e.instrumentCode
                    side := if pos.isShort then "short" else "long", position := pos }
      ({ s with balanceMgr, positionMgr }, balanceActions ++ positionActions)

def processRecheckOrder (req : OrderRecheckRequest) : OmsCore × List OmsAction :=
  let s := { s with totalRetriesOrders := s.totalRetriesOrders + 1 }
  let ts := req.timestamp + req.checkDelaySecs * 1000
  match s.orderMgr.orderDict.lookup req.orderId with
  | none => (s, [])
  | some order =>
    if order.orderState.orderStatus = .pending then
      match s.orderMgr.updateWithGwError req.orderId ts "Order still pending after recheck"
          .placingOrder
          { source := .exchReject, recoverable := decide (s.totalRetriesOrders < 20)
            reason := .networkError } with
      | none => (s, [])
      | some (orderMgr, event) =>
        let s := { s with orderMgr }
        let terminal := s.isTerminal req.orderId
        let s :=
          if terminal then
            { s with reservationMgr := s.reservationMgr.release req.orderId }
          else s
        (s, .publishOrderUpdate event ::
          ((s.orderMgr.orderDict.lookup req.orderId).map fun order =>
            .persistOrder order terminal terminal).toList)
    else (s, [])

def processRecheckCancel (req : CancelRecheckRequest) : OmsCore × List OmsAction :=
  let s := { s with totalRetriesCancels := s.totalRetriesCancels + 1 }
  let orderId := req.origCancelRequest.orderId
  let ts := req.timestamp + req.checkDelaySecs * 1000
  match s.orderMgr.orderDict.lookup orderId with
  | none => (s, [])
  | some order =>
    if order.isInTerminalState then (s, [])
    else
      match s.orderMgr.updateWithGwError orderId ts "cancel did not go through after recheck"
          .cancel
          { source := .exchReject, recoverable := decide (s.totalRetriesCancels < 20)
            reason := .networkError } with
      | none => (s, [])
      | some (orderMgr, event) => ({ s with orderMgr }, [.publishOrderUpdate event])

/-- How long a report is buffered, in milliseconds. -/
def pendingTimeoutMs : Int := 10 * 60 * 1000

/-- One report of `process_cleanup`, taken for an external one. -/
def cleanupReport (now : Int) (acc : OmsCore × List OmsAction) (report : OrderReport) :
    OmsCore × List OmsAction :=
  let done := acc.1.processOrderReport now { report with orderSourceType := .nonTq }
  (done.1, acc.2 ++ done.2)

/-- `process_cleanup`: reports that have waited too long are handled after all. -/
def processCleanup (now tsMs : Int) : OmsCore × List OmsAction :=
  if !s.handleExternalOrders then (s, [])
  else
    let old := s.pendingOrderReports.entries.filter fun e =>
      (e.2.getLast?.map fun last => decide (tsMs - last.updateTimestamp > pendingTimeoutMs)).getD
        false
    let s := { s with
      pendingOrderReports := old.foldl (fun d e => d.erase e.1) s.pendingOrderReports }
    (old.flatMap fun e => e.2).foldl (cleanupReport now) (s, [])

/-! ## Messages -/

/-- Handle a batch: one request after another, with the actions of all. -/
def processBatch {α : Type} (f : OmsCore → α → OmsCore × List OmsAction) (s : OmsCore)
    (reqs : List α) : OmsCore × List OmsAction :=
  reqs.foldl (fun acc req => ((f acc.1 req).1, acc.2 ++ (f acc.1 req).2)) (s, [])

def processMessage (now : Int) : OmsCoreMessage → OmsCore × List OmsAction
  | .placeOrder req => s.processOrder now req
  | .batchPlaceOrders reqs => s.processBatch (fun s req => s.processOrder now req) reqs
  | .cancelOrder req => s.processCancel req
  | .batchCancelOrders reqs => s.processBatch processCancel reqs
  | .gatewayOrderReport report => s.processOrderReport now report
  | .balanceUpdate update => s.processBalanceUpdate now update
  | .recheckOrder req => s.processRecheckOrder req
  | .recheckCancel req => s.processRecheckCancel req
  | .panic accountId => ({ s with panicAccounts := insert accountId s.panicAccounts }, [])
  | .dontPanic accountId => ({ s with panicAccounts := s.panicAccounts.erase accountId }, [])
  | .cleanup tsMs => s.processCleanup now tsMs
  | .reloadConfig | .positionRecheck | .gatewaySendFailed .. | .gatewayCancelSendFailed .. =>
    (s, [])

def handle : OmsCoreEvent → OmsCore
  | .message now msg => (s.processMessage now msg).1
  | .reload config => { s with config }

def step (ev : OmsCoreEvent) : Option OmsCore := some (s.handle ev)

end

end OmsCore

/-- A batch taken apart into its requests. -/
def OmsCoreEvent.ops : OmsCoreEvent → List OmsCoreEvent
  | .message now (.batchPlaceOrders reqs) => reqs.map fun req => .message now (.placeOrder req)
  | .message now (.batchCancelOrders reqs) => reqs.map fun req => .message now (.cancelOrder req)
  | ev => [ev]

namespace OmsCore

lemma run_batch {α : Type} (f : OmsCore → α → OmsCore × List OmsAction) (op : α → OmsCoreEvent)
    (hop : ∀ s a, handle s (op a) = (f s a).1) (s : OmsCore) (reqs : List α) :
    run step s (reqs.map op) = some (s.processBatch f reqs).1 := by
  -- the actions collected so far play no part: generalise them
  suffices h : ∀ acc : OmsCore × List OmsAction, run step acc.1 (reqs.map op) =
      some (reqs.foldl (fun acc req => ((f acc.1 req).1, acc.2 ++ (f acc.1 req).2)) acc).1 from
    h (s, [])
  induction reqs with
  | nil => exact fun _ => rfl
  | cons req reqs ih =>
    intro acc
    rw [List.map_cons, run_cons, step, hop, Option.bind_some]
    exact ih ((f acc.1 req).1, acc.2 ++ (f acc.1 req).2)

lemma step_eq_run (s : OmsCore) (ev : OmsCoreEvent) : s.step ev = run step s ev.ops := by
  cases ev with
  | reload config => rfl
  | message now msg =>
    cases msg with
    | batchPlaceOrders reqs =>
      exact (run_batch (fun s req => s.processOrder now req) _ (fun _ _ => rfl) s reqs).symm
    | batchCancelOrders reqs =>
      exact (run_batch processCancel _ (fun _ _ => rfl) s reqs).symm
    | _ => rfl

theorem run_ops (s : OmsCore) (evs : List OmsCoreEvent) :
    run step s evs = run step s (evs.flatMap OmsCoreEvent.ops) := by
  induction evs generalizing s with
  | nil => rfl
  | cons ev evs ih =>
    rw [run_cons, step_eq_run, List.flatMap_cons, run_append]
    exact congrArg _ (funext fun s' => ih s')

end OmsCore

/-- The first core under the same arguments. -/
def OmsSetup.startV1 (u : OmsSetup) : OmsCore :=
  (OmsCore.new u.config u.useTimeEmulation u.riskCheckEnabled u.handleExternalOrders
    u.maxCachedOrders u.subsecMicros).initState u.orders u.positions u.balances

end Zkbot
