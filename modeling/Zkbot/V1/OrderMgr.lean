import Zkbot.V1.Managers

/-!
# The order manager of the first core

`order_mgr.rs`: the orders of `OmsCore`, the contexts they were resolved under, the index of
exchange references and the eviction queue of closed orders.

`can_update_status`, `infer_trade_price` and `map_order_status` are those of `OmsCoreV2`, word for
word, and so are the type tags an entry is matched against (`OrderReportEntry.acted`).  The refdata
lookup of the manager is left out: nothing reads it.
-/

namespace Zkbot

/-- `OrderContext`: what an order was resolved to. -/
structure OrderContext where
  accountId : Int
  fundSymbol : Option String
  posSymbol : Option String
  route : Option OmsRouteEntry
  tradingConfig : Option InstrumentTradingConfig
  symbolRef : Option InstrumentRefData
  gwConfig : Option GwConfigEntry
  order : Option OmsOrder
  errors : List String
  deriving DecidableEq

namespace OrderContext

def hasError (ctx : OrderContext) : Bool := !ctx.errors.isEmpty

def bookkeeping (ctx : OrderContext) : Bool :=
  (ctx.tradingConfig.map (·.bookkeepingBalance)).getD false

def balanceCheck (ctx : OrderContext) : Bool :=
  (ctx.tradingConfig.map (·.balanceCheck)).getD false

end OrderContext

def OmsOrder.isInTerminalState (o : OmsOrder) : Bool := o.orderState.orderStatus.isTerminal

/-! ## Functions on one order -/

def applyOrderError (order : OmsOrder) (errorMsg : String) (ts : Int) (execType : ExecType)
    (rejection : Rejection) : OmsOrder :=
  let execMsg : ExecMessage :=
    { orderId := order.orderId, execType, execSuccess := false, timestamp := ts, errorMsg
      rejectionInfo := some rejection }
  let order := { order with execMsgs := order.execMsgs ++ [execMsg] }
  if execType = .placingOrder then
    { order with
      orderState :=
        { order.orderState with
          snapshotVersion := order.orderState.snapshotVersion + 1
          orderStatus := .rejected
          updatedAt := ts
          errorMsg } }
  else order

def buildErrorEvent (order : OmsOrder) : OrderUpdateEvent :=
  { orderId := order.orderId, accountId := order.accountId
    timestamp := order.orderState.updatedAt, orderSnapshot := some order.orderState
    orderSourceId := order.orderState.sourceId, lastTrade := none, lastFee := none
    execMessage := order.execMsgs.getLast?, orderInferredTrade := none }

/-- `infer_state_entry`: a state entry for a report that has trades and no state. -/
def inferStateEntry (entries : List OrderReportEntry) (order : OmsOrder) :
    Option OrderReportEntry :=
  if order.isInTerminalState then none
  else if hasStatePayload entries then none
  else
    let trades := tradePayloads entries
    let newQty := (trades.map (·.filledQty)).sum
    let newValue := (trades.map fun t => t.filledQty * t.filledPrice).sum
    if trades = [] then none
    else
      let totalQty := newQty + order.accTradesFilledQty
      if totalQty > order.orderState.qty then none
      else
        let avgPrice := if totalQty ≠ 0 then (order.accTradesValue + newValue) / totalQty else 0
        let exchStatus : ExchangeOrderStatus :=
          if |totalQty - order.orderState.qty| < fillTolerance then .filled else .partialFilled
        some
          { reportType := .state
            report := some (.orderStateReport
              { exchOrderStatus := exchStatus, filledQty := totalQty
                unfilledQty := order.orderState.qty - totalQty, avgPrice }) }

def finalizeAvgPrice (order : OmsOrder) : OmsOrder :=
  if order.trades.isEmpty then order
  else if order.isInTerminalState ∧ order.orderState.filledAvgPrice = 0 ∧
      order.accTradesFilledQty ≠ 0 then
    { order with
      orderState :=
        { order.orderState with
          filledAvgPrice := order.accTradesValue / order.accTradesFilledQty } }
  else order

/-- A state entry of `update_with_report`; the flag says that a trade was inferred. -/
def applyStateEntry (resolvedOrderId ts : Int) (order : OmsOrder) (r : OrderStateReport) :
    OmsOrder × Bool :=
  let st := order.orderState
  let filledQty := (r.announced st.qty).elim st.filledQty fun nf => max nf st.filledQty
  let filledAvgPrice := if r.avgPrice ≠ 0 then r.avgPrice else st.filledAvgPrice
  let fillIncrement := filledQty - st.filledQty
  let inferred : List Trade :=
    if fillIncrement > fillTolerance then
      [{ orderId := st.orderId, extOrderRef := st.exchOrderRef
         extTradeId := s!"{resolvedOrderId}_{order.orderInferredTrades.length}", filledTs := ts
         filledQty := fillIncrement
         filledPrice := (inferTradePrice st.filledQty st.filledAvgPrice filledQty
           filledAvgPrice).getD 0 }]
    else []
  let newStatus := mapOrderStatus r.exchOrderStatus
  ({ order with
     orderState :=
       { st with
         filledQty, filledAvgPrice
         orderStatus := if canUpdateStatus st.orderStatus newStatus then newStatus
                        else st.orderStatus }
     orderInferredTrades := order.orderInferredTrades ++ inferred },
   !inferred.isEmpty)

/-- A trade entry of `update_with_report`. -/
def applyTradeEntry (ts : Int) (order : OmsOrder) (t : TradeReport) : OmsOrder :=
  let st := order.orderState
  let trade : Trade :=
    { orderId := st.orderId, extOrderRef := st.exchOrderRef, extTradeId := t.exchTradeId
      filledQty := t.filledQty, filledPrice := t.filledPrice, filledTs := ts
      accountId := st.accountId, buySellType := st.buySellType, instrument := st.instrument
      fillType := t.fillType, exchPnl := t.exchPnl }
  { order with
    accTradesFilledQty := order.accTradesFilledQty + trade.filledQty
    accTradesValue := order.accTradesValue + trade.filledQty * trade.filledPrice
    trades := order.trades ++ [trade] }

/-! ## The manager -/

/-- `OrderManager`.  Both reference maps are keyed by gateway key and reference. -/
structure OrderManager where
  orderDict : Dict Int OmsOrder := ∅
  openOrderIds : Finset Int := ∅
  orderIdQueue : List Int := []
  maxCachedOrders : ℕ
  contextCache : Dict Int OrderContext := ∅
  exchRefToOrderId : Dict (String × String) Int := ∅
  externalOrderDict : Dict (String × String) Int := ∅
  useTimeEmulation : Bool
  /-- the counter behind `gen_order_id` -/
  idCounter : Int

/-- What the entry loop of `update_with_report` works on. -/
structure EntryLoop where
  order : OmsOrder
  exchRefToOrderId : Dict (String × String) Int
  flags : ReportFlags := {}

/-- One turn of the entry loop.  `lone` says that the report has one entry and none is inferred. -/
def EntryLoop.entry (gwKey : String) (resolvedOrderId ts : Int) (lone : Bool) (acc : EntryLoop)
    (e : OrderReportEntry) : EntryLoop :=
  let order := acc.order
  match e.acted with
  | none => acc
  | some (.orderIdLinkageReport linkage) =>
    let order := { order with
      exchOrderRef := some linkage.exchOrderRef
      orderState := { order.orderState with exchOrderRef := linkage.exchOrderRef } }
    let acc := { acc with
      order
      exchRefToOrderId :=
        acc.exchRefToOrderId.insert (gwKey, linkage.exchOrderRef) resolvedOrderId }
    let status := order.orderState.orderStatus
    if lone ∧ (status = .pending ∨ status = .rejected) then
      { acc with
        order := { order with orderState := { order.orderState with orderStatus := .booked } }
        flags := { acc.flags with originalOrderUpdated := true } }
    else acc
  | some (.orderStateReport r) =>
    let (order, inferred) := applyStateEntry resolvedOrderId ts order r
    { acc with
      order
      flags := { acc.flags with
        originalOrderUpdated := true, newOmsTrade := acc.flags.newOmsTrade || inferred } }
  | some (.tradeReport t) =>
    { acc with
      order := applyTradeEntry ts order t
      flags := { acc.flags with newTrade := true, originalOrderUpdated := true } }
  | some (.execReport r) =>
    match omsExecType r.execType, r.errorInfo with
    | .unspecified, _ => acc
    -- without error information the report is passed over
    | _, none => acc
    | execType, some errInfo =>
      let code := errInfo.errorCode
      let text := errInfo.errorMessage
      { acc with
        order := applyOrderError order s!"err from gw: code={code}, msg={text}" ts execType
          (r.rejectionInfo.getD {})
        flags := { acc.flags with newExecMsg := true, originalOrderUpdated := true } }
  | some (.feeReport f) =>
    let fee : Fee :=
      { orderId := order.orderState.orderId, feeAmount := f.feeQty, feeSymbol := f.feeSymbol
        feeTs := ts, feeType := f.feeType }
    { acc with
      order := { order with fees := order.fees ++ [fee] }
      flags := { acc.flags with newFee := true, originalOrderUpdated := true } }

namespace OrderManager

variable {m : OrderManager} {r : OrderReport}

section

variable (m : OrderManager)

/-- One order of `init_with_orders`. -/
def initOrder (order : OmsOrder) : OrderManager :=
  let st := order.orderState
  if st.orderId = 0 then m
  else
    let oid := order.orderId
    { m with
      openOrderIds :=
        if order.isInTerminalState ∨ st.filledQty = st.qty then m.openOrderIds
        else insert oid m.openOrderIds
      exchRefToOrderId :=
        if st.exchOrderRef = "" then m.exchRefToOrderId
        else m.exchRefToOrderId.insert (st.gwKey, st.exchOrderRef) oid
      orderDict := m.orderDict.insert oid order }

def initWithOrders (orders : List OmsOrder) : OrderManager :=
  orders.foldl initOrder m

def timeOf (timestamp now : Int) : Int :=
  if m.useTimeEmulation then timestamp else now

def buildGwOrderReq (now : Int) (req : OrderRequest)
    (refData : InstrumentRefData) (route : OmsRouteEntry) : SendOrderRequest :=
  { correlationId := req.orderId, exchAccountId := route.exchAccountId
    instrument := refData.instrumentIdExchange, buysellType := req.buySellType
    opencloseType := req.openCloseType, orderType := req.orderType
    scaledPrice :=
      if refData.pricePrecision > 0 then roundToPrecision req.price refData.pricePrecision
      else req.price
    scaledQty :=
      if refData.qtyPrecision > 0 then roundToPrecision req.qty refData.qtyPrecision else req.qty
    timestamp := m.timeOf req.timestamp now, exchSpecificParams := req.extraProperties
    timeInforceType := req.timeInforceType }

/-- The gateway request of an order, if it has a context.  A context without errors has an
instrument and a route, so the two `expect`s of the source hold. -/
def gwReqOf (now : Int) (req : OrderRequest) (ctx : Option OrderContext) :
    Option SendOrderRequest := do
  let ctx ← ctx
  let refData ← ctx.symbolRef
  let route ← ctx.route
  some (m.buildGwOrderReq now req refData route)

/-- The record `create_order` starts an order with. -/
def newOrder (now : Int) (req : OrderRequest) (ctx : Option OrderContext) : OmsOrder :=
  let gwReq := m.gwReqOf now req ctx
  let ts := m.timeOf req.timestamp now
  { isFromExternal := false
    orderId := req.orderId
    accountId := req.accountId
    exchOrderRef := none
    omsReq := some req
    gwReq
    cancelReq := none
    orderState :=
      { orderId := req.orderId, exchOrderRef := "", snapshotVersion := 1
        instrument := req.instrumentCode, buySellType := req.buySellType
        openCloseType := req.openCloseType
        price := (gwReq.map (·.scaledPrice)).getD req.price
        qty := (gwReq.map (·.scaledQty)).getD req.qty
        filledQty := 0, filledAvgPrice := 0, errorMsg := "", sourceId := req.sourceId
        createdAt := ts, updatedAt := ts, orderStatus := .pending
        gwKey := ((ctx.bind (·.route)).map (·.gwKey)).getD ""
        instrumentExch := ((ctx.bind (·.symbolRef)).map (·.instrumentIdExchange)).getD ""
        accountId := req.accountId }
    trades := []
    accTradesFilledQty := 0
    accTradesValue := 0
    orderInferredTrades := []
    execMsgs := []
    fees := []
    cancelAttempts := 0 }

def createOrder (now : Int) (req : OrderRequest) (ctx : Option OrderContext) :
    OrderManager × OmsOrder :=
  let order := m.newOrder now req ctx
  ({ m with
     orderDict := m.orderDict.insert order.orderId order
     openOrderIds := insert order.orderId m.openOrderIds }, order)

def getOrderByExchRef (gwKey exchOrderRef : String) : Option OmsOrder :=
  (m.exchRefToOrderId.lookup (gwKey, exchOrderRef)).bind m.orderDict.lookup

def isMarkedAsExternal (gwKey exchOrderRef : String) : Bool :=
  decide ((gwKey, exchOrderRef) ∈ m.externalOrderDict)

def cleanupOrder (orderId : Int) : OrderManager :=
  { m with
    orderDict := m.orderDict.erase orderId
    exchRefToOrderId :=
      (m.orderDict.lookup orderId).elim m.exchRefToOrderId fun order =>
        m.exchRefToOrderId.erase (order.orderState.gwKey, order.orderState.exchOrderRef)
    contextCache := m.contextCache.erase orderId }

def removeOpenOrder (orderId : Int) : OrderManager :=
  let m := { m with
    openOrderIds := m.openOrderIds.erase orderId
    orderIdQueue := m.orderIdQueue ++ [orderId] }
  if m.orderIdQueue.length > m.maxCachedOrders then
    match m.orderIdQueue with
    | oldest :: rest => cleanupOrder { m with orderIdQueue := rest } oldest
    | [] => m
  else m

/-- `update_with_oms_error`.  Without a record of the order a stub is made. -/
def updateWithOmsError (now : Int) (omsOrder : Option OmsOrder)
    (req : OrderRequest) (errorMsg : String) (rejection : Rejection) :
    OrderManager × OrderUpdateEvent :=
  let ts := m.timeOf req.timestamp now
  let (m, order) :=
    match omsOrder with
    | some o => (m, o)
    | none => m.createOrder now req none
  let order := applyOrderError order errorMsg ts .placingOrder rejection
  ({ m with
     orderDict := m.orderDict.insert order.orderId order
     openOrderIds :=
       if order.isInTerminalState then m.openOrderIds.erase order.orderId else m.openOrderIds },
   buildErrorEvent order)

def updateWithGwError (orderId ts : Int) (errorMsg : String)
    (execType : ExecType) (rejection : Rejection) : Option (OrderManager × OrderUpdateEvent) :=
  (m.orderDict.lookup orderId).map fun order =>
    let order := applyOrderError order errorMsg ts execType rejection
    ({ m with orderDict := m.orderDict.insert orderId order }, buildErrorEvent order)

/-- The order a report is for: by its id, or by its reference if it names none. -/
def resolveReport (report : OrderReport) : Option Int :=
  if report.orderId ≠ 0 then
    if report.orderId ∈ m.orderDict then some report.orderId else none
  else m.exchRefToOrderId.lookup (report.exchange, report.exchOrderRef)

def touched (order : OmsOrder) (report : OrderReport) : OmsOrder :=
  { order with
    orderState :=
      { order.orderState with
        updatedAt := report.updateTimestamp
        exchOrderRef :=
          if order.orderState.exchOrderRef = "" then report.exchOrderRef
          else order.orderState.exchOrderRef } }

/-- The entry loop of `update_with_report`. -/
def entryLoop (resolvedOrderId : Int) (order : OmsOrder) (report : OrderReport) : EntryLoop :=
  let extra := inferStateEntry report.orderReportEntries order
  let lone := report.orderReportEntries.length == 1 && extra.isNone
  (report.orderReportEntries ++ extra.toList).foldl
    (EntryLoop.entry report.exchange resolvedOrderId report.updateTimestamp lone)
    { order := touched order report, exchRefToOrderId := m.exchRefToOrderId }

def finishOrder (order : OmsOrder) : OmsOrder :=
  let order := finalizeAvgPrice order
  { order with
    orderState := { order.orderState with
      snapshotVersion := order.orderState.snapshotVersion + 1 } }

def reportEvent (now resolvedOrderId : Int) (report : OrderReport)
    (order : OmsOrder) (flags : ReportFlags) : OrderUpdateEvent :=
  { orderId := resolvedOrderId, accountId := order.orderState.accountId
    timestamp := m.timeOf report.updateTimestamp now, orderSnapshot := some order.orderState
    orderSourceId := order.orderState.sourceId
    lastTrade := if flags.newTrade then order.trades.getLast? else none
    lastFee := if flags.newFee then order.fees.getLast? else none
    execMessage := if flags.newExecMsg then order.execMsgs.getLast? else none
    orderInferredTrade := if flags.newOmsTrade then order.orderInferredTrades.getLast? else none }

/-- `update_with_report`: at most one event. -/
def updateWithReport (now : Int) (report : OrderReport) : OrderManager × List OrderUpdateEvent :=
  match m.resolveReport report with
  | none => (m, [])
  | some id =>
    match m.orderDict.lookup id with
    | none => (m, [])
    | some order =>
      let loop := m.entryLoop id order report
      let m := { m with exchRefToOrderId := loop.exchRefToOrderId }
      if loop.flags.originalOrderUpdated then
        let order := finishOrder loop.order
        let event := m.reportEvent now id report order loop.flags
        let m := { m with orderDict := m.orderDict.insert id order }
        (if order.isInTerminalState then m.removeOpenOrder id else m, [event])
      else ({ m with orderDict := m.orderDict.insert id loop.order }, [])

end

lemma updateWithReport_of_order (now : Int) {id : Int} {order : OmsOrder}
    (hres : m.resolveReport r = some id) (ho : m.orderDict.lookup id = some order) :
    (m.updateWithReport now r).1 =
      if (m.entryLoop id order r).flags.originalOrderUpdated then
        if (finishOrder (m.entryLoop id order r).order).isInTerminalState then
          removeOpenOrder
            { m with
              exchRefToOrderId := (m.entryLoop id order r).exchRefToOrderId
              orderDict := m.orderDict.insert id (finishOrder (m.entryLoop id order r).order) } id
        else
          { m with
            exchRefToOrderId := (m.entryLoop id order r).exchRefToOrderId
            orderDict := m.orderDict.insert id (finishOrder (m.entryLoop id order r).order) }
      else
        { m with
          exchRefToOrderId := (m.entryLoop id order r).exchRefToOrderId
          orderDict := m.orderDict.insert id (m.entryLoop id order r).order } := by
  simp only [updateWithReport, hres, ho]
  split_ifs <;> rfl

lemma updateWithReport_of_none (now : Int)
    (h : ∀ id, m.resolveReport r = some id → m.orderDict.lookup id = none) :
    m.updateWithReport now r = (m, []) := by
  simp only [updateWithReport]
  cases hres : m.resolveReport r with
  | none => rfl
  | some id => simp [h id hres]

def externalOrder (dummyId : Int) (report : OrderReport) : OmsOrder :=
  let gwKey := report.exchange
  { isFromExternal := true
    orderId := dummyId
    accountId := report.accountId
    exchOrderRef := some report.exchOrderRef
    omsReq := none
    gwReq := none
    cancelReq := none
    orderState :=
      { orderId := dummyId, exchOrderRef := report.exchOrderRef, snapshotVersion := 0
        instrument := "", buySellType := .unspecified, openCloseType := .unspecified, price := 0
        qty := 0, filledQty := 0, filledAvgPrice := 0, errorMsg := ""
        sourceId := s!"External@{gwKey}", createdAt := report.updateTimestamp
        updatedAt := report.updateTimestamp, orderStatus := .pending, gwKey
        instrumentExch := "", accountId := report.accountId }
    trades := []
    accTradesFilledQty := 0
    accTradesValue := 0
    orderInferredTrades := []
    execMsgs := []
    fees := []
    cancelAttempts := 0 }

/-- Enter an order observed on the exchange, unless its reference is marked already. -/
def markExternal (m : OrderManager) (report : OrderReport) : OrderManager :=
  let key := (report.exchange, report.exchOrderRef)
  if m.isMarkedAsExternal report.exchange report.exchOrderRef then m
  else
    let dummyId := m.idCounter
    { m with
      idCounter := m.idCounter + 1
      externalOrderDict := m.externalOrderDict.insert key dummyId
      exchRefToOrderId := m.exchRefToOrderId.insert key dummyId
      orderDict := m.orderDict.insert dummyId (externalOrder dummyId report)
      openOrderIds := insert dummyId m.openOrderIds }

/-- `handle_external_order_report`.  The report is applied under the id of the external order. -/
def handleExternalOrderReport (m : OrderManager) (now : Int) (report : OrderReport) :
    OrderManager × Option OrderUpdateEvent :=
  let m := m.markExternal report
  let resolvedId := m.externalOrderDict.getD (report.exchange, report.exchOrderRef) 0
  let (m, events) := m.updateWithReport now { report with orderId := resolvedId }
  (m, events.head?)

end OrderManager

end Zkbot
