import Zkbot.Oms.Placement

/-!
# Order reports

`process_order_report` and `process_report_for_order` of `oms_core_v2.rs`.

A report is a list of entries.  It is first resolved to an order; then, entry by entry, it updates
the order's two records (`processEntry`), which also collects what kinds of entries were seen
(`ReportFlags`).  Only afterwards are the trades that the entries added turned into position
deltas and reservation releases (`applyFills`), and an order that ends up terminal is closed
(`handleTerminal`).
-/

namespace Zkbot

/-- What the entry loop has seen so far. -/
structure ReportFlags where
  originalOrderUpdated : Bool := false
  newTrade : Bool := false
  newOmsTrade : Bool := false
  newFee : Bool := false
  newExecMsg : Bool := false
  deriving DecidableEq

/-- The payload the entry loop acts on: an entry counts only if its type tag and its payload
agree. -/
def OrderReportEntry.acted (e : OrderReportEntry) : Option Report :=
  match e.reportType, e.report with
  | .linkage, some (.orderIdLinkageReport l) => some (.orderIdLinkageReport l)
  | .state, some (.orderStateReport r) => some (.orderStateReport r)
  | .trade, some (.tradeReport t) => some (.tradeReport t)
  | .exec, some (.execReport r) => some (.execReport r)
  | .fee, some (.feeReport f) => some (.feeReport f)
  | _, _ => none

/-- The cumulative fill a state report announces for an order of quantity `qty`. -/
def OrderStateReport.announced (r : OrderStateReport) (qty : ℚ) : Option ℚ :=
  if r.filledQty ≠ 0 then some r.filledQty
  else if r.unfilledQty ≠ 0 then some (qty - r.unfilledQty)
  else none

/-- The OMS meaning of a gateway execution report. -/
def omsExecType : ExchExecType → ExecType
  | .rejected => .placingOrder
  | .cancelReject => .cancel
  | _ => .unspecified

def execErrorMsg (r : ExecReport) (rejection : Rejection) : String :=
  match r.errorInfo with
  | some info =>
    let code := info.errorCode
    let msg := info.errorMessage
    s!"err from gw: code={code}, msg={msg}"
  | none =>
    if rejection.errorMessage ≠ "" then rejection.errorMessage
    else if r.execMessage ≠ "" then r.execMessage
    else "gateway execution rejected request"

/-- The entries the loop runs over: those of the report and, last, the state entry inferred from its
trades. -/
def loopEntries (live : LiveOrder) (report : OrderReport) : List OrderReportEntry :=
  report.orderReportEntries ++ (inferStateFromTrades report.orderReportEntries live).toList

/-- A report with one entry, from which no state is inferred. -/
def linkageOnly (live : LiveOrder) (report : OrderReport) : Bool :=
  report.orderReportEntries.length == 1 &&
    (inferStateFromTrades report.orderReportEntries live).isNone

namespace OmsCoreV2

/-- The code of an instrument, empty where the table has none at that index. -/
def instrumentCode (md : MetadataTables) (instrumentId : ℕ) : Option String :=
  match md.instrument instrumentId with
  | none => some ""
  | some inst => md.strResolve inst.instrumentCodeSym

def tradeOf (md : MetadataTables) (orders : OrderStoreV2) (live : LiveOrder) (t : TradeReport)
    (ts : Int) : Option Trade := do
  let extOrderRef ← orders.exchRefString live
  let instrument ← instrumentCode md live.instrumentId
  some { orderId := live.orderId, extOrderRef, extTradeId := t.exchTradeId,
         filledQty := t.filledQty, filledPrice := t.filledPrice, filledTs := ts,
         accountId := live.accountId, buySellType := live.buySellType, instrument,
         fillType := t.fillType, exchPnl := t.exchPnl }

/-- One turn of the entry loop.  `linkageOnly` says that the report has this one entry and no
inferred one. -/
def processEntry (md : MetadataTables) (orderId : Int) (gwId : ℕ) (ts : Int) (linkageOnly : Bool)
    (acc : OrderStoreV2 × ReportFlags) (entry : OrderReportEntry) :
    Option (OrderStoreV2 × ReportFlags) :=
  let orders := acc.1
  let flags := acc.2
  match entry.acted with
  | none => some (orders, flags)
  | some (.orderIdLinkageReport linkage) =>
    let orders := orders.registerExchRef orderId gwId linkage.exchOrderRef
    if linkageOnly then
      some (orders.applyLinkagePromotion orderId, { flags with originalOrderUpdated := true })
    else some (orders, flags)
  | some (.orderStateReport r) => do
      let before ← orders.detail.lookup orderId
      let orders ← orders.updateLiveAndDetail orderId fun live detail =>
        applyStateReport live detail (r.announced live.qty) r.avgPrice r.exchOrderStatus ts
      let after ← orders.detail.lookup orderId
      some (orders,
        { flags with
          originalOrderUpdated := true
          newOmsTrade := flags.newOmsTrade ||
            decide (after.inferredTrades.length > before.inferredTrades.length) })
  | some (.tradeReport t) => do
      let live ← orders.live.lookup orderId
      let trade ← tradeOf md orders live t ts
      let orders ← orders.updateLiveAndDetail orderId fun live detail =>
        applyTradeReport live detail trade
      some (orders, { flags with newTrade := true, originalOrderUpdated := true })
  | some (.execReport r) =>
    if omsExecType r.execType ≠ .unspecified then do
      let rejection := r.rejectionInfo.getD {}
      let orders ← orders.updateLiveAndDetail orderId fun live detail =>
        applyOmsError live detail (execErrorMsg r rejection) ts (omsExecType r.execType)
          rejection
      some (orders, { flags with newExecMsg := true, originalOrderUpdated := true })
    else some (orders, flags)
  | some (.feeReport f) => do
      let live ← orders.live.lookup orderId
      let detail ← orders.detail.lookup orderId
      let fee : Fee :=
        { orderId := live.orderId, feeAmount := f.feeQty, feeSymbol := f.feeSymbol, feeTs := ts,
          feeType := f.feeType }
      some ({ orders with detail := orders.detail.insert orderId (applyFeeReport detail fee) },
        { flags with newFee := true, originalOrderUpdated := true })

def finalizeLive (live : LiveOrder) : LiveOrder :=
  { live with
    snapshotVersion := live.snapshotVersion + 1
    filledAvgPrice :=
      if live.isInTerminalState ∧ live.filledAvgPrice = 0 ∧ live.accTradesFilledQty ≠ 0 then
        live.accTradesValue / live.accTradesFilledQty
      else live.filledAvgPrice
    terminalAt :=
      if live.isInTerminalState then some (live.terminalAt.getD live.updatedAt)
      else live.terminalAt }

/-- The quantities of the trades, explicit and inferred, that a report has added. -/
def newFills (tradesBefore inferredBefore : ℕ) (detail : OrderDetailLog) : List ℚ :=
  ((detail.trades.drop tradesBefore).map (·.filledQty)) ++
    ((detail.inferredTrades.drop inferredBefore).map (·.filledQty))

/-- The position delta of one fill.  Deltas are signed as if the position were long. -/
def fillDelta (live : LiveOrder) (posId : ℕ) (fillQty : ℚ) : PositionDeltaV2 :=
  let isBuy := decide (live.buySellType = .buy)
  let sellWasFrozen := !isBuy && live.accountingFlags.balanceCheck
  { accountId := live.accountId
    instrumentId := posId
    isShort := !isBuy
    availChange := if isBuy then fillQty else 0
    frozenChange := if sellWasFrozen then -fillQty else 0
    totalChange := if isBuy then fillQty else -fillQty }

/-- The reservation that one fill gives back: cash at the order's price, or inventory. -/
def fillRelease (live : LiveOrder) (fillQty : ℚ) : ℚ :=
  if live.accountingFlags.isBuy then fillQty * live.price else fillQty

def applyFill (orderId : Int) (live : LiveOrder) (ts : Int) (s : OmsCoreV2) (fillQty : ℚ) :
    OmsCoreV2 :=
  if fillQty ≤ 0 then s
  else
    { s with
      positions :=
        match live.accountingFlags.posInstrumentId with
        | some posId => s.positions.applyDelta (fillDelta live posId fillQty) ts
        | none => s.positions
      reservations := s.reservations.releasePartial orderId (fillRelease live fillQty) }

def fillActions (live : LiveOrder) (fills : List ℚ) : List OmsActionV2 :=
  match live.accountingFlags.posInstrumentId with
  | some posId =>
    if fills.any (0 < ·) then
      [.persistPosition live.accountId posId, .publishPositionUpdate live.accountId]
    else []
  | none => []

section

variable (s : OmsCoreV2)

def handleTerminal (orderId : Int) (live : LiveOrder) : OmsCoreV2 × List OmsActionV2 :=
  if live.isInTerminalState then
    let s := { s with reservations := s.reservations.release orderId }
    let s := s.unfreezeRemaining orderId live.accountId live.accountingFlags
    ({ s with orders := s.orders.markClosed orderId }, [.persistOrder orderId true true])
  else (s, [.persistOrder orderId false false])

/-- The entry loop of `process_report_for_order`. -/
def reportLoop (orderId : Int) (gwId : ℕ) (report : OrderReport)
    (live : LiveOrder) : Option (OrderStoreV2 × ReportFlags) :=
  (loopEntries live report).foldlM
    (processEntry s.metadata orderId gwId report.updateTimestamp (linkageOnly live report))
    (s.orders.touch orderId live report.updateTimestamp, {})

/-- The fills a report applies.  The list of new trades is read only if the loop saw one. -/
def collectFills (orderId : Int) (tradesBefore inferredBefore : ℕ)
    (flags : ReportFlags) : Option (List ℚ) :=
  if flags.newTrade || flags.newOmsTrade then
    (s.orders.detail.lookup orderId).map (newFills tradesBefore inferredBefore)
  else some []

/-- What a report does once its entries are processed, if any of them updated the order. -/
def finishReport (orderId : Int) (ts : Int) (tradesBefore inferredBefore : ℕ)
    (flags : ReportFlags) : Option (OmsCoreV2 × List OmsActionV2) := do
  let live ← s.orders.live.lookup orderId
  let live := finalizeLive live
  let s := { s with orders := { s.orders with live := s.orders.live.insert orderId live } }
  let publish := OmsActionV2.publishOrderUpdate orderId flags.newTrade flags.newFee
    flags.newExecMsg flags.newOmsTrade
  let fills ← s.collectFills orderId tradesBefore inferredBefore flags
  let s := fills.foldl (applyFill orderId live ts) s
  let closed := s.handleTerminal orderId live
  some (closed.1, publish :: fillActions live fills ++ closed.2)

def processReportForOrder (orderId : Int) (gwId : ℕ) (report : OrderReport) :
    Option (OmsCoreV2 × List OmsActionV2) :=
  match s.orders.live.lookup orderId with
  | none => some (s, [])
  | some live => do
      let tradesBefore := ((s.orders.detail.lookup orderId).map (·.trades.length)).getD 0
      let inferredBefore := ((s.orders.detail.lookup orderId).map (·.inferredTrades.length)).getD 0
      let (orders, flags) ← s.reportLoop orderId gwId report live
      let s := { s with orders }
      if flags.originalOrderUpdated then
        s.finishReport orderId report.updateTimestamp tradesBefore inferredBefore flags
      else some (s, [])

/-- The external order already registered for a reference, if any. -/
def existingExternal (gwId : ℕ) (exchOrderRef : String) : Option Int := do
  let refId ← s.orders.dynStrings.lookup exchOrderRef
  s.orders.externalOrderIds.lookup (gwId, refId)

/-- Enter a new external order for a report that resolves to none. -/
def addExternalOrder (gwId : ℕ) (report : OrderReport) : OmsCoreV2 :=
  let gwKey := report.exchange
  let interned := s.metadata.intern s!"External@{gwKey}"
  { s with
    metadata := interned.1
    orders := (s.orders.createExternalOrder gwId report.exchOrderRef report.accountId
      report.updateTimestamp interned.2).1 }

/-- Keep a report that resolves to no order.  Nothing takes it out again. -/
def bufferReport (gwId : ℕ) (report : OrderReport) : OmsCoreV2 :=
  let interned := s.orders.dynStrings.intern report.exchOrderRef
  let key := (gwId, interned.2)
  { s with
    orders := { s.orders with dynStrings := interned.1 }
    pendingReports := s.pendingReports.insert key (s.pendingReports.getD key [] ++ [report]) }

def processOrderReport (report : OrderReport) : Option (OmsCoreV2 × List OmsActionV2) :=
  match s.metadata.gwIdOfKey report.exchange with
  | none => some (s, [])
  | some gwId =>
    match s.orders.resolveOrderId report.orderId gwId report.exchOrderRef with
    | some orderId => s.processReportForOrder orderId gwId report
    | none =>
      if report.exchOrderRef = "" then some (s, [])
      else if s.handleExternalOrders then
        match s.existingExternal gwId report.exchOrderRef with
        | some extOrderId => s.processReportForOrder extOrderId gwId report
        | none =>
          (s.addExternalOrder gwId report).processReportForOrder s.orders.idCounter gwId
            report
      else some (s.bufferReport gwId report, [])

end

end OmsCoreV2

end Zkbot
