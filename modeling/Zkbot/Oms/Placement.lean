import Zkbot.Oms.State

/-!
# Placing and cancelling

`process_order`, `process_cancel` and the two gateway send-failure handlers of `oms_core_v2.rs`.

`process_order` can refuse an order at three points: when no route or instrument resolves, at the
risk check and at the pre-trade check.  All three go through `rejectOrder`, which leaves a rejected
order behind.  A request that fails validation, or whose account is in panic mode, leaves no trace
at all.
-/

namespace Zkbot

def defaultTradingMeta : TradingMeta :=
  { instrumentId := 0, bookkeepingBalance := false, balanceCheck := false, useMargin := false,
    marginRatio := 1, maxOrderSize := none, publishBalanceOnTrade := true,
    publishBalanceOnBook := false, publishBalanceOnCancel := false }

def stubMeta (accountId : Int) : ResolvedOrderMeta :=
  { accountId, gwId := 0, instrumentId := 0, instrumentExchSym := 0, exchAccountSym := 0,
    sourceSym := 0, fundAssetId := none, posInstrumentId := none, bookkeepingBalance := false,
    balanceCheck := false, useMargin := false, maxOrderSize := none, qtyPrecision := 0,
    pricePrecision := 0 }

/-- The fund asset and the position key of an order on an instrument.  Both branches name the
position by a *symbol* of the intern table, not by an index of the instrument table. -/
def InstrumentMeta.accountingKeys (inst : InstrumentMeta) : Option ℕ × Option ℕ :=
  if inst.instrumentType = .spot then (inst.quoteAssetId, inst.baseAssetSym)
  else (inst.settlementAssetId.or inst.quoteAssetId, some inst.instrumentCodeSym)

/-- The quantity sent to the venue.  A precision that is not positive means no rounding. -/
def scaledQty (req : OrderRequest) (orderMeta : ResolvedOrderMeta) : ℚ :=
  if orderMeta.qtyPrecision > 0 then roundToPrecision req.qty orderMeta.qtyPrecision else req.qty

def scaledPrice (req : OrderRequest) (orderMeta : ResolvedOrderMeta) : ℚ :=
  if orderMeta.pricePrecision > 0 then roundToPrecision req.price orderMeta.pricePrecision
  else req.price

section Scaled

variable {req : OrderRequest} (om : ResolvedOrderMeta)

lemma scaledQty_le : scaledQty req om ≤ req.qty := by
  rw [scaledQty]
  split_ifs
  · exact roundToPrecision_le _ _
  · exact le_refl _

lemma scaledPrice_le : scaledPrice req om ≤ req.price := by
  rw [scaledPrice]
  split_ifs
  · exact roundToPrecision_le _ _
  · exact le_refl _

lemma scaledPrice_nonneg (h : 0 ≤ req.price) : 0 ≤ scaledPrice req om := by
  rw [scaledPrice]
  split_ifs
  · exact roundToPrecision_nonneg h _
  · exact h

end Scaled

/-- The accounting flags an order carries for the rest of its life. -/
def accountingFlags (req : OrderRequest) (orderMeta : ResolvedOrderMeta) : OrderAccountingFlags :=
  { bookkeepingBalance := orderMeta.bookkeepingBalance
    balanceCheck := orderMeta.balanceCheck
    useMargin := orderMeta.useMargin
    isBuy := decide (req.buySellType = .buy)
    fundAssetId := orderMeta.fundAssetId
    posInstrumentId := orderMeta.posInstrumentId }

namespace OmsCoreV2

variable (s : OmsCoreV2)

def resolveOrderMeta (req : OrderRequest) : Except (List String) ResolvedOrderMeta :=
  let accountId := req.accountId
  let code := req.instrumentCode
  match s.metadata.route req.accountId with
  | none => .error [s!"no route for account {accountId}"]
  | some route =>
    match s.metadata.resolveInstrument req.instrumentCode with
    | none => .error [s!"unknown instrument {code}"]
    | some inst =>
      let tc := (s.metadata.trading inst.instrumentId).getD defaultTradingMeta
      .ok { accountId
            gwId := route.gwId
            instrumentId := inst.instrumentId
            instrumentExchSym := inst.instrumentExchSym
            exchAccountSym := route.exchAccountSym
            sourceSym := 0
            fundAssetId := inst.accountingKeys.1
            posInstrumentId := inst.accountingKeys.2
            bookkeepingBalance := tc.bookkeepingBalance
            balanceCheck := tc.balanceCheck
            useMargin := tc.useMargin
            maxOrderSize := tc.maxOrderSize
            qtyPrecision := inst.qtyPrecision
            pricePrecision := inst.pricePrecision }

/-- Intern the source of a request, if it names one. -/
def internSource (req : OrderRequest) : OmsCoreV2 :=
  if req.sourceId = "" then s else { s with metadata := (s.metadata.intern req.sourceId).1 }

/-- The symbol of that source, in the order's metadata. -/
def withSource (req : OrderRequest) (orderMeta : ResolvedOrderMeta) : ResolvedOrderMeta :=
  if req.sourceId = "" then orderMeta
  else { orderMeta with sourceSym := (s.metadata.intern req.sourceId).2 }

/-- The risk check, step 3 of `process_order`. -/
def riskCheck (req : OrderRequest) (orderMeta : ResolvedOrderMeta) : Except String Unit :=
  let qty := req.qty
  match orderMeta.maxOrderSize with
  | some maxSize =>
    if s.riskCheckEnabled && decide (qty > maxSize) then
      .error s!"order qty {qty} exceeds max {maxSize}"
    else .ok ()
  | none => .ok ()

/-- The pre-trade check and its bookings, step 4 of `process_order`.  Cash is checked only under
`balance_check`; inventory is frozen whenever bookkeeping is on. -/
def preTrade (req : OrderRequest) (orderMeta : ResolvedOrderMeta) : Except String OmsCoreV2 :=
  if orderMeta.bookkeepingBalance && !orderMeta.useMargin then
    if req.buySellType = .buy then
      match orderMeta.fundAssetId with
      | none => .ok s
      | some fundId =>
        if orderMeta.balanceCheck then
          let cost := req.qty * req.price
          let avail :=
            ((s.balances.getBalance req.accountId fundId).map (·.balanceState.availQty)).getD 0
          match s.reservations.checkAvailable req.accountId fundId cost avail with
          | .error e => .error e
          | .ok _ =>
            .ok { s with
              reservations := s.reservations.tryReserve req.orderId req.accountId .cashAsset
                fundId cost }
        else .ok s
    else
      match orderMeta.posInstrumentId with
      | none => .ok s
      | some posId =>
        -- sells come from long positions by default
        match s.positions.checkAndFreeze req.accountId posId req.qty false with
        | .error e => .error e
        | .ok positions =>
          .ok { s with
            positions
            reservations := s.reservations.tryReserve req.orderId req.accountId
              .inventoryInstrument posId req.qty }
  else .ok s

def buildGwRequest (now : Int) (req : OrderRequest)
    (orderMeta : ResolvedOrderMeta) : Option SendOrderRequest := do
  let exchAccountId ← s.metadata.strResolve orderMeta.exchAccountSym
  let instrument ← s.metadata.strResolve orderMeta.instrumentExchSym
  some { correlationId := req.orderId, exchAccountId, instrument, buysellType := req.buySellType,
         opencloseType := req.openCloseType, orderType := req.orderType,
         scaledPrice := scaledPrice req orderMeta, scaledQty := scaledQty req orderMeta,
         timestamp := s.timeOf req.timestamp now, exchSpecificParams := req.extraProperties,
         timeInforceType := req.timeInforceType }

/-- Record an order as rejected by the OMS: create it, put the error on it, close it. -/
def rejectOrder (now : Int) (req : OrderRequest) (orderMeta : ResolvedOrderMeta)
    (flags : OrderAccountingFlags) (errorMsg : String) (reason : RejectionReason) :
    Option (OmsCoreV2 × List OmsActionV2) := do
  let ts := s.timeOf req.timestamp now
  let orders := s.orders.createOrder now req.orderId req orderMeta flags none
  let orders ← orders.updateLiveAndDetail req.orderId fun live detail =>
    applyOmsError live detail errorMsg ts .placingOrder { source := .omsReject, reason }
  some ({ s with orders := orders.markClosed req.orderId },
    [.publishOrderUpdate req.orderId false false true false])

/-- Record an order as sent: create it and give it the scaled price and quantity. -/
def acceptOrder (now : Int) (req : OrderRequest) (orderMeta : ResolvedOrderMeta)
    (flags : OrderAccountingFlags) : Option (OmsCoreV2 × List OmsActionV2) := do
  let gwReq ← s.buildGwRequest now req orderMeta
  let orders := s.orders.createOrder now req.orderId req orderMeta flags (some gwReq)
  let orders := { orders with
    live := orders.live.modify req.orderId fun l =>
      { l with price := gwReq.scaledPrice, qty := gwReq.scaledQty } }
  some ({ s with orders },
    [.persistOrder req.orderId false false,
     .sendOrderToGw orderMeta.gwId req.orderId (s.timeOf req.timestamp now)])

def processOrder (now : Int) (req : OrderRequest) : Option (OmsCoreV2 × List OmsActionV2) :=
  match validateOrderRequest req with
  | .error _ => some (s, [])
  | .ok _ =>
    if req.accountId ∈ s.panicAccounts then some (s, [])
    else
      match s.resolveOrderMeta req with
      | .error errors =>
        s.rejectOrder now req (stubMeta req.accountId) {} (String.intercalate "; " errors)
          .omsInternalError
      | .ok resolved =>
        let orderMeta := s.withSource req resolved
        let s := s.internSource req
        match s.riskCheck req orderMeta with
        | .error e => s.rejectOrder now req orderMeta {} e .omsInvalidState
        | .ok _ =>
          let flags := accountingFlags req orderMeta
          match s.preTrade req orderMeta with
          | .error e => s.rejectOrder now req orderMeta flags e .omsInvalidState
          | .ok s => s.acceptOrder now req orderMeta flags

/-! ## Cancelling -/

def processCancel (now : Int) (req : OrderCancelRequest) : Option (OmsCoreV2 × List OmsActionV2) :=
  match validateCancelRequest req with
  | .error _ => some (s, [])
  | .ok _ =>
    match s.orders.live.lookup req.orderId with
    | none => some (s, [])
    | some live => do
        let exchOrderRef ← s.orders.exchRefString live
        let ts := s.timeOf req.timestamp now
        if live.isExternal then some (s, [])
        else if live.isInTerminalState then
          let orders ← s.orders.updateLiveAndDetail req.orderId fun live detail =>
            applyOmsError live detail "cannot cancel terminal order" ts .cancel
              { source := .omsReject, reason := .omsInternalError }
          some ({ s with orders }, [.publishOrderUpdate req.orderId false false true false])
        else
          let cancelReq : CancelOrderRequest :=
            { orderId := req.orderId, exchOrderRef, timestamp := ts }
          let orders := { s.orders with
            detail := s.orders.detail.modify req.orderId fun d =>
              { d with cancelReq := some cancelReq }
            live := s.orders.live.insert req.orderId
              { live with cancelAttempts := live.cancelAttempts + 1 } }
          some ({ s with orders }, [.sendCancelToGw live.gwId req.orderId])

/-! ## Gateway send failures -/

/-- Give back the inventory an order still holds: `live.qty − live.filled_qty` of a sell with a
position key.  The quantity is read from the store, so an order already evicted gives back
nothing. -/
def unfreezeRemaining (orderId accountId : Int) (flags : OrderAccountingFlags) : OmsCoreV2 :=
  match flags.posInstrumentId with
  | none => s
  | some posId =>
    if flags.isBuy then s
    else
      let remaining :=
        ((s.orders.live.lookup orderId).map fun l => l.qty - l.filledQty).getD 0
      if remaining > 0 then
        { s with positions := s.positions.unfreeze accountId posId remaining }
      else s

def processGatewaySendFailed (now : Int) (orderId : Int) (errorMsg : String) :
    Option (OmsCoreV2 × List OmsActionV2) :=
  match s.orders.live.lookup orderId with
  | none => some (s, [])
  | some live =>
    if live.isInTerminalState then some (s, [])
    else do
      let orders ← s.orders.updateLiveAndDetail orderId fun live detail =>
        applyOmsError live detail s!"gateway send failed: {errorMsg}" now .placingOrder
          { source := .omsReject, reason := .omsInternalError }
      let s := { s with
        orders := orders.markClosed orderId
        reservations := s.reservations.release orderId }
      some (s.unfreezeRemaining orderId live.accountId live.accountingFlags,
        [.persistOrder orderId true true, .publishOrderUpdate orderId false false true false])

/-- `process_gateway_cancel_send_failed`.  The order stays as it is: it may still be live on the
exchange. -/
def processGatewayCancelSendFailed (now : Int) (orderId : Int)
    (errorMsg : String) : Option (OmsCoreV2 × List OmsActionV2) :=
  match s.orders.live.lookup orderId with
  | none => some (s, [])
  | some live =>
    if live.isInTerminalState then some (s, [])
    else do
      let orders ← s.orders.updateLiveAndDetail orderId fun live detail =>
        applyOmsError live detail s!"gateway cancel send failed: {errorMsg}" now .cancel
          { source := .omsReject, reason := .omsInternalError }
      some ({ s with orders },
        [.persistOrder orderId false false, .publishOrderUpdate orderId false false true false])

end OmsCoreV2

end Zkbot
