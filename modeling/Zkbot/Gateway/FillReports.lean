import Zkbot.Oms.ReportFills

/-!
# What a gateway says about a fill

The order normalizers of the OKX and OANDA adapters.  A state entry is meant to carry the fill of
the order so far: the store keeps the greatest value it has been told, and infers trades from its
increments.  The simulator and the IBKR adapter report it that way.  OKX's `fillSz` is the quantity
of the last fill, but the normalizer reads it both for the trade and for the state, and so does the
one for orders fetched over REST.  An OANDA `ORDER_FILL` transaction is taken to fill the order.  Of
an order fetched from OANDA the normalizer reads `filledUnits`, and zero if the field is missing.

* `normalizeWsOrder`, `normalizeRestOrder` — OKX, pushed and fetched.
* `orderFillEvent`, `normalizeOrder` — OANDA, the same.
* `VenueOrder.Tells` — what a venue says about an order after some fills; `VenueMessage.wholeFill`
  is the condition on the fills, and on `filledUnits`, under which the adapter passes on the fill so
  far (`fill_said_iff`).
-/

namespace Zkbot

variable {state : String}

/-! ## OKX -/

/-- `map_order_status`. -/
def okxOrderStatus (state : String) : ExchangeOrderStatus :=
  if state = "live" then .booked
  else if state = "partially_filled" then .partialFilled
  else if state = "filled" then .filled
  else if state = "canceled" then .cancelled
  else .unspecified

/-- An item of the `orders` channel.  Numbers come as texts; a text that is missing or is not a
number counts as zero. -/
structure OkxWsOrder where
  ordId : String
  /-- the client's id, read as a number -/
  clOrdId : Int
  state : String
  sz : ℚ
  /-- the quantity of the last fill -/
  fillSz : ℚ
  avgPx : ℚ := 0
  uTime : Int := 0
  tradeId : String := ""
  fillPx : ℚ := 0
  fee : ℚ := 0
  feeCcy : String := ""

namespace OkxWsOrder

def stateReport (data : OkxWsOrder) : OrderStateReport where
  exchOrderStatus := okxOrderStatus data.state
  filledQty := data.fillSz
  unfilledQty := data.sz - data.fillSz
  avgPrice := data.avgPx

def tradeEntry (data : OkxWsOrder) : List OrderReportEntry :=
  if data.tradeId ≠ "" ∧ 0 < data.fillSz then
    [⟨.trade, some (.tradeReport
      { exchTradeId := data.tradeId, filledQty := data.fillSz, filledPrice := data.fillPx })⟩]
  else []

def feeEntry (data : OkxWsOrder) : List OrderReportEntry :=
  if data.fee ≠ 0 ∧ data.feeCcy ≠ "" then
    [⟨.fee, some (.feeReport { feeQty := |data.fee|, feeSymbol := data.feeCcy })⟩]
  else []

def normalizeWsOrder (gwId : String) (accountId : Int) (data : OkxWsOrder) : Option OrderReport :=
  if data.ordId = "" then none
  else some {
    exchOrderRef := data.ordId
    orderId := data.clOrdId
    exchange := gwId
    orderReportEntries :=
      ⟨.linkage, some (.orderIdLinkageReport
        { exchOrderRef := data.ordId, orderId := data.clOrdId })⟩ ::
      ⟨.state, some (.orderStateReport data.stateReport)⟩ :: (data.tradeEntry ++ data.feeEntry)
    accountId
    orderSourceType := .tq
    updateTimestamp := data.uTime }

end OkxWsOrder

/-- `OrderFact`, of both adapters. -/
structure OrderFact where
  orderId : Int
  exchOrderRef : String
  instrument : String
  status : ExchangeOrderStatus
  filledQty : ℚ
  unfilledQty : ℚ
  avgPrice : ℚ
  timestamp : Int

/-- `OkxOrderData`: an order as the venue's REST interface has it. -/
structure OkxOrderData where
  ordId : String
  clOrdId : Int
  instId : String
  state : String
  sz : ℚ
  /-- the quantity of the last fill -/
  fillSz : ℚ
  avgPx : ℚ := 0
  uTime : Int := 0

def normalizeRestOrder (data : OkxOrderData) : OrderFact where
  orderId := data.clOrdId
  exchOrderRef := data.ordId
  instrument := data.instId
  status := okxOrderStatus data.state
  filledQty := data.fillSz
  unfilledQty := data.sz - data.fillSz
  avgPrice := data.avgPx
  timestamp := data.uTime

/-! ## OANDA -/

def orderStatusEnum (oandaState : String) : ExchangeOrderStatus :=
  if oandaState = "PENDING" ∨ oandaState = "TRIGGERED" then .booked
  else if oandaState = "FILLED" then .filled
  else if oandaState = "CANCELLED" then .cancelled
  else .exchRejected

/-- An `ORDER_FILL` transaction.  The units of a sale are negative. -/
structure OandaFill where
  id : String
  orderID : String
  /-- the number in `clientExtensions.id`, or zero -/
  clientOrderId : Int := 0
  units : ℚ
  price : ℚ := 0

/-- `order_fill_event`, at a time. -/
def orderFillEvent (ts : Int) (txn : OandaFill) : OrderReport where
  exchOrderRef := txn.orderID
  orderId := txn.clientOrderId
  exchange := ""
  orderReportEntries :=
    [⟨.state, some (.orderStateReport
      { exchOrderStatus := .filled, filledQty := |txn.units|, unfilledQty := 0,
        avgPrice := txn.price })⟩,
     ⟨.trade, some (.tradeReport
      { exchTradeId := txn.id, filledQty := |txn.units|, filledPrice := txn.price })⟩]
  updateTimestamp := ts

/-- An order of the REST interface. -/
structure OandaOrder where
  id : String
  clientOrderId : Int := 0
  instrument : String
  units : ℚ
  /-- zero if the field is missing -/
  filledUnits : ℚ := 0
  state : String := "PENDING"
  price : ℚ := 0

/-- `normalize_order`, at a time. -/
def normalizeOrder (ts : Int) (order : OandaOrder) : OrderFact where
  orderId := order.clientOrderId
  exchOrderRef := order.id
  instrument := order.instrument
  status := orderStatusEnum order.state
  filledQty := |order.filledUnits|
  unfilledQty := |order.units| - |order.filledUnits|
  avgPrice := order.price
  timestamp := ts

/-! ## Fills and what is said about them -/

/-- What a report or a fact says about the fill of an order. -/
structure FillState where
  status : ExchangeOrderStatus
  filledQty : ℚ
  unfilledQty : ℚ
  deriving DecidableEq

/-- The state entry of a report, as the core reads it. -/
def OrderReport.fillState (r : OrderReport) : Option FillState :=
  r.orderReportEntries.findSome? fun e =>
    match e.acted with
    | some (.orderStateReport s) => some ⟨s.exchOrderStatus, s.filledQty, s.unfilledQty⟩
    | _ => none

def OrderFact.fillState (f : OrderFact) : FillState := ⟨f.status, f.filledQty, f.unfilledQty⟩

/-- What an adapter hears from a venue about the fill of an order: a push, or an order that it
fetched. -/
inductive VenueMessage where
  | okxPush (data : OkxWsOrder)
  | okxOrder (data : OkxOrderData)
  | oandaFill (txn : OandaFill)
  | oandaOrder (order : OandaOrder)

open VenueMessage

/-- The settings of an adapter, and the time. -/
structure AdapterContext where
  gwId : String
  accountId : Int
  ts : Int

def VenueMessage.report (c : AdapterContext) : VenueMessage → Option OrderReport
  | .okxPush data => data.normalizeWsOrder c.gwId c.accountId
  | .oandaFill txn => some (orderFillEvent c.ts txn)
  | .okxOrder _ | .oandaOrder _ => none

/-- What the adapter passes on about the fill. -/
def VenueMessage.fillState (c : AdapterContext) : VenueMessage → Option FillState
  | .okxOrder data => some (normalizeRestOrder data).fillState
  | .oandaOrder order => some (normalizeOrder c.ts order).fillState
  | m => (m.report c).bind OrderReport.fillState

/-- An order at a venue: its size, and the quantities of its fills so far, the oldest first. -/
structure VenueOrder where
  size : ℚ
  fills : List ℚ

open VenueOrder

namespace VenueOrder

def filled (o : VenueOrder) : ℚ := o.fills.sum

/-- What the venue says after the fills of an order.  A push is about the last of them; only OKX
says in it how large the order is, and whether it is filled.  Nothing is said of `filledUnits`: the
normalizer takes it as optional, and no document of the repository has it. -/
def Tells (o : VenueOrder) : VenueMessage → Prop
  | .okxPush data => data.ordId ≠ "" ∧ data.tradeId ≠ "" ∧ 0 < data.fillSz ∧ data.sz = o.size ∧
      o.fills.getLast? = some data.fillSz ∧ (data.state = "filled" ↔ o.filled = o.size)
  | .okxOrder data => data.sz = o.size ∧ data.fillSz = o.fills.getLast?.getD 0 ∧
      (data.state = "filled" ↔ o.filled = o.size)
  | .oandaFill txn => o.fills.getLast? = some |txn.units|
  | .oandaOrder order => |order.units| = o.size ∧ (order.state = "FILLED" ↔ o.filled = o.size)

instance (o : VenueOrder) (m : VenueMessage) : Decidable (o.Tells m) := by
  cases m <;> dsimp only [Tells] <;> infer_instance

/-- The fill of the order so far is what is said about it. -/
def SaidBy (o : VenueOrder) (s : FillState) : Prop :=
  s.filledQty = o.filled ∧ s.unfilledQty = o.size - o.filled ∧
    (s.status = .filled → s.unfilledQty = 0)
deriving Decidable

/-- The fills before the last one amount to nothing. -/
def FirstFill (o : VenueOrder) : Prop := o.fills.dropLast.sum = 0

end VenueOrder

/-- The messages of which an adapter passes on the fill so far: what they are about is the first
fill, or they carry the fill so far themselves. -/
def VenueMessage.wholeFill (o : VenueOrder) : VenueMessage → Prop
  | .okxPush _ | .okxOrder _ => o.FirstFill
  | .oandaFill _ => o.FirstFill ∧ o.filled = o.size
  | .oandaOrder order => |order.filledUnits| = o.filled

/-! ## The statuses -/

lemma okxOrderStatus_eq_filled : okxOrderStatus state = .filled ↔ state = "filled" := by
  simp only [okxOrderStatus]
  split_ifs with hlive hpart hfilled hcancelled
  · simp [hlive]
  · simp [hpart]
  · simp [hfilled]
  · simp [hcancelled]
  · simp [hfilled]

lemma orderStatusEnum_eq_filled : orderStatusEnum state = .filled ↔ state = "FILLED" := by
  simp only [orderStatusEnum]
  split_ifs with hbooked hfilled hcancelled
  · rcases hbooked with rfl | rfl <;> simp
  · simp [hfilled]
  · simp [hcancelled]
  · simp [hfilled]

namespace VenueOrder

variable {o : VenueOrder}

lemma filled_eq (o : VenueOrder) : o.filled = o.fills.dropLast.sum + o.fills.getLast?.getD 0 := by
  rcases hlast : o.fills.getLast? with _ | q
  · have hnil : o.fills = [] := List.getLast?_eq_none_iff.mp hlast
    simp [filled, hnil]
  · calc o.filled = (o.fills.dropLast ++ [q]).sum := by
          rw [List.dropLast_append_getLast? q hlast]; rfl
      _ = o.fills.dropLast.sum + (some q).getD 0 := by simp

/-- The last fill is all there is exactly if nothing was filled before it. -/
lemma last_eq_filled {q : ℚ} (h : o.fills.getLast?.getD 0 = q) : q = o.filled ↔ o.FirstFill := by
  rw [filled_eq, h, FirstFill]
  constructor
  · intro hq
    linarith
  · intro hq
    linarith

/-- An adapter that passes on the venue's status, with the last fill for the fill so far. -/
lemma saidBy_last {q : ℚ} {status : ExchangeOrderStatus} (h : o.fills.getLast?.getD 0 = q)
    (hstatus : status = .filled ↔ o.filled = o.size) :
    o.SaidBy ⟨status, q, o.size - q⟩ ↔ o.FirstFill := by
  constructor
  · rintro ⟨hq, -, -⟩
    exact (last_eq_filled h).mp hq
  · intro hfirst
    have hq : q = o.filled := (last_eq_filled h).mpr hfirst
    refine ⟨hq, by rw [hq], fun hfilled => ?_⟩
    show o.size - q = 0
    rw [hq, hstatus.mp hfilled, sub_self]

end VenueOrder

/-! ## The reports of the pushes -/

lemma report_okxPush {c : AdapterContext} {data : OkxWsOrder} (hid : data.ordId ≠ "") :
    ∃ r, (okxPush data).report c = some r ∧
      r.fillState = some ⟨okxOrderStatus data.state, data.fillSz, data.sz - data.fillSz⟩ ∧
      (data.tradeId ≠ "" → 0 < data.fillSz → r.tradeQtys = [data.fillSz]) := by
  refine ⟨_, if_neg hid, rfl, fun htrade hpos => ?_⟩
  have htrades : data.tradeEntry = [⟨.trade, some (.tradeReport
      { exchTradeId := data.tradeId, filledQty := data.fillSz, filledPrice := data.fillPx })⟩] :=
    if_pos ⟨htrade, hpos⟩
  have hfee : data.feeEntry.filterMap (·.tradeQty) = [] := by
    simp only [OkxWsOrder.feeEntry]
    split_ifs <;> rfl
  simp only [OrderReport.tradeQtys, List.filterMap_cons, List.filterMap_append, htrades, hfee]
  rfl

/-- The state entry of every report, and every order fetched from a venue, gives the fill so far
exactly if there was no fill before the last one, and for an `ORDER_FILL` of OANDA if it also fills
the whole order; an order fetched from OANDA does exactly if its `filledUnits` is the fill so
far. -/
theorem fill_said_iff (c : AdapterContext) {o : VenueOrder} {m : VenueMessage} (h : o.Tells m) :
    (∀ r ∈ m.report c, r.tradeQtys = o.fills.getLast?.toList) ∧
      ((∃ s ∈ m.fillState c, o.SaidBy s) ↔ m.wholeFill o) := by
  cases m with
  | okxPush data =>
    obtain ⟨hid, htrade, hpos, hsz, hlast, hstate⟩ := h
    obtain ⟨r, hr, hs, hqtys⟩ := report_okxPush (c := c) hid
    constructor
    · intro r' hr'
      obtain rfl : r = r' := Option.mem_unique hr hr'
      rw [hqtys htrade hpos, hlast]
      rfl
    · have hlast' : o.fills.getLast?.getD 0 = data.fillSz := by rw [hlast]; rfl
      have hfill : (okxPush data).fillState c =
          some ⟨okxOrderStatus data.state, data.fillSz, o.size - data.fillSz⟩ := by
        show ((okxPush data).report c).bind OrderReport.fillState = _
        rw [hr, ← hsz]
        exact hs
      rw [hfill]
      simpa [wholeFill] using saidBy_last hlast' (okxOrderStatus_eq_filled.trans hstate)
  | okxOrder data =>
    obtain ⟨hsz, hlast, hstate⟩ := h
    refine ⟨fun r hr => (by cases hr), ?_⟩
    have hfill : (okxOrder data).fillState c =
        some ⟨okxOrderStatus data.state, data.fillSz, o.size - data.fillSz⟩ := by
      rw [← hsz]
      rfl
    rw [hfill]
    simpa [wholeFill] using saidBy_last hlast.symm (okxOrderStatus_eq_filled.trans hstate)
  | oandaFill txn =>
    have hlast : o.fills.getLast? = some |txn.units| := h
    have hlast' : o.fills.getLast?.getD 0 = |txn.units| := by rw [hlast]; rfl
    constructor
    · intro r hr
      obtain rfl : orderFillEvent c.ts txn = r := Option.some.inj hr
      rw [hlast]
      rfl
    · have hfill : (oandaFill txn).fillState c = some ⟨.filled, |txn.units|, 0⟩ := rfl
      rw [hfill]
      constructor
      · rintro ⟨s, hs, hq, hrest, -⟩
        obtain rfl : FillState.mk .filled |txn.units| 0 = s := Option.some.inj hs
        exact ⟨(last_eq_filled hlast').mp hq, (sub_eq_zero.mp hrest.symm).symm⟩
      · rintro ⟨hfirst, hall⟩
        refine ⟨_, rfl, (last_eq_filled hlast').mpr hfirst, ?_, fun _ => rfl⟩
        show (0 : ℚ) = o.size - o.filled
        rw [hall, sub_self]
  | oandaOrder order =>
    obtain ⟨hunits, hstate⟩ := h
    refine ⟨fun r hr => (by cases hr), ?_, fun hfilled => ?_⟩
    · rintro ⟨s, hs, hq, -⟩
      obtain rfl : (normalizeOrder c.ts order).fillState = s := Option.some.inj hs
      exact hq
    have hfilled : |order.filledUnits| = o.filled := hfilled
    refine ⟨_, rfl, hfilled, ?_, fun hs => ?_⟩
    · show |order.units| - |order.filledUnits| = o.size - o.filled
      rw [hunits, hfilled]
    · -- the status is passed on, and the venue says it only of an order with nothing left
      have hall : o.filled = o.size := hstate.mp (orderStatusEnum_eq_filled.mp hs)
      show |order.units| - |order.filledUnits| = 0
      rw [hunits, hfilled, hall, sub_self]

namespace Sample

/-- The settings of an OKX gateway. -/
def adapter : AdapterContext := { gwId := "gw_okx_1", accountId := 9001, ts := 1700000000000 }

/-- The push for a fill of an order for three. -/
def okxFill (state : String) (fillSz : ℚ) : OkxWsOrder where
  ordId := "123456"
  clOrdId := 99
  state
  sz := 3
  fillSz
  tradeId := "T001"

/-- The same order, fetched after a last fill of two. -/
def okxFetched : OkxOrderData where
  ordId := "123456"
  clOrdId := 99
  instId := "BTC-USDT"
  state := "filled"
  sz := 3
  fillSz := 2

/-- A fill of one. -/
def oandaPart : OandaFill := { id := "501", orderID := "500", units := 1 }

/-- An order that is filled, fetched without `filledUnits`. -/
def oandaBare : OandaOrder where
  id := "500"
  instrument := "EUR_USD"
  units := 3
  state := "FILLED"

end Sample

open Sample

/-- The first fill, of two out of three, is passed on as it is. -/
theorem fill_said_first :
    VenueOrder.Tells ⟨3, [2]⟩ (.okxPush (okxFill "partially_filled" 2)) ∧
      ∃ s ∈ (okxPush (okxFill "partially_filled" 2)).fillState adapter,
        VenueOrder.SaidBy ⟨3, [2]⟩ s := by
  refine (and_iff_left_of_imp fun htells => ?_).mpr (by decide +kernel)
  exact (fill_said_iff adapter htells).2.mpr rfl

/-- An OKX order for three is filled by one and then by two: the second report, and the order when
it is fetched, say that it is filled, by two, with one left.  The first `ORDER_FILL` of an OANDA
order for three, a fill of one, says that the order is filled and that nothing is left.  And an
OANDA order that is fetched without `filledUnits` is said to be filled by nothing. -/
theorem second_fill_replaces_first :
    (VenueOrder.Tells ⟨3, [1, 2]⟩ (.okxPush (okxFill "filled" 2)) ∧
      (okxPush (okxFill "filled" 2)).fillState adapter = some ⟨.filled, 2, 1⟩ ∧
      ¬ VenueOrder.SaidBy ⟨3, [1, 2]⟩ ⟨.filled, 2, 1⟩) ∧
    (VenueOrder.Tells ⟨3, [1, 2]⟩ (.okxOrder okxFetched) ∧
      (okxOrder okxFetched).fillState adapter = some ⟨.filled, 2, 1⟩) ∧
    (VenueOrder.Tells ⟨3, [1]⟩ (.oandaFill oandaPart) ∧
      (oandaFill oandaPart).fillState adapter = some ⟨.filled, 1, 0⟩ ∧
      ¬ VenueOrder.SaidBy ⟨3, [1]⟩ ⟨.filled, 1, 0⟩) ∧
    (VenueOrder.Tells ⟨3, [3]⟩ (.oandaOrder oandaBare) ∧
      (oandaOrder oandaBare).fillState adapter = some ⟨.filled, 0, 3⟩) := by
  decide +kernel

end Zkbot
