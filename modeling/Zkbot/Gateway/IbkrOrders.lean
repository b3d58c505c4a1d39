import Zkbot.Svc.Reconcile

/-!
# Reconciling with IBKR

`gw.py` answers the two queries of reconciling, for the open orders and for the details of a missing
one, from the same list: `openTrades()`, the trades whose status is not final.  An order that was
executed in the meantime is in neither answer, and the OMS then reports it cancelled with the fill
it knew of.

* `Executed` — the venue filled the order, or filled it in part and cancelled it.
* `reports_execution_iff` — when its report says so all the same.
-/

namespace Zkbot.Ibkr

open List

variable {ref : String}

/-- `OrderStatus.status` of a trade. -/
inductive IbStatus where
  | preSubmitted | submitted | filled | cancelled | inactive | apiCancelled | apiPending
  | pendingSubmit | pendingCancel | other
  deriving DecidableEq

namespace IbStatus

def isDone : IbStatus → Bool
  | filled | cancelled | apiCancelled | inactive => true
  | preSubmitted | submitted | apiPending | pendingSubmit | pendingCancel | other => false

/-- `IBKR_STATUS_MAP.get(status, "booked")`, as `venue_order_status_to_exch` passes it on. -/
def toExch : IbStatus → ExchangeOrderStatus
  | preSubmitted | submitted | apiPending | pendingSubmit | pendingCancel | other => .booked
  | filled => .filled
  | cancelled | apiCancelled => .cancelled
  | inactive => .exchRejected

lemma toExch_of_open {status : IbStatus} (h : status.isDone = false) : status.toExch = .booked := by
  cases status <;> first | rfl | cases h

end IbStatus

/-- `Trade`, with the instrument that its contract is translated to. -/
structure IbTrade where
  orderId : Int
  status : IbStatus
  filled : ℚ
  remaining : ℚ
  avgFillPrice : ℚ
  contract : String

structure OrderIdEntry where
  clientOrderId : Int
  permId : Option Int
  instrument : String

/-- `lookup_by_ib_order_id`. -/
abbrev IdMap := Int → Option OrderIdEntry

section Queries

variable (idMap : IdMap)

def permId (t : IbTrade) : Option Int := (idMap t.orderId).bind fun e => e.permId.filter (· ≠ 0)

/-- The reference that `_trade_to_order_fact` gives. -/
def exchRef (t : IbTrade) : String := toString ((permId idMap t).getD t.orderId)

/-- `_trade_to_order_fact` and `venue_order_fact_to_exch_order`. -/
def toExchOrder (t : IbTrade) : ExchOrder :=
  { orderRef := exchRef idMap t
    orderReport := some
      { exchOrderRef := exchRef idMap t
        orderId := (idMap t.orderId).elim 0 (·.clientOrderId)
        exchange := "", updateTimestamp := 0
        orderReportEntries := [⟨.state, some (.orderStateReport
          { exchOrderStatus := t.status.toExch, filledQty := t.filled, unfilledQty := t.remaining
            avgPrice := t.avgFillPrice })⟩] } }

/-- The tests of `_filter_and_convert_trades`. -/
def passes (q : VenueOrderQuery) (t : IbTrade) : Bool :=
  q.orderId.all (fun id => (idMap t.orderId).any (·.clientOrderId = id)) &&
    q.exchOrderRef.all (fun ref =>
      decide (some ref = (permId idMap t).map toString ∨ ref = toString t.orderId)) &&
    q.instrument.all fun inst => (idMap t.orderId).elim t.contract (·.instrument) = inst

/-- `query_order` and `query_open_orders`. -/
def queryOrders (trades : List IbTrade) (q : VenueOrderQuery) : List ExchOrder :=
  ((trades.filter fun t => !t.status.isDone).filter (passes idMap q)).map (toExchOrder idMap)

/-- `query_order_details` of the gateway, for the queries that the OMS makes of missing orders. -/
def queryOrderDetails (trades : List IbTrade) (missing : List OmsOrderSnapshot) : List ExchOrder :=
  missing.flatMap fun snap => queryOrders idMap trades snap.query

/-- The reports of reconciling the open orders of the OMS with the gateway. -/
def reconcile (trades : List IbTrade) (snaps : List OmsOrderSnapshot) (gwKey : String)
    (nowMs : Int) : List OrderReport :=
  let gwOpenOrders := queryOrders idMap trades {}
  let missing := (reconcileOrdersAgainstGateway snaps gwOpenOrders gwKey nowMs).2.1
  reconcileReports snaps gwOpenOrders (queryOrderDetails idMap trades missing) gwKey nowMs

end Queries

/-- The trade of an order that the OMS has as open was executed at the venue, and is final. -/
structure Executed (idMap : IdMap) (trades : List IbTrade) (gwKey : String)
    (snaps : List OmsOrderSnapshot) (snap : OmsOrderSnapshot) (t : IbTrade) : Prop where
  open_ : snap ∈ snaps
  gateway : snap.gwKey = gwKey
  ids : (snaps.map (·.orderId)).Nodup
  mem : t ∈ trades
  own : ∃ e, idMap t.orderId = some e ∧ e.clientOrderId = snap.orderId
  executed : t.status = .filled ∨ t.status = .cancelled ∨ t.status = .apiCancelled

/-- A report gives the order the venue's final status, and at least the venue's fill. -/
def ReportsExecution (r : OrderReport) (t : IbTrade) : Prop :=
  ∃ state, r.orderReportEntries = [⟨.state, some (.orderStateReport state)⟩] ∧
    state.exchOrderStatus = t.status.toExch ∧ t.filled ≤ state.filledQty

variable {idMap : IdMap} {trades : List IbTrade} {snaps : List OmsOrderSnapshot}
  {snap : OmsOrderSnapshot} {gwKey : String} {nowMs : Int} {t : IbTrade}

lemma mem_queryOrders {q : VenueOrderQuery} {o : ExchOrder}
    (h : o ∈ queryOrders idMap trades q) :
    ∃ t ∈ trades, t.status.isDone = false ∧ o = toExchOrder idMap t := by
  obtain ⟨t, ht, rfl⟩ := mem_map.mp h
  simp only [mem_filter, Bool.not_eq_true'] at ht
  exact ⟨t, ht.1.1, ht.1.2, rfl⟩

lemma extractGwOrderState_toExchOrder (t : IbTrade) :
    extractGwOrderState (toExchOrder idMap t) = some
      { exchOrderStatus := t.status.toExch, filledQty := t.filled, unfilledQty := t.remaining
        avgPrice := t.avgFillPrice } := rfl

lemma lookup_gwIndex_some {o : ExchOrder}
    (h : (gwIndex (queryOrders idMap trades {})).lookup ref = some o) :
    ∃ t ∈ trades, t.status.isDone = false ∧ exchRef idMap t = ref ∧ o = toExchOrder idMap t := by
  rw [gwIndex, Dict.lookup_foldl_insert] at h
  simp only [AList.lookup_empty, Option.or_none, Option.map_id'] at h
  obtain ⟨t, ht, hopen, rfl⟩ := mem_queryOrders (mem_reverse.mp (mem_of_find?_eq_some h))
  have href := find?_some h
  exact ⟨t, ht, hopen, of_decide_eq_true href, rfl⟩

lemma lookup_gwIndex_none (h : (gwIndex (queryOrders idMap trades {})).lookup ref = none) :
    ∀ t ∈ trades, t.status.isDone = false → exchRef idMap t ≠ ref := by
  intro t ht hopen href
  rw [gwIndex, Dict.lookup_foldl_insert] at h
  simp only [AList.lookup_empty, Option.or_none, Option.map_id', find?_eq_none,
    mem_reverse, decide_eq_true_eq] at h
  refine h (toExchOrder idMap t) (mem_map_of_mem ?_) href
  simp [ht, hopen, passes]

lemma detailState_none {missing : List OmsOrderSnapshot}
    (h : ∀ t ∈ trades, t.status.isDone = false → exchRef idMap t ≠ ref) :
    detailState (queryOrderDetails idMap trades missing) ref = none := by
  refine findSome?_eq_none_iff.mpr fun o ho => if_neg ?_
  obtain ⟨snap, -, ho⟩ := mem_flatMap.mp ho
  obtain ⟨t, ht, hopen, rfl⟩ := mem_queryOrders ho
  exact h t ht hopen

/-- **When an executed order is reported as executed**: it was cancelled, the OMS knew the whole
fill, and no open trade goes by its reference. -/
theorem reports_execution_iff (h : Executed idMap trades gwKey snaps snap t) :
    (∃ r ∈ reconcile idMap trades snaps gwKey nowMs,
      r.orderId = snap.orderId ∧ ReportsExecution r t) ↔
      ∃ ref, snap.reference = some ref ∧
        (∀ t' ∈ trades, t'.status.isDone = false → exchRef idMap t' ≠ ref) ∧
        t.status ≠ .filled ∧ t.filled ≤ snap.filledQty := by
  simp only [reconcile]
  set index := gwIndex (queryOrders idMap trades {})
  generalize hdetails : queryOrderDetails idMap trades _ = details
  -- the report is the order's own
  have hown : (∃ r ∈ reconcileReports snaps (queryOrders idMap trades {}) details gwKey nowMs,
      r.orderId = snap.orderId ∧ ReportsExecution r t) ↔
      ∃ r, ownReport index details gwKey nowMs snap = some r ∧ ReportsExecution r t := by
    constructor
    · rintro ⟨r, hr, hid, hexec⟩
      obtain ⟨snap', hsnap', hr⟩ := mem_reconcileReports.mp hr
      obtain rfl := inj_on_of_nodup_map h.ids hsnap' h.open_ ((ownReport_names hr).1.symm.trans hid)
      exact ⟨r, hr, hexec⟩
    · rintro ⟨r, hr, hexec⟩
      exact ⟨r, mem_reconcileReports.mpr ⟨snap, h.open_, hr⟩, (ownReport_names hr).1, hexec⟩
  rw [hown]
  cases href : snap.reference with
  | none =>
    simp [ownReport, isMissing, immediateReport, href, h.gateway, ReportsExecution,
      makeSyntheticRejectReport]
  | some ref =>
    cases hindex : index.lookup ref with
    | some o =>
      -- another trade, and it is still open
      obtain ⟨t', ht', hopen, rfl, rfl⟩ := lookup_gwIndex_some hindex
      constructor
      · rintro ⟨r, hr, state, hentries, hstatus, -⟩
        simp [ownReport, isMissing, immediateReport, href, h.gateway, hindex, listedState,
          extractGwOrderState_toExchOrder] at hr
        obtain ⟨_, rfl⟩ := hr
        simp only [makeSyntheticStateReport, cons.injEq, OrderReportEntry.mk.injEq,
          Option.some.injEq, Report.orderStateReport.injEq, true_and, and_true] at hentries
        subst hentries
        have hbooked := (IbStatus.toExch_of_open hopen).symm.trans hstatus
        rcases h.executed with he | he | he <;> rw [he] at hbooked <;> cases hbooked
      · rintro ⟨ref, ⟨⟩, hnone, -⟩
        exact absurd rfl (hnone t' ht' hopen)
    | none =>
      have hnone := lookup_gwIndex_none hindex
      have hmiss : isMissing index gwKey snap := by simp [isMissing, h.gateway, href, hindex]
      have hgetD : snap.exchOrderRef.getD "" = ref := by
        simp only [OmsOrderSnapshot.reference, Option.filter_eq_some_iff] at href
        simp [href.1]
      have hdetail : detailState details ref = none := hdetails ▸ detailState_none hnone
      have hstatus : (ExchangeOrderStatus.cancelled = t.status.toExch) ↔ t.status ≠ .filled := by
        rcases h.executed with h | h | h <;> simp [h, IbStatus.toExch]
      simp [ownReport, hmiss, resolveMissingOrder, hgetD, hdetail, ReportsExecution,
        makeSyntheticStateReport, hstatus]
      exact fun _ _ => hnone

/-- Order 1 went out as the venue's order 5, and the OMS knows of a fill. -/
def sampleOrder (filledQty : ℚ) : OmsOrderSnapshot :=
  { orderId := 1, accountId := 7, gwKey := "gw1", exchOrderRef := some "5", instrument := "B-Q"
    orderStatus := .booked, filledQty }

def sampleIds : IdMap := fun id => if id = 5 then some ⟨1, none, "B-Q"⟩ else none

def sampleTrade (status : IbStatus) : IbTrade :=
  { orderId := 5, status, filled := 1, remaining := 0, avgFillPrice := 1, contract := "B-Q" }

lemma executed_sample {status : IbStatus} (known : ℚ)
    (h : status = .filled ∨ status = .cancelled ∨ status = .apiCancelled) :
    Executed sampleIds [sampleTrade status] "gw1" [sampleOrder known] (sampleOrder known)
      (sampleTrade status) :=
  ⟨by simp, rfl, by simp, by simp, ⟨_, rfl, rfl⟩, h⟩

/-- An order that the venue filled is reported cancelled, without a fill. -/
theorem filled_order_reported_cancelled :
    Executed sampleIds [sampleTrade .filled] "gw1" [sampleOrder 0] (sampleOrder 0)
        (sampleTrade .filled) ∧
      reconcile sampleIds [sampleTrade .filled] [sampleOrder 0] "gw1" 0 =
        [makeSyntheticStateReport 1 "5" 7 { exchOrderStatus := .cancelled, filledQty := 0 } 0] :=
  ⟨executed_sample 0 (.inl rfl), by decide +kernel⟩

/-- An order that the venue cancelled after a fill that the OMS knows of. -/
theorem reports_execution_known_fill :
    ∃ r ∈ reconcile sampleIds [sampleTrade .cancelled] [sampleOrder 1] "gw1" 0,
      r.orderId = 1 ∧ ReportsExecution r (sampleTrade .cancelled) :=
  (reports_execution_iff (executed_sample 1 (.inr (.inl rfl)))).mpr
    ⟨"5", by decide, by simp [sampleTrade, IbStatus.isDone], by decide, le_refl _⟩

end Zkbot.Ibkr
