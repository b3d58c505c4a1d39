import Zkbot.V1.Life
import Zkbot.V1.Fills
import Zkbot.Oms.Admission
import Zkbot.Oms.Departures
import Zkbot.Oms.Eviction
import Zkbot.Oms.Resolution

/-!
# The two cores side by side

The backtester runs `OmsCore`, the service `OmsCoreV2`.  Here both are given the same setup, the
same request and the same reports of it, and what a client sees of the order is compared.

* `OrderView` — status, fill, average price and exchange reference.
* `Cores.Heeded` — the reports that both cores take in the same way.
* `Cores.InStep` — the relation that such reports keep: the order has the same life in both, or is
  gone from both.
* `views_agree` — after a request that is valid, and any such reports, both cores show the same.
-/

namespace Zkbot

open List Option AList OmsCoreV2 OrderManager OrderStoreV2

/-! ## What is compared -/

/-- What a client sees of an order. -/
structure OrderView where
  orderStatus : OrderStatus
  filledQty : ℚ
  filledAvgPrice : ℚ
  exchOrderRef : String
  deriving DecidableEq

def OmsCore.orderView (s : OmsCore) (id : Int) : Option OrderView :=
  (s.orderMgr.orderDict.lookup id).map fun o =>
    { orderStatus := o.orderState.orderStatus, filledQty := o.orderState.filledQty
      filledAvgPrice := o.orderState.filledAvgPrice, exchOrderRef := o.orderState.exchOrderRef }

def OmsCoreV2.orderView (s : OmsCoreV2) (id : Int) : Option OrderView := do
  let live ← s.orders.live.lookup id
  let exchOrderRef ← s.orders.exchRefString live
  some { orderStatus := live.orderStatus, filledQty := live.filledQty
         filledAvgPrice := live.filledAvgPrice, exchOrderRef }

/-- A core of each kind. -/
structure Cores where
  v1 : OmsCore
  v2 : OmsCoreV2

open Cores

namespace Cores

def start (u : OmsSetup) : Cores := ⟨u.startV1, u.start⟩

/-- Both cores handle a request. -/
def place (c : Cores) (now : Int) (req : OrderRequest) : Option Cores :=
  (c.v2.processMessage now (.placeOrder req)).map fun r =>
    ⟨(c.v1.processMessage now (.placeOrder req)).1, r.1⟩

/-- Both cores handle a report, at the clock reading it comes with. -/
def report (c : Cores) (e : Int × OrderReport) : Option Cores :=
  (c.v2.processMessage e.1 (.gatewayOrderReport e.2)).map fun r =>
    ⟨(c.v1.processMessage e.1 (.gatewayOrderReport e.2)).1, r.1⟩

/-- **A report that both cores take in the same way.**  The first core takes it for a report of its
own.  If it has the order: rejections come with error information; the reference on the report is
empty, or that of the order is not, or a linkage entry sets it; and the report does more than link
an order that is filled or cancelled.  The second core does not enter an external order under the
id. -/
def Heeded (c : Cores) (e : Int × OrderReport) : Prop :=
  c.v1.diverts e.2 = false ∧
  (∀ o ∈ c.v1.orderMgr.orderDict.lookup e.2.orderId,
    (∀ x ∈ e.2.orderReportEntries, x.explained = true) ∧
    (e.2.exchOrderRef = "" ∨ o.orderState.exchOrderRef ≠ "" ∨ e.2.linkedRefs ≠ []) ∧
    (e.2.isLinkageOnly = true → o.orderState.orderStatus.isSettled = false)) ∧
  c.v2.enters (.report e.2) ≠ some e.2.orderId
deriving Decidable

end Cores

/-! ## Closing an order in the first core -/

namespace OrderManager

def evicted (m : OrderManager) (id : Int) : Option Int :=
  if m.orderIdQueue.length + 1 > m.maxCachedOrders then (m.orderIdQueue ++ [id]).head? else none

lemma removeOpenOrder_eq (m : OrderManager) (id : Int) :
    (m.removeOpenOrder id).maxCachedOrders = m.maxCachedOrders ∧
      (m.removeOpenOrder id).orderIdQueue = Fifo.push m.maxCachedOrders m.orderIdQueue id ∧
      ∀ j, (m.removeOpenOrder id).orderDict.lookup j =
        if m.evicted id = some j then none else m.orderDict.lookup j := by
  obtain ⟨oldest, rest, hq⟩ : ∃ oldest rest, m.orderIdQueue ++ [id] = oldest :: rest :=
    exists_cons_of_ne_nil (by simp)
  have hlen : (oldest :: rest).length = m.orderIdQueue.length + 1 := by
    rw [← hq, length_append, length_singleton]
  simp only [removeOpenOrder, evicted, Fifo.push, hq, hlen]
  by_cases hgt : m.orderIdQueue.length + 1 > m.maxCachedOrders
  · simp only [if_pos hgt]
    refine ⟨rfl, rfl, fun j => ?_⟩
    simp [cleanupOrder, Dict.lookup_erase_if, eq_comm]
  · simp only [if_neg hgt]
    exact ⟨trivial, trivial, fun j => by simp⟩

lemma written_eq (m : OrderManager) (id : Int) (refs : Dict (String × String) Int) (o : OmsOrder)
    (closed : Bool) :
    (m.written id refs o closed).maxCachedOrders = m.maxCachedOrders ∧
      (m.written id refs o closed).orderIdQueue =
        (if closed then Fifo.push m.maxCachedOrders m.orderIdQueue id else m.orderIdQueue) ∧
      (m.written id refs o closed).orderDict.lookup id =
        if closed = true ∧ m.evicted id = some id then none else some o := by
  cases closed with
  | false => exact ⟨rfl, rfl, by simp [written]⟩
  | true =>
    obtain ⟨hmax, hqueue, hdict⟩ := removeOpenOrder_eq
      { m with exchRefToOrderId := refs, orderDict := m.orderDict.insert id o } id
    refine ⟨hmax, hqueue, (hdict id).trans ?_⟩
    simp only [lookup_insert, true_and]
    rfl

end OrderManager

/-! ## One report in the first core -/

namespace OmsCore

variable {s : OmsCore}

def Unbuffered (s : OmsCore) : Prop := ∀ key, s.pendingOrderReports.lookup key = none

/-- With nothing buffered, the replay of buffered reports does nothing. -/
lemma replayPending_of_unbuffered (h : s.Unbuffered) (now : Int) (c : Option OrderContext)
    (r : OrderReport) :
    (s.replayPending now c r).1.orderMgr = s.orderMgr ∧ (s.replayPending now c r).1.Unbuffered := by
  simp only [replayPending]
  split
  · exact ⟨rfl, h⟩
  · rename_i order _
    have hnone := h (r.exchange, order.orderState.exchOrderRef)
    simp only [popPendingReports, Dict.getD, hnone, getD_none, foldl_nil]
    refine ⟨trivial, fun key => ?_⟩
    show AList.lookup key (AList.erase _ _) = none
    rw [Dict.lookup_erase_if]
    split_ifs
    · rfl
    · exact h key

lemma fillStage_pending (s : OmsCore) (c : Option OrderContext) (r : OrderReport) :
    (s.fillStage c r).1.pendingOrderReports = s.pendingOrderReports := by
  have happly : ∀ s fill,
      (applyFill r.orderId r.updateTimestamp s fill).pendingOrderReports = s.pendingOrderReports :=
    fun _ _ => rfl
  rw [fillStage_fst]
  exact foldl_preserves happly s _

lemma orderStage_pending (s : OmsCore) (now : Int) (c : Option OrderContext) (r : OrderReport) :
    (s.orderStage now c r).1.pendingOrderReports = s.pendingOrderReports := by
  have hrelease : ∀ (s : OmsCore) e,
      (releaseTerminal c s e).pendingOrderReports = s.pendingOrderReports := by
    intro s e
    simp only [releaseTerminal]
    repeat' split
    all_goals rfl
  exact foldl_preserves hrelease _ _

lemma applyReport_of_unbuffered (h : s.Unbuffered) (now : Int) (c : Option OrderContext)
    (r : OrderReport) :
    (s.applyReport now c r).1.orderMgr = (s.orderMgr.updateWithReport now r).1 ∧
      (s.applyReport now c r).1.Unbuffered := by
  have hmid : ((s.fillStage c r).1.orderStage now c r).1.Unbuffered := by
    intro key
    rw [orderStage_pending, fillStage_pending]
    exact h key
  obtain ⟨hmgr, hpending⟩ := replayPending_of_unbuffered hmid now c r
  refine ⟨hmgr.trans ?_, hpending⟩
  rw [orderStage_orderMgr, fillStage_orderMgr]

/-- **What a report with an order id does to the orders**, if it is taken for one of this OMS and
nothing is buffered. -/
lemma processOrderReport_own (h : s.Unbuffered) (now : Int) {r : OrderReport}
    (hdiv : s.diverts r = false) (h0 : r.orderId ≠ 0) :
    (s.processOrderReport now r).1.orderMgr = (s.orderMgr.updateWithReport now r).1 ∧
      (s.processOrderReport now r).1.Unbuffered := by
  obtain ⟨hdiv', -⟩ | ⟨-, accountId, heq⟩ := processOrderReport_cases s now r
  · cases hdiv.symm.trans hdiv'
  · have h0' : ({ r with accountId } : OrderReport).orderId ≠ 0 := h0
    rw [heq, processTqReport, if_pos h0']
    -- the account of a report plays no part in what it does to its order
    exact applyReport_of_unbuffered h now _ { r with accountId }

end OmsCore

/-! ## The two cores in step -/

namespace Cores

variable {id : Int} {gwKey : String} {c : Cores} {r : OrderReport}

/-- Both cores have the order, and it has the same life in both. -/
structure Paired (id : Int) (o : OmsOrder) (l : LiveOrder) (c : Cores) : Prop where
  first : c.v1.orderMgr.orderDict.lookup id = some o
  second : c.v2.orders.live.lookup id = some l
  life : o.life = l.life
  ref : c.v2.orders.exchRefString l = some o.orderState.exchOrderRef
  sound : o.Sound
  queue : c.v1.orderMgr.orderIdQueue = c.v2.orders.closedLru

/-- **The cores are in step on an order** of the gateway with this key: it has the same life in
both, or it is gone from both. -/
structure InStep (id : Int) (gwKey : String) (c : Cores) : Prop where
  cap : c.v2.orders.QueueFits c.v1.orderMgr.maxCachedOrders
  unbuffered : c.v1.Unbuffered
  legible : c.v2.Legible
  gateway : (c.v2.metadata.gwIdOfKey gwKey).isSome = true
  order : (∃ o l, Paired id o l c) ∨
    c.v1.orderMgr.orderDict.lookup id = none ∧ c.v2.orders.live.lookup id = none

lemma InStep.orderView (h : InStep id gwKey c) : c.v1.orderView id = c.v2.orderView id := by
  rcases h.order with ⟨o, l, hp⟩ | ⟨h₁, h₂⟩
  · obtain ⟨-, hstatus, hfilled, havg, -, -⟩ := OrderLife.mk.inj hp.life
    simp [OmsCore.orderView, OmsCoreV2.orderView, hp.first, hp.second, hp.ref, hstatus, hfilled,
      havg]
  · simp [OmsCore.orderView, OmsCoreV2.orderView, h₁, h₂]

/-- The reference that the first core takes from the report itself is no other one. -/
lemma refAfter_touched {o : OmsOrder}
    (h : r.exchOrderRef = "" ∨ o.orderState.exchOrderRef ≠ "" ∨ r.linkedRefs ≠ []) :
    refAfter r.linkedRefs (touched o r).orderState.exchOrderRef =
      refAfter r.linkedRefs o.orderState.exchOrderRef := by
  simp only [touched]
  split_ifs with hempty
  · rcases h with hrep | hown | hlinked
    · rw [hrep, hempty]
    · exact absurd hempty hown
    · obtain ⟨ref, refs, hrefs⟩ := exists_cons_of_ne_nil hlinked
      rw [hrefs]
      rfl
  · rfl

lemma paired_report {c' : Cores} {now : Int} {o : OmsOrder} {l : LiveOrder}
    (hfits : c.v2.orders.QueueFits c.v1.orderMgr.maxCachedOrders) (hleg : c.v2.Legible)
    (hgw : (c.v2.metadata.gwIdOfKey r.exchange).isSome = true) (h0 : r.orderId ≠ 0)
    (hp : Paired r.orderId o l c) (hheeded : c.Heeded (now, r))
    (hm : c'.v1.orderMgr = (c.v1.orderMgr.updateWithReport now r).1) {actions : List OmsActionV2}
    (hs : c.v2.processOrderReport r = some (c'.v2, actions)) :
    (∃ o' l', Paired r.orderId o' l' c') ∨
      c'.v1.orderMgr.orderDict.lookup r.orderId = none ∧
        c'.v2.orders.live.lookup r.orderId = none := by
  obtain ⟨-, hown, -⟩ := hheeded
  obtain ⟨hx, href, hlink⟩ := hown o hp.first
  -- the first core
  obtain ⟨o', refs, hlife', hsound', href', hwritten⟩ :=
    updateWithReport_life now h0 hp.first hp.sound hp.life hx hlink
  rw [refAfter_touched href] at href'
  obtain ⟨-, hqueue', hdict'⟩ := written_eq c.v1.orderMgr r.orderId refs o'
    (l.life.closes r.orderReportEntries (inferStateFromTrades r.orderReportEntries l))
  rw [← hwritten, ← hm] at hqueue' hdict'
  -- the second core
  obtain ⟨gwId, hgwId⟩ := isSome_iff_exists.mp hgw
  obtain ⟨d, hd⟩ := hleg.keys.detail hp.second
  have hreport : c.v2.processReportForOrder r.orderId gwId r = some (c'.v2, actions) := by
    rw [← hs, processOrderReport, hgwId]
    simp [resolveOrderId, if_pos (⟨h0, Dict.mem_of_lookup hp.second⟩ :
      r.orderId ≠ 0 ∧ r.orderId ∈ c.v2.orders.live)]
  obtain ⟨os, l', hl', hlife₂, hstr, hsame, horders⟩ :=
    processReportForOrder_life hp.second hd hp.ref hreport
  have hevicted : os.evicted r.orderId = c.v1.orderMgr.evicted r.orderId := by
    rw [OrderStoreV2.evicted, OrderManager.evicted, hsame.closedLru, hsame.maxCachedOrders,
      hfits.1, hp.queue]
  cases hclose : l.life.closes r.orderReportEntries
      (inferStateFromTrades r.orderReportEntries l) with
  | false =>
    rw [hclose] at hqueue' hdict' horders
    simp only [Bool.false_eq_true, false_and, if_false] at hqueue' hdict' horders
    refine .inl ⟨o', l', hdict', ?_, hlife'.trans hlife₂.symm, ?_, hsound', ?_⟩
    · rw [horders, hl']
    · rw [horders, hstr, href']
    · rw [hqueue', horders, hsame.closedLru, hp.queue]
  | true =>
    rw [hclose] at hqueue' hdict' horders
    simp only [true_and, if_true] at hqueue' hdict' horders
    have hlive := markClosed_live os r.orderId r.orderId
    rw [hevicted, ← horders] at hlive
    by_cases hgone : c.v1.orderMgr.evicted r.orderId = some r.orderId
    · rw [if_pos hgone] at hdict' hlive
      exact .inr ⟨hdict', hlive⟩
    · rw [if_neg hgone] at hdict' hlive
      refine .inl ⟨o', l', hdict', hlive.trans hl', hlife'.trans hlife₂.symm, ?_, hsound', ?_⟩
      · simp only [exchRefString, horders, markClosed_dynStrings]
        rw [href']
        exact hstr
      · rw [hqueue', horders, markClosed_closedLru, hsame.closedLru,
          hsame.maxCachedOrders, hfits.1, hp.queue]

lemma updateWithReport_maxCachedOrders (m : OrderManager) (now : Int) (r : OrderReport) :
    (m.updateWithReport now r).1.maxCachedOrders = m.maxCachedOrders := by
  by_cases hnone : ∀ j, m.resolveReport r = some j → m.orderDict.lookup j = none
  · rw [updateWithReport_of_none now hnone]
  · push Not at hnone
    obtain ⟨j, hres, hsome⟩ := hnone
    obtain ⟨order, ho⟩ := ne_none_iff_exists'.mp hsome
    rw [updateWithReport_of_order now hres ho]
    split_ifs
    · exact (removeOpenOrder_eq _ j).1
    · rfl
    · rfl

/-- **A report that both cores heed keeps them in step.** -/
theorem InStep.report (h : InStep id gwKey c) (h0 : id ≠ 0) {e : Int × OrderReport}
    (hid : e.2.orderId = id) (hgw : e.2.exchange = gwKey) (hheeded : c.Heeded e) :
    ∃ c', c.report e = some c' ∧ InStep id gwKey c' := by
  obtain ⟨now, r⟩ := e
  subst hid hgw
  obtain ⟨⟨s', actions⟩, hs'⟩ := processOrderReport_total h.legible r
  have hstep : c.v2.step (.report r) = some s' := by
    simp [step, hs']
  obtain ⟨hmgr, hunbuffered⟩ :=
    OmsCore.processOrderReport_own h.unbuffered now hheeded.1 h0
  have hcap : (c.v1.processOrderReport now r).1.orderMgr.maxCachedOrders =
      c.v1.orderMgr.maxCachedOrders := by
    rw [hmgr]
    exact updateWithReport_maxCachedOrders _ now r
  refine ⟨⟨(c.v1.processOrderReport now r).1, s'⟩, ?_, ?_, hunbuffered,
    h.legible.step rfl hstep, ?_, ?_⟩
  · simp [report, processMessage, OmsCore.processMessage, hs']
  · show s'.orders.QueueFits (c.v1.processOrderReport now r).1.orderMgr.maxCachedOrders
    rw [hcap]
    exact queueFits_step h.legible.keys h.cap hstep
  · obtain ⟨g, hg⟩ := isSome_iff_exists.mp h.gateway
    have hkeeps := MetadataTables.KeepsRouting.of_interned
      (interned_step h.legible.keys rfl hstep)
    exact isSome_iff_exists.mpr ⟨g, hkeeps.gwIdOfKey hg⟩
  · rcases h.order with ⟨o, l, hp⟩ | ⟨h₁, h₂⟩
    · exact paired_report h.cap h.legible h.gateway h0 hp hheeded hmgr hs'
    · refine .inr ⟨?_, ?_⟩
      · -- the first core drops a report of an order it does not have
        have hnone : ∀ j, c.v1.orderMgr.resolveReport r = some j →
            c.v1.orderMgr.orderDict.lookup j = none := by
          intro j hj
          rw [resolveReport, if_pos h0] at hj
          split_ifs at hj
          cases hj
          exact h₁
        show (c.v1.processOrderReport now r).1.orderMgr.orderDict.lookup r.orderId = none
        rw [hmgr, updateWithReport_of_none now hnone]
        exact h₁
      · have hmem := (mem_live_step h.legible.keys hstep r.orderId).not.mpr fun hin =>
          hin.1.elim (fun hlive => by
            obtain ⟨l, hl⟩ := Dict.mem_iff_lookup.mp hlive
            rw [h₂] at hl
            cases hl) hheeded.2.2
        exact lookup_eq_none.mpr hmem

/-- **Reports that both cores heed keep them in step**, however many there are. -/
theorem InStep.run (h0 : id ≠ 0) {es : List (Int × OrderReport)}
    (hes : ∀ e ∈ es, e.2.orderId = id ∧ e.2.exchange = gwKey) (h : InStep id gwKey c)
    (hg : Guarded Cores.report Heeded c es) :
    ∃ t, run Cores.report c es = some t ∧ InStep id gwKey t := by
  induction es generalizing c with
  | nil => exact ⟨c, rfl, h⟩
  | cons e es ih =>
    obtain ⟨hid, hkey⟩ := hes e mem_cons_self
    obtain ⟨c', hc', hin⟩ := h.report h0 hid hkey hg.1
    obtain ⟨t, ht, hint⟩ := ih (forall_mem_cons.mp hes).2 hin (hg.2 c' hc')
    exact ⟨t, run_cons_eq_some.mpr ⟨c', hc', ht⟩, hint⟩

end Cores

/-! ## Placing the order -/

/-- A request on a known instrument and an account that is routed to a known gateway, where the
instrument has the default trading config. -/
structure Plain (config : ConfdataManager) (req : OrderRequest) (rd : InstrumentRefData)
    (route : OmsRouteEntry) : Prop where
  instrument : config.refdata.lookup req.instrumentCode = some rd
  accountRoute : config.accountRoutes.lookup req.accountId = some route
  gateway : route.gwKey ∈ config.gwConfigs
  trading : ∀ tc, config.tradingConfigs.lookup req.instrumentCode = some tc →
    tc = .defaultFor req.instrumentCode

section Placing

variable {req : OrderRequest} {rd : InstrumentRefData} {route : OmsRouteEntry} {config : Confdata}

lemma checkedContext_plain {s : OmsCore} (h : Plain s.config req rd route) :
    (s.checkedContext req).errors = [] ∧ (s.checkedContext req).symbolRef = some rd ∧
      (s.checkedContext req).route = some route := by
  obtain ⟨g, hg⟩ := Dict.mem_iff_lookup.mp h.gateway
  have hmax : (s.config.tradingConfigs.lookup req.instrumentCode).bind (·.maxOrderSize) = none := by
    cases htc : s.config.tradingConfigs.lookup req.instrumentCode with
    | none => rfl
    | some tc =>
      rw [bind_some, h.trading tc htc]
      rfl
  simp [OmsCore.checkedContext, OmsCore.resolveContext, h.instrument, h.accountRoute, hg, hmax]

lemma placed_first {s : OmsCore} (now : Int) (h : Plain s.config req rd route)
    (hpanic : req.accountId ∉ s.panicAccounts) :
    (s.processOrder now req).1 =
      { s with
        orderMgr :=
          { (s.orderMgr.createOrder now req (some (s.checkedContext req))).1 with
            contextCache :=
              s.orderMgr.contextCache.insert req.orderId (s.checkedContext req) } } := by
  obtain ⟨herrors, -, -⟩ := checkedContext_plain h
  have herr : (s.checkedContext req).hasError = false := by
    rw [OrderContext.hasError, herrors]
    rfl
  have hpre : s.preTrade req (s.checkedContext req) = some (s, s.checkedContext req) := by
    simp only [OmsCore.preTrade]
    split
    · rfl
    · rename_i tc htc
      rw [h.trading tc htc]
      simp [InstrumentTradingConfig.defaultFor]
  simp only [OmsCore.processOrder, if_neg hpanic, hpre, OmsCore.recordOrder, herr]
  rfl

lemma placed_second {s : OmsCoreV2} (now : Int)
    (hs : MetadataTables.Interned (MetadataTables.fromConfdata config.toConfdataManager) s.metadata)
    (hleg : s.Legible) (h : Plain config.toConfdataManager req rd route)
    (hvalid : validateOrderRequest req = .ok ()) (hpanic : req.accountId ∉ s.panicAccounts) :
    ∃ s' actions om sym gwReq, s.processOrder now req = some (s', actions) ∧
      s.Accepted now req om sym gwReq s' ∧ om.qtyPrecision = rd.qtyPrecision ∧
      s.metadata.gwIdOfKey route.gwKey = some om.gwId := by
  obtain ⟨om, hom, hbook, hmax, hqty, hgw⟩ :=
    resolveOrderMeta_known hs h.instrument h.accountRoute h.gateway h.trading
  have hrefuse : s.refuses req = false := by
    obtain ⟨md, sym, hsrc, hmeta, -⟩ := source_irrelevant s req om
    simp [refuses, refusalOf, hom, hsrc, hmeta, riskCheck, preTrade, hmax, hbook]
  obtain ⟨⟨s', actions⟩, hplace⟩ := processOrder_total hleg now req
  cases processOrder_cases hplace with
  | dropped hadm => exact absurd ⟨hvalid, hpanic⟩ hadm
  | rejected _ hrefuse' => cases hrefuse.symm.trans hrefuse'
  | accepted _ _ om' sym gwReq hacc =>
    cases hacc.resolved.symm.trans hom
    exact ⟨s', _, om, sym, gwReq, hplace, hacc, hqty, hgw⟩

lemma panicAccounts_start (u : OmsSetup) : u.start.panicAccounts = ∅ := by
  have hord : ∀ (s : OmsCoreV2) v1, (s.initOrder v1).panicAccounts = s.panicAccounts :=
    fun _ _ => rfl
  have hstart := initState_preserves u.blank u.orders u.positions u.balances (·.panicAccounts)
    (fun _ _ => rfl) fun _ _ => rfl
  rw [OmsSetup.start, hstart, foldl_preserves hord]
  rfl

/-- The quantity that the first core sends is that of the second. -/
lemma newOrder_life (m : OrderManager) (now : Int) {ctx : OrderContext} {om : ResolvedOrderMeta}
    (hrd : ctx.symbolRef = some rd) (hroute : ctx.route = some route)
    (hqty : om.qtyPrecision = rd.qtyPrecision) (created : Int) :
    (m.newOrder now req (some ctx)).life = (sentLive req om created).life := by
  have hgwReq : m.gwReqOf now req (some ctx) = some (m.buildGwOrderReq now req rd route) := by
    simp [gwReqOf, hrd, hroute]
  simp only [OmsOrder.life, LiveOrder.life, newOrder, hgwReq, map_some,
    getD_some, buildGwOrderReq, sentLive, scaledQty, hqty]
  rfl

/-- **A valid request leaves two fresh cores in step.** -/
theorem inStep_place {u : OmsSetup} (hu : u.config = config.toConfdataManager)
    (hfresh : u.orders = []) (now : Int) (h : Plain u.config req rd route)
    (hvalid : validateOrderRequest req = .ok ()) :
    ∃ c, (start u).place now req = some c ∧ Cores.InStep req.orderId route.gwKey c := by
  -- the second core
  have hmd : MetadataTables.Interned (MetadataTables.fromConfdata config.toConfdataManager)
      u.start.metadata := hu ▸ metadata_start u
  have hno : ∀ c, OmsEvent.reload c ∈ ([] : List OmsEvent) → c.Keyed := fun c hc => by cases hc
  have hleg : u.start.Legible := legible_run hu hno rfl
  have hcalm : req.accountId ∉ u.start.panicAccounts := by
    rw [panicAccounts_start]
    exact Finset.notMem_empty _
  obtain ⟨s', actions, om, sym, gwReq, hplace, hacc, hqty, hgw⟩ :=
    placed_second now hmd hleg (hu ▸ h) hvalid hcalm
  have hstep : u.start.step (.place now req) = some s' := by
    simp [step, hplace]
  have hblank : u.start.orders.closedLru = [] := by
    rw [OmsSetup.start, initState_orders]
    exact (foldl_initOrder_queue u.orders u.blank).1
  -- the first core
  have hfirst := placed_first (s := u.startV1) now h (Finset.notMem_empty _)
  have hmgr : u.startV1.orderMgr.maxCachedOrders = u.maxCachedOrders ∧
      u.startV1.orderMgr.orderIdQueue = [] := by
    rw [OmsSetup.startV1, hfresh]
    exact ⟨rfl, rfl⟩
  obtain ⟨-, hsymbol, hroute⟩ := checkedContext_plain (s := u.startV1) h
  refine ⟨⟨(u.startV1.processOrder now req).1, s'⟩, ?_, ?_, ?_, hleg.step rfl hstep, ?_, .inl ?_⟩
  · simp [place, start, processMessage, OmsCore.processMessage, hplace]
  · have hcap : (u.startV1.processOrder now req).1.orderMgr.maxCachedOrders =
        u.maxCachedOrders := by
      rw [hfirst]
      exact hmgr.1
    show s'.orders.QueueFits (u.startV1.processOrder now req).1.orderMgr.maxCachedOrders
    rw [hcap]
    exact queueFits_step hleg.keys (queueFits_start u) hstep
  · intro key
    show (u.startV1.processOrder now req).1.pendingOrderReports.lookup key = none
    rw [hfirst]
    exact lookup_empty key
  · have hkeeps := MetadataTables.KeepsRouting.of_interned (interned_step hleg.keys rfl hstep)
    exact isSome_iff_exists.mpr ⟨_, hkeeps.gwIdOfKey hgw⟩
  · refine ⟨u.startV1.orderMgr.newOrder now req (some (u.startV1.checkedContext req)),
      sentLive req { om with sourceSym := sym }
        (if u.start.orders.useTimeEmulation then req.timestamp else now), ?_, ?_,
      newOrder_life _ now hsymbol hroute hqty now, rfl, ⟨le_refl _, fun _ => rfl⟩, ?_⟩
    · show (u.startV1.processOrder now req).1.orderMgr.orderDict.lookup req.orderId = _
      rw [hfirst]
      exact lookup_insert _
    · show s'.orders.live.lookup req.orderId = _
      rw [hacc.records, enter_live_self]
    · show (u.startV1.processOrder now req).1.orderMgr.orderIdQueue = s'.orders.closedLru
      rw [hfirst, hacc.records]
      exact hmgr.2.trans hblank.symm

end Placing

/-- **The two cores agree on the life of an order**: after a valid request and any reports of it
that both heed, they show the same status, fill, average price and exchange reference. -/
theorem views_agree (config : Confdata) (u : OmsSetup) (hu : u.config = config.toConfdataManager)
    (hfresh : u.orders = []) (now : Int) (req : OrderRequest) (rd : InstrumentRefData)
    (route : OmsRouteEntry) (hplain : Plain u.config req rd route)
    (hvalid : validateOrderRequest req = .ok ()) :
    ∃ c, (start u).place now req = some c ∧ ∀ reports : List (Int × OrderReport),
      (∀ e ∈ reports, e.2.orderId = req.orderId ∧ e.2.exchange = route.gwKey) →
      Guarded report Cores.Heeded c reports →
      ∃ t, run report c reports = some t ∧
        t.v1.orderView req.orderId = t.v2.orderView req.orderId := by
  obtain ⟨c, hc, hin⟩ := inStep_place hu hfresh now hplain hvalid
  refine ⟨c, hc, fun reports hown hg => ?_⟩
  have h0 : req.orderId ≠ 0 := (validateOrderRequest_ok hvalid).1.ne'
  obtain ⟨t, ht, hint⟩ := hin.run h0 hown hg
  exact ⟨t, ht, hint.orderView⟩

open Sample

/-- A core on the small venue without bookkeeping, as the service builds its configuration. -/
def Sample.plain : OmsSetup := { config := (venue false).toConfdataManager, maxCachedOrders := 4 }

/-- An order that is linked, partly filled by a trade, and filled. -/
def Sample.filledInTwo : List (Int × OrderReport) :=
  [(0, orderReport 10 "a" [linkage "a"]), (1, orderReport 10 "a" [trade 2]),
   (2, orderReport 10 "a" [trade 1, state .filled 3])]

theorem views_agree_filled :
    ∃ c ∈ (start plain).place 0 (request 10 .buy 3),
      Guarded report Cores.Heeded c filledInTwo ∧
      ∃ t ∈ run report c filledInTwo,
        t.v1.orderView 10 = t.v2.orderView 10 ∧
        t.v1.orderView 10 = some
          { orderStatus := .filled, filledQty := 3, filledAvgPrice := 1, exchOrderRef := "a" } := by
  have hplain : Plain plain.config (request 10 .buy 3) _ _ :=
    ⟨rfl, rfl, by decide +kernel, by decide +kernel⟩
  obtain ⟨c, hc, hall⟩ := views_agree (venue false) plain rfl rfl 0
    (request 10 .buy 3) _ _ hplain (by decide +kernel)
  have hg : ∀ c ∈ (start plain).place 0 (request 10 .buy 3),
      Guarded report Cores.Heeded c filledInTwo ∧
      ∀ t ∈ run report c filledInTwo, t.v1.orderView 10 = some
        { orderStatus := .filled, filledQty := 3, filledAvgPrice := 1, exchOrderRef := "a" } := by
    decide +kernel
  obtain ⟨hguarded, hfilled⟩ := hg c hc
  obtain ⟨t, ht, hagree⟩ := hall filledInTwo (by decide) hguarded
  exact ⟨c, hc, hguarded, t, ht, hagree, hfilled t ht⟩

/-- A rejection that comes without error information ends the order in the second core, and the
first core passes it over. -/
theorem rejection_passed_over :
    ∃ c ∈ (start plain).place 0 (request 10 .buy 3),
      ∃ t ∈ run report c [(1, orderReport 10 "" [rejection])],
        (t.v1.orderView 10).map (·.orderStatus) = some .pending ∧
        (t.v2.orderView 10).map (·.orderStatus) = some .rejected := by
  decide +kernel

end Zkbot
