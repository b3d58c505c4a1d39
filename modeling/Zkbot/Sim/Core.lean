import Mathlib.Algebra.Order.Ring.Unbundled.Rat
import Zkbot.Core.Dict
import Zkbot.Core.Run
import Zkbot.Oms.Proto

/-!
# The exchange simulator

`zk-sim-core`: orders that wait for market data, and a policy that says how an order is matched with
the last tick of its instrument.  The backtester and the simulator gateway both run on it.

* `MatchPolicy` — `immediate` and `firstComeFirstServed`.
* `SimulatorCore.call` — its calls; each puts out reports.
* `Reach` — the states and the reports of all runs, and `Reach.of_rules`: what holds of a new order
  and is kept by a match and a cancel holds of every order and its reports.
-/

namespace Zkbot

open List

structure PriceLevel where
  price : ℚ
  qty : ℚ

/-- `TickData`, as far as it is matched with. -/
structure TickData where
  instrumentCode : String
  originalTimestamp : Int
  buyPriceLevels : List PriceLevel := []
  sellPriceLevels : List PriceLevel := []

structure SimOrder where
  req : SendOrderRequest
  exchOrderId : String
  filledQty : ℚ
  remainingQty : ℚ
  updateTs : Int

open SimOrder

structure MatchResult where
  triggerTs : Int
  qty : ℚ
  price : ℚ
  delayMs : Int

abbrev MatchPolicy := SimOrder → Option TickData → List MatchResult

namespace MatchPolicy

def immediate : MatchPolicy := fun order _ =>
  [{ triggerTs := order.req.timestamp + 1, qty := order.remainingQty
     price := order.req.scaledPrice, delayMs := 0 }]

/-- The loop of `FirstComeFirstServedMatchPolicy` over the levels of the other side. -/
def walk (ts : Int) (meets : ℚ → Bool) : ℚ → Int → List PriceLevel → List MatchResult
  | _, _, [] => []
  | remaining, delay, level :: levels =>
    if remaining ≤ 0 then []
    else if meets level.price then
      let fillQty := min remaining level.qty
      { triggerTs := ts, qty := fillQty, price := level.price, delayMs := delay } ::
        walk ts meets (remaining - fillQty) (delay + 10) levels
    else walk ts meets remaining delay levels

def firstComeFirstServed : MatchPolicy := fun order tick? =>
  tick?.elim [] fun tick =>
    if order.req.buysellType = .buy then
      walk tick.originalTimestamp (· ≤ order.req.scaledPrice) order.remainingQty 10
        tick.sellPriceLevels
    else
      walk tick.originalTimestamp (order.req.scaledPrice ≤ ·) order.remainingQty 10
        tick.buyPriceLevels

end MatchPolicy

/-- `SimResult`.  The `order_info` of the trade in the report stands beside it. -/
structure SimResult where
  tsMs : Int
  orderReport : OrderReport
  orderInfo : Option (String × BuySellType) := none

/-! ## Orders and their reports -/

namespace SimOrder

def new (req : SendOrderRequest) (exchOrderId : String) (ts : Int) : SimOrder where
  req := req
  exchOrderId := exchOrderId
  filledQty := 0
  remainingQty := req.scaledQty
  updateTs := ts

variable (order : SimOrder)

def linkageEntry : OrderReportEntry :=
  ⟨.linkage, some (.orderIdLinkageReport
    { orderId := order.req.correlationId, exchOrderRef := order.exchOrderId })⟩

/-- `make_state_entry_with_status`. -/
def stateEntry (status : ExchangeOrderStatus) : OrderReportEntry :=
  ⟨.state, some (.orderStateReport
    { exchOrderStatus := status, filledQty := order.filledQty
      unfilledQty := order.remainingQty })⟩

/-- The status of `make_state_entry`. -/
def status : ExchangeOrderStatus := if order.remainingQty ≤ 0 then .filled else .booked

def result (ts : Int) (orderReportEntries : List OrderReportEntry) : SimResult where
  tsMs := ts
  orderReport :=
    { exchOrderRef := order.exchOrderId, orderId := order.req.correlationId, exchange := ""
      updateTimestamp := ts, orderReportEntries }

/-- `make_booked_report`. -/
def booked (ts : Int) : SimResult :=
  order.result ts [order.linkageEntry, order.stateEntry order.status]

/-- The order after `apply_match`. -/
def matched (m : MatchResult) : SimOrder :=
  { order with
    filledQty := order.filledQty + m.qty
    remainingQty := order.remainingQty - m.qty
    updateTs := max (m.triggerTs + m.delayMs) (order.updateTs + 1) }

/-- The report of `apply_match`, from the order after it. -/
def trade (exchTradeId : String) (m : MatchResult) (addLinkage : Bool) : SimResult :=
  { order.result order.updateTs
      ((if addLinkage then [order.linkageEntry] else []) ++
        [⟨.trade, some (.tradeReport { exchTradeId, filledQty := m.qty, filledPrice := m.price })⟩,
          order.stateEntry order.status]) with
    orderInfo := some (order.req.instrument, order.req.buysellType) }

/-- The order after `on_cancel`. -/
def cancelled (ts : Int) : SimOrder := { order with remainingQty := 0, updateTs := ts + 1 }

/-- `make_cancelled_report`, from the order after it. -/
def cancelledReport : SimResult := order.result order.updateTs [order.stateEntry .cancelled]

/-- The loop over the matches, which ends with the order's quantity. -/
def applyMatches (nextId : SimOrder → String) (addLinkage : Bool) :
    SimOrder → List MatchResult → SimOrder × List SimResult
  | order, [] => (order, [])
  | order, m :: ms =>
    let order := order.matched m
    let res := order.trade (nextId order) m addLinkage
    if order.remainingQty ≤ 0 then (order, [res])
    else
      let (order, results) := applyMatches nextId addLinkage order ms
      (order, res :: results)

end SimOrder

/-! ## The simulator -/

structure SimulatorCore where
  orderCache : Dict Int SimOrder := ∅
  orderbookCache : Dict String TickData := ∅

open SimulatorCore

/-- A call.  A tick comes with the keys of `order_cache`, as the map happens to list them. -/
inductive SimCall where
  | newOrder (req : SendOrderRequest) (ts : Int) (bookOnly : Bool)
  | updateOrderbook (tick : TickData)
  | tick (tick : TickData) (ids : List Int)
  | cancel (orderId ts : Int)
  | forceMatch (orderId : Int) (fillQty fillPrice : Option ℚ) (ts : Int)

namespace SimulatorCore

/-! Ids are random.  Here they depend on what they are for, in any way. -/

variable (policy : MatchPolicy) (orderRef : SendOrderRequest → String) (nextId : SimOrder → String)
  (s : SimulatorCore)

/-- `on_new_order_inner`. -/
def onNewOrder (req : SendOrderRequest) (ts : Int) (bookOnly : Bool) :
    SimulatorCore × List SimResult :=
  let order := new req (orderRef req) ts
  if 0 < req.scaledQty ∧ 0 ≤ req.scaledPrice then
    let (order', results) := order.applyMatches nextId true
      (if bookOnly then [] else policy order (s.orderbookCache.lookup req.instrument))
    ({ s with orderCache := s.orderCache.insert req.correlationId order' },
      order.booked ts :: results)
  else (s, [order.result ts [⟨.exec, some (.execReport { execType := .rejected })⟩]])

def updateOrderbook (tick : TickData) : SimulatorCore :=
  { s with orderbookCache := s.orderbookCache.insert tick.instrumentCode tick }

/-- One order of the loop of `on_tick`. -/
def matchOne (tick : TickData) (acc : SimulatorCore × List SimResult) (id : Int) :
    SimulatorCore × List SimResult :=
  match acc.1.orderCache.lookup id with
  | none => acc
  | some order =>
    let (order', results) := order.applyMatches nextId false (policy order (some tick))
    ({ acc.1 with orderCache := acc.1.orderCache.insert id order' }, acc.2 ++ results)

/-- The orders that `on_tick` looks for. -/
def isActive (tick : TickData) (id : Int) : Bool :=
  (s.orderCache.lookup id).any fun o =>
    o.req.instrument = tick.instrumentCode ∧ 0 < o.remainingQty

def onTick (tick : TickData) (ids : List Int) : SimulatorCore × List SimResult :=
  (ids.filter (s.isActive tick)).foldl (matchOne policy nextId tick) (s.updateOrderbook tick, [])

def onCancel (orderId ts : Int) : SimulatorCore × List SimResult :=
  match (s.orderCache.lookup orderId).filter fun o => 0 < o.remainingQty with
  | none => (s, [])
  | some order =>
    ({ s with orderCache := s.orderCache.insert orderId (order.cancelled ts) },
      [(order.cancelled ts).cancelledReport])

/-- `force_match_order`; an error changes nothing. -/
def forceMatchOrder (orderId : Int) (fillQty fillPrice : Option ℚ) (ts : Int) :
    SimulatorCore × List SimResult :=
  match s.orderCache.lookup orderId with
  | none => (s, [])
  | some order =>
    let qty := fillQty.getD order.remainingQty
    if order.remainingQty ≤ 0 ∨ qty ≤ 0 ∨ order.remainingQty < qty then (s, [])
    else
      let m : MatchResult :=
        { triggerTs := ts, qty, price := fillPrice.getD order.req.scaledPrice, delayMs := 0 }
      let order' := order.matched m
      ({ s with orderCache := s.orderCache.insert orderId order' },
        [order'.trade (nextId order') m (order.filledQty = 0)])

def call : SimCall → SimulatorCore × List SimResult
  | .newOrder req ts bookOnly => s.onNewOrder policy orderRef nextId req ts bookOnly
  | .updateOrderbook tick => (s.updateOrderbook tick, [])
  | .tick tick ids => s.onTick policy nextId tick ids
  | .cancel orderId ts => s.onCancel orderId ts
  | .forceMatch orderId fillQty fillPrice ts =>
    s.forceMatchOrder nextId orderId fillQty fillPrice ts

end SimulatorCore

/-! ## Runs -/

section Reach

variable (policy : MatchPolicy) (orderRef : SendOrderRequest → String) (nextId : SimOrder → String)

/-- One call, with the reports so far. -/
def logged (x : SimulatorCore × List SimResult) (c : SimCall) :
    Option (SimulatorCore × List SimResult) :=
  some ((x.1.call policy orderRef nextId c).1, x.2 ++ (x.1.call policy orderRef nextId c).2)

/-- The calls of a run: the ids of orders are distinct, and a tick comes with the keys of the cache;
`book` holds of the ticks, and `late` of an open order and the time at which it is cancelled. -/
def SimCall.Allowed (book : TickData → Prop) (late : SimOrder → Int → Prop)
    (x : SimulatorCore × List SimResult) : SimCall → Prop
  | .newOrder req .. => ∀ r ∈ x.2, r.orderReport.orderId ≠ req.correlationId
  | .updateOrderbook t => book t
  | .tick t ids => ids.Perm x.1.orderCache.keys ∧ book t
  | .cancel id ts => ∀ o ∈ x.1.orderCache.lookup id, 0 < o.remainingQty → late o ts
  | .forceMatch .. => True

/-- The states after calls, with all reports. -/
def Reach (book : TickData → Prop) (late : SimOrder → Int → Prop) (s : SimulatorCore)
    (log : List SimResult) : Prop :=
  ∃ calls, run (logged policy orderRef nextId) ({}, []) calls = some (s, log) ∧
    Guarded (logged policy orderRef nextId) (SimCall.Allowed book late) ({}, []) calls

variable {policy orderRef nextId} {book : TickData → Prop} {late : SimOrder → Int → Prop}
  {good : SimOrder → MatchResult → Prop} {I : SimOrder → List SimResult → Prop}

lemma Reach.start : Reach policy orderRef nextId book late {} [] := ⟨[], rfl, trivial⟩

lemma Reach.call {s : SimulatorCore} {log : List SimResult} (c : SimCall)
    (h : Reach policy orderRef nextId book late s log) (ok : c.Allowed book late (s, log)) :
    Reach policy orderRef nextId book late (s.call policy orderRef nextId c).1
      (log ++ (s.call policy orderRef nextId c).2) := by
  obtain ⟨calls, hrun, hguard⟩ := h
  exact ⟨calls ++ [c], run_append_eq_some.mpr ⟨_, hrun, rfl⟩,
    hguard.append hrun ⟨ok, fun _ _ => trivial⟩⟩

def reportsOf (id : Int) (log : List SimResult) : List SimResult :=
  log.filter fun r => r.orderReport.orderId = id

/-- `I` holds of a new order and its report, and is kept by matches that are `good` and by cancels
that are `late`. -/
structure Keeps (nextId : SimOrder → String) (good : SimOrder → MatchResult → Prop)
    (late : SimOrder → Int → Prop) (I : SimOrder → List SimResult → Prop) : Prop where
  booked : ∀ req ref ts, 0 < req.scaledQty → I (.new req ref ts) [(new req ref ts).booked ts]
  matched : ∀ o log m link, I o log → 0 < o.remainingQty → good o m →
    I (o.matched m) (log ++ [(o.matched m).trade (nextId (o.matched m)) m link])
  cancelled : ∀ o log ts, I o log → 0 < o.remainingQty → late o ts →
    I (o.cancelled ts) (log ++ [(o.cancelled ts).cancelledReport])

/-- The matches are good, as far as they are applied. -/
def AllGood (good : SimOrder → MatchResult → Prop) : SimOrder → List MatchResult → Prop
  | _, [] => True
  | o, m :: ms => good o m ∧ (0 < (o.matched m).remainingQty → AllGood good (o.matched m) ms)

lemma Keeps.applyMatches (h : Keeps nextId good late I) (link : Bool) {ms : List MatchResult}
    {o : SimOrder} {log : List SimResult} (hI : I o log) (hpos : 0 < o.remainingQty)
    (hms : AllGood good o ms) :
    I (o.applyMatches nextId link ms).1 (log ++ (o.applyMatches nextId link ms).2) ∧
      (o.applyMatches nextId link ms).1.req = o.req ∧
      ∀ r ∈ (o.applyMatches nextId link ms).2, r.orderReport.orderId = o.req.correlationId := by
  induction ms generalizing o log with
  | nil => simpa [SimOrder.applyMatches] using hI
  | cons m ms ih =>
    have hnext := h.matched o log m link hI hpos hms.1
    simp only [SimOrder.applyMatches]
    split_ifs with hend
    · exact ⟨hnext, rfl, by simp [SimOrder.trade, SimOrder.result, SimOrder.matched]⟩
    · have hrest := ih hnext (not_le.mp hend) (hms.2 (not_le.mp hend))
      refine ⟨by simpa using hrest.1, hrest.2.1, ?_⟩
      simpa [SimOrder.trade, SimOrder.result, SimOrder.matched] using hrest.2.2

/-- Every order is filed under its id, and `I` holds of it and its reports. -/
structure Holds (book : TickData → Prop) (I : SimOrder → List SimResult → Prop)
    (s : SimulatorCore) (log : List SimResult) : Prop where
  orders : ∀ id o, s.orderCache.lookup id = some o →
    o.req.correlationId = id ∧ reportsOf id log ≠ [] ∧ I o (reportsOf id log)
  books : ∀ name tick, s.orderbookCache.lookup name = some tick → book tick

lemma Holds.write {s : SimulatorCore} {log out : List SimResult} (h : Holds book I s log) {id : Int}
    {o : SimOrder} (hid : o.req.correlationId = id) (hout : ∀ r ∈ out, r.orderReport.orderId = id)
    (hne : reportsOf id log ++ out ≠ []) (hI : I o (reportsOf id log ++ out)) :
    Holds book I { s with orderCache := s.orderCache.insert id o } (log ++ out) where
  books := h.books
  orders j oj hj := by
    rw [Dict.lookup_insert_if] at hj
    have happend : reportsOf j (log ++ out) = reportsOf j log ++ reportsOf j out :=
      filter_append ..
    split_ifs at hj with heq
    · cases hj
      subst heq
      have hall : reportsOf j out = out := filter_eq_self.mpr (by simpa using hout)
      rw [happend, hall]
      exact ⟨hid, hne, hI⟩
    · have hnone : reportsOf j out = [] := filter_eq_nil_iff.mpr fun r hr => by
        simpa [hout r hr] using Ne.symm heq
      rw [happend, hnone, append_nil]
      exact h.orders j oj hj

lemma Holds.updateOrderbook {s : SimulatorCore} {log : List SimResult} (h : Holds book I s log)
    {tick : TickData} (htick : book tick) : Holds book I (s.updateOrderbook tick) log where
  orders := h.orders
  books name t ht := by
    rw [SimulatorCore.updateOrderbook, Dict.lookup_insert_if] at ht
    split_ifs at ht
    · cases ht
      exact htick
    · exact h.books name t ht

section Rules

variable (h : Keeps nextId good late I)
  (hpolicy : ∀ o tick?, 0 < o.remainingQty → (∀ t ∈ tick?, book t) →
    AllGood good o (policy o tick?))
include h hpolicy

lemma Holds.tick {ids : List Int} (hids : ids.Nodup) {tick : TickData} (htick : book tick)
    {acc : SimulatorCore × List SimResult} {log : List SimResult}
    (hacc : Holds book I acc.1 (log ++ acc.2))
    (hopen : ∀ id ∈ ids, ∀ o ∈ acc.1.orderCache.lookup id, 0 < o.remainingQty) :
    Holds book I (ids.foldl (matchOne policy nextId tick) acc).1
      (log ++ (ids.foldl (matchOne policy nextId tick) acc).2) := by
  induction ids generalizing acc with
  | nil => exact hacc
  | cons id ids ih =>
    rw [foldl_cons]
    cases ho : acc.1.orderCache.lookup id with
    | none =>
      simp only [matchOne, ho]
      exact ih hids.of_cons hacc (forall_mem_cons.mp hopen).2
    | some o =>
      obtain ⟨hid, hne, hI⟩ := hacc.orders id o ho
      have hpos := hopen id mem_cons_self o ho
      obtain ⟨hI', hreq, hout⟩ := h.applyMatches false hI hpos
        (hpolicy o (some tick) hpos (by simpa using htick))
      simp only [matchOne, ho]
      refine ih hids.of_cons ?_ fun j hj oj hoj => ?_
      · rw [← append_assoc]
        refine hacc.write (by rw [hreq, hid]) (hid ▸ hout) (by simp [hne]) hI'
      · rw [AList.lookup_insert_ne (by rintro rfl; exact (nodup_cons.mp hids).1 hj)] at hoj
        exact hopen j (mem_cons_of_mem _ hj) oj hoj

lemma Holds.newOrder {s : SimulatorCore} {log : List SimResult} (hs : Holds book I s log)
    (req : SendOrderRequest) (ts : Int) (bookOnly : Bool)
    (hfresh : ∀ r ∈ log, r.orderReport.orderId ≠ req.correlationId) :
    Holds book I (s.onNewOrder policy orderRef nextId req ts bookOnly).1
      (log ++ (s.onNewOrder policy orderRef nextId req ts bookOnly).2) := by
  have hnew : reportsOf req.correlationId log = [] :=
    filter_eq_nil_iff.mpr fun r hr => by simpa using hfresh r hr
  by_cases hvalid : 0 < req.scaledQty ∧ 0 ≤ req.scaledPrice
  · have hms : AllGood good (.new req (orderRef req) ts) (if bookOnly then [] else
        policy (.new req (orderRef req) ts) (s.orderbookCache.lookup req.instrument)) := by
      cases bookOnly with
      | true => trivial
      | false => exact hpolicy _ _ hvalid.1 fun t ht => hs.books _ t ht
    obtain ⟨hI, hreq, hout⟩ := h.applyMatches true (h.booked req (orderRef req) ts hvalid.1)
      hvalid.1 hms
    simp only [SimulatorCore.onNewOrder, if_pos hvalid]
    refine hs.write (by rw [hreq]; rfl) ?_ (by simp) (by simpa [hnew] using hI)
    simpa [booked, result, new] using hout
  · simp only [SimulatorCore.onNewOrder, if_neg hvalid]
    refine ⟨fun id o ho => ?_, hs.books⟩
    obtain ⟨hid, hne, hI⟩ := hs.orders id o ho
    have hother : id ≠ req.correlationId := fun heq => hne (heq ▸ hnew)
    have hsame : ∀ r : SimResult, r.orderReport.orderId = req.correlationId →
        reportsOf id (log ++ [r]) = reportsOf id log := by
      intro r hr
      simp [reportsOf, hr, hother.symm]
    rw [hsame _ rfl]
    exact ⟨hid, hne, hI⟩

omit hpolicy in
lemma Holds.cancel {s : SimulatorCore} {log : List SimResult} (hs : Holds book I s log)
    (id ts : Int) (hlate : ∀ o ∈ s.orderCache.lookup id, 0 < o.remainingQty → late o ts) :
    Holds book I (s.onCancel id ts).1 (log ++ (s.onCancel id ts).2) := by
  simp only [SimulatorCore.onCancel]
  cases ho : (s.orderCache.lookup id).filter fun o => 0 < o.remainingQty with
  | none => simpa using hs
  | some o =>
    obtain ⟨ho, hpos⟩ := Option.filter_eq_some_iff.mp ho
    have hpos : 0 < o.remainingQty := by simpa using hpos
    obtain ⟨hid, hne, hI⟩ := hs.orders id o ho
    exact hs.write hid (by simp [cancelledReport, result, cancelled, hid]) (by simp)
      (h.cancelled o _ ts hI hpos (hlate o ho hpos))

omit hpolicy in
lemma Holds.forceMatch {s : SimulatorCore} {log : List SimResult} (hs : Holds book I s log)
    (hgood : ∀ o m, 0 < m.qty → m.qty ≤ o.remainingQty → good o m) (id : Int)
    (fillQty fillPrice : Option ℚ) (ts : Int) :
    Holds book I (s.forceMatchOrder nextId id fillQty fillPrice ts).1
      (log ++ (s.forceMatchOrder nextId id fillQty fillPrice ts).2) := by
  simp only [SimulatorCore.forceMatchOrder]
  cases ho : s.orderCache.lookup id with
  | none => simpa using hs
  | some o =>
    dsimp only
    split_ifs with herr
    · simpa using hs
    · simp only [not_or, not_le, not_lt] at herr
      obtain ⟨hid, hne, hI⟩ := hs.orders id o ho
      exact hs.write hid (by simp [trade, result, matched, hid])
        (by simp) (h.matched o _ _ _ hI herr.1 (hgood o _ herr.2.1 herr.2.2))

/-- **What new orders have and matches and cancels keep holds of every order and its reports.** -/
theorem Reach.of_rules
    (hgood : ∀ o m, 0 < m.qty → m.qty ≤ o.remainingQty → good o m)
    {s : SimulatorCore} {log : List SimResult} (hr : Reach policy orderRef nextId book late s log) :
    Holds book I s log := by
  obtain ⟨calls, hrun, hguard⟩ := hr
  refine run_invariant (I := fun x => Holds book I x.1 x.2) ?_ ?_ hguard hrun
  · rintro ⟨s, log⟩ c _ hs ok hstep
    cases hstep
    cases c with
    | newOrder req ts bookOnly => exact hs.newOrder h hpolicy req ts bookOnly ok
    | updateOrderbook tick => simpa [SimulatorCore.call] using hs.updateOrderbook ok
    | tick tick ids =>
      have hids : ids.Nodup := ok.1.nodup_iff.mpr s.orderCache.keys_nodup
      refine Holds.tick h hpolicy (hids.filter _) ok.2 (by simpa using hs.updateOrderbook ok.2) ?_
      intro id hid o ho
      simp_all [isActive, updateOrderbook]
    | cancel id ts => exact hs.cancel h id ts ok
    | forceMatch id fillQty fillPrice ts => exact hs.forceMatch h hgood id fillQty fillPrice ts
  · exact ⟨fun _ _ h => by simp at h, fun _ _ h => by simp at h⟩

end Rules

end Reach

end Zkbot
