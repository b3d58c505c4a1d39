import Zkbot.Sim.Orders
import Zkbot.Svc.Reconcile

/-!
# What the simulator gateway answers

The queries of the simulator venue read the orders of the simulator, whose reports go out on their
own.  `sim_order_to_venue_fact` works out the status of an order from two quantities: an order with
nothing left is filled, and one of which a part is filled is partially filled.  The reports of the
simulator have a status for a cancelled order, and none for a partial fill: such an order is still
reported as booked.

A fact goes to the OMS as an order of `query_order_details` or `query_open_orders`, with the wire
status of `venue_order_status_to_exch`; `resolve_missing_order` reports an order that is no longer
open with the state it finds there.

* `OrderStateReport.Plain` — the last states that the gateway gives back as they were reported.
* `query_agrees_iff` — the answer about an order has the status of its last report exactly if that
  one is plain, and so has the report by which the OMS reconciles it.  The fill always agrees, and
  the open orders are those reported as booked.
-/

namespace Zkbot

open List SimOrder SimResult

namespace SimVenue

inductive VenueOrderStatus where
  | booked
  | partiallyFilled
  | filled
  | cancelled
  | rejected
deriving DecidableEq

/-- `venue_order_status_to_exch`. -/
def VenueOrderStatus.toExch : VenueOrderStatus → ExchangeOrderStatus
  | .booked => .booked
  | .partiallyFilled => .partialFilled
  | .filled => .filled
  | .cancelled => .cancelled
  | .rejected => .exchRejected

structure VenueOrderFact where
  orderId : Int
  exchOrderRef : String
  instrument : String
  status : VenueOrderStatus
  filledQty : ℚ
  unfilledQty : ℚ
  avgPrice : ℚ
  timestamp : Int

/-- The state that a fact is sent with. -/
def VenueOrderFact.state (f : VenueOrderFact) : OrderStateReport :=
  { exchOrderStatus := f.status.toExch, filledQty := f.filledQty, unfilledQty := f.unfilledQty
    avgPrice := f.avgPrice }

/-- `venue_order_fact_to_exch_order`. -/
def VenueOrderFact.toExchOrder (f : VenueOrderFact) : ExchOrder where
  orderRef := f.exchOrderRef
  orderReport := some
    { exchOrderRef := f.exchOrderRef, orderId := f.orderId, exchange := "", updateTimestamp := 0
      orderReportEntries := [⟨.state, some (.orderStateReport f.state)⟩] }

def simOrderToVenueFact (o : SimOrder) : VenueOrderFact where
  orderId := o.req.correlationId
  exchOrderRef := o.exchOrderId
  instrument := o.req.instrument
  status :=
    if o.remainingQty ≤ 0 then .filled else if 0 < o.filledQty then .partiallyFilled else .booked
  filledQty := o.filledQty
  unfilledQty := o.remainingQty
  avgPrice := 0
  timestamp := o.updateTs

def queryOrder (s : SimulatorCore) (req : VenueOrderQuery) : List VenueOrderFact :=
  ((s.orderCache.entries.map (·.2)).filter fun o =>
    req.orderId = some o.req.correlationId ∨ req.exchOrderRef = some o.exchOrderId ∨
      req.instrument = some o.req.instrument).map simOrderToVenueFact

def queryOpenOrders (s : SimulatorCore) : List VenueOrderFact :=
  ((s.orderCache.entries.map (·.2)).filter fun o => 0 < o.remainingQty).map simOrderToVenueFact

/-- `query_order_details` of the gateway, for the queries that the OMS makes of missing orders. -/
def queryOrderDetails (s : SimulatorCore) (missing : List OmsOrderSnapshot) : List ExchOrder :=
  missing.flatMap fun snap => (queryOrder s snap.query).map (·.toExchOrder)

end SimVenue

/-- The report is one state, with the status and the fill of `st`. -/
def OrderReport.Repeats (r : OrderReport) (st : OrderStateReport) : Prop :=
  ∃ said, r.orderReportEntries = [⟨.state, some (.orderStateReport said)⟩] ∧
    said.exchOrderStatus = st.exchOrderStatus ∧ said.filledQty = st.filledQty

/-- The order is not cancelled, and not booked with a part of it filled. -/
def OrderStateReport.Plain (st : OrderStateReport) : Prop :=
  st.exchOrderStatus ≠ .cancelled ∧ ¬ (st.exchOrderStatus = .booked ∧ 0 < st.filledQty)
deriving Decidable

open SimVenue

section Queries

variable {s : SimulatorCore} {id : Int} {o : SimOrder} {f : VenueOrderFact}

lemma mem_orders (ho : s.orderCache.lookup id = some o) : o ∈ s.orderCache.entries.map (·.2) :=
  mem_map.mpr ⟨_, AList.mem_lookup_iff.mp ho, rfl⟩

lemma mem_queryOrder {req : VenueOrderQuery} (h : f ∈ queryOrder s req) :
    ∃ id o, s.orderCache.lookup id = some o ∧ simOrderToVenueFact o = f ∧
      (req.orderId = some o.req.correlationId ∨ req.exchOrderRef = some o.exchOrderId ∨
        req.instrument = some o.req.instrument) := by
  obtain ⟨o, ho, rfl⟩ := mem_map.mp h
  obtain ⟨hmem, hmatch⟩ := mem_filter.mp ho
  obtain ⟨⟨id, o⟩, hentry, rfl⟩ := mem_map.mp hmem
  exact ⟨id, o, AList.mem_lookup_iff.mpr hentry, rfl, by simpa using hmatch⟩

/-- An order is open for the gateway as long as something of it is left. -/
lemma mem_queryOpenOrders (ho : s.orderCache.lookup id = some o) :
    simOrderToVenueFact o ∈ queryOpenOrders s ↔ 0 < o.remainingQty := by
  constructor
  · intro hfact
    obtain ⟨o', ho', heq⟩ := mem_map.mp hfact
    have hpos : 0 < o'.remainingQty := by simpa using (mem_filter.mp ho').2
    rwa [show o'.remainingQty = o.remainingQty from congrArg (·.unfilledQty) heq] at hpos
  · intro hpos
    exact mem_map_of_mem (mem_filter.mpr ⟨mem_orders ho, by simpa using hpos⟩)

/-- The details give the state of the order under its reference, which is no other order's. -/
lemma detailState_queryOrderDetails (ho : s.orderCache.lookup id = some o)
    (hrefs : ∀ id' o', s.orderCache.lookup id' = some o' → o'.exchOrderId = o.exchOrderId → o' = o)
    {missing : List OmsOrderSnapshot} {snap : OmsOrderSnapshot} (hsnap : snap ∈ missing)
    (href : snap.reference = some o.exchOrderId) :
    detailState (queryOrderDetails s missing) o.exchOrderId =
      some (simOrderToVenueFact o).state := by
  have hquery : snap.query.exchOrderRef = some o.exchOrderId := by
    obtain ⟨hsome, hne⟩ := Option.filter_eq_some_iff.mp href
    simpa [OmsOrderSnapshot.query, hsome] using hne
  have hmem : (simOrderToVenueFact o).toExchOrder ∈ queryOrderDetails s missing := by
    refine mem_flatMap.mpr ⟨snap, hsnap, mem_map_of_mem (mem_map_of_mem (mem_filter.mpr ?_))⟩
    exact ⟨mem_orders ho, by simp [hquery]⟩
  have hfound : (detailState (queryOrderDetails s missing) o.exchOrderId).isSome :=
    findSome?_isSome_iff.mpr ⟨_, hmem, by simp [VenueOrderFact.toExchOrder, simOrderToVenueFact,
      extractGwOrderState]⟩
  obtain ⟨st, hst⟩ := Option.isSome_iff_exists.mp hfound
  obtain ⟨detail, hdetail, hsaid⟩ := exists_of_findSome?_eq_some hst
  obtain ⟨snap', -, hdetail⟩ := mem_flatMap.mp hdetail
  obtain ⟨f, hf, rfl⟩ := mem_map.mp hdetail
  obtain ⟨id', o', ho', rfl, -⟩ := mem_queryOrder hf
  split_ifs at hsaid with hsame
  rw [hst, ← hsaid, hrefs id' o' ho' hsame]
  rfl

end Queries

/-- **What is answered about an order is what was reported**, fill and status, exactly if it has not
been cancelled and is not booked with a part filled; and the same of the report by which the OMS
resolves the order when it misses it, if its reference is no other order's. -/
theorem query_agrees_iff (policy : MatchPolicy) (orderRef : SendOrderRequest → String)
    (nextId : SimOrder → String) (hp : policy = .immediate ∨ policy = .firstComeFirstServed)
    (s : SimulatorCore) (log : List SimResult)
    (hr : Reach policy orderRef nextId TickData.Nonneg (fun _ _ => True) s log)
    (id : Int) (o : SimOrder) (ho : s.orderCache.lookup id = some o) :
    (∀ f, f ∈ queryOrder s { orderId := some id } ↔ f = simOrderToVenueFact o) ∧
      ∃ st, (reportsOf id log).getLast?.bind state? = some st ∧
        (simOrderToVenueFact o).filledQty = st.filledQty ∧
        ((simOrderToVenueFact o).status.toExch = st.exchOrderStatus ↔ st.Plain) ∧
        (st.exchOrderStatus = .filled → st.filledQty = o.req.scaledQty) ∧
        (simOrderToVenueFact o ∈ queryOpenOrders s ↔ st.exchOrderStatus = .booked) ∧
        ∀ missing, ∀ snap ∈ missing, ∀ nowMs, snap.reference = some o.exchOrderId →
          (∀ id' o', s.orderCache.lookup id' = some o' → o'.exchOrderId = o.exchOrderId → o' = o) →
          ((resolveMissingOrder snap (queryOrderDetails s missing) nowMs).Repeats st ↔
            st.Plain) := by
  have hall := (hr.accounts hp).orders
  obtain ⟨hid, -, h⟩ := hall id o ho
  refine ⟨fun f => ⟨fun hf => ?_, ?_⟩, ?_⟩
  · obtain ⟨id', o', ho', rfl, hmatch⟩ := mem_queryOrder hf
    obtain rfl : id = id' := by simpa [(hall id' o' ho').1] using hmatch
    rw [Option.mem_unique ho ho']
  · rintro rfl
    exact mem_map_of_mem (mem_filter.mpr ⟨mem_orders ho, by simp [hid]⟩)
  -- the last report gives the state of the order, or says that it was cancelled
  obtain ⟨st, hlast, hfill, hstatus, hwhole, hopen⟩ : ∃ st,
      (reportsOf id log).getLast?.bind state? = some st ∧ o.filledQty = st.filledQty ∧
        ((simOrderToVenueFact o).status.toExch = st.exchOrderStatus ↔ st.Plain) ∧
        (st.exchOrderStatus = .filled → st.filledQty = o.req.scaledQty) ∧
        (simOrderToVenueFact o ∈ queryOpenOrders s ↔ st.exchOrderStatus = .booked) := by
    rw [mem_queryOpenOrders ho]
    rcases h.last with hlast | ⟨hzero, hlast⟩
    · refine ⟨_, hlast, rfl, ?_, fun hfilled => ?_, ?_⟩
      · simp only [simOrderToVenueFact, state, status, OrderStateReport.Plain]
        split_ifs with hdone hpart
        · simp [VenueOrderStatus.toExch]
        · simp [VenueOrderStatus.toExch, hpart]
        · simpa [VenueOrderStatus.toExch] using hpart
      · obtain ⟨r, hrlast, hst⟩ := Option.bind_eq_some_iff.mp hlast
        obtain ⟨before, hsplit⟩ := getLast?_eq_some_iff.mp hrlast
        have hcarries := (h.states before r [] hsplit _ hst).1
        rw [← hcarries.rest (by rw [hfilled]; decide), hcarries.whole hfilled, add_zero]
      · simp only [state, status]
        split_ifs with hdone
        · simpa using hdone
        · simpa using hdone
    · refine ⟨_, hlast, rfl, ?_, by simp [state], by simp [hzero, state]⟩
      simp [simOrderToVenueFact, hzero, VenueOrderStatus.toExch, OrderStateReport.Plain, state]
  refine ⟨st, hlast, hfill, hstatus, hwhole, hopen, fun missing snap hsnap nowMs href hrefs => ?_⟩
  have hdetail := detailState_queryOrderDetails ho hrefs hsnap href
  have hresolved : resolveMissingOrder snap (queryOrderDetails s missing) nowMs =
      makeSyntheticStateReport snap.orderId o.exchOrderId snap.accountId
        (simOrderToVenueFact o).state nowMs := by
    simp only [resolveMissingOrder, (Option.filter_eq_some_iff.mp href).1, Option.getD_some,
      hdetail]
  rw [hresolved, ← hstatus]
  constructor
  · rintro ⟨said, hsaid, heq, -⟩
    cases hsaid
    exact heq
  · intro heq
    exact ⟨_, rfl, heq, hfill⟩

/-- An order that is filled at once: the OMS misses it among the open orders, and reports it as the
simulator did. -/
theorem query_agrees_filled :
    ∃ s log o st, Reach .immediate (fun _ => "E1") (fun _ => "") TickData.Nonneg (fun _ _ => True)
        s log ∧ s.orderCache.lookup 1 = some o ∧
      (reportsOf 1 log).getLast?.bind state? = some st ∧
      (simOrderToVenueFact o).status.toExch = st.exchOrderStatus ∧
      ∀ snap : OmsOrderSnapshot, snap.reference = some o.exchOrderId →
        (resolveMissingOrder snap (queryOrderDetails s [snap]) 0).Repeats st := by
  have hnew : Reach .immediate (fun _ => "E1") (fun _ => "") TickData.Nonneg
      (fun _ _ => True) _ _ := .call (.newOrder (Sample.simBuy 1) 0 false) .start nofun
  obtain ⟨-, st, hst, -, hagrees, -, -, hresolve⟩ :=
    query_agrees_iff _ _ _ (.inl rfl) _ _ hnew 1 _ rfl
  have hplain : st.Plain := by
    have hlast : (some st).any (fun st => decide st.Plain) = true := by
      rw [← hst]
      decide +kernel
    exact of_decide_eq_true hlast
  refine ⟨_, _, _, st, hnew, rfl, hst, hagrees.mpr hplain, fun snap href => ?_⟩
  refine (hresolve [snap] snap (mem_singleton_self _) 0 href fun id o ho _ => ?_).mpr hplain
  have hid : id = 1 := by
    by_contra hne
    have hother : id ≠ (Sample.simBuy 1).correlationId := hne
    rw [SimulatorCore.call, SimulatorCore.onNewOrder, if_pos (by decide +kernel)] at ho
    rw [AList.lookup_insert_ne hother] at ho
    cases ho
  subst hid
  exact Option.mem_unique ho rfl

/-- An order is cancelled, and the gateway says that it has been filled.  Another is filled in part,
reported as booked, and the gateway says that it is partially filled. -/
theorem cancelled_answered_as_filled :
    let call := SimulatorCore.call .firstComeFirstServed (fun _ => "") (fun _ => "")
    let cancelled := call (call {} (.newOrder (Sample.simBuy 1) 0 false)).1 (.cancel 1 5)
    let partly := call (call {} (.tick Sample.fourForSale [])).1
      (.newOrder (Sample.simBuy 1) 0 false)
    ((cancelled.2.getLast?.bind state?).map (·.exchOrderStatus) = some .cancelled ∧
      (queryOrder cancelled.1 { orderId := some 1 }).map (·.status.toExch) = [.filled]) ∧
    (partly.2.getLast?.bind state?).map (·.exchOrderStatus) = some .booked ∧
      (queryOrder partly.1 { orderId := some 1 }).map (·.status.toExch) = [.partialFilled] := by
  decide +kernel

end Zkbot
