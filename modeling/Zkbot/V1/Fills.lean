import Zkbot.V1.Core

/-!
# The side of a fill

`process_fill_for_report` books the trades of a report with the side and the price of the order in
the *context* of the report.  A placed order gets its context before it is created, and that
context, with no order in it, stays in the cache for as long as the order is in the store.  Where
the context has no order, every fill is booked as a sell.

* `Stands` — the order is cached under this context, or gone altogether.
* `Evolves` — what every function of the order manager does to that: it keeps it, unless it gives
  out the id of the order a second time.
* `reportFills`, `processOrderReport_booked` — what a report hands to the position and reservation
  managers, and that this is all they see of it.
* `fills_own_side_iff` — which reports of a placed order are booked with its own side.
-/

namespace Zkbot

open List Option AList Dict OrderManager

namespace OrderManager

/-! ## The context of an order -/

/-- The order is cached under `ctx`, or it is gone. -/
def Stands (id : Int) (ctx : OrderContext) (m : OrderManager) : Prop :=
  m.contextCache.lookup id = some ctx ∨
    m.contextCache.lookup id = none ∧ m.orderDict.lookup id = none

/-- Between `m` and `m'` the id was given out to an external order. -/
def Drawn (id : Int) (m m' : OrderManager) : Prop := m.idCounter ≤ id ∧ id < m'.idCounter

/-- From `m` to `m'` the order stays as it stands, unless its id is given out. -/
structure Evolves (id : Int) (ctx : OrderContext) (m m' : OrderManager) : Prop where
  counter : m.idCounter ≤ m'.idCounter
  stands : ¬ Drawn id m m' → m.Stands id ctx → m'.Stands id ctx

section Evolves

variable {id : Int} {ctx : OrderContext} {m m' m'' : OrderManager}

lemma Evolves.refl (m : OrderManager) : Evolves id ctx m m := ⟨le_refl _, fun _ h => h⟩

lemma Evolves.trans (h : Evolves id ctx m m') (h' : Evolves id ctx m' m'') :
    Evolves id ctx m m'' where
  counter := h.counter.trans h'.counter
  stands hdrawn hm := by
    refine h'.stands (fun hd => hdrawn ⟨h.counter.trans hd.1, hd.2⟩) ?_
    exact h.stands (fun hd => hdrawn ⟨hd.1, lt_of_lt_of_le hd.2 h'.counter⟩) hm

lemma Evolves.of_stands (hc : m'.idCounter = m.idCounter)
    (h : m.Stands id ctx → m'.Stands id ctx) : Evolves id ctx m m' :=
  ⟨hc.ge, fun _ => h⟩

lemma Stands.write (h : m.Stands id ctx) {j : Int} (hj : j = id → j ∈ m.orderDict)
    (o : OmsOrder) (hcache : m'.contextCache = m.contextCache)
    (hdict : m'.orderDict = m.orderDict.insert j o) : m'.Stands id ctx := by
  rcases h with h | ⟨hc, hd⟩
  · exact .inl (by rw [hcache, h])
  · refine .inr ⟨by rw [hcache, hc], ?_⟩
    have hne : id ≠ j := by
      rintro rfl
      obtain ⟨o', ho'⟩ := mem_iff_lookup.mp (hj rfl)
      rw [hd] at ho'
      cases ho'
    rw [hdict, lookup_insert_ne hne, hd]

lemma Stands.cleanup (h : m.Stands id ctx) (j : Int) : (m.cleanupOrder j).Stands id ctx := by
  by_cases hj : id = j
  · subst hj
    exact .inr ⟨lookup_erase _ _, lookup_erase _ _⟩
  · rcases h with h | ⟨hc, hd⟩
    · exact .inl ((lookup_erase_ne hj).trans h)
    · exact .inr ⟨(lookup_erase_ne hj).trans hc, (lookup_erase_ne hj).trans hd⟩

lemma Stands.congr (h : m.Stands id ctx) (hcache : m'.contextCache = m.contextCache)
    (hdict : m'.orderDict = m.orderDict) : m'.Stands id ctx := by
  rw [Stands, hcache, hdict]
  exact h

section

variable (m)

lemma evolves_removeOpenOrder (j : Int) : Evolves id ctx m (m.removeOpenOrder j) := by
  have hsplit : (m.removeOpenOrder j).idCounter = m.idCounter ∧
      (m.Stands id ctx → (m.removeOpenOrder j).Stands id ctx) := by
    simp only [removeOpenOrder]
    split_ifs
    · split
      · exact ⟨rfl, fun h => Stands.cleanup (h.congr rfl rfl) _⟩
      · exact ⟨rfl, fun h => h.congr rfl rfl⟩
    · exact ⟨rfl, fun h => h.congr rfl rfl⟩
  exact .of_stands hsplit.1 hsplit.2

lemma evolves_updateWithReport (now : Int) (r : OrderReport) :
    Evolves id ctx m (m.updateWithReport now r).1 := by
  by_cases hnone : ∀ j, m.resolveReport r = some j → m.orderDict.lookup j = none
  · rw [updateWithReport_of_none now hnone]
    exact .refl m
  · push Not at hnone
    obtain ⟨j, hres, hsome⟩ := hnone
    obtain ⟨order, ho⟩ := ne_none_iff_exists'.mp hsome
    -- the record of `j`, which is there, is written over; the order may then be evicted
    have hwrite : ∀ o refs, Evolves id ctx m
        { m with exchRefToOrderId := refs, orderDict := m.orderDict.insert j o } :=
      fun o refs => .of_stands rfl fun h => h.write (fun _ => mem_of_lookup ho) o rfl rfl
    rw [updateWithReport_of_order now hres ho]
    split_ifs
    · exact (hwrite _ _).trans (evolves_removeOpenOrder _ j)
    · exact hwrite _ _
    · exact hwrite _ _

lemma evolves_markExternal (r : OrderReport) : Evolves id ctx m (m.markExternal r) := by
  simp only [markExternal]
  split_ifs
  · exact .refl m
  · refine ⟨by simp, fun hdrawn h => ?_⟩
    have hne : m.idCounter ≠ id := fun heq => hdrawn ⟨heq.le, by simp [heq]⟩
    exact h.write (fun heq => absurd heq hne) _ rfl rfl

lemma evolves_handleExternalOrderReport (now : Int) (r : OrderReport) :
    Evolves id ctx m (m.handleExternalOrderReport now r).1 :=
  (evolves_markExternal m r).trans (evolves_updateWithReport _ _ _)

end

lemma evolves_updateWithGwError {j ts : Int} {errorMsg : String} {execType : ExecType}
    {rej : Rejection} {event : OrderUpdateEvent}
    (h : m.updateWithGwError j ts errorMsg execType rej = some (m', event)) :
    Evolves id ctx m m' := by
  simp only [updateWithGwError, map_eq_some_iff, Prod.mk.injEq] at h
  obtain ⟨order, ho, rfl, -⟩ := h
  exact .of_stands rfl fun h => h.write (fun _ => mem_of_lookup ho) _ rfl rfl

end Evolves

end OrderManager

namespace OmsCore

open OrderManager (Evolves Stands Drawn)

/-! ## Where a report goes -/

/-- The report is not taken for one of an order of this OMS: it is discarded, or it is about an
external order. -/
def diverts (s : OmsCore) (r : OrderReport) : Bool :=
  s.handleExternalOrders &&
    match s.reportAccount r with
    | none => true
    | some accountId => s.isExternalReport { r with accountId }

lemma processOrderReport_cases (s : OmsCore) (now : Int) (r : OrderReport) :
    s.diverts r = true ∧ ((s.processOrderReport now r).1 = s ∨ ∃ accountId,
        s.processOrderReport now r = s.processExternalReport now { r with accountId }) ∨
      s.diverts r = false ∧ ∃ accountId,
        s.processOrderReport now r = s.processTqReport now { r with accountId } := by
  by_cases hext : s.handleExternalOrders = true
  · cases hacc : s.reportAccount r with
    | none => simp [processOrderReport, diverts, hext, hacc]
    | some accountId =>
      simp only [processOrderReport, diverts, hext, hacc, Bool.true_and, if_true]
      cases s.isExternalReport { r with accountId } with
      | true => exact .inl ⟨rfl, .inr ⟨accountId, rfl⟩⟩
      | false => exact .inr ⟨rfl, accountId, rfl⟩
  · exact .inr ⟨by simp [diverts, hext], r.accountId, if_neg hext⟩

/-! ## Every event but a placement lets the order stand -/

section Events

variable {id : Int} {ctx : OrderContext} {s : OmsCore} {req : OrderRequest}

lemma evolves_foldl {β ε : Type} {f : OmsCore × β → ε → OmsCore × β}
    {es : List ε} (h : ∀ e ∈ es, ∀ acc, Evolves id ctx acc.1.orderMgr (f acc e).1.orderMgr)
    {acc : OmsCore × β} {m : OrderManager} (hm : acc.1.orderMgr = m) :
    Evolves id ctx m (es.foldl f acc).1.orderMgr := by
  subst hm
  induction es generalizing acc with
  | nil => exact .refl _
  | cons e es ih =>
    refine (h e mem_cons_self acc).trans (ih fun e' he' => ?_)
    exact h e' (mem_cons_of_mem _ he')

@[simp] lemma foldl_applyFill_orderMgr (id ts : Int) (fills : List (PositionDelta × ℚ))
    (s : OmsCore) : (fills.foldl (applyFill id ts) s).orderMgr = s.orderMgr := by
  have happly : ∀ s fill, (applyFill id ts s fill).orderMgr = s.orderMgr := fun _ _ => rfl
  exact foldl_preserves happly s fills

@[simp] lemma fillStage_orderMgr (s : OmsCore) (c : Option OrderContext) (r : OrderReport) :
    (s.fillStage c r).1.orderMgr = s.orderMgr := by
  simp only [fillStage]
  split
  · split_ifs
    · exact foldl_applyFill_orderMgr _ _ _ s
    · rfl
  · rfl

@[simp] lemma releaseTerminal_orderMgr (c : Option OrderContext) (s : OmsCore)
    (e : OrderUpdateEvent) : (releaseTerminal c s e).orderMgr = s.orderMgr := by
  simp only [releaseTerminal]
  repeat' split
  all_goals rfl

section

variable (s : OmsCore)

section

variable (now : Int) (c : Option OrderContext) (r : OrderReport)

lemma orderStage_orderMgr :
    (s.orderStage now c r).1.orderMgr = (s.orderMgr.updateWithReport now r).1 :=
  foldl_preserves (releaseTerminal_orderMgr c) _ _

lemma evolves_replayPending : Evolves id ctx s.orderMgr (s.replayPending now c r).1.orderMgr := by
  simp only [replayPending]
  split
  · exact .refl _
  · exact evolves_foldl (fun e _ acc => evolves_updateWithReport acc.1.orderMgr now e) rfl

lemma evolves_applyReport : Evolves id ctx s.orderMgr (s.applyReport now c r).1.orderMgr := by
  have hupdate : Evolves id ctx s.orderMgr ((s.fillStage c r).1.orderStage now c r).1.orderMgr := by
    rw [orderStage_orderMgr, fillStage_orderMgr]
    exact evolves_updateWithReport s.orderMgr now r
  exact hupdate.trans (evolves_replayPending _ now c r)

end

section

variable (now : Int) (r : OrderReport)

lemma evolves_processTqReport : Evolves id ctx s.orderMgr (s.processTqReport now r).1.orderMgr := by
  simp only [processTqReport]
  split_ifs
  · exact evolves_applyReport s now _ r
  · split
    · exact evolves_applyReport s now _ r
    · simp only [addToPendingReports]
      split_ifs
      · exact .refl _
      · exact .refl _

lemma evolves_processExternalReport :
    Evolves id ctx s.orderMgr (s.processExternalReport now r).1.orderMgr := by
  have hone : ∀ (acc : OmsCore × List OrderUpdateEvent) r,
      Evolves id ctx acc.1.orderMgr (externalReport now acc r).1.orderMgr :=
    fun acc r => evolves_handleExternalOrderReport acc.1.orderMgr now r
  exact (hone (s, []) r).trans (evolves_foldl (fun e _ acc => hone acc e) rfl)

lemma evolves_processOrderReport :
    Evolves id ctx s.orderMgr (s.processOrderReport now r).1.orderMgr := by
  obtain ⟨-, heq | ⟨accountId, heq⟩⟩ | ⟨-, accountId, heq⟩ := processOrderReport_cases s now r <;>
    rw [heq]
  · exact .refl _
  · exact evolves_processExternalReport s now _
  · exact evolves_processTqReport s now _

end

lemma evolves_processCleanup (now tsMs : Int) :
    Evolves id ctx s.orderMgr (s.processCleanup now tsMs).1.orderMgr := by
  have hone : ∀ (acc : OmsCore × List OmsAction) r,
      Evolves id ctx acc.1.orderMgr (cleanupReport now acc r).1.orderMgr :=
    fun acc r => evolves_processOrderReport acc.1 now _
  simp only [processCleanup]
  split_ifs
  · exact .refl _
  · exact evolves_foldl (fun e _ acc => hone acc e) rfl

lemma evolves_processRecheckOrder (req : OrderRecheckRequest) :
    Evolves id ctx s.orderMgr (s.processRecheckOrder req).1.orderMgr := by
  simp only [processRecheckOrder]
  split
  · exact .refl _
  · split_ifs
    · split
      · exact .refl _
      · rename_i hupdate
        split_ifs
        · exact evolves_updateWithGwError hupdate
        · exact evolves_updateWithGwError hupdate
    · exact .refl _

lemma evolves_processRecheckCancel (req : CancelRecheckRequest) :
    Evolves id ctx s.orderMgr (s.processRecheckCancel req).1.orderMgr := by
  simp only [processRecheckCancel]
  split
  · exact .refl _
  · split_ifs
    · exact .refl _
    · split
      · exact .refl _
      · rename_i hupdate
        exact evolves_updateWithGwError hupdate

lemma evolves_processBalanceUpdate (now : Int) (update : BalanceUpdate) :
    Evolves id ctx s.orderMgr (s.processBalanceUpdate now update).1.orderMgr := by
  simp only [processBalanceUpdate]
  split
  · exact .refl _
  · split
    · exact .refl _
    · exact .refl _

/-- A cancel caches the context of an order only where it is missing. -/
lemma evolves_processCancel (req : OrderCancelRequest) :
    Evolves id ctx s.orderMgr (s.processCancel req).1.orderMgr := by
  simp only [processCancel]
  split
  · exact .refl _
  · rename_i order ho
    have hcached : ∀ o, Evolves id ctx s.orderMgr
        { s.orderMgr with
          contextCache := s.orderMgr.contextCache.insert req.orderId
            (s.orderMgr.contextCache.getD req.orderId
              (s.resolveContext order.orderState.instrument order.accountId))
          orderDict := s.orderMgr.orderDict.insert req.orderId o } := by
      intro o
      refine .of_stands rfl fun h => ?_
      by_cases hid : id = req.orderId
      · subst hid
        -- the order is there, so it is cached, and the same context is put back
        rcases h with hc | ⟨-, hd⟩
        · refine .inl ?_
          show lookup _ (insert _ _ _) = _
          rw [lookup_insert, Dict.getD, hc, getD_some]
        · rw [ho] at hd
          cases hd
      · rcases h with hc | ⟨hc, hd⟩
        · exact .inl ((lookup_insert_ne hid).trans hc)
        · exact .inr ⟨(lookup_insert_ne hid).trans hc, (lookup_insert_ne hid).trans hd⟩
    split
    · split
      · rename_i hupdate
        exact (hcached _).trans (evolves_updateWithGwError hupdate)
      · exact hcached _
    · exact hcached _

end

/-! ### Placements -/

section

variable (s : OmsCore) (req : OrderRequest) (c : OrderContext) (tc : InstrumentTradingConfig)

lemma preTradeBuy_eq : (s.preTradeBuy req c tc).1.orderMgr = s.orderMgr ∧
      ∃ errors, (s.preTradeBuy req c tc).2 = { c with errors } := by
  simp only [preTradeBuy]
  split
  · exact ⟨rfl, _, rfl⟩
  · exact ⟨rfl, _, rfl⟩

lemma preTradeSell_eq : (s.preTradeSell req c tc).1.orderMgr = s.orderMgr ∧
      ∃ errors, (s.preTradeSell req c tc).2 = { c with errors } := by
  simp only [preTradeSell]
  split
  · exact ⟨rfl, _, rfl⟩
  · exact ⟨rfl, _, rfl⟩

end

/-- The pre-trade checks leave the orders alone and add to the errors of the context. -/
lemma preTrade_eq_some {c : OrderContext} {p : OmsCore × OrderContext}
    (h : s.preTrade req c = some p) :
    p.1.orderMgr = s.orderMgr ∧ ∃ errors, p.2 = { c with errors } := by
  simp only [preTrade] at h
  split at h
  · cases h
    exact ⟨rfl, _, rfl⟩
  · split at h
    · split at h
      · cases h
        exact preTradeBuy_eq s req c _
      · cases h
        exact preTradeSell_eq s req c _
      · cases h
    · cases h
      exact ⟨rfl, _, rfl⟩

/-- A buy or a sell passes the pre-trade checks, with or without errors. -/
lemma preTrade_of_side (s : OmsCore) (c : OrderContext) (hside : req.buySellType ≠ .unspecified) :
    ∃ p, s.preTrade req c = some p := by
  simp only [preTrade]
  split
  · exact ⟨_, rfl⟩
  · split
    · split
      · exact ⟨_, rfl⟩
      · exact ⟨_, rfl⟩
      · rename_i hnone
        exact absurd hnone hside
    · exact ⟨_, rfl⟩

/-- What recording an order does to the manager. -/
structure Recorded (req : OrderRequest) (c : OrderContext) (m m' : OrderManager) : Prop where
  cache : m'.contextCache = m.contextCache.insert req.orderId c
  counter : m'.idCounter = m.idCounter
  others : ∀ j, j ≠ req.orderId → m'.orderDict.lookup j = m.orderDict.lookup j
  own : ∃ o, m'.orderDict.lookup req.orderId = some o ∧ o.accountId = req.accountId ∧
    o.orderState.buySellType = req.buySellType

lemma recorded_recordOrder (s : OmsCore) (now : Int) (req : OrderRequest) (c : OrderContext) :
    Recorded req c s.orderMgr (s.recordOrder now req c).1.orderMgr := by
  simp only [recordOrder]
  split_ifs
  · refine ⟨rfl, rfl, fun j hj => ?_, _, lookup_insert _, rfl, rfl⟩
    exact (lookup_insert_ne hj).trans (lookup_insert_ne hj)
  · exact ⟨rfl, rfl, fun j hj => lookup_insert_ne hj, _, lookup_insert _, rfl, rfl⟩

lemma evolves_processOrder (s : OmsCore) (now : Int) (hne : req.orderId ≠ id) :
    Evolves id ctx s.orderMgr (s.processOrder now req).1.orderMgr := by
  simp only [processOrder]
  split_ifs
  · exact .refl _
  · split
    · rename_i s' c hpre
      have hrec := recorded_recordOrder s' now req c
      rw [show s'.orderMgr = s.orderMgr from (preTrade_eq_some hpre).1] at hrec
      refine .of_stands hrec.counter fun h => ?_
      rcases h with hc | ⟨hc, hd⟩
      · exact .inl (by rw [hrec.cache, lookup_insert_ne hne.symm, hc])
      · refine .inr ⟨?_, (hrec.others id hne.symm).trans hd⟩
        rw [hrec.cache, lookup_insert_ne hne.symm, hc]
    · refine .of_stands rfl fun h => ?_
      have hother : ∀ o o', lookup id
          ((s.orderMgr.orderDict.insert req.orderId o).insert req.orderId o') =
            s.orderMgr.orderDict.lookup id := fun o o' =>
        (lookup_insert_ne hne.symm).trans (lookup_insert_ne hne.symm)
      exact h.imp (fun hc => hc) fun hd => ⟨hd.1, (hother _ _).trans hd.2⟩

/-! ### Events -/

lemma evolves_processBatch {α : Type} {f : OmsCore → α → OmsCore × List OmsAction}
    {reqs : List α} (h : ∀ req ∈ reqs, ∀ s, Evolves id ctx s.orderMgr (f s req).1.orderMgr)
    (s : OmsCore) : Evolves id ctx s.orderMgr (s.processBatch f reqs).1.orderMgr := by
  have hone : ∀ req ∈ reqs, ∀ acc : OmsCore × List OmsAction, Evolves id ctx acc.1.orderMgr
      ((f acc.1 req).1, acc.2 ++ (f acc.1 req).2).1.orderMgr :=
    fun req hreq acc => h req hreq acc.1
  exact evolves_foldl hone rfl

/-- The requests of an event. -/
def requests : OmsCoreEvent → List OrderRequest
  | .message _ (.placeOrder req) => [req]
  | .message _ (.batchPlaceOrders reqs) => reqs
  | _ => []

/-- **Every event that does not place the order again lets it stand.** -/
lemma evolves_handle {ev : OmsCoreEvent} (s : OmsCore)
    (hother : ∀ req ∈ requests ev, req.orderId ≠ id) :
    Evolves id ctx s.orderMgr (s.handle ev).orderMgr := by
  cases ev with
  | reload config => exact .refl _
  | message now msg =>
    cases msg with
    | placeOrder req =>
      exact evolves_processOrder s now (hother req (mem_singleton_self req))
    | batchPlaceOrders reqs =>
      exact evolves_processBatch (fun req hreq s => evolves_processOrder s now (hother req hreq)) s
    | cancelOrder req => exact evolves_processCancel s req
    | batchCancelOrders reqs =>
      exact evolves_processBatch (fun req _ s => evolves_processCancel s req) s
    | gatewayOrderReport r => exact evolves_processOrderReport s now r
    | balanceUpdate update => exact evolves_processBalanceUpdate s now update
    | recheckOrder req => exact evolves_processRecheckOrder s req
    | recheckCancel req => exact evolves_processRecheckCancel s req
    | cleanup tsMs => exact evolves_processCleanup s now tsMs
    | _ => exact .refl _

/-- The event neither places an order under the id nor gives the id out. -/
def Unshared (id : Int) (s : OmsCore) (ev : OmsCoreEvent) : Prop :=
  (∀ req ∈ requests ev, req.orderId ≠ id) ∧ ¬ Drawn id s.orderMgr (s.handle ev).orderMgr

lemma stands_run {t : OmsCore} {evs : List OmsCoreEvent} (h : s.orderMgr.Stands id ctx)
    (hun : Guarded step (Unshared id) s evs) (hr : run step s evs = some t) :
    t.orderMgr.Stands id ctx := by
  have hstep : ∀ s ev s', Stands id ctx s.orderMgr → Unshared id s ev → step s ev = some s' →
      Stands id ctx s'.orderMgr := by
    intro s ev s' h hun hs'
    rw [step] at hs'
    cases hs'
    exact (evolves_handle s hun.1).stands hun.2 h
  exact run_invariant hstep h hun hr

/-- A placement caches the context of the request, with no order in it. -/
lemma place_cached {now : Int} (hplaced : req.accountId ∉ s.panicAccounts)
    (hside : req.buySellType ≠ .unspecified) :
    ∃ errors, Recorded req { s.resolveContext req.instrumentCode req.accountId with errors }
      s.orderMgr (s.handle (.message now (.placeOrder req))).orderMgr := by
  obtain ⟨⟨s', c⟩, hpre⟩ := preTrade_of_side s (s.checkedContext req) hside
  obtain ⟨hmgr, errors, hc⟩ := preTrade_eq_some hpre
  subst hc
  refine ⟨errors, ?_⟩
  have hrec := recorded_recordOrder s' now req { s.checkedContext req with errors }
  rw [hmgr] at hrec
  simp only [handle, processMessage, processOrder, if_neg hplaced, hpre]
  exact hrec

end Events

/-! ## What a report is booked with -/

/-- The context that a report is handled under: by its order id, or by its reference. -/
def reportContext (s : OmsCore) (r : OrderReport) : Option OrderContext :=
  if r.orderId ≠ 0 then s.contextOf r.orderId
  else (s.orderMgr.getOrderByExchRef r.exchange r.exchOrderRef).bind fun order =>
    s.resolveContextForOrder order.orderId

def reportFills (s : OmsCore) (r : OrderReport) : List (PositionDelta × ℚ) :=
  if s.diverts r then [] else bookedFills (s.reportContext r) r

/-- What a position is worth to the claims on it: its total and its direction. -/
def exposure (m : PositionManager) (key : Int × String) : Option (ℚ × Bool) :=
  (m.managed.lookup key).map fun p => (p.qtyTotal, p.isShort)

lemma exposure_unfreeze (m : PositionManager) (accountId : Int) (code : String) (qty : ℚ)
    (key : Int × String) : exposure (m.unfreeze accountId code qty) key = exposure m key := by
  simp only [exposure, PositionManager.unfreeze]
  by_cases hkey : key = (accountId, code)
  · subst hkey
    rw [lookup_modify_self, Option.map_map]
    rfl
  · rw [lookup_modify_ne hkey]

/-- The two managers after a fill stage. -/
structure Booked (orderId ts : Int) (fills : List (PositionDelta × ℚ)) (s t : OmsCore) :
    Prop where
  positions : ∀ key, exposure t.positionMgr key =
    exposure (fills.foldl (fun m f => m.applyDelta f.1 ts) s.positionMgr) key
  reservations :
    t.reservationMgr = fills.foldl (fun m f => m.releasePartial orderId f.2) s.reservationMgr ∨
    t.reservationMgr =
      (fills.foldl (fun m f => m.releasePartial orderId f.2) s.reservationMgr).release orderId

lemma foldl_applyFill_positionMgr (id ts : Int) (fills : List (PositionDelta × ℚ)) (s : OmsCore) :
    (fills.foldl (applyFill id ts) s).positionMgr =
        fills.foldl (fun m f => m.applyDelta f.1 ts) s.positionMgr ∧
      (fills.foldl (applyFill id ts) s).reservationMgr =
        fills.foldl (fun m f => m.releasePartial id f.2) s.reservationMgr := by
  induction fills generalizing s with
  | nil => exact ⟨rfl, rfl⟩
  | cons f fills ih => exact ih (applyFill id ts s f)

lemma fillStage_fst (s : OmsCore) (c : Option OrderContext) (r : OrderReport) :
    (s.fillStage c r).1 = (bookedFills c r).foldl (applyFill r.orderId r.updateTimestamp) s := by
  simp only [fillStage, bookedFills]
  split
  · split_ifs <;> rfl
  · rfl

/-- A terminal order gives back its reservation; a sell also unfreezes, which moves no total. -/
lemma releaseTerminal_booked (c : Option OrderContext) (s : OmsCore) (e : OrderUpdateEvent) :
    (∀ key, exposure (releaseTerminal c s e).positionMgr key = exposure s.positionMgr key) ∧
      ((releaseTerminal c s e).reservationMgr = s.reservationMgr ∨
        (releaseTerminal c s e).reservationMgr = s.reservationMgr.release e.orderId) := by
  simp only [releaseTerminal]
  split
  · exact ⟨fun _ => rfl, .inl rfl⟩
  · split
    · split
      · exact ⟨fun _ => rfl, .inr rfl⟩
      · split
        · split
          · exact ⟨exposure_unfreeze _ _ _ _, .inr rfl⟩
          · exact ⟨fun _ => rfl, .inr rfl⟩
        · exact ⟨fun _ => rfl, .inr rfl⟩
    · exact ⟨fun _ => rfl, .inl rfl⟩

lemma updateWithReport_events (m : OrderManager) (now : Int) (r : OrderReport)
    (h0 : r.orderId ≠ 0) : (m.updateWithReport now r).2 = [] ∨
      ∃ e, (m.updateWithReport now r).2 = [e] ∧ e.orderId = r.orderId := by
  have hres : ∀ id, m.resolveReport r = some id → id = r.orderId := by
    intro id hid
    simp only [resolveReport, if_pos h0] at hid
    split_ifs at hid
    exact (some.inj hid).symm
  simp only [updateWithReport]
  split
  · exact .inl rfl
  · rename_i id hid
    split
    · exact .inl rfl
    · split
      · exact .inr ⟨_, rfl, hres id hid⟩
      · exact .inl rfl

lemma orderStage_booked (s : OmsCore) (now : Int) (c : Option OrderContext) {r : OrderReport}
    (h0 : r.orderId ≠ 0) :
    (∀ key, exposure (s.orderStage now c r).1.positionMgr key = exposure s.positionMgr key) ∧
      ((s.orderStage now c r).1.reservationMgr = s.reservationMgr ∨
        (s.orderStage now c r).1.reservationMgr = s.reservationMgr.release r.orderId) := by
  simp only [orderStage]
  rcases updateWithReport_events s.orderMgr now r h0 with hnone | ⟨e, hone, hid⟩
  · rw [hnone]
    exact ⟨fun _ => rfl, .inl rfl⟩
  · rw [hone, ← hid]
    exact releaseTerminal_booked c { s with orderMgr := (s.orderMgr.updateWithReport now r).1 } e

/-- The two managers that fills are booked with. -/
def books (s : OmsCore) : PositionManager × ReservationManager := (s.positionMgr, s.reservationMgr)

lemma foldl_books {β ε : Type} {f : OmsCore × β → ε → OmsCore × β}
    (h : ∀ acc e, (f acc e).1.books = acc.1.books) (es : List ε) (acc : OmsCore × β) :
    (es.foldl f acc).1.books = acc.1.books := by
  induction es generalizing acc with
  | nil => rfl
  | cons e es ih => exact (ih (f acc e)).trans (h acc e)

section

variable (s : OmsCore) (now : Int) {r : OrderReport}

lemma replayPending_books (c : Option OrderContext) (r : OrderReport) :
    (s.replayPending now c r).1.books = s.books := by
  have hone : ∀ (acc : OmsCore × List OmsAction) r,
      (replay now acc r).1.books = acc.1.books := fun _ _ => rfl
  simp only [replayPending]
  split
  · rfl
  · exact foldl_books hone _ _

lemma processExternalReport_books (r : OrderReport) :
    (s.processExternalReport now r).1.books = s.books := by
  have hone : ∀ (acc : OmsCore × List OrderUpdateEvent) r,
      (externalReport now acc r).1.books = acc.1.books := fun _ _ => rfl
  exact foldl_books hone _ _

lemma applyReport_booked (c : Option OrderContext) (h0 : r.orderId ≠ 0) :
    Booked r.orderId r.updateTimestamp (bookedFills c r) s (s.applyReport now c r).1 := by
  obtain ⟨hpos, hres⟩ :=
    foldl_applyFill_positionMgr r.orderId r.updateTimestamp (bookedFills c r) s
  rw [← fillStage_fst s c r] at hpos hres
  obtain ⟨hexp, hrel⟩ := orderStage_booked (s.fillStage c r).1 now c h0
  obtain ⟨hrpos, hrres⟩ :=
    Prod.mk.inj (replayPending_books ((s.fillStage c r).1.orderStage now c r).1 now c r)
  refine ⟨fun key => ?_, ?_⟩
  · rw [← hpos, ← hexp key]
    exact congrArg (exposure · key) hrpos
  · rw [← hres]
    exact hrel.imp hrres.trans hrres.trans

/-- **All that the managers see of a report with an order id is `reportFills`**, but for the
release of what a closed order still holds. -/
theorem processOrderReport_booked (h0 : r.orderId ≠ 0) :
    Booked r.orderId r.updateTimestamp (s.reportFills r) s (s.processOrderReport now r).1 := by
  obtain ⟨hdiv, heq | ⟨accountId, heq⟩⟩ | ⟨hdiv, accountId, heq⟩ :=
    processOrderReport_cases s now r <;> rw [heq, reportFills, hdiv]
  · exact ⟨fun _ => rfl, .inl rfl⟩
  · obtain ⟨hpos, hres⟩ := Prod.mk.inj (processExternalReport_books s now { r with accountId })
    exact ⟨fun key => congrArg (exposure · key) hpos, .inl hres⟩
  · have h0' : ({ r with accountId } : OrderReport).orderId ≠ 0 := h0
    rw [processTqReport, if_pos h0', reportContext, if_pos h0]
    exact applyReport_booked s now (s.contextOf r.orderId) h0'

end

/-! ## The order's own side -/

/-- A fill with the side and the price of the order `o`: the total of the position moves by the
quantity, up for a buy and down for a sell, and the reservation gives back the price of the
quantity, or the quantity. -/
def OwnFill (o : OmsOrder) (posSymbol : String) (t : TradeReport) (fill : PositionDelta × ℚ) :
    Prop :=
  fill.1.accountId = o.accountId ∧ fill.1.instrumentCode = posSymbol ∧
    fill.1.totalChange = (if o.orderState.buySellType = .buy then t.filledQty else -t.filledQty) ∧
    fill.2 =
      if o.orderState.buySellType = .buy then t.filledQty * o.orderState.price else t.filledQty

/-- **Every trade of the report is booked with the side and the price of its order.** -/
def FillsOwn (s : OmsCore) (r : OrderReport) (o : OmsOrder) (posSymbol : String) : Prop :=
  List.Forall₂ (OwnFill o posSymbol) (tradePayloads r.orderReportEntries) (s.reportFills r)

/-- A fill under the context of a placement is booked as a sell. -/
lemma ownFill_placed_iff {c : OrderContext} (hc : c.order = none) {o : OmsOrder}
    (hacc : c.accountId = o.accountId) (hside : o.orderState.buySellType ≠ .unspecified)
    (t : TradeReport) :
    OwnFill o (c.posSymbol.getD "") t (fillDelta c t, fillRelease c t) ↔
      o.orderState.buySellType = .sell ∨ t.filledQty = 0 := by
  have hbuy : fillIsBuy c = false := by simp [fillIsBuy, hc]
  simp only [OwnFill, fillDelta, fillRelease, hbuy, hacc, true_and, Bool.false_eq_true, if_false]
  cases hs : o.orderState.buySellType with
  | unspecified => exact absurd hs hside
  | sell => simp
  | buy =>
    simp only [if_true, reduceCtorEq, false_or]
    constructor
    · rintro ⟨htotal, -⟩
      linarith
    · intro hzero
      rw [hzero, neg_zero, zero_mul]
      exact ⟨rfl, rfl⟩

lemma forall₂_map_iff {α β : Type} {R : α → β → Prop} (f : α → β) (as : List α) :
    List.Forall₂ R as (as.map f) ↔ ∀ a ∈ as, R a (f a) := by
  rw [forall₂_map_right_iff, forall₂_same]

/-- **Which reports of a placed order are booked with its own side.**  The order is on an
instrument under bookkeeping, and no later event shares its id.  Apart from reports without trades,
those that are not diverted and still find the order cached, and only if the order is a sell or no
trade has a quantity. -/
theorem fills_own_side_iff (u : OmsSetup) (evs before after : List OmsCoreEvent) (now : Int)
    (req : OrderRequest)
    (hevs : evs.flatMap OmsCoreEvent.ops = before ++ .message now (.placeOrder req) :: after)
    (s₀ s : OmsCore) (hs₀ : run step u.startV1 before = some s₀)
    (hs : run step u.startV1 evs = some s) (hplaced : req.accountId ∉ s₀.panicAccounts)
    (hside : req.buySellType ≠ .unspecified)
    (hbook : (s₀.resolveContext req.instrumentCode req.accountId).bookkeeping = true)
    (hunshared : Guarded step (Unshared req.orderId)
      (s₀.handle (.message now (.placeOrder req))) after)
    (o : OmsOrder)
    (ho : (s₀.handle (.message now (.placeOrder req))).orderMgr.orderDict.lookup req.orderId =
      some o)
    (r : OrderReport) (hid : r.orderId = req.orderId) (h0 : r.orderId ≠ 0) :
    s.FillsOwn r o ((s₀.resolveContext req.instrumentCode req.accountId).posSymbol.getD "") ↔
      tradePayloads r.orderReportEntries = [] ∨
        (s.diverts r = false ∧ req.orderId ∈ s.orderMgr.contextCache ∧
          (req.buySellType = .sell ∨
            ∀ t ∈ tradePayloads r.orderReportEntries, t.filledQty = 0)) := by
  obtain ⟨errors, hrec⟩ := place_cached hplaced hside
  set c : OrderContext := { s₀.resolveContext req.instrumentCode req.accountId with errors } with hc
  obtain ⟨o', ho', hacc, hbs⟩ := hrec.own
  obtain rfl : o = o' := mem_unique ho ho'
  -- the run after the placement
  have hafter : run step (s₀.handle (.message now (.placeOrder req))) after = some s := by
    rw [run_ops, hevs, run_append, hs₀, bind_some, run_cons, step, bind_some] at hs
    exact hs
  have hstart : Stands req.orderId c (s₀.handle (.message now (.placeOrder req))).orderMgr :=
    .inl (by rw [hrec.cache, lookup_insert])
  have hfinal := stands_run hstart hunshared hafter
  simp only [FillsOwn, reportFills, reportContext, if_pos h0]
  cases hdiv : s.diverts r with
  | true => simp
  | false =>
    simp only [Bool.false_eq_true, if_false, true_and, hid]
    rcases hfinal with hcached | ⟨hcache, hdict⟩
    · have hmem : req.orderId ∈ s.orderMgr.contextCache := mem_of_lookup hcached
      have hctx : s.contextOf req.orderId = some c := by
        rw [contextOf, hcached, some_or]
      have hbook' : c.bookkeeping = true := hbook
      simp only [hctx, bookedFills, hbook', if_true, fillsFor, hmem, true_and]
      rw [forall₂_map_iff]
      have hown : ∀ t, OwnFill o (c.posSymbol.getD "") t (fillDelta c t, fillRelease c t) ↔
          req.buySellType = .sell ∨ t.filledQty = 0 := by
        intro t
        rw [← hbs]
        exact ownFill_placed_iff (c := c) rfl hacc.symm (by rw [hbs]; exact hside) t
      constructor
      · intro hall
        refine .inr ?_
        by_cases hsell : req.buySellType = .sell
        · exact .inl hsell
        · exact .inr fun t ht => ((hown t).mp (hall t ht)).resolve_left hsell
      · rintro (hnone | hsell | hzero)
        · rw [hnone]
          exact fun t ht => absurd ht not_mem_nil
        · exact fun t _ => (hown t).mpr (.inl hsell)
        · exact fun t ht => (hown t).mpr (.inr (hzero t ht))
    · have hmem : req.orderId ∉ s.orderMgr.contextCache := by
        intro hmem
        obtain ⟨c', hc'⟩ := mem_iff_lookup.mp hmem
        rw [hcache] at hc'
        cases hc'
      have hctx : s.contextOf req.orderId = none := by
        rw [contextOf, hcache, resolveContextForOrder, hdict]
        rfl
      simp [hctx, bookedFills, hmem]

end OmsCore

open Sample

/-- A core that holds five of the contract and some cash, both balance flags on. -/
def Sample.stocked : OmsSetup :=
  { funded 100 with
    positions := [{ accountId := 1, instrumentCode := "P", instrumentType := .perp
                    isShort := false, qtyTotal := 5, qtyAvailable := 5 }] }

/-- A sell, filled. -/
theorem OmsCore.fills_own_side_sell :
    ∃ o s, run step stocked.startV1 [.message 0 (.placeOrder (request 10 .sell 2))] = some s ∧
      s.FillsOwn (orderReport 10 "" [trade 2]) o "P" := by
  obtain ⟨o, ho⟩ := isSome_iff_exists.mp (show ((stocked.startV1.handle
    (.message 0 (.placeOrder (request 10 .sell 2)))).orderMgr.orderDict.lookup 10).isSome =
      true by decide +kernel)
  refine ⟨o, _, rfl, (fills_own_side_iff stocked
    [.message 0 (.placeOrder (request 10 .sell 2))] [] [] 0 (request 10 .sell 2) rfl
    _ _ rfl rfl (by decide +kernel) (by decide) (by decide +kernel) trivial o ho
    (orderReport 10 "" [trade 2]) rfl (by decide)).mpr (.inr ⟨?_, ?_, .inl rfl⟩)⟩
  · decide +kernel
  · decide +kernel

/-- A buy of two at a price of three, filled.  The position ends up two short, and of the six that
were reserved only two are given back. -/
theorem OmsCore.buy_booked_as_sell :
    ∃ s ∈ run step (funded 100).startV1
        [.message 0 (.placeOrder { request 10 .buy 2 with price := 3 })],
      (s.reservationMgr.reservations.lookup 10).map (·.reservedQty) = some 6 ∧
      (s.reportFills (orderReport 10 "" [trade 2])).map
        (fun fill => (fill.1.totalChange, fill.2)) = [(-2, 2)] ∧
      ∃ t ∈ s.step (.message 0 (.gatewayOrderReport (orderReport 10 ""
          [trade 2, state .partialFilled 2]))),
        exposure t.positionMgr (1, "P") = some (2, true) ∧
        (t.reservationMgr.reservations.lookup 10).map (·.reservedQty) = some 4 := by
  decide +kernel

end Zkbot
