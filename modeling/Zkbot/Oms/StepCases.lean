import Zkbot.Oms.Messages
import Zkbot.Oms.PlaceSpec
import Zkbot.Oms.ReportSpec

/-!
# What one operation can do

`step_cases` says once and for all what an operation of the core can do to the stores; the
invariants of the later modules are short case analyses over it.  An operation

* changes nothing about any order but its history (`quiet`),
* records a new order, as rejected or as sent (`rejected`, `accepted`),
* rejects a working order whose send failed (`sendFailed`),
* applies a report to an order in the store (`report`), or to an external order that the report has
  just created (`external`).

The first invariant is here too, because the case analysis needs it: the two record maps always have
the same keys (`sameKeys_step`), so no handler panics for want of a detail record.
-/

namespace Zkbot

open List Option AList Dict OrderTerms OrderStoreV2

open OrderStoreV2 (SameBut Quiet)

namespace OmsCoreV2

variable {s s' : OmsCoreV2} {r : OrderReport} {gwId : ℕ} {actions : List OmsActionV2} {id : Int}
  {os : OrderStoreV2}

/-! ## Where a report goes -/

/-- The gateway and the order a report is applied to, if the store knows one. -/
def reportTarget (s : OmsCoreV2) (r : OrderReport) : Option (ℕ × Int) :=
  (s.metadata.gwIdOfKey r.exchange).bind fun gwId =>
    match s.orders.resolveOrderId r.orderId gwId r.exchOrderRef with
    | some id => some (gwId, id)
    | none =>
      if r.exchOrderRef ≠ "" ∧ s.handleExternalOrders = true then
        (s.existingExternal gwId r.exchOrderRef).map fun id => (gwId, id)
      else none

lemma gwIdOfKey_of_target (h : s.reportTarget r = some (gwId, id)) :
    s.metadata.gwIdOfKey r.exchange = some gwId := by
  simp only [reportTarget, bind_eq_some_iff] at h
  obtain ⟨g, hg, h⟩ := h
  cases hr : s.orders.resolveOrderId r.orderId g r.exchOrderRef with
  | some j =>
    rw [hr] at h
    cases h
    exact hg
  | none =>
    simp only [hr] at h
    split_ifs at h
    obtain ⟨j, -, hpair⟩ := map_eq_some_iff.mp h
    cases hpair
    exact hg

/-- The gateway on which a report makes the core create an external order. -/
def createsExternal (s : OmsCoreV2) (r : OrderReport) : Option ℕ :=
  (s.metadata.gwIdOfKey r.exchange).bind fun gwId =>
    if s.orders.resolveOrderId r.orderId gwId r.exchOrderRef = none ∧ r.exchOrderRef ≠ "" ∧
        s.handleExternalOrders = true ∧ s.existingExternal gwId r.exchOrderRef = none then
      some gwId
    else none

lemma reportTarget_of_createsExternal (h : s.createsExternal r = some gwId) :
    s.reportTarget r = none := by
  simp only [createsExternal, bind_eq_some_iff] at h
  obtain ⟨g, hg, h⟩ := h
  split_ifs at h with hc
  simp [reportTarget, hg, hc.1, hc.2.2.2]

/-- The external order a report creates. -/
def newExternal (s : OmsCoreV2) (gwId : ℕ) (r : OrderReport) : LiveOrder :=
  let gwKey := r.exchange
  OrderStoreV2.externalLive s.orders.idCounter gwId (s.orders.dynStrings.intern r.exchOrderRef).2
    r.accountId r.updateTimestamp (s.metadata.intern s!"External@{gwKey}").2

/-- An external order has no position key, so a report on it moves no position. -/
lemma positions_of_external {l' : LiveOrder} {d d' : OrderDetailLog}
    (spec : ReportSpec (s.addExternalOrder gwId r) s.orders.idCounter gwId r
      (s.newExternal gwId r) d s' os l' d') : s'.positions = s.positions := by
  have hflags : (s.newExternal gwId r).accountingFlags.posInstrumentId = none := rfl
  have hflags' : l'.accountingFlags.posInstrumentId = none := by
    rw [LiveOrder.flags_of_terms spec.follows.terms, hflags]
  rw [spec.positions]
  simp only [closePositions, hflags', fillDeltas, ite_self]
  rfl

/-- The ways a report can be handled, and the actions that come of it. -/
inductive ReportCase (s : OmsCoreV2) (r : OrderReport) (s' : OmsCoreV2) :
    List OmsActionV2 → Prop where
  /-- its gateway is unknown, it names nothing, or the order it names is gone -/
  | ignored (h : ∀ gwId id, s.reportTarget r = some (gwId, id) → s.orders.live.lookup id = none)
      (hx : s.createsExternal r = none) (hs : s' = s) : ReportCase s r s' []
  /-- it arrived before the order it is for, and is kept -/
  | buffered (gwId : ℕ) (h : s.reportTarget r = none) (hx : s.createsExternal r = none)
      (hs : s' = s.bufferReport gwId r) : ReportCase s r s' []
  /-- it is applied to an order in the store -/
  | applied (gwId : ℕ) (id : Int) (l : LiveOrder) (d : OrderDetailLog) (os : OrderStoreV2)
      (l' : LiveOrder) (d' : OrderDetailLog) {actions : List OmsActionV2}
      (h : s.reportTarget r = some (gwId, id)) (hx : s.createsExternal r = none)
      (hl : s.orders.live.lookup id = some l) (hd : s.orders.detail.lookup id = some d)
      (spec : ReportSpec s id gwId r l d s' os l' d') (hput : ReportActions id l r actions) :
      ReportCase s r s' actions
  /-- it is applied to a new external order -/
  | created (gwId : ℕ) (os : OrderStoreV2) (l' : LiveOrder) (d' : OrderDetailLog)
      {actions : List OmsActionV2} (h : s.reportTarget r = none)
      (hx : s.createsExternal r = some gwId)
      (spec : ReportSpec (s.addExternalOrder gwId r) s.orders.idCounter gwId r
        (s.newExternal gwId r) { orderId := s.orders.idCounter } s' os l' d')
      (hput : ReportActions s.orders.idCounter (s.newExternal gwId r) r actions) :
      ReportCase s r s' actions

lemma addExternalOrder_live (s : OmsCoreV2) (gwId : ℕ) (r : OrderReport) :
    (s.addExternalOrder gwId r).orders.live.lookup s.orders.idCounter =
      some (s.newExternal gwId r) := lookup_insert _

lemma addExternalOrder_live_ne (s : OmsCoreV2) (gwId : ℕ) (r : OrderReport) {j : Int}
    (hj : j ≠ s.orders.idCounter) :
    (s.addExternalOrder gwId r).orders.live.lookup j = s.orders.live.lookup j :=
  lookup_insert_ne hj

lemma addExternalOrder_detail (s : OmsCoreV2) (gwId : ℕ) (r : OrderReport) :
    (s.addExternalOrder gwId r).orders.detail.lookup s.orders.idCounter =
      some { orderId := s.orders.idCounter } := lookup_insert _

/-- The two record maps have the same keys. -/
def SameKeys (os : OrderStoreV2) : Prop := ∀ id, id ∈ os.live ↔ id ∈ os.detail

lemma SameKeys.detail (h : SameKeys os) {l : LiveOrder} (hl : os.live.lookup id = some l) :
    ∃ d, os.detail.lookup id = some d :=
  mem_iff_lookup.mp ((h id).mp (mem_of_lookup hl))

section

variable (hk : SameKeys s.orders)
include hk

lemma applied_or_ignored (ht : s.reportTarget r = some (gwId, id)) (hx : s.createsExternal r = none)
    (h : s.processReportForOrder id gwId r = some (s', actions)) : ReportCase s r s' actions := by
  cases hl : s.orders.live.lookup id with
  | none =>
    simp only [processReportForOrder, hl] at h
    cases h
    refine .ignored (fun gwId' id' ht' => ?_) hx rfl
    rw [ht, some.injEq, Prod.mk.injEq] at ht'
    rw [← ht'.2]
    exact hl
  | some l =>
    obtain ⟨d, hd⟩ := hk.detail hl
    obtain ⟨⟨os, l', d', spec⟩, hput⟩ := processReportForOrder_spec hl hd h
    exact .applied gwId id l d os l' d' ht hx hl hd spec hput

theorem processOrderReport_cases (h : s.processOrderReport r = some (s', actions)) :
    ReportCase s r s' actions := by
  simp only [processOrderReport] at h
  cases hg : s.metadata.gwIdOfKey r.exchange with
  | none =>
    rw [hg] at h
    cases h
    refine .ignored (fun gwId id ht => ?_) ?_ rfl
    · simp [reportTarget, hg] at ht
    · simp [createsExternal, hg]
  | some gwId =>
    rw [hg] at h
    simp only at h
    cases hr : s.orders.resolveOrderId r.orderId gwId r.exchOrderRef with
    | some id =>
      rw [hr] at h
      have ht : s.reportTarget r = some (gwId, id) := by simp [reportTarget, hg, hr]
      have hx : s.createsExternal r = none := by simp [createsExternal, hg, hr]
      exact applied_or_ignored hk ht hx h
    | none =>
      rw [hr] at h
      by_cases href : r.exchOrderRef = ""
      · rw [if_pos href] at h
        cases h
        refine .ignored (fun gwId id ht => ?_) ?_ rfl
        · rw [href] at hr
          simp [reportTarget, hg, hr, href] at ht
        · simp [createsExternal, href]
      · rw [if_neg href] at h
        by_cases hext : s.handleExternalOrders = true
        · rw [if_pos hext] at h
          cases hx : s.existingExternal gwId r.exchOrderRef with
          | some id =>
            rw [hx] at h
            have ht : s.reportTarget r = some (gwId, id) := by
              simp [reportTarget, hg, hr, href, hext, hx]
            refine applied_or_ignored hk ht ?_ h
            simp [createsExternal, hg, hx]
          | none =>
            rw [hx] at h
            obtain ⟨⟨os, l', d', spec⟩, hput⟩ := processReportForOrder_spec
              (addExternalOrder_live s gwId r) (addExternalOrder_detail s gwId r) h
            refine .created gwId os l' d' ?_ ?_ spec hput
            · simp [reportTarget, hg, hr, hx]
            · simp [createsExternal, hg, hr, href, hext, hx]
        · rw [if_neg hext] at h
          cases h
          refine .buffered gwId ?_ ?_ rfl
          · simp [reportTarget, hg, hr, hext]
          · simp [createsExternal, hext]

end

end OmsCoreV2

/-! ## Operations on one order -/

namespace OrderStoreV2

/-- An operation on order `id`: any other order is as it was, or has been evicted from the queue of
closed orders, and only `id` can have joined the queue. -/
structure TouchesOnly (id : Int) (os os' : OrderStoreV2) : Prop where
  live : ∀ j, j ≠ id → os'.live.lookup j = os.live.lookup j ∨
    j ∈ os.closedLru ∧ os'.live.lookup j = none
  queue : ∀ j ∈ os'.closedLru, j ∈ os.closedLru ∨ j = id

namespace TouchesOnly

variable {id : Int} {os os' os'' : OrderStoreV2}

lemma of_sameBut (h : SameBut id os os') : TouchesOnly id os os' where
  live j hj := .inl (h.live j hj)
  queue _ hj := .inl (h.closedLru ▸ hj)

lemma enter (os : OrderStoreV2) (id : Int) (l : LiveOrder) (d : OrderDetailLog) :
    TouchesOnly id os (os.enter id l d) where
  live _ hj := .inl (enter_live_ne hj l d)
  queue _ hj := .inl hj

lemma live_some (h : TouchesOnly id os os') {j : Int} (hj : j ≠ id) {l : LiveOrder}
    (hl : os'.live.lookup j = some l) : os.live.lookup j = some l := by
  rcases h.live j hj with heq | ⟨-, hnone⟩
  · rw [← heq]
    exact hl
  · rw [hnone] at hl
    cases hl

lemma trans (h : TouchesOnly id os os') (h' : TouchesOnly id os' os'') :
    TouchesOnly id os os'' where
  live j hj := by
    rcases h'.live j hj with heq | ⟨hq, hnone⟩
    · rw [heq]
      exact h.live j hj
    · exact .inr ⟨(h.queue j hq).resolve_right hj, hnone⟩
  queue j hj := by
    rcases h'.queue j hj with hq | rfl
    · exact h.queue j hq
    · exact .inr rfl

lemma markClosed (os : OrderStoreV2) (id : Int) : TouchesOnly id os (os.markClosed id) where
  live j hj := by
    rw [markClosed_live]
    split_ifs with he
    · exact .inr ⟨(mem_of_evicted he).resolve_right hj, rfl⟩
    · exact .inl rfl
  queue _ hj := mem_markClosed_closedLru hj

lemma report {s s' : OmsCoreV2} {gwId : ℕ} {r : OrderReport} {l l' : LiveOrder}
    {d d' : OrderDetailLog} (spec : OmsCoreV2.ReportSpec s id gwId r l d s' os l' d') :
    TouchesOnly id s.orders s'.orders := by
  have hos := of_sameBut spec.same
  rw [spec.orders]
  split_ifs
  · exact hos.trans (.markClosed os id)
  · exact hos

lemma sendFailed {s s' : OmsCoreV2} {l l' : LiveOrder}
    (h : s.SendFailure id l l' os s') : TouchesOnly id s.orders s'.orders := by
  rw [h.orders]
  exact (of_sameBut h.same).trans (.markClosed os id)

end TouchesOnly

lemma touchesOnly_external (s : OmsCoreV2) (gwId : ℕ) (r : OrderReport) :
    TouchesOnly s.orders.idCounter s.orders (s.addExternalOrder gwId r).orders where
  live _ hj := .inl (lookup_insert_ne hj)
  queue _ hj := .inl hj

end OrderStoreV2

namespace OmsCoreV2

variable {s s' : OmsCoreV2} {id : Int} {l : LiveOrder} {os : OrderStoreV2} {r : OrderReport}
  {gwId : ℕ} {d : OrderDetailLog} {op : Op} {os' : OrderStoreV2} {j : Int} {P : OrderStoreV2 → Prop}
  {evs : List OmsEvent} (u : OmsSetup)

/-! ## Operations that touch no order -/

lemma quiet_bufferReport (s : OmsCoreV2) (gwId : ℕ) (r : OrderReport) :
    Quiet s.orders (s.bufferReport gwId r).orders := by
  refine ⟨fun _ => rfl, fun _ => rfl, rfl, rfl, rfl, rfl, rfl, rfl, ?_, rfl⟩
  intro ref i h
  exact InternTable.lookup_intern_of_lookup h _

/-- A balance update changes balances and, for entries that are not spot, positions. -/
lemma processBalanceUpdate_rest {now : Int} {u : BalanceUpdate} {actions : List OmsActionV2}
    (h : s.processBalanceUpdate now u = some (s', actions)) :
    ∃ b ps, s' = { s with balances := b, positions := ps } ∧
      ((∀ e ∈ u.balances, e.instrumentType = .spot) → ps = s.positions) := by
  rcases processBalanceUpdate_spec h with ⟨-, rfl, -⟩ | ⟨accountId, ps, -, hps, rfl, -⟩
  · exact ⟨_, _, rfl, fun _ => rfl⟩
  · refine ⟨_, ps, rfl, fun hspot => ?_⟩
    have hnil : u.nonspot = [] := filter_eq_nil_iff.mpr fun e he => by simpa using hspot e he
    rw [hnil] at hps
    exact (some.inj hps).symm

/-! ## One operation -/

/-- An operation that finds no order to work on: an invalid request, a report that names no order
in the store, a failed send of an order that is gone or closed. -/
def Idle (s : OmsCoreV2) : Op → Prop
  | .place _ req => ¬ s.admits req
  | .report r => s.createsExternal r = none ∧
      ∀ gwId id, s.reportTarget r = some (gwId, id) → s.orders.live.lookup id = none
  | .sendFailed _ id _ => ∀ l, s.orders.live.lookup id = some l → l.isInTerminalState = true
  | _ => True

/-- Everything an operation can do. -/
inductive StepCase (s : OmsCoreV2) : Op → OmsCoreV2 → Prop where
  /-- no order changes but in its history -/
  | quiet {op : Op} {s' : OmsCoreV2} (horders : Quiet s.orders s'.orders)
      (hres : s'.reservations = s.reservations)
      (hpos : s'.positions = s.positions ∨
        ∃ now u, op = .balanceUpdate now u ∧ ∃ e ∈ u.balances, e.instrumentType ≠ .spot)
      (hidle : s.Idle op) : StepCase s op s'
  /-- an order is recorded as rejected -/
  | rejected {now : Int} {req : OrderRequest} {s' : OmsCoreV2} (hadm : s.admits req)
      (hrefuse : s.refuses req = true) (l : LiveOrder) (d : OrderDetailLog) (hl : Fresh req l)
      (hterm : l.isInTerminalState = true)
      (horders : s'.orders = (s.orders.enter req.orderId l d).markClosed req.orderId)
      (hres : s'.reservations = s.reservations) (hpos : s'.positions = s.positions) :
      StepCase s (.place now req) s'
  /-- an order is recorded as pending and sent -/
  | accepted {now : Int} {req : OrderRequest} {s' : OmsCoreV2} (hadm : s.admits req)
      (hrefuse : s.refuses req = false) (om : ResolvedOrderMeta)
      (hom : s.resolveOrderMeta req = .ok om) (l : LiveOrder)
      (d : OrderDetailLog) (hbook : Booking s req om s'.positions s'.reservations)
      (hl : Fresh req l) (hw : l.isInTerminalState = false) (hqty : l.qty = scaledQty req om)
      (hprice : l.price = scaledPrice req om)
      (hflags : l.accountingFlags = accountingFlags req om)
      (horders : s'.orders = s.orders.enter req.orderId l d) : StepCase s (.place now req) s'
  /-- a working order is rejected because it could not be sent -/
  | sendFailed {now id : Int} {msg : String} {s' : OmsCoreV2} (l l' : LiveOrder)
      (os : OrderStoreV2) (hfail : s.SendFailure id l l' os s') :
      StepCase s (.sendFailed now id msg) s'
  /-- a report is applied to an order in the store -/
  | report (r : OrderReport) {s' : OmsCoreV2} (gwId : ℕ) (id : Int) (l : LiveOrder)
      (d : OrderDetailLog) (os : OrderStoreV2) (l' : LiveOrder) (d' : OrderDetailLog)
      (htarget : s.reportTarget r = some (gwId, id)) (hl : s.orders.live.lookup id = some l)
      (hd : s.orders.detail.lookup id = some d) (spec : ReportSpec s id gwId r l d s' os l' d') :
      StepCase s (.report r) s'
  /-- a report is applied to the external order it creates -/
  | external (r : OrderReport) {s' : OmsCoreV2} (gwId : ℕ) (os : OrderStoreV2) (l' : LiveOrder)
      (d' : OrderDetailLog) (hx : s.createsExternal r = some gwId)
      (spec : ReportSpec (s.addExternalOrder gwId r) s.orders.idCounter gwId r
        (s.newExternal gwId r) { orderId := s.orders.idCounter } s' os l' d') :
      StepCase s (.report r) s'

lemma exists_actions {x : Option (OmsCoreV2 × List OmsActionV2)} (h : x.map (·.1) = some s') :
    ∃ actions, x = some (s', actions) := by
  obtain ⟨⟨s₁, actions⟩, hx, rfl⟩ := map_eq_some_iff.mp h
  exact ⟨actions, hx⟩

lemma processOrderReport_of_target (h : s.reportTarget r = some (gwId, id)) :
    s.processOrderReport r = s.processReportForOrder id gwId r := by
  simp only [reportTarget, bind_eq_some_iff] at h
  obtain ⟨g, hg, h⟩ := h
  simp only [processOrderReport, hg]
  cases hr : s.orders.resolveOrderId r.orderId g r.exchOrderRef with
  | some j =>
    rw [hr] at h
    cases h
    rfl
  | none =>
    simp only [hr] at h
    split_ifs at h with hext
    obtain ⟨j, hj, hpair⟩ := map_eq_some_iff.mp h
    cases hpair
    simp [if_neg hext.1, if_pos hext.2, hj]

lemma reportSpec_of_target (h : s.reportTarget r = some (gwId, id))
    (hl : s.orders.live.lookup id = some l) (hd : s.orders.detail.lookup id = some d)
    (hstep : s.step (.report r) = some s') :
    ∃ os l' d', ReportSpec s id gwId r l d s' os l' d' := by
  obtain ⟨actions, hproc⟩ := exists_actions hstep
  rw [processOrderReport_of_target h] at hproc
  exact (processReportForOrder_spec hl hd hproc).1

/-- **What one operation can do.** -/
theorem step_cases (hk : SameKeys s.orders) (h : s.step op = some s') : StepCase s op s' := by
  cases op with
  | place now req =>
    obtain ⟨actions, h₁⟩ := exists_actions h
    cases processOrder_cases h₁ with
    | dropped hadm hs =>
      subst hs
      exact .quiet (.refl _) rfl (.inl rfl) hadm
    | rejected hadm hrefuse f h =>
      rw [h.state]
      exact .rejected hadm hrefuse _ _ (fresh_refused ..) rfl rfl rfl rfl
    | accepted hadm hrefuse om sym gwReq h =>
      exact .accepted hadm hrefuse om h.resolved _ _ h.booking
        (fresh_sent req { om with sourceSym := sym } _) rfl rfl rfl rfl h.records
  | cancel now req =>
    obtain ⟨actions, h₁⟩ := exists_actions h
    obtain ⟨⟨hq, hs⟩, -⟩ := processCancel_quiet h₁
    exact .quiet hq (by rw [hs]) (.inl (by rw [hs])) trivial
  | report r =>
    obtain ⟨actions, h₁⟩ := exists_actions h
    cases processOrderReport_cases hk h₁ with
    | ignored hnone hx hs =>
      subst hs
      exact .quiet (.refl _) rfl (.inl rfl) ⟨hx, hnone⟩
    | buffered gwId hnone hx hs =>
      subst hs
      refine .quiet (quiet_bufferReport s gwId r) rfl (.inl rfl) ⟨hx, fun _ _ ht => ?_⟩
      rw [hnone] at ht
      cases ht
    | applied gwId id l d os l' d' ht _ hl hd spec _ =>
      exact .report r gwId id l d os l' d' ht hl hd spec
    | created gwId os l' d' _ hx spec _ => exact .external r gwId os l' d' hx spec
  | balanceUpdate now u =>
    obtain ⟨actions, h₁⟩ := exists_actions h
    obtain ⟨b, ps, hs, hspot⟩ := processBalanceUpdate_rest h₁
    refine .quiet (by rw [hs]; exact .refl _) (by rw [hs]) ?_ trivial
    by_cases hsp : ∀ e ∈ u.balances, e.instrumentType = .spot
    · left
      rw [hs]
      exact hspot hsp
    · right
      obtain ⟨e, he, hne⟩ : ∃ e ∈ u.balances, e.instrumentType ≠ .spot := by simpa using hsp
      exact ⟨now, u, rfl, e, he, hne⟩
  | panic a | dontPanic a =>
    cases h
    exact .quiet (.refl _) rfl (.inl rfl) trivial
  | sendFailed =>
    obtain ⟨actions, h₁⟩ := exists_actions h
    cases processGatewaySendFailed_cases h₁ with
    | ignored hterm hs =>
      subst hs
      exact .quiet (.refl _) rfl (.inl rfl) hterm
    | rejected l l' os hfail => exact .sendFailed l l' os hfail
  | cancelSendFailed =>
    obtain ⟨actions, h₁⟩ := exists_actions h
    obtain ⟨⟨hq, hs⟩, -⟩ := processGatewayCancelSendFailed_quiet h₁
    exact .quiet hq (by rw [hs]) (.inl (by rw [hs])) trivial
  | reload cfg =>
    obtain ⟨md, rfl⟩ := reloadConfig_eq h
    exact .quiet (.refl _) rfl (.inl rfl) trivial

/-! ## The record maps have the same keys -/

lemma mem_live_of_quiet (h : Quiet os os') (j : Int) : j ∈ os'.live ↔ j ∈ os.live := by
  rw [← lookup_isSome, ← lookup_isSome, ← isSome_map, h.live j, isSome_map]

lemma mem_detail_of_quiet (h : Quiet os os') (j : Int) : j ∈ os'.detail ↔ j ∈ os.detail := by
  rw [← lookup_isSome, ← lookup_isSome, ← isSome_map, h.detail j, isSome_map]

lemma mem_markClosed_live : j ∈ (os.markClosed id).live ↔ os.evicted id ≠ some j ∧ j ∈ os.live := by
  rw [← lookup_isSome, ← lookup_isSome, markClosed_live]
  split_ifs with h
  · simp [h]
  · simp [h]

lemma mem_markClosed_detail :
    j ∈ (os.markClosed id).detail ↔ os.evicted id ≠ some j ∧ j ∈ os.detail := by
  rw [← lookup_isSome, ← lookup_isSome, markClosed_detail]
  split_ifs with h
  · simp [h]
  · simp [h]

namespace SameKeys

variable {os os' : OrderStoreV2} {id : Int}

lemma markClosed (h : SameKeys os) (id : Int) : SameKeys (os.markClosed id) := by
  intro j
  rw [mem_markClosed_live, mem_markClosed_detail, h j]

lemma insert (h : SameKeys os) (id : Int) (l : LiveOrder) (d : OrderDetailLog) (j : Int) :
    j ∈ os.live.insert id l ↔ j ∈ os.detail.insert id d := by
  rw [mem_insert, mem_insert, h j]

lemma sameBut (h : SameKeys os) (hs : SameBut id os os') (hl : id ∈ os'.live)
    (hd : id ∈ os'.detail) : SameKeys os' := by
  intro j
  by_cases hj : j = id
  · subst hj
    exact iff_of_true hl hd
  · rw [← lookup_isSome, ← lookup_isSome, hs.live j hj, hs.detail j hj,
      lookup_isSome, lookup_isSome]
    exact h j

lemma reportSpec {gwId : ℕ} {r : OrderReport} {l' : LiveOrder} {d d' : OrderDetailLog}
    (h : SameKeys s.orders) (spec : ReportSpec s id gwId r l d s' os l' d') :
    SameKeys s'.orders := by
  have hos : SameKeys os :=
    h.sameBut spec.same (mem_of_lookup spec.live) (mem_of_lookup spec.detail)
  rw [spec.orders]
  split_ifs
  · exact hos.markClosed id
  · exact hos

end SameKeys

/-- **No operation separates the two record maps.** -/
theorem sameKeys_step (hk : SameKeys s.orders) (h : s.step op = some s') : SameKeys s'.orders := by
  cases step_cases hk h with
  | quiet hq =>
    intro j
    rw [mem_live_of_quiet hq, mem_detail_of_quiet hq, hk j]
  | rejected _ _ l d _ _ horders =>
    rw [horders]
    exact SameKeys.markClosed (fun j => hk.insert _ l d j) _
  | accepted _ _ _ _ l d _ _ _ _ _ _ horders =>
    rw [horders]
    exact fun j => hk.insert _ l d j
  | sendFailed _ _ _ hfail =>
    rw [hfail.orders]
    exact (hk.sameBut hfail.same (mem_of_lookup hfail.live) hfail.detail).markClosed _
  | report _ _ _ _ _ _ _ _ _ _ _ spec => exact hk.reportSpec spec
  | external _ gwId _ _ _ _ spec =>
    exact SameKeys.reportSpec (fun j => hk.insert _ (s.newExternal gwId _) _ j) spec

/-! ## One record -/

/-- Where the record `m` of order `j` comes from that an operation leaves in the store. -/
inductive RecordCase (s : OmsCoreV2) (j : Int) (m : LiveOrder) : Op → OmsCoreV2 → Prop where
  /-- it was there, but for its history -/
  | kept {op : Op} {s' : OmsCoreV2} (l : LiveOrder) (hl : s.orders.live.lookup j = some l)
      (hcore : m.core = l.core) : RecordCase s j m op s'
  | placed {now : Int} {req : OrderRequest} {s' : OmsCoreV2} (hadm : s.admits req)
      (hj : j = req.orderId) (hfresh : Fresh req m) : RecordCase s j m (.place now req) s'
  | sendFailed {now : Int} {msg : String} {s' : OmsCoreV2} (l : LiveOrder)
      (hl : s.orders.live.lookup j = some l) (hterm : l.isInTerminalState = false)
      (hterms : m.terms = l.terms) (href : m.exchOrderRefId = l.exchOrderRefId) :
      RecordCase s j m (.sendFailed now j msg) s'
  | report {r : OrderReport} {s' : OmsCoreV2} {gwId : ℕ} {l : LiveOrder} {d d' : OrderDetailLog}
      {os : OrderStoreV2} (htarget : s.reportTarget r = some (gwId, j))
      (hl : s.orders.live.lookup j = some l) (spec : ReportSpec s j gwId r l d s' os m d') :
      RecordCase s j m (.report r) s'
  | external {r : OrderReport} {s' : OmsCoreV2} {gwId : ℕ} {d' : OrderDetailLog}
      {os : OrderStoreV2} (hx : s.createsExternal r = some gwId) (hj : j = s.orders.idCounter)
      (spec : ReportSpec (s.addExternalOrder gwId r) j gwId r (s.newExternal gwId r)
        { orderId := j } s' os m d') : RecordCase s j m (.report r) s'

theorem record_step {m : LiveOrder} (hk : SameKeys s.orders) (h : s.step op = some s')
    (hm : s'.orders.live.lookup j = some m) : RecordCase s j m op s' := by
  have henter : ∀ {now : Int} {req : OrderRequest} {l : LiveOrder} {d : OrderDetailLog},
      s.admits req → Fresh req l → (s.orders.enter req.orderId l d).live.lookup j = some m →
      RecordCase s j m (.place now req) s' := by
    intro now req l d hadm hl hm
    by_cases hj : j = req.orderId
    · rw [hj, enter_live_self] at hm
      exact .placed hadm hj (some.inj hm ▸ hl)
    · rw [enter_live_ne hj] at hm
      exact .kept m hm rfl
  cases step_cases hk h with
  | quiet hq =>
    obtain ⟨l, hl, hcore⟩ := hq.live_some hm
    exact .kept l hl hcore
  | rejected hadm _ l d hl _ horders =>
    rw [horders] at hm
    exact henter hadm hl (live_of_markClosed hm)
  | accepted hadm _ _ _ l d _ hl _ _ _ _ horders =>
    rw [horders] at hm
    exact henter hadm hl hm
  | @sendFailed _ id _ _ l l' os hfail =>
    by_cases hj : j = id
    · subst hj
      obtain rfl := hfail.live_self hm
      exact .sendFailed l hfail.found hfail.working hfail.terms hfail.ref
    · exact .kept m ((TouchesOnly.sendFailed hfail).live_some hj hm) rfl
  | report r gwId id l d os l' d' htarget hl _ spec =>
    by_cases hj : j = id
    · subst hj
      obtain rfl := spec.live_self hm
      exact .report htarget hl spec
    · exact .kept m (spec.live_ne hj hm) rfl
  | external r gwId os l' d' hx spec =>
    by_cases hj : j = s.orders.idCounter
    · subst hj
      obtain rfl := spec.live_self hm
      exact .external hx rfl spec
    · have hm' := spec.live_ne hj hm
      rw [addExternalOrder_live_ne s gwId r hj] at hm'
      exact .kept m hm' rfl

/-! ## Warm start -/

lemma initPosition_preserves {β : Type} {g : OmsCoreV2 → β}
    (hg : ∀ s positions, g { s with positions } = g s) (s : OmsCoreV2) (p : OmsManagedPosition) :
    g (s.initPosition p) = g s := by
  simp only [initPosition]
  split
  · rfl
  · exact hg ..

section

variable (s : OmsCoreV2) (warm : List OmsOrder) (pos : List OmsManagedPosition)
  (bal : List ExchBalanceSnapshot)

/-- Warm start enters the orders, and then writes positions and balances. -/
lemma initState_preserves {β : Type} (g : OmsCoreV2 → β)
    (hpos : ∀ s positions, g { s with positions } = g s)
    (hbal : ∀ s balances, g { s with balances } = g s) :
    g (s.initState warm pos bal) = g (warm.foldl initOrder s) := by
  have hbal' : ∀ s b, g (initBalance s b) = g s := by
    intro s b
    simp only [initBalance]
    split <;> exact hbal ..
  rw [initState, foldl_preserves hbal', foldl_preserves (initPosition_preserves hpos)]

lemma initState_orders : (s.initState warm pos bal).orders = (warm.foldl initOrder s).orders :=
  initState_preserves s warm pos bal (·.orders) (fun _ _ => rfl) fun _ _ => rfl

end

/-- Induction over a warm start, one order at a time. -/
lemma start_induct (h0 : P (OrderStoreV2.new u.maxCachedOrders u.useTimeEmulation u.subsecMicros))
    (hstep : ∀ (s : OmsCoreV2) (v1 : OmsOrder), P s.orders → P (s.initOrder v1).orders) :
    P u.start.orders := by
  rw [OmsSetup.start, initState_orders]
  generalize hs : u.blank = s
  have hP : P s.orders := by
    rw [← hs]
    exact h0
  clear hs h0
  induction u.orders generalizing s with
  | nil => exact hP
  | cons v1 warm ih => exact ih (s.initOrder v1) (hstep s v1 hP)

lemma SameKeys.initWithOrder (hk : SameKeys os) (l : LiveOrder) (d : OrderDetailLog) :
    SameKeys (os.initWithOrder l d) := by
  by_cases h0 : l.orderId = 0
  · simp only [OrderStoreV2.initWithOrder, h0]
    exact hk
  · simp only [OrderStoreV2.initWithOrder, h0]
    exact fun j => hk.insert _ l d j

/-- The two record maps have the same keys after every start. -/
theorem sameKeys_start : SameKeys u.start.orders := by
  refine start_induct u (fun _ => Iff.rfl) ?_
  intro s v1 hk
  have hconv : SameKeys (s.convertV1Order v1).1.orders := hk
  exact hconv.initWithOrder _ _

/-- What every operation keeps holds in every state the core reaches. -/
lemma reached_invariant {I : OmsCoreV2 → Prop} {t : OmsCoreV2}
    (hstep : ∀ s op s', SameKeys s.orders → I s → s.step op = some s' → I s')
    (hk : SameKeys s.orders) (h0 : I s) (h : run handle s evs = some t) :
    SameKeys t.orders ∧ I t := by
  have hg : Guarded step (fun _ _ => True) s (evs.flatMap OmsEvent.ops) :=
    guarded_of_forall (fun _ _ => trivial) _ _
  refine events_invariant (I := fun s => SameKeys s.orders ∧ I s) ?_ ⟨hk, h0⟩ hg h
  rintro s op s' ⟨hs, hI⟩ - hop
  exact ⟨sameKeys_step hs hop, hstep s op s' hs hI hop⟩

lemma sameKeys_run {t : OmsCoreV2} (hk : SameKeys s.orders) (h : run handle s evs = some t) :
    SameKeys t.orders :=
  (reached_invariant (I := fun _ => True) (fun _ _ _ _ _ _ => trivial) hk trivial h).1

/-! ## Records under their own ids -/

/-- Every record is filed under the id it carries. -/
def OwnIds (os : OrderStoreV2) : Prop := ∀ id l, os.live.lookup id = some l → l.orderId = id

/-- **No operation files a record under another id.** -/
theorem ownIds_step (hk : SameKeys s.orders) (h : OwnIds s.orders) (hstep : s.step op = some s') :
    OwnIds s'.orders := by
  intro j m hm
  cases record_step hk hstep hm with
  | kept l hl hcore => exact (congrArg orderId (LiveOrder.terms_of_core hcore)).trans (h j l hl)
  | placed _ hj hfresh => exact hfresh.orderId.trans hj.symm
  | sendFailed l hl _ hterms => exact (congrArg orderId hterms).trans (h j l hl)
  | report _ hl spec => exact (congrArg orderId spec.follows.terms).trans (h j _ hl)
  | external _ hj spec => exact (congrArg orderId spec.follows.terms).trans hj.symm

lemma initOrder_live (s : OmsCoreV2) (v1 : OmsOrder) : (s.initOrder v1).orders.live =
    if v1.orderId = 0 then s.orders.live
    else s.orders.live.insert v1.orderId (s.warmLive v1) := by
  by_cases h0 : v1.orderId = 0 <;>
    simp [initOrder, convertV1Order, initWithOrder, warmLive, h0]

lemma initOrder_live_ne (s : OmsCoreV2) (v1 : OmsOrder) (hj : j ≠ v1.orderId) :
    (s.initOrder v1).orders.live.lookup j = s.orders.live.lookup j := by
  rw [initOrder_live]
  split_ifs
  · rfl
  · exact lookup_insert_ne hj

/-- Every record after a start was made from a persisted order. -/
lemma warmLive_of_start {m : LiveOrder} (hm : u.start.orders.live.lookup j = some m) :
    ∃ (s : OmsCoreV2) (v1 : OmsOrder), v1.orderId = j ∧ m = s.warmLive v1 := by
  refine start_induct (P := fun os => ∀ j m, os.live.lookup j = some m →
    ∃ (s : OmsCoreV2) (v1 : OmsOrder), v1.orderId = j ∧ m = s.warmLive v1) u
    (fun _ _ hm => by cases hm) ?_ j m hm
  intro s v1 h j m hm
  rw [initOrder_live] at hm
  split_ifs at hm
  · exact h j m hm
  · rw [lookup_insert_if] at hm
    split_ifs at hm with hj
    · exact ⟨s, v1, hj.symm, (some.inj hm).symm⟩
    · exact h j m hm

/-- Every record is filed under its own id after every start. -/
theorem ownIds_start : OwnIds u.start.orders := by
  intro j m hm
  obtain ⟨s, v1, rfl, rfl⟩ := warmLive_of_start u hm
  rfl

/-- Induction over a warm start whose orders have distinct ids: each is new to the store when it is
entered. -/
lemma warm_induct (hids : (u.orders.map (·.orderId)).Nodup)
    (h0 : P (OrderStoreV2.new u.maxCachedOrders u.useTimeEmulation u.subsecMicros))
    (hstep : ∀ (s : OmsCoreV2) (v1 : OmsOrder), P s.orders →
      s.orders.live.lookup v1.orderId = none → P (s.initOrder v1).orders) : P u.start.orders := by
  rw [OmsSetup.start, initState_orders]
  generalize hs : u.blank = s
  have hP : P s.orders := by
    rw [← hs]
    exact h0
  have hfresh : ∀ v1 ∈ u.orders, s.orders.live.lookup v1.orderId = none := by
    intro v1 _
    rw [← hs]
    rfl
  clear hs h0
  generalize u.orders = warm at hids hfresh ⊢
  induction warm generalizing s with
  | nil => exact hP
  | cons v1 warm ih =>
    rw [map_cons, nodup_cons] at hids
    refine ih (s.initOrder v1) (hstep s v1 hP (hfresh v1 mem_cons_self)) hids.2 ?_
    intro v2 hv2
    rw [initOrder_live_ne]
    · exact hfresh v2 (mem_cons_of_mem _ hv2)
    · intro heq
      exact hids.1 (heq ▸ mem_map_of_mem hv2)

end OmsCoreV2

end Zkbot
