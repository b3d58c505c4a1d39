import Zkbot.Oms.Panics

/-!
# Reports that overtake the linkage

The exchange names an order by its own reference.  A report that carries only the reference, and
arrives before the report that links the reference to the order, is kept in `pending_reports`.
Nothing takes it out again: the linkage does not replay it, so what it said is lost.

* `Silent` — reports that tell an order nothing new: no trade, no fill beyond what is known, no
  other status.
* `Outcome` — what is compared: the status, the cumulative fill and the trades of the order, and the
  positions.
* `NotLost` — at whatever point the stream of reports is cut off, and however many of them overtake
  the linkage, the outcome is that of delivering the linkage first.
* `overtaking_not_lost` — nothing is lost if all reports of the stream are silent about the order as
  the linkage leaves it, and only then if that order is at work.

The first half rests on `processReportForOrder_early`: reports that wait change nothing about the
linkage.  The second on `loud_step`: a report that is not silent changes the outcome when it comes
after the linkage.
-/

namespace Zkbot

open List Option Dict LiveOrder OrderReportEntry RefView ReportEffect

open InternTable OrderStoreV2 Sample

variable {l : LiveOrder} {r : OrderReport}

/-! ## What the entries of a report say about the status -/

/-- The status an entry gives its order: that of a state entry, or rejected. -/
def OrderReportEntry.namedStatus (e : OrderReportEntry) : Option OrderStatus :=
  match e.acted with
  | some (.orderStateReport r) =>
    if mapOrderStatus r.exchOrderStatus = .unspecified then none
    else some (mapOrderStatus r.exchOrderStatus)
  | some (.execReport r) =>
    if omsExecType r.execType = .placingOrder then some .rejected else none
  | _ => none

def OrderReport.namedStatuses (r : OrderReport) : List OrderStatus :=
  r.orderReportEntries.filterMap (·.namedStatus)

namespace ReportEffect

variable (qty : ℚ) (ts : Int) (lo : Bool) (v : ReportEffect) {e : OrderReportEntry}
  {x : OrderStatus}

lemma entry_status_of_none (hlink : e.linkedRef = none) (h : e.namedStatus = none) :
    (v.entry qty ts lo e).status = v.status := by
  simp only [linkedRef] at hlink
  simp only [namedStatus] at h
  simp only [entry]
  cases ha : e.acted with
  | none => rfl
  | some p =>
    rw [ha] at hlink h
    cases p with
    | orderIdLinkageReport linkage => cases hlink
    | orderStateReport r =>
      simp only at h
      split_ifs at h with hun
      simp [statusAfter, canUpdateStatus, hun]
    | execReport r =>
      simp only at h ⊢
      cases hx : omsExecType r.execType with
      | placingOrder => simp [hx] at h
      | cancel => rfl
      | unspecified => rfl
    | tradeReport t => rfl
    | feeReport f => rfl

/-- Only a settled order does not take the status it is given. -/
lemma entry_status_of_some (h : e.namedStatus = some x) :
    (v.entry qty ts lo e).status = x ∨
      v.status.isSettled = true ∧ (v.entry qty ts lo e).status = v.status := by
  simp only [namedStatus] at h
  simp only [entry]
  cases ha : e.acted with
  | none =>
    rw [ha] at h
    cases h
  | some p =>
    rw [ha] at h
    cases p with
    | orderStateReport r =>
      simp only at h
      split_ifs at h with hun
      cases h
      simp only [statusAfter]
      split_ifs with hc
      · exact .inl rfl
      · right
        refine ⟨?_, rfl⟩
        cases hv : v.status <;> simp [canUpdateStatus, hv, hun] at hc <;> rfl
    | execReport r =>
      simp only at h
      split_ifs at h with hx
      cases h
      simp only [hx]
      exact .inl trivial
    | orderIdLinkageReport linkage => cases h
    | tradeReport t => cases h
    | feeReport f => cases h

/-- If the entries name one status, the order takes it, unless another one has settled it. -/
lemma foldl_entry_status {es : List OrderReportEntry} (hlink : ∀ e ∈ es, e.linkedRef = none)
    (hone : ∀ e ∈ es, ∀ σ ∈ e.namedStatus, σ = x) {v : ReportEffect}
    (hv : v.status = x ∨ v.status.isSettled = false) :
    (es.foldl (entry qty ts lo) v).status =
      if es.any (fun e => e.namedStatus.isSome) then x else v.status := by
  induction es generalizing v with
  | nil => rfl
  | cons e es ih =>
    have hlink' : ∀ e' ∈ es, e'.linkedRef = none :=
      (forall_mem_cons.mp hlink).2
    have hone' : ∀ e' ∈ es, ∀ σ ∈ e'.namedStatus, σ = x :=
      (forall_mem_cons.mp hone).2
    rw [foldl_cons, any_cons]
    cases hn : e.namedStatus with
    | none =>
      have hst := entry_status_of_none qty ts lo v (hlink e mem_cons_self) hn
      rw [ih hlink' hone' (by rw [hst]; exact hv), hst]
      rfl
    | some σ =>
      obtain rfl : σ = x := hone e mem_cons_self σ hn
      have hst : (v.entry qty ts lo e).status = σ := by
        rcases entry_status_of_some qty ts lo v hn with h | ⟨hset, h⟩
        · exact h
        · rcases hv with hv | hv
          · rw [h, hv]
          · rw [hset] at hv
            cases hv
      rw [ih hlink' hone' (.inl hst), hst]
      simp

end ReportEffect

/-- A report without trades that names one status gives it to the order. -/
lemma reportEffect_status {x : OrderStatus} (hno : tradePayloads r.orderReportEntries = [])
    (hlink : r.linkedRefs = []) (hone : ∀ σ ∈ r.namedStatuses, σ = x)
    (hl : l.orderStatus = x ∨ l.orderStatus.isSettled = false) :
    (reportEffect l r).status = if r.namedStatuses = [] then l.orderStatus else x := by
  rw [reportEffect, finish_status, loopEntries_of_no_trades hno,
    foldl_entry_status _ _ _ (filterMap_eq_nil_iff.mp hlink)
      (fun e he σ hσ => hone σ (mem_filterMap.mpr ⟨e, he, hσ⟩)) hl]
  by_cases hn : r.namedStatuses = []
  · rw [if_pos hn, if_neg]
    · rfl
    · rw [OrderReport.namedStatuses, filterMap_eq_nil_iff] at hn
      simp only [List.any_eq_true, not_exists, not_and]
      intro e he
      simp [hn e he]
  · obtain ⟨σ, hσ⟩ := exists_mem_of_ne_nil _ hn
    obtain ⟨e, he, hnamed⟩ := mem_filterMap.mp hσ
    rw [if_neg hn, if_pos]
    exact List.any_eq_true.mpr ⟨e, he, by rw [hnamed]; rfl⟩

/-! ## Silent reports -/

/-- The entries of a report are tagged as what they are, and do not contradict each other about the
status. -/
structure Coherent (r : OrderReport) : Prop where
  tagged : ∀ e ∈ r.orderReportEntries, e.acted = e.report
  oneStatus : ∀ σ ∈ r.namedStatuses, ∀ σ' ∈ r.namedStatuses, σ = σ'

/-- A report that tells the order nothing new.  An order that is terminal is closed again by every
report that touches it, so only an empty one is silent there. -/
def Silent (l : LiveOrder) (r : OrderReport) : Prop :=
  if l.isInTerminalState then r.touches = false
  else NoNewFill l r ∧ ∀ σ ∈ r.namedStatuses, σ = l.orderStatus
deriving Decidable

lemma Silent.of_working (hwork : l.isInTerminalState = false) :
    Silent l r ↔ NoNewFill l r ∧ ∀ σ ∈ r.namedStatuses, σ = l.orderStatus := by
  rw [Silent, hwork]
  rfl

/-- What silence depends on. -/
def LiveOrder.progress (l : LiveOrder) : ℚ × OrderStatus × ℚ := (l.qty, l.orderStatus, l.filledQty)

lemma Silent.of_progress {l' : LiveOrder} (h : l'.progress = l.progress) (hsil : Silent l r) :
    Silent l' r := by
  obtain ⟨hqty, hst, hfill⟩ : l'.qty = l.qty ∧ l'.orderStatus = l.orderStatus ∧
      l'.filledQty = l.filledQty := by simpa [progress] using h
  simp only [Silent, NoNewFill, isInTerminalState, hqty, hst, hfill] at hsil ⊢
  exact hsil

lemma Silent.effect (hsil : Silent l r) (hlink : r.linkedRefs = []) :
    (reportEffect l r).status = l.orderStatus ∧ (reportEffect l r).filledQty = l.filledQty ∧
      (reportEffect l r).tradeFills = [] ∧ (reportEffect l r).fills = [] ∧ closes l r = false := by
  cases hterm : l.isInTerminalState with
  | true =>
    rw [Silent, hterm] at hsil
    have hupd := not_updated_of_not_touches hterm hsil
    rw [closes, hupd, reportEffect_of_not_updated hupd]
    exact ⟨rfl, rfl, rfl, rfl, rfl⟩
  | false =>
    obtain ⟨hnew, hst⟩ := (Silent.of_working hterm).mp hsil
    obtain ⟨hfilled, hfills⟩ := reportEffect_of_noNewFill hnew
    have hstatus : (reportEffect l r).status = l.orderStatus := by
      rw [reportEffect_status hnew.1 hlink hst (.inl rfl), ite_self]
    refine ⟨hstatus, hfilled, tradeFills_of_no_trades hnew.1, hfills, ?_⟩
    simp only [isInTerminalState] at hterm
    rw [closes, hstatus, hterm, Bool.and_false]

/-! ## Reports that wait change nothing about the linkage -/

lemma RefView.foldl_link {id : Int} {gwId : ℕ} {v : RefView} {ref : String} {refs : List String}
    (hne : refs ≠ []) (href : ∀ ρ ∈ refs, ρ = ref) :
    refs.foldl (link id gwId) v = v.link id gwId ref := by
  cases refs with
  | nil => exact absurd rfl hne
  | cons ρ refs =>
    obtain rfl : ρ = ref := href ρ mem_cons_self
    exact OmsCoreV2.foldl_link_same (forall_mem_cons.mp href).2 v

lemma OrderStoreV2.resolveOrderId_zero (os : OrderStoreV2) (gwId : ℕ) (ref : String) :
    os.resolveOrderId 0 gwId ref =
      (os.dynStrings.lookup ref).bind fun i => os.orderIdByExchRef.lookup (gwId, i) := by
  simp [resolveOrderId]

/-- The store after a report with the reference has been kept: the reference is interned. -/
def OrderStoreV2.knowing (os : OrderStoreV2) (ref : String) : OrderStoreV2 :=
  { os with dynStrings := (os.dynStrings.intern ref).1 }

lemma OrderStoreV2.updateLiveAndDetail_knowing {os os' : OrderStoreV2} {id : Int}
    {f : LiveOrder → OrderDetailLog → LiveOrder × OrderDetailLog}
    (h : os.updateLiveAndDetail id f = some os') (ref : String) :
    (os.knowing ref).updateLiveAndDetail id f = some (os'.knowing ref) := by
  simp only [updateLiveAndDetail, bind_eq_some] at h
  obtain ⟨l, hl, d, hd, h⟩ := h
  cases h
  simp [updateLiveAndDetail, knowing, hl, hd]

lemma InternTable.resolve_intern {t : InternTable} {i : ℕ} {str : String}
    (h : t.resolve i = some str) (ref : String) : (t.intern ref).1.resolve i = some str := by
  rw [← lookup_eq_some] at h ⊢
  exact lookup_intern_of_lookup h ref

namespace OmsCoreV2

variable {md : MetadataTables} {os : OrderStoreV2} {ts id : Int} {gwId : ℕ} {fl : ReportFlags}
  {ref : String} {actions : List OmsActionV2}

lemma tradeOf_knowing {t : TradeReport} {trade : Trade} (h : tradeOf md os l t ts = some trade)
    (ref : String) : tradeOf md (os.knowing ref) l t ts = some trade := by
  simp only [tradeOf, bind_eq_some] at h
  obtain ⟨str, hstr, code, hcode, h⟩ := h
  have hstr' : (os.knowing ref).exchRefString l = some str := by
    simp only [exchRefString] at hstr ⊢
    cases href : l.exchOrderRefId with
    | none =>
      rw [href] at hstr
      exact hstr
    | some i =>
      rw [href] at hstr
      exact resolve_intern hstr ref
  simp only [tradeOf, hstr', hcode, some_bind]
  exact h

lemma processEntry_knowing {lo : Bool} {os' : OrderStoreV2} {fl' : ReportFlags}
    {e : OrderReportEntry} (hlink : ∀ ρ ∈ e.linkedRef, ρ = ref)
    (h : processEntry md id gwId ts lo (os, fl) e = some (os', fl')) :
    processEntry md id gwId ts lo (os.knowing ref, fl) e = some (os'.knowing ref, fl') := by
  simp only [linkedRef] at hlink
  simp only [processEntry] at h ⊢
  cases ha : e.acted with
  | none =>
    rw [ha] at h
    cases h
    rfl
  | some p =>
    rw [ha] at h hlink
    cases p with
    | orderIdLinkageReport linkage =>
      obtain rfl : linkage.exchOrderRef = ref := hlink _ rfl
      have hreg : (os.knowing linkage.exchOrderRef).registerExchRef id gwId linkage.exchOrderRef
          = (os.registerExchRef id gwId linkage.exchOrderRef).knowing linkage.exchOrderRef := by
        simp [registerExchRef, knowing, intern_intern]
      simp only at h ⊢
      rw [hreg]
      cases lo with
      | false | true =>
        cases h
        rfl
    | orderStateReport r =>
      simp only [bind_eq_some] at h ⊢
      obtain ⟨before, hb, os₁, hos₁, after, haft, h⟩ := h
      cases h
      exact ⟨before, hb, _, updateLiveAndDetail_knowing hos₁ ref, after, haft, rfl⟩
    | tradeReport t =>
      simp only [bind_eq_some] at h ⊢
      obtain ⟨l, hl, trade, htrade, os₁, hos₁, h⟩ := h
      cases h
      exact ⟨l, hl, trade, tradeOf_knowing htrade ref, _, updateLiveAndDetail_knowing hos₁ ref, rfl⟩
    | execReport r =>
      simp only at h ⊢
      split_ifs at h ⊢
      · simp only [bind_eq_some] at h ⊢
        obtain ⟨os₁, hos₁, h⟩ := h
        cases h
        exact ⟨_, updateLiveAndDetail_knowing hos₁ ref, rfl⟩
      · cases h
        rfl
    | feeReport f =>
      simp only [bind_eq_some] at h ⊢
      obtain ⟨l, hl, d, hd, h⟩ := h
      cases h
      exact ⟨l, hl, d, hd, rfl⟩

lemma foldlM_processEntry_knowing {lo : Bool} {es : List OrderReportEntry}
    (hlink : ∀ e ∈ es, ∀ ρ ∈ e.linkedRef, ρ = ref) :
    ∀ {os os' : OrderStoreV2} {fl fl' : ReportFlags},
      es.foldlM (processEntry md id gwId ts lo) (os, fl) = some (os', fl') →
      es.foldlM (processEntry md id gwId ts lo) (os.knowing ref, fl) =
        some (os'.knowing ref, fl') := by
  induction es with
  | nil =>
    intro os os' fl fl' h
    cases h
    rfl
  | cons e es ih =>
    intro os os' fl fl' h
    rw [foldlM_cons, bind_eq_some] at h
    obtain ⟨⟨os₁, fl₁⟩, h₁, h₂⟩ := h
    rw [foldlM_cons, processEntry_knowing (hlink e mem_cons_self) h₁]
    exact ih (forall_mem_cons.mp hlink).2 h₂

/-! What waits plays no part in the handling of a report. -/

lemma unfreezeRemaining_pending (s : OmsCoreV2) (id a : Int) (flags : OrderAccountingFlags)
    (P : Dict (ℕ × ℕ) (List OrderReport)) :
    { s with pendingReports := P }.unfreezeRemaining id a flags =
      { s.unfreezeRemaining id a flags with pendingReports := P } := by
  simp only [unfreezeRemaining]
  cases flags.posInstrumentId with
  | none => rfl
  | some posId => split_ifs <;> rfl

lemma handleTerminal_pending (s : OmsCoreV2) (id : Int) (l : LiveOrder)
    (P : Dict (ℕ × ℕ) (List OrderReport)) :
    { s with pendingReports := P }.handleTerminal id l =
      ({ (s.handleTerminal id l).1 with pendingReports := P }, (s.handleTerminal id l).2) := by
  simp only [handleTerminal]
  cases l.isInTerminalState with
  | false => rfl
  | true =>
    simp only [if_true]
    rw [unfreezeRemaining_pending { s with reservations := s.reservations.release id }]

lemma finishReport_pending {s t : OmsCoreV2} {tb ib : ℕ}
    (h : s.finishReport id ts tb ib fl = some (t, actions)) (P : Dict (ℕ × ℕ) (List OrderReport)) :
    { s with pendingReports := P }.finishReport id ts tb ib fl =
      some ({ t with pendingReports := P }, actions) := by
  simp only [finishReport, foldl_applyFill, bind_eq_some] at h ⊢
  obtain ⟨l, hl, fills, hfills, h⟩ := h
  cases h
  refine ⟨l, hl, fills, hfills, ?_⟩
  rw [handleTerminal_pending { s with
    orders := { s.orders with live := s.orders.live.insert id (finalizeLive l) }
    positions := applyDeltas s.positions (fillDeltas (finalizeLive l) fills) ts
    reservations := releaseFills s.reservations id (finalizeLive l) fills }]

/-- **Waiting reports change nothing about the linkage.**  A report that links `ref` and nothing
else does the same whether or not reports with that reference have come before it. -/
lemma processReportForOrder_early {s t : OmsCoreV2} (hl : s.orders.live.lookup id = some l)
    (hne : r.linkedRefs ≠ []) (href : ∀ ρ ∈ r.linkedRefs, ρ = ref)
    (h : s.processReportForOrder id gwId r = some (t, actions))
    (P : Dict (ℕ × ℕ) (List OrderReport)) :
    { s with orders := s.orders.knowing ref, pendingReports := P }.processReportForOrder id gwId r =
      some ({ t with pendingReports := P }, actions) := by
  simp only [processReportForOrder, hl, bind_eq_some] at h
  obtain ⟨⟨os, fl⟩, hloop, h⟩ := h
  have hlink : ∀ e ∈ loopEntries l r, ∀ ρ ∈ e.linkedRef, ρ = ref := by
    intro e he ρ hρ
    refine href ρ ?_
    rw [← filterMap_linkedRef_loopEntries l r]
    exact mem_filterMap.mpr ⟨e, he, hρ⟩
  -- the reference is interned by the linkage anyway
  have hknown : os.knowing ref = os := by
    obtain ⟨l₁, -, hview⟩ := foldlM_processEntry_refView (loopEntries l r) (touch_live ..) hloop
    rw [filterMap_linkedRef_loopEntries, foldl_link hne href] at hview
    have hstr : os.dynStrings = (s.orders.dynStrings.intern ref).1 := congrArg strings hview
    rw [knowing, hstr, intern_intern, ← hstr]
  have hloop' : { s with orders := s.orders.knowing ref, pendingReports := P }.reportLoop id gwId
      r l = some (os, fl) := by
    have := foldlM_processEntry_knowing hlink hloop
    rw [hknown] at this
    exact this
  have hl' : (s.orders.knowing ref).live.lookup id = some l := hl
  simp only [processReportForOrder, hl', hloop', some_bind]
  split_ifs at h ⊢
  · exact finishReport_pending h P
  · cases h
    rfl

/-! ## Delivery -/

/-- What is compared: the order's status, its cumulative fill and its trades, and the positions. -/
structure Outcome where
  status : Option OrderStatus
  filledQty : Option ℚ
  trades : Option (List Trade)
  positions : PositionStoreV2

def outcome (s : OmsCoreV2) (id : Int) : Outcome where
  status := (s.orders.live.lookup id).map (·.orderStatus)
  filledQty := (s.orders.live.lookup id).map (·.filledQty)
  trades := (s.orders.detail.lookup id).map (·.trades)
  positions := s.positions

/-- Two orders of delivery are both handled, with the same outcome. -/
def SameOutcome (s : OmsCoreV2) (id : Int) (rs rs' : List OrderReport) : Prop :=
  ∃ t t', run reportStep s rs = some t ∧ run reportStep s rs' = some t' ∧
    t.outcome id = t'.outcome id

/-- **Reports that overtake the linkage are not lost**: at whatever point the stream `rs` is cut
off, and however many of its reports arrive before the linkage report `r`, the outcome is that of
delivering `r` first. -/
def NotLost (s : OmsCoreV2) (id : Int) (r : OrderReport) (rs : List OrderReport) : Prop :=
  ∀ early late, early ++ late <+: rs → s.SameOutcome id (early ++ r :: late) (r :: (early ++ late))

/-- The report `r` names order `id` and links it to the reference `ref`, which no order has. -/
@[mk_iff] structure Links (s : OmsCoreV2) (id : Int) (gwKey ref : String) (r : OrderReport) :
    Prop where
  external : s.handleExternalOrders = false
  gateway : ∃ gwId ∈ s.metadata.gwIdOfKey gwKey,
    s.orders.orderIdByExchRef.lookup (gwId, (s.orders.dynStrings.intern ref).2) = none
  named : ref ≠ ""
  order : id ≠ 0 ∧ id ∈ s.orders.live
  exchange : r.exchange = gwKey
  orderId : r.orderId = id
  links : r.linkedRefs ≠ []
  linksRef : ∀ ρ ∈ r.linkedRefs, ρ = ref

instance (s : OmsCoreV2) (id : Int) (gwKey ref : String) (r : OrderReport) :
    Decidable (s.Links id gwKey ref r) :=
  decidable_of_iff' _ (links_iff ..)

/-- A report that carries the reference only, and links nothing. -/
@[mk_iff] structure RefOnly (gwKey ref : String) (r : OrderReport) : Prop where
  exchange : r.exchange = gwKey
  orderId : r.orderId = 0
  exchOrderRef : r.exchOrderRef = ref
  unlinked : r.linkedRefs = []

instance (gwKey ref : String) (r : OrderReport) : Decidable (RefOnly gwKey ref r) :=
  decidable_of_iff' _ (refOnly_iff ..)

section Early

variable {s s' : OmsCoreV2} {id : Int} {gwKey ref : String} {r r₀ : OrderReport}

lemma reportStep_of_resolve (hr : RefOnly gwKey ref r) {gwId : ℕ}
    (hgw : s.metadata.gwIdOfKey gwKey = some gwId)
    (hres : s.orders.resolveOrderId 0 gwId ref = some id) :
    s.reportStep r = (s.processReportForOrder id gwId r).map (·.1) := by
  simp [reportStep, step, processOrderReport, hr.exchange, hgw, hr.orderId, hr.exchOrderRef, hres]

lemma reportStep_of_unresolved (hr : RefOnly gwKey ref r) (hne : ref ≠ "") {gwId : ℕ}
    (hext : s.handleExternalOrders = false) (hgw : s.metadata.gwIdOfKey gwKey = some gwId)
    (hres : s.orders.resolveOrderId 0 gwId ref = none) :
    s.reportStep r = some (s.bufferReport gwId r) := by
  simp [reportStep, step, processOrderReport, hr.exchange, hgw, hr.orderId,
    hr.exchOrderRef, hres, hne, hext]

/-! ### Before the linkage -/

/-- `s'` is `s` with reports waiting under the reference. -/
def Waiting (s : OmsCoreV2) (ref : String) (s' : OmsCoreV2) : Prop :=
  s' = s ∨ ∃ P, s' = { s with orders := s.orders.knowing ref, pendingReports := P }

lemma waiting_step (hset : s.Links id gwKey ref r₀) (hr : RefOnly gwKey ref r)
    (hs : s.Waiting ref s') : ∃ s'', reportStep s' r = some s'' ∧ s.Waiting ref s'' := by
  obtain ⟨gwId, hgw, hfree⟩ := hset.gateway
  have hresolve : s'.orders.resolveOrderId 0 gwId ref = none := by
    have hnone : ∀ os : OrderStoreV2, os.orderIdByExchRef = s.orders.orderIdByExchRef →
        (∀ i, os.dynStrings.lookup ref = some i → i = (s.orders.dynStrings.intern ref).2) →
        os.resolveOrderId 0 gwId ref = none := by
      intro os hidx hdyn
      rw [resolveOrderId_zero]
      cases hi : os.dynStrings.lookup ref with
      | none => rfl
      | some i =>
        rw [hdyn i hi, hidx]
        exact hfree
    rcases hs with rfl | ⟨P, rfl⟩
    · refine hnone _ rfl ?_
      intro i hi
      rw [intern_of_lookup hi]
    · refine hnone _ rfl ?_
      intro i hi
      have hself := lookup_intern_self s.orders.dynStrings ref
      exact mem_unique hi hself
  have hbuffer : reportStep s' r = some (s'.bufferReport gwId r) := by
    have hgw' : s'.metadata.gwIdOfKey gwKey = some gwId := by
      rcases hs with rfl | ⟨P, rfl⟩ <;> exact hgw
    have hext : s'.handleExternalOrders = false := by
      rcases hs with rfl | ⟨P, rfl⟩ <;> exact hset.external
    exact reportStep_of_unresolved hr hset.named hext hgw' hresolve
  refine ⟨_, hbuffer, .inr ⟨(s'.bufferReport gwId r).pendingReports, ?_⟩⟩
  rcases hs with rfl | ⟨P, rfl⟩
  · rw [← hr.exchOrderRef]
    rfl
  · simp [bufferReport, hr.exchOrderRef, knowing, intern_intern]

lemma reportStep_linkage (hset : s.Links id gwKey ref r) (hs : s.Waiting ref s') :
    ∃ gwId ∈ s.metadata.gwIdOfKey gwKey,
      s'.reportStep r = (s'.processReportForOrder id gwId r).map (·.1) := by
  obtain ⟨gwId, hgw, -⟩ := hset.gateway
  obtain ⟨hid, hlive⟩ := hset.order
  refine ⟨gwId, hgw, ?_⟩
  have hgw' : s'.metadata.gwIdOfKey gwKey = some gwId := by
    rcases hs with rfl | ⟨P, rfl⟩ <;> exact hgw
  have hmem : id ∈ s'.orders.live := by
    rcases hs with rfl | ⟨P, rfl⟩ <;> exact hlive
  simp [reportStep, step, processOrderReport, hset.exchange, hgw', hset.orderId, resolveOrderId,
    hid, hmem]

/-- After the linkage nothing tells that reports were waiting, but that they still are. -/
lemma reportStep_linkage_waiting (hset : s.Links id gwKey ref r) (hs : s.Waiting ref s')
    {t : OmsCoreV2} (ht : s.reportStep r = some t) :
    ∃ P, s'.reportStep r = some { t with pendingReports := P } := by
  obtain ⟨gwId, hgw, heq⟩ := reportStep_linkage hset hs
  obtain ⟨gwId₀, hgw₀, heq₀⟩ := reportStep_linkage hset (.inl rfl)
  obtain rfl : gwId₀ = gwId := mem_unique hgw₀ hgw
  rw [heq₀] at ht
  obtain ⟨actions, hproc⟩ := exists_actions ht
  obtain ⟨l, hl⟩ := mem_iff_lookup.mp hset.order.2
  rw [heq]
  rcases hs with rfl | ⟨P, rfl⟩
  · exact ⟨t.pendingReports, ht⟩
  · refine ⟨P, ?_⟩
    rw [processReportForOrder_early hl hset.links hset.linksRef hproc P]
    rfl

/-- A run in which reports overtake the linkage, up to the linkage. -/
lemma early_run (hset : s.Links id gwKey ref r₀) {t : OmsCoreV2} (ht : s.reportStep r₀ = some t)
    {early : List OrderReport} (hearly : ∀ r ∈ early, RefOnly gwKey ref r)
    (late : List OrderReport) :
    ∃ P, run reportStep s (early ++ r₀ :: late) =
      run reportStep { t with pendingReports := P } late := by
  obtain ⟨s', hs', hwait⟩ := run_total (I := s.Waiting ref)
    (fun _ r hr h => waiting_step hset (hearly r hr) h) (.inl rfl)
  obtain ⟨P, hP⟩ := reportStep_linkage_waiting hset hwait ht
  refine ⟨P, ?_⟩
  rw [run_append, hs', bind_some, run_cons, hP, bind_some]

end Early

/-! ### After the linkage -/

section After

variable {s t : OmsCoreV2} {id : Int} {gwKey ref : String} {r : OrderReport} {l : LiveOrder}

/-- What the linkage report does, and what becomes of the reference: it stands for the order, unless
closing the order has removed it. -/
lemma linkage_spec (hk : SameKeys s.orders) (hset : s.Links id gwKey ref r)
    (ht : s.reportStep r = some t) :
    ∃ gwId ∈ s.metadata.gwIdOfKey gwKey, ∃ l₀ d₀ os l' d',
      s.orders.live.lookup id = some l₀ ∧ ReportSpec s id gwId r l₀ d₀ t os l' d' ∧
      os.resolveOrderId 0 gwId ref = some id := by
  obtain ⟨gwId, hgw, heq⟩ := reportStep_linkage hset (.inl rfl)
  rw [heq] at ht
  obtain ⟨actions, hproc⟩ := exists_actions ht
  obtain ⟨l₀, hl₀⟩ := mem_iff_lookup.mp hset.order.2
  obtain ⟨d₀, hd₀⟩ := hk.detail hl₀
  obtain ⟨os, l', d', spec⟩ := (processReportForOrder_spec hl₀ hd₀ hproc).1
  refine ⟨gwId, hgw, l₀, d₀, os, l', d', hl₀, spec, ?_⟩
  have hview := reportSpec_refView spec
  rw [foldl_link hset.links hset.linksRef] at hview
  have hidx : os.orderIdByExchRef =
      s.orders.orderIdByExchRef.insert (gwId, (s.orders.dynStrings.intern ref).2) id :=
    congrArg index hview
  have hstr : os.dynStrings = (s.orders.dynStrings.intern ref).1 := congrArg strings hview
  rw [resolveOrderId_zero, hidx, hstr, lookup_intern_self, bind_some]
  exact AList.lookup_insert _

/-- `s` is as the linkage left it, in `t`, but for reports that changed nothing.  The reference
stands for the order, or for nothing; the latter only if the order is no longer at work. -/
structure Linked (gwKey ref : String) (id : Int) (t s : OmsCoreV2) : Prop where
  external : s.handleExternalOrders = false
  keys : SameKeys s.orders
  live : (s.orders.live.lookup id).map (·.progress) = (t.orders.live.lookup id).map (·.progress)
  trades : (s.orders.detail.lookup id).map (·.trades) = (t.orders.detail.lookup id).map (·.trades)
  positions : s.positions = t.positions
  gateway : ∃ gwId ∈ s.metadata.gwIdOfKey gwKey, ref ∈ s.orders.dynStrings.idsByStr ∧
    (s.orders.resolveOrderId 0 gwId ref = some id ∨ s.orders.resolveOrderId 0 gwId ref = none ∧
      ∀ l ∈ t.orders.live.lookup id, l.isInTerminalState = true)

section

variable (h : Linked gwKey ref id t s)
include h

lemma Linked.outcome_eq : s.outcome id = t.outcome id := by
  have hst := congrArg (Option.map fun x => x.2.1) h.live
  have hfill := congrArg (Option.map fun x => x.2.2) h.live
  simp only [Option.map_map] at hst hfill
  simp only [outcome, h.trades, h.positions, Outcome.mk.injEq, and_true]
  exact ⟨hst, hfill⟩

lemma Linked.exists_live {l' : LiveOrder} (hl' : s.orders.live.lookup id = some l') :
    ∃ l, t.orders.live.lookup id = some l ∧ l'.progress = l.progress := by
  have hlive := h.live
  rw [hl', map_some] at hlive
  obtain ⟨l, hl, heq⟩ := map_eq_some_iff.mp hlive.symm
  exact ⟨l, hl, heq.symm⟩

lemma Linked.buffer (hr : r.exchOrderRef = ref) (gwId : ℕ) :
    Linked gwKey ref id t (s.bufferReport gwId r) := by
  obtain ⟨gwId', hgw, hknown, hres⟩ := h.gateway
  obtain ⟨i, hi⟩ := mem_iff_lookup.mp hknown
  have hsame : (s.bufferReport gwId r).orders = s.orders := by
    have hintern := intern_of_lookup (t := s.orders.dynStrings) hi
    simp [bufferReport, hr, hintern]
  exact ⟨h.external, hsame ▸ h.keys, hsame ▸ h.live, hsame ▸ h.trades, h.positions,
    gwId', hgw, hsame ▸ hknown, hsame ▸ hres⟩

lemma Linked.silent (hlink : r.linkedRefs = []) {gwId : ℕ} (hl : s.orders.live.lookup id = some l)
    (hsil : Silent l r) :
    ∃ s', (s.processReportForOrder id gwId r).map (·.1) = some s' ∧ Linked gwKey ref id t s' := by
  obtain ⟨d, hd⟩ := h.keys.detail hl
  obtain ⟨hstatus, hfilled, htrades, hfills, hopen⟩ := hsil.effect hlink
  obtain ⟨⟨s', actions⟩, hproc⟩ := processReportForOrder_total gwId hl hd (.inl htrades)
  obtain ⟨os, l', d', spec⟩ := (processReportForOrder_spec hl hd hproc).1
  have horders : s'.orders = os := by
    rw [spec.orders, hopen]
    rfl
  have hview := reportSpec_refView spec
  rw [hlink, foldl_nil] at hview
  have hidx : os.orderIdByExchRef = s.orders.orderIdByExchRef := congrArg index hview
  have hstr : os.dynStrings = s.orders.dynStrings := congrArg strings hview
  refine ⟨s', by rw [hproc]; rfl, ?_, h.keys.reportSpec spec, ?_, ?_, ?_, ?_⟩
  · rw [spec.rest]
    exact h.external
  · rw [← h.live, hl, horders, spec.live, map_some, map_some, progress,
      progress, qty_of_terms spec.follows.terms, spec.follows.status, hstatus,
      spec.follows.filledQty, hfilled]
  · rw [← h.trades, hd, horders, spec.detail, map_some, map_some, spec.follows.trades_eq htrades]
  · rw [spec.positions, hopen, hfills, fillDeltas_nil]
    exact h.positions
  · obtain ⟨gwId', hgw, hknown, hres⟩ := h.gateway
    refine ⟨gwId', by rw [spec.rest]; exact hgw, ?_, ?_⟩
    · rw [horders, hstr]
      exact hknown
    · rw [horders, resolveOrderId_zero, hidx, hstr, ← resolveOrderId_zero]
      exact hres

/-- **Silent reports change nothing**: not where the order is at work, not where it is terminal, and
not where it is gone. -/
lemma silent_step (hr : RefOnly gwKey ref r) (hne : ref ≠ "")
    (hsil : ∀ l ∈ t.orders.live.lookup id, Silent l r) :
    ∃ s', s.reportStep r = some s' ∧ Linked gwKey ref id t s' := by
  obtain ⟨gwId, hgw, -, hres | ⟨hres, -⟩⟩ := h.gateway
  · rw [reportStep_of_resolve hr hgw hres]
    cases hl : s.orders.live.lookup id with
    | none =>
      refine ⟨s, ?_, h⟩
      simp [processReportForOrder, hl]
    | some l' =>
      obtain ⟨l, hl', hprog⟩ := h.exists_live hl
      exact h.silent hr.unlinked hl ((hsil l hl').of_progress hprog)
  · exact ⟨_, reportStep_of_unresolved hr hne h.external hgw hres, h.buffer hr.exchOrderRef gwId⟩

end

lemma linked_linkage (hk : SameKeys s.orders) (hset : s.Links id gwKey ref r)
    (ht : s.reportStep r = some t) : Linked gwKey ref id t t := by
  obtain ⟨gwId, hgw, l₀, d₀, os, l', d', hl₀, spec, hres⟩ := linkage_spec hk hset ht
  have hknown : ref ∈ os.dynStrings.idsByStr := by
    rw [resolveOrderId_zero, bind_eq_some_iff] at hres
    obtain ⟨i, hi, -⟩ := hres
    exact mem_of_lookup hi
  refine ⟨?_, hk.reportSpec spec, rfl, rfl, rfl, gwId, ?_, ?_, ?_⟩
  · rw [spec.rest]
    exact hset.external
  · rw [spec.rest]
    exact hgw
  · rw [spec.orders]
    split_ifs
    · rw [markClosed_dynStrings]
      exact hknown
    · exact hknown
  · rw [resolveOrderId_zero] at hres ⊢
    cases hc : closes l₀ r with
    | false =>
      rw [spec.orders, hc]
      exact .inl hres
    | true =>
      -- closing the order can remove the reference, by evicting an order that carries it
      have hterm : ∀ l ∈ t.orders.live.lookup id, l.isInTerminalState = true := by
        intro l hl
        rw [spec.live_self hl, isInTerminalState, spec.follows.status]
        exact (Bool.and_eq_true_iff.mp hc).2
      have horders : t.orders = os.markClosed id := by
        rw [spec.orders, hc]
        rfl
      obtain ⟨i, hi, hid⟩ := bind_eq_some_iff.mp hres
      rw [horders, markClosed_dynStrings, hi, bind_some, markClosed_refs]
      split_ifs
      · exact .inr ⟨rfl, horders ▸ hterm⟩
      · exact .inl hid

lemma outcome_of_spec {s' : OmsCoreV2} {gwId : ℕ} {os : OrderStoreV2} {l' : LiveOrder}
    {d' : OrderDetailLog} (spec : ReportSpec s id gwId r l d s' os l' d') {o : Outcome}
    (ho : s'.outcome id = o) :
    (∀ σ ∈ o.status, σ = (reportEffect l r).status) ∧
      (∀ q ∈ o.filledQty, q = (reportEffect l r).filledQty) ∧
      ∀ trades ∈ o.trades, trades = d'.trades := by
  subst ho
  refine ⟨?_, ?_, ?_⟩
  · intro σ hσ
    obtain ⟨m, hm, rfl⟩ := map_eq_some_iff.mp hσ
    rw [spec.live_self hm, spec.follows.status]
  · intro q hq
    obtain ⟨m, hm, rfl⟩ := map_eq_some_iff.mp hq
    rw [spec.live_self hm, spec.follows.filledQty]
  · intro trades htrades
    obtain ⟨m, hm, rfl⟩ := map_eq_some_iff.mp htrades
    rw [spec.orders] at hm
    split_ifs at hm
    · rw [markClosed_detail] at hm
      split_ifs at hm
      rw [spec.detail, some.injEq] at hm
      rw [hm]
    · rw [spec.detail, some.injEq] at hm
      rw [hm]

lemma le_filledQty_of_announced {b : ℚ} (hno : tradePayloads r.orderReportEntries = [])
    (hb : b ∈ r.announcedFills l.qty) (hpos : 0 < b) : b ≤ (reportEffect l r).filledQty := by
  obtain ⟨e, he, hst⟩ := mem_filterMap.mp hb
  obtain ⟨es, es', hsplit⟩ := append_of_mem he
  rw [reportEffect, finish_filledQty, loopEntries_of_no_trades hno, hsplit,
    foldl_append, foldl_cons]
  refine foldl_entry_induct (P := fun v => b ≤ v.filledQty) ?_ ?_
  · intro e' _ v hv
    exact hv.trans (v.filledQty_le_entry _ _ _ e')
  · rw [entry_filledQty, hst, elim_some, if_neg hpos.ne']
    exact le_max_left _ _

/-- **A report that is not silent changes the outcome** of an order that is at work. -/
lemma loud_step (h : Linked gwKey ref id t s) (hl : t.orders.live.lookup id = some l)
    (hwork : l.isInTerminalState = false) (hpos : 0 ≤ l.filledQty) (hr : RefOnly gwKey ref r)
    (hco : Coherent r) (hloud : ¬ Silent l r) {s' : OmsCoreV2} (hs' : s.reportStep r = some s') :
    s'.outcome id ≠ t.outcome id := by
  intro hsame
  -- the order of `s`, and what the report leaves of it
  have hlive := h.live
  rw [hl, map_some] at hlive
  obtain ⟨l', hl', hprog⟩ := map_eq_some_iff.mp hlive
  obtain ⟨hqty, hst, hfill⟩ : l'.qty = l.qty ∧ l'.orderStatus = l.orderStatus ∧
      l'.filledQty = l.filledQty := by simpa [progress] using hprog
  obtain ⟨d', hd'⟩ := h.keys.detail hl'
  obtain ⟨gwId, hproc⟩ : ∃ gwId, s.reportStep r =
      (s.processReportForOrder id gwId r).map (·.1) := by
    obtain ⟨gwId, hgw, -, hres⟩ := h.gateway
    refine ⟨gwId, reportStep_of_resolve hr hgw (hres.resolve_right ?_)⟩
    rintro ⟨-, hterm⟩
    rw [hterm l hl] at hwork
    cases hwork
  rw [hproc] at hs'
  obtain ⟨actions, hproc⟩ := exists_actions hs'
  obtain ⟨os, l'', d'', spec⟩ := (processReportForOrder_spec hl' hd' hproc).1
  have hout : s'.outcome id =
      ⟨some l'.orderStatus, some l'.filledQty, some d'.trades, s.positions⟩ := by
    rw [hsame, ← h.outcome_eq, outcome, hl', hd']
    rfl
  obtain ⟨hstatus, hfilled, htrades⟩ := outcome_of_spec spec hout
  replace hstatus := hstatus _ rfl
  replace hfilled := hfilled _ rfl
  replace htrades := htrades _ rfl
  apply hloud
  rw [Silent.of_working hwork]
  -- the trades of the order are the same, so the report has none
  have hno : tradePayloads r.orderReportEntries = [] := by
    have hlen := congrArg List.length spec.follows.trades
    rw [length_append, length_map, length_map, ← htrades, reportEffect_tradeFills,
      left_eq_add, length_eq_zero_iff, OrderReport.tradeQtys, filterMap_eq_nil_iff]
      at hlen
    rw [tradePayloads, filterMap_eq_nil_iff]
    intro e he
    have hqtye := hlen e he
    rw [tradeQty, hco.tagged e he] at hqtye
    cases hrep : e.report with
    | none => rfl
    | some p =>
      rw [hrep] at hqtye
      cases p <;> first | rfl | cases hqtye
  refine ⟨⟨hno, ?_⟩, ?_⟩
  · intro b hb
    by_contra hgt
    have hle := le_filledQty_of_announced (l := l') hno (by rw [hqty]; exact hb)
      (hpos.trans_lt (not_le.mp hgt))
    rw [← hfilled, hfill] at hle
    exact hgt hle
  · intro σ hσ
    have hsettled : l'.orderStatus.isSettled = false := by
      by_contra hcon
      have hterm := OrderStatus.isTerminal_of_isSettled (Bool.not_eq_false _ ▸ hcon)
      rw [hst] at hterm
      exact Bool.false_ne_true (hwork.symm.trans hterm)
    rw [← hst, hstatus, reportEffect_status hno hr.unlinked
      (fun σ' hσ' => hco.oneStatus σ' hσ' σ hσ) (.inr hsettled), if_neg (ne_nil_of_mem hσ)]

/-- Once the linkage is there, silent reports change nothing, however many they are. -/
lemma silent_run (h : Linked gwKey ref id t s) (hne : ref ≠ "") {rs : List OrderReport}
    (hrs : ∀ r ∈ rs, RefOnly gwKey ref r)
    (hsil : ∀ l ∈ t.orders.live.lookup id, ∀ r ∈ rs, Silent l r) :
    ∃ s', run reportStep s rs = some s' ∧ Linked gwKey ref id t s' :=
  run_total (I := Linked gwKey ref id t)
    (fun _ r hr h => silent_step h (hrs r hr) hne fun l hl => hsil l hl r hr) h

end After

/-- **Overtaking.**  Reports that carry the reference only are not lost when they overtake the
report that links it, at whatever point their stream is cut off, if each of them is silent about the
order as the linkage leaves it.  If the linkage leaves the order at work, they are lost
otherwise. -/
theorem overtaking_not_lost (u : OmsSetup) (evs : List OmsEvent) (s : OmsCoreV2)
    (hrun : run handle u.start evs = some s) (id : Int) (gwKey ref : String) (r₀ : OrderReport)
    (hlinks : s.Links id gwKey ref r₀) (t : OmsCoreV2) (ht : s.reportStep r₀ = some t)
    (rs : List OrderReport) (hrs : ∀ r ∈ rs, RefOnly gwKey ref r) :
    ((∀ l ∈ t.orders.live.lookup id, ∀ r ∈ rs, Silent l r) → s.NotLost id r₀ rs) ∧
      ∀ l ∈ t.orders.live.lookup id, l.isInTerminalState = false → 0 ≤ l.filledQty →
        (∀ r ∈ rs, Coherent r) → s.NotLost id r₀ rs → ∀ r ∈ rs, Silent l r := by
  have hlinked := linked_linkage (sameKeys_run (sameKeys_start u) hrun) hlinks ht
  constructor
  · intro hsil early late hpre
    have hmem : ∀ r ∈ early ++ late, RefOnly gwKey ref r := fun r hr => hrs r (hpre.subset hr)
    obtain ⟨P, hP⟩ := early_run hlinks ht (forall_mem_append.mp hmem).1 late
    have hlinkedP : Linked gwKey ref id t { t with pendingReports := P } := { hlinked with }
    obtain ⟨t₁, h₁, hl₁⟩ := silent_run hlinkedP hlinks.named
      (forall_mem_append.mp hmem).2
      fun l hl r hr => hsil l hl r (hpre.subset (mem_append_right _ hr))
    obtain ⟨t₂, h₂, hl₂⟩ := silent_run hlinked hlinks.named hmem
      fun l hl r hr => hsil l hl r (hpre.subset hr)
    refine ⟨t₁, t₂, hP.trans h₁, ?_, hl₁.outcome_eq.trans hl₂.outcome_eq.symm⟩
    rw [run_cons, ht]
    exact h₂
  · -- cut the stream off after each report in turn; all reports before it are silent
    intro l hl hwork hpos hco hnot
    induction rs using List.reverseRecOn with
    | nil => simp
    | append_singleton rs r ih =>
      have hsil : ∀ r ∈ rs, Silent l r := by
        refine ih (forall_mem_append.mp hrs).1
          (forall_mem_append.mp hco).1 ?_
        intro early late hpre
        exact hnot early late (hpre.trans (prefix_append rs [r]))
      have hmem : r ∈ rs ++ [r] := mem_append_right _ mem_cons_self
      intro r' hr'
      rcases mem_append.mp hr' with hr' | hr'
      · exact hsil r' hr'
      · rw [mem_singleton] at hr'
        subst hr'
        by_contra hloud
        obtain ⟨t₁, t₂, h₁, h₂, hsame⟩ := hnot (rs ++ [r']) [] (by rw [append_nil])
        -- if all of them overtake the linkage, it alone counts
        obtain ⟨P, hP⟩ := early_run hlinks ht hrs []
        rw [hP] at h₁
        cases h₁
        -- if none does, the last one changes the outcome
        rw [append_nil, run_cons, ht, bind_some, run_append_eq_some] at h₂
        obtain ⟨s', hs', h₂⟩ := h₂
        obtain ⟨t', ht', h₂⟩ := run_cons_eq_some.mp h₂
        cases h₂
        obtain ⟨s'', hs'', hlinked'⟩ := silent_run hlinked hlinks.named
          (forall_mem_append.mp hrs).1 fun m hm r hr => by
            rw [mem_def, hl, some.injEq] at hm
            exact hm ▸ hsil r hr
        obtain rfl := mem_unique hs' hs''
        exact loud_step hlinked' hl hwork hpos (hrs r' hmem) (hco r' hmem) hloud ht' hsame.symm

open Sample

/-- A linkage books the order by itself, so a report that it is booked may overtake it. -/
theorem overtaking_sample :
    ∃ s ∈ run handle (setup false false 4).start [place 10 .buy 5],
      s.NotLost 10 linkReport [bookedReport] := by
  refine exists_mem_imp (P := fun s => s.Links 10 "gw" "a" linkReport ∧
    ∃ t ∈ s.reportStep linkReport, (∀ r ∈ [bookedReport], RefOnly "gw" "a" r) ∧
      ∀ l ∈ t.orders.live.lookup 10, ∀ r ∈ [bookedReport], Silent l r) (by decide +kernel) ?_
  rintro s hs ⟨hlinks, t, ht, hrs, hsil⟩
  exact (overtaking_not_lost _ _ s hs 10 "gw" "a" _ hlinks t ht _ hrs).1 hsil

/-- A fill that overtakes the linkage is lost: nothing is filled, where two are if the linkage comes
first. -/
theorem overtaking_loses_fill :
    ∃ s ∈ run handle (setup false false 4).start [place 10 .buy 5],
      s.Links 10 "gw" "a" linkReport ∧ RefOnly "gw" "a" fillReport ∧
      ¬ s.SameOutcome 10 [fillReport, linkReport] [linkReport, fillReport] := by
  refine exists_mem_imp ?_ fun s _ => And.imp_right <| And.imp_right (a := ∃ t ∈ run reportStep s
    [fillReport, linkReport], ∃ t' ∈ run reportStep s [linkReport, fillReport],
      (t.outcome 10).filledQty = some 0 ∧ (t'.outcome 10).filledQty = some 2) ?_
  · decide +kernel
  rintro ⟨t, ht, t', ht', hfill, hfill'⟩ ⟨t₁, t₁', h₁, h₁', hsame⟩
  obtain rfl : t₁ = t := mem_unique h₁ ht
  obtain rfl : t₁' = t' := mem_unique h₁' ht'
  rw [hsame, hfill'] at hfill
  norm_num at hfill

end OmsCoreV2

end Zkbot
