import Zkbot.Oms.Actions
import Zkbot.Oms.Names
import Zkbot.Oms.RefIndex
import Zkbot.Oms.ReportFills

/-!
# The core does not panic

The source looks up orders by `unwrap` and strings by `resolve`.  Neither can fail in a state that
the core can reach, as long as every configuration it is given stands under its own keys.

* `Readable` — the strings that a report reads can be found; `processReportForOrder_total` says that
  this is all a report needs.
* `Legible` — the invariant: the record maps agree, the tables are in order, and every order carries
  a reference that stands for a string.
* `perform_total` — in such a state every operation but a reload succeeds.
-/

namespace Zkbot

open OrderStoreV2 MetadataTables InternTable RefView

open OrderStoreV2 (SameBut Quiet)

/-! ## Reports that do not panic -/

/-- The reference an order carries stands for a string; without one it is the empty one. -/
def RefView.string (v : RefView) : Option String :=
  v.ref.elim (some "") v.strings.resolve

lemma OrderStoreV2.exchRefString_eq (os : OrderStoreV2) (l : LiveOrder) :
    os.exchRefString l = (os.refView l).string := by
  simp only [exchRefString, string, refView]
  cases l.exchOrderRefId <;> rfl

lemma RefView.string_link (id : Int) (gwId : ℕ) (v : RefView) (ref : String) :
    (v.link id gwId ref).string = some ref :=
  lookup_eq_some.mp (lookup_intern_self v.strings ref)

namespace OmsCoreV2

variable {md : MetadataTables} {l : LiveOrder} {id : Int} {d : OrderDetailLog} {os : OrderStoreV2}
  {s : OmsCoreV2} {r : OrderReport}

/-- Recording a trade of the order finds the strings it reads. -/
def Readable (md : MetadataTables) (os : OrderStoreV2) (l : LiveOrder) : Prop :=
  (∀ i, (instrumentCode md i).isSome = true) ∧ (os.exchRefString l).isSome = true

lemma Readable.tradeOf (h : Readable md os l) (t : TradeReport) (ts : Int) :
    ∃ trade, tradeOf md os l t ts = some trade := by
  obtain ⟨code, hcode⟩ := Option.isSome_iff_exists.mp (h.1 l.instrumentId)
  obtain ⟨ref, href⟩ := Option.isSome_iff_exists.mp h.2
  simp only [OmsCoreV2.tradeOf, href, hcode, some_bind]
  exact ⟨_, rfl⟩

lemma Readable.of_refView {os' : OrderStoreV2} {l' : LiveOrder} (h : Readable md os l) {gwId : ℕ}
    {ref : Option String}
    (hview : os'.refView l' = ref.elim (os.refView l) ((os.refView l).link id gwId)) :
    Readable md os' l' := by
  refine ⟨h.1, ?_⟩
  rw [exchRefString_eq, hview]
  cases ref with
  | none =>
    rw [Option.elim_none, ← exchRefString_eq]
    exact h.2
  | some ref =>
    rw [Option.elim_some, string_link]
    rfl

lemma processEntry_total (gwId : ℕ) (ts : Int) (lo : Bool) (fl : ReportFlags) {e : OrderReportEntry}
    (hl : os.live.lookup id = some l) (hd : os.detail.lookup id = some d)
    (htr : e.tradeQty = none ∨ Readable md os l) :
    ∃ x, processEntry md id gwId ts lo (os, fl) e = some x := by
  simp only [OrderReportEntry.tradeQty] at htr
  simp only [processEntry]
  cases ha : e.acted with
  | none => exact ⟨_, rfl⟩
  | some p =>
    rw [ha] at htr
    cases p with
    | orderIdLinkageReport linkage =>
      split_ifs <;> exact ⟨_, rfl⟩
    | orderStateReport r =>
      simp only [hd, updateLiveAndDetail_eq hl hd, some_bind, AList.lookup_insert]
      exact ⟨_, rfl⟩
    | tradeReport t =>
      rcases htr with htr | hread
      · cases htr
      · obtain ⟨trade, htrade⟩ := hread.tradeOf t ts
        simp only [hl, htrade, updateLiveAndDetail_eq hl hd, some_bind]
        exact ⟨_, rfl⟩
    | execReport r =>
      simp only [updateLiveAndDetail_eq hl hd, some_bind]
      split_ifs <;> exact ⟨_, rfl⟩
    | feeReport f =>
      simp only [hl, hd, some_bind]
      exact ⟨_, rfl⟩

lemma foldlM_processEntry_total {gwId : ℕ} {ts : Int} {lo : Bool} {l₀ : LiveOrder}
    {d₀ : OrderDetailLog} {es : List OrderReportEntry} :
    ∀ {v : ReportEffect} {os : OrderStoreV2} {l : LiveOrder} {d : OrderDetailLog}
      {fl : ReportFlags}, os.live.lookup id = some l → os.detail.lookup id = some d →
      Tracks ts l₀ d₀ v l d fl → (∀ e ∈ es, e.tradeQty = none) ∨ Readable md os l →
      ∃ x, es.foldlM (processEntry md id gwId ts lo) (os, fl) = some x := by
  induction es with
  | nil =>
    intro v os l d fl _ _ _ _
    exact ⟨_, rfl⟩
  | cons e es ih =>
    intro v os l d fl hl hd ht htr
    obtain ⟨⟨os₁, fl₁⟩, h₁⟩ := processEntry_total gwId ts lo fl hl hd
      (htr.imp_left fun h => h e List.mem_cons_self)
    obtain ⟨l₁, d₁, hl₁, hd₁, ht₁, -⟩ := processEntry_tracks hl hd ht h₁
    obtain ⟨l₂, hl₂, hview⟩ := processEntry_refView hl h₁
    obtain rfl : l₁ = l₂ := Option.mem_unique hl₁ hl₂
    obtain ⟨x, hx⟩ := ih hl₁ hd₁ ht₁ (htr.imp
      (fun h e' he' => h e' (List.mem_cons_of_mem e he')) fun hread => hread.of_refView hview)
    refine ⟨x, ?_⟩
    rw [List.foldlM_cons, h₁]
    exact hx

/-- The loop over a report's entries does not fail on an order in the store, if there is no trade in
it or a trade of the order can be recorded. -/
lemma reportLoop_total (gwId : ℕ) (hd : s.orders.detail.lookup id = some d)
    (htr : (reportEffect l r).tradeFills = [] ∨ Readable s.metadata s.orders l) :
    ∃ x, s.reportLoop id gwId r l = some x := by
  refine foldlM_processEntry_total (touch_live ..) hd (Tracks.start r.updateTimestamp l d)
    (htr.imp (fun hno => ?_) fun hread => hread)
  rw [reportEffect_tradeFills, ← filterMap_tradeQty_loopEntries l] at hno
  exact List.filterMap_eq_nil_iff.mp hno

lemma finishReport_total {ts : Int} {tb ib : ℕ} {fl : ReportFlags}
    (hl : s.orders.live.lookup id = some l) (hd : s.orders.detail.lookup id = some d) :
    ∃ x, s.finishReport id ts tb ib fl = some x := by
  simp only [finishReport, collectFills, hl, hd, some_bind]
  split_ifs <;> exact ⟨_, rfl⟩

lemma processReportForOrder_total (gwId : ℕ) (hl : s.orders.live.lookup id = some l)
    (hd : s.orders.detail.lookup id = some d)
    (htr : (reportEffect l r).tradeFills = [] ∨ Readable s.metadata s.orders l) :
    ∃ x, s.processReportForOrder id gwId r = some x := by
  obtain ⟨⟨os, fl⟩, hloop⟩ := reportLoop_total gwId hd htr
  obtain ⟨l₁, d₁, hl₁, hd₁, -, -⟩ := reportLoop_tracks hd hloop
  simp only [processReportForOrder, hl, hloop, some_bind]
  split_ifs
  · exact finishReport_total hl₁ hd₁
  · exact ⟨_, rfl⟩

end OmsCoreV2

namespace OmsCoreV2

/-! ## References keep their strings -/

lemma extends_foldl_link (id : Int) (gwId : ℕ) (refs : List String) (v : RefView) :
    v.strings.Extends (refs.foldl (link id gwId) v).strings := by
  induction refs generalizing v with
  | nil => exact fun _ _ hi => hi
  | cons ref refs ih =>
    intro i str hi
    exact ih (v.link id gwId ref) i str (v.strings.extends_intern ref i str hi)

lemma dynStrings_reportSpec {s s' : OmsCoreV2} {id : Int} {gwId : ℕ} {r : OrderReport}
    {l l' : LiveOrder} {d d' : OrderDetailLog} {os : OrderStoreV2}
    (spec : ReportSpec s id gwId r l d s' os l' d') :
    s.orders.dynStrings.Extends s'.orders.dynStrings := by
  have hview := congrArg RefView.strings (reportSpec_refView spec)
  have hos : s.orders.dynStrings.Extends os.dynStrings := by
    show s.orders.dynStrings.Extends (os.refView l').strings
    rw [hview]
    exact extends_foldl_link id gwId r.linkedRefs (s.orders.refView l)
  rw [spec.orders]
  split_ifs
  · rw [markClosed_dynStrings]
    exact hos
  · exact hos

/-- **A reference keeps its string.** -/
theorem dynStrings_step {s s' : OmsCoreV2} {op : Op} (hk : SameKeys s.orders)
    (h : s.step op = some s') : s.orders.dynStrings.Extends s'.orders.dynStrings := by
  cases step_cases hk h with
  | quiet hq =>
    intro i str hi
    exact lookup_eq_some.mp (hq.dynStrings str i (lookup_eq_some.mpr hi))
  | rejected _ _ l d _ _ horders =>
    rw [horders, markClosed_dynStrings]
    exact fun _ _ hi => hi
  | accepted _ _ om _ l d _ _ _ _ _ _ horders =>
    rw [horders]
    exact fun _ _ hi => hi
  | sendFailed l l' os hfail =>
    rw [hfail.orders, markClosed_dynStrings, hfail.dynStrings]
    exact fun _ _ hi => hi
  | report _ _ _ _ _ _ _ _ _ _ _ spec => exact dynStrings_reportSpec spec
  | external _ _ _ _ _ _ spec =>
    intro i str hi
    exact dynStrings_reportSpec spec i str (s.orders.dynStrings.extends_intern _ i str hi)

end OmsCoreV2

/-! ## Every reference can be read -/

namespace OrderStoreV2

/-- Every order carries a reference that stands for a string, or none. -/
def RefsRead (os : OrderStoreV2) : Prop :=
  ∀ j l, os.live.lookup j = some l → (os.exchRefString l).isSome = true

variable {os os' : OrderStoreV2} {id : Int} {l l' : LiveOrder}

lemma exchRefString_of_none (os : OrderStoreV2) (h : l.exchOrderRefId = none) :
    os.exchRefString l = some "" := by
  simp [exchRefString, h]

lemma exchRefString_mono (hdyn : os.dynStrings.Extends os'.dynStrings)
    (href : l'.exchOrderRefId = l.exchOrderRefId) (h : (os.exchRefString l).isSome = true) :
    (os'.exchRefString l').isSome = true := by
  simp only [exchRefString, href] at h ⊢
  cases hi : l.exchOrderRefId with
  | none => rfl
  | some i =>
    rw [hi] at h
    exact isSome_of_extends hdyn h

end OrderStoreV2

lemma RefView.string_foldl_link {id : Int} {gwId : ℕ} {v : RefView} (refs : List String)
    (h : v.string.isSome = true) : (refs.foldl (link id gwId) v).string.isSome = true := by
  induction refs generalizing v with
  | nil => exact h
  | cons ref refs ih =>
    refine ih ?_
    rw [string_link]
    rfl

namespace OmsCoreV2

variable {s s' : OmsCoreV2} {id : Int} {l : LiveOrder} {os : OrderStoreV2}

/-- A report leaves its order a reference that can be read, if there was one. -/
lemma refRead_reportSpec {gwId : ℕ} {r : OrderReport} {l' : LiveOrder} {d d' : OrderDetailLog}
    (h : (s.orders.exchRefString l).isSome = true)
    (spec : ReportSpec s id gwId r l d s' os l' d') :
    (s'.orders.exchRefString l').isSome = true := by
  have hos : (os.exchRefString l').isSome = true := by
    rw [exchRefString_eq, reportSpec_refView spec]
    refine string_foldl_link _ ?_
    rwa [← exchRefString_eq]
  refine exchRefString_mono ?_ rfl hos
  rw [spec.orders]
  split_ifs
  · rw [markClosed_dynStrings]
    exact fun _ _ hi => hi
  · exact fun _ _ hi => hi

/-- The external order that a report creates can be read: its reference is interned with it. -/
lemma refRead_newExternal (s : OmsCoreV2) (gwId : ℕ) (r : OrderReport) :
    ((s.addExternalOrder gwId r).orders.exchRefString (s.newExternal gwId r)).isSome = true :=
  isSome_of_eq_some (resolve_intern_self s.orders.dynStrings r.exchOrderRef)

theorem refsRead_step {op : Op} (hk : SameKeys s.orders) (h : s.orders.RefsRead)
    (hstep : s.step op = some s') : s'.orders.RefsRead := by
  have hdyn := dynStrings_step hk hstep
  intro j m hm
  cases record_step hk hstep hm with
  | kept l hl hcore =>
    exact exchRefString_mono hdyn (LiveOrder.exchOrderRefId_of_core hcore) (h j l hl)
  | placed _ _ hfresh => exact isSome_of_eq_some (exchRefString_of_none _ hfresh.exchOrderRefId)
  | sendFailed l hl _ _ href => exact exchRefString_mono hdyn href (h j l hl)
  | report _ hl spec => exact refRead_reportSpec (h j _ hl) spec
  | external _ _ spec => exact refRead_reportSpec (refRead_newExternal ..) spec

lemma initOrder_dynStrings (s : OmsCoreV2) (v1 : OmsOrder) : (s.initOrder v1).orders.dynStrings =
    v1.exchOrderRef.elim s.orders.dynStrings fun r => (s.orders.dynStrings.intern r).1 := by
  by_cases h0 : v1.orderId = 0 <;>
    simp [initOrder, convertV1Order, initWithOrder, warmLive, h0]

lemma refsRead_start (u : OmsSetup) : u.start.orders.RefsRead := by
  refine start_induct u (fun _ _ hl => by cases hl) ?_
  intro s v1 h
  have hext : s.orders.dynStrings.Extends (s.initOrder v1).orders.dynStrings := by
    rw [initOrder_dynStrings]
    cases v1.exchOrderRef with
    | none => exact fun _ _ hi => hi
    | some ref => exact s.orders.dynStrings.extends_intern ref
  intro j m hm
  rw [initOrder_live] at hm
  split_ifs at hm
  · exact exchRefString_mono hext rfl (h j m hm)
  · rw [Dict.lookup_insert_if] at hm
    split_ifs at hm
    · cases hm
      simp only [exchRefString, warmLive, initOrder_dynStrings]
      cases v1.exchOrderRef with
      | none => rfl
      | some ref =>
        exact isSome_of_eq_some (resolve_intern_self s.orders.dynStrings ref)
    · exact exchRefString_mono hext rfl (h j m hm)

/-! ## Every operation succeeds -/

/-- The record maps agree, the tables are in order and every reference can be read. -/
structure Legible (s : OmsCoreV2) : Prop where
  keys : SameKeys s.orders
  tables : MetadataTables.Kept s.metadata
  refs : s.orders.RefsRead

lemma Legible.readable (h : s.Legible) (hl : s.orders.live.lookup id = some l) :
    Readable s.metadata s.orders l :=
  ⟨isSome_instrumentCode h.tables, h.refs id l hl⟩

lemma Legible.step {op : Op} (h : s.Legible) (hmsg : op.isReload = false)
    (hstep : s.step op = some s') : s'.Legible where
  keys := sameKeys_step h.keys hstep
  tables := h.tables.interned (interned_step h.keys hmsg hstep)
  refs := refsRead_step h.keys h.refs hstep

lemma rejectOrder_total (s : OmsCoreV2) (now : Int) (req : OrderRequest) (om : ResolvedOrderMeta)
    (flags : OrderAccountingFlags) (msg : String) (reason : RejectionReason) :
    ∃ x, s.rejectOrder now req om flags msg reason = some x := by
  simp only [rejectOrder, createOrder]
  rw [updateLiveAndDetail_eq (AList.lookup_insert _) (AList.lookup_insert _)]
  exact ⟨_, rfl⟩

lemma buildGwRequest_total {s₁ : OmsCoreV2} {req : OrderRequest} {om : ResolvedOrderMeta}
    (now : Int) (h : MetadataTables.Kept s.metadata) (hom : s.resolveOrderMeta req = .ok om)
    (hmd : MetadataTables.Interned s.metadata s₁.metadata) (sym : ℕ) :
    ∃ gwReq, s₁.buildGwRequest now req { om with sourceSym := sym } = some gwReq := by
  obtain ⟨route, inst, hres⟩ := resolveOrderMeta_ok hom
  have hacct : (s₁.metadata.strResolve om.exchAccountSym).isSome = true := by
    rw [hres.exchAccountSym]
    exact (h.routes _ _ hres.route).exchAccountSym.mono hmd.strings
  have hexch : (s₁.metadata.strResolve om.instrumentExchSym).isSome = true := by
    have hinst := hres.instrument
    simp only [resolveInstrument, bind_eq_some] at hinst
    obtain ⟨_, -, i, -, hi⟩ := hinst
    rw [hres.instrumentExchSym]
    exact (h.instruments i inst hi).instrumentExchSym.mono hmd.strings
  obtain ⟨acct, hacct⟩ := Option.isSome_iff_exists.mp hacct
  obtain ⟨exch, hexch⟩ := Option.isSome_iff_exists.mp hexch
  simp only [buildGwRequest, hacct, hexch, some_bind]
  exact ⟨_, rfl⟩

lemma processOrder_total (h : s.Legible) (now : Int) (req : OrderRequest) :
    ∃ x, s.processOrder now req = some x := by
  simp only [processOrder]
  split
  · exact ⟨_, rfl⟩
  · split_ifs
    · exact ⟨_, rfl⟩
    · split
      · exact rejectOrder_total ..
      · rename_i om hom
        split
        · exact rejectOrder_total ..
        · split
          · exact rejectOrder_total ..
          · rename_i s₁ hpre
            obtain ⟨md, sym, hsrc, hmeta, -⟩ := source_irrelevant s req om
            have hmd : MetadataTables.Interned s.metadata s₁.metadata := by
              rw [(preTrade_ok hpre).2]
              exact interned_internSource s req
            obtain ⟨gwReq, hgw⟩ := buildGwRequest_total now h.tables hom hmd sym
            rw [← hmeta] at hgw
            simp only [acceptOrder, hgw, some_bind]
            exact ⟨_, rfl⟩

lemma updateLiveAndDetail_total {β : Type} (hk : SameKeys os) (hl : os.live.lookup id = some l)
    (f : LiveOrder → OrderDetailLog → LiveOrder × OrderDetailLog) (g : OrderStoreV2 → β) :
    ∃ x, (os.updateLiveAndDetail id f >>= fun os' => some (g os')) = some x := by
  obtain ⟨d, hd⟩ := hk.detail hl
  exact ⟨_, by rw [updateLiveAndDetail_eq hl hd f, some_bind]⟩

section

variable (h : s.Legible)
include h

lemma processCancel_total (now : Int) (req : OrderCancelRequest) :
    ∃ x, s.processCancel now req = some x := by
  simp only [processCancel]
  split
  · exact ⟨_, rfl⟩
  · split
    · exact ⟨_, rfl⟩
    · rename_i l hl
      obtain ⟨ref, href⟩ := Option.isSome_iff_exists.mp (h.refs _ l hl)
      rw [href, some_bind]
      split_ifs
      · exact ⟨_, rfl⟩
      · exact updateLiveAndDetail_total h.keys hl _ _
      · exact ⟨_, rfl⟩

/-- A report that is handed to an order is handled, whether the order is there or not. -/
lemma Legible.processReportForOrder_total (id : Int) (gwId : ℕ) (r : OrderReport) :
    ∃ x, s.processReportForOrder id gwId r = some x := by
  cases hl : s.orders.live.lookup id with
  | none =>
    simp only [processReportForOrder, hl]
    exact ⟨_, rfl⟩
  | some l =>
    obtain ⟨d, hd⟩ := h.keys.detail hl
    exact OmsCoreV2.processReportForOrder_total gwId hl hd (.inr (h.readable hl))

lemma Legible.addExternalOrder (gwId : ℕ) (r : OrderReport) :
    (s.addExternalOrder gwId r).Legible where
  keys := fun j => h.keys.insert s.orders.idCounter (s.newExternal gwId r)
    { orderId := s.orders.idCounter } j
  tables := h.tables.interned (.intern _ _)
  refs := by
    intro j m hm
    by_cases hj : j = s.orders.idCounter
    · rw [hj, addExternalOrder_live] at hm
      cases hm
      exact refRead_newExternal s gwId r
    · rw [addExternalOrder_live_ne s gwId r hj] at hm
      exact exchRefString_mono (s.orders.dynStrings.extends_intern _) rfl (h.refs j m hm)

lemma processOrderReport_total (r : OrderReport) : ∃ x, s.processOrderReport r = some x := by
  simp only [processOrderReport]
  split
  · exact ⟨_, rfl⟩
  · rename_i gwId _
    split
    · exact h.processReportForOrder_total _ gwId r
    · split_ifs
      · exact ⟨_, rfl⟩
      · split
        · exact h.processReportForOrder_total _ gwId r
        · exact (h.addExternalOrder gwId r).processReportForOrder_total _ gwId r
      · exact ⟨_, rfl⟩

/-- The code of every instrument that a balance update finds stands for a string. -/
lemma processBalanceUpdate_total (now : Int) (u : BalanceUpdate) :
    ∃ x, s.processBalanceUpdate now u = some x := by
  have hone : ∀ (accountId : Int) (ps : PositionStoreV2) (e : PositionReport),
      ∃ ps', storePosition s.metadata accountId now ps e = some ps' ∧ True := by
    intro accountId ps e
    simp only [storePosition]
    split
    · exact ⟨_, rfl, trivial⟩
    · rename_i inst hinst
      simp only [positionInstrument, resolveInstrumentByGw, Option.bind_eq_some_iff,
        bind_eq_some] at hinst
      obtain ⟨_, -, _, -, i, -, hi⟩ := hinst
      obtain ⟨code, hcode⟩ :=
        Option.isSome_iff_exists.mp (h.tables.instruments i inst hi).instrumentCodeSym
      have hcode' : s.metadata.strResolve inst.instrumentCodeSym = some code := hcode
      rw [hcode', Option.map_some]
      exact ⟨_, rfl, trivial⟩
  rw [processBalanceUpdate_eq]
  cases s.updatedAccount u with
  | none => exact ⟨_, rfl⟩
  | some accountId =>
    obtain ⟨ps, hps, -⟩ : ∃ ps, u.nonspot.foldlM (storePosition s.metadata accountId now)
        s.positions = some ps ∧ True :=
      foldlM_total (I := fun _ _ => True) (fun _ e _ ps _ _ => hone accountId ps e) trivial
    exact ⟨_, by rw [Option.elim_some, hps, Option.map_some]⟩

lemma processGatewaySendFailed_total (now id : Int) (msg : String) :
    ∃ x, s.processGatewaySendFailed now id msg = some x := by
  simp only [processGatewaySendFailed]
  split
  · exact ⟨_, rfl⟩
  · rename_i l hl
    split_ifs
    · exact ⟨_, rfl⟩
    · exact updateLiveAndDetail_total h.keys hl _ _

lemma processGatewayCancelSendFailed_total (now id : Int) (msg : String) :
    ∃ x, s.processGatewayCancelSendFailed now id msg = some x := by
  simp only [processGatewayCancelSendFailed]
  split
  · exact ⟨_, rfl⟩
  · rename_i l hl
    split_ifs
    · exact ⟨_, rfl⟩
    · exact updateLiveAndDetail_total h.keys hl _ _

/-- **No operation but a reload can fail.** -/
theorem perform_total {op : Op} (hmsg : op.isReload = false) : ∃ x, s.perform op = some x := by
  cases op with
  | place now req => exact processOrder_total h now req
  | cancel now req => exact processCancel_total h now req
  | report r => exact processOrderReport_total h r
  | balanceUpdate now u => exact processBalanceUpdate_total h now u
  | panic accountId | dontPanic accountId => exact ⟨_, rfl⟩
  | sendFailed now id msg => exact processGatewaySendFailed_total h now id msg
  | cancelSendFailed now id msg => exact processGatewayCancelSendFailed_total h now id msg
  | reload newConfig => cases hmsg

/-- **The core does not panic on any message.** -/
theorem processMessage_total (now : Int) (msg : OmsMessage) :
    ∃ t actions, s.processMessage now msg = some (t, actions) ∧ t.Legible := by
  rw [processMessage_eq]
  have hops : ∀ op ∈ (OmsEvent.message now msg).ops, op.isReload = false := isReload_of_message
  generalize (OmsEvent.message now msg).ops = ops at hops
  induction ops generalizing s with
  | nil => exact ⟨s, [], rfl, h⟩
  | cons op ops ih =>
    have hmsg := hops op List.mem_cons_self
    obtain ⟨⟨s₁, new⟩, hop⟩ := perform_total h hmsg
    obtain ⟨t, rest, hrest, ht⟩ := ih (h.step hmsg (step_of_perform hop))
      (List.forall_mem_cons.mp hops).2
    refine ⟨t, new ++ rest, ?_, ht⟩
    rw [processBatch_cons, hop, Option.bind_some, hrest]
    rfl

lemma Legible.message {now : Int} {msg : OmsMessage} {actions : List OmsActionV2}
    (hmsg : s.processMessage now msg = some (s', actions)) : s'.Legible := by
  obtain ⟨t, actions', ht, hleg⟩ := processMessage_total h now msg
  rw [hmsg] at ht
  cases ht
  exact hleg

/-- A configuration that stands under its keys can be loaded at any time. -/
lemma Legible.reload (config : Confdata) :
    ∃ t, s.reloadConfig config.toConfdataManager = some t ∧ t.Legible := by
  obtain ⟨md, hmd, hkept, -⟩ := MetadataTables.reload_spec h.tables config
  have hload : s.reloadConfig config.toConfdataManager = some { s with metadata := md } := by
    rw [reloadConfig, hmd, some_bind]
  exact ⟨_, hload, h.keys, hkept, h.refs⟩

end

/-- Every state the core can reach is legible, if its configurations stand under their keys. -/
theorem legible_run {u : OmsSetup} {config : Confdata} (hu : u.config = config.toConfdataManager)
    {evs : List OmsEvent} (hkeyed : ∀ c, OmsEvent.reload c ∈ evs → c.Keyed)
    (hr : run handle u.start evs = some s) : s.Legible := by
  have hstart : MetadataTables.Current u.config u.start.metadata := by
    rw [hu]
    refine (current_fromConfdata config).interned ?_
    rw [← hu]
    exact metadata_start u
  have hrefs := reached_invariant (I := fun s => s.orders.RefsRead) (fun _ _ _ => refsRead_step)
    (sameKeys_start u) (refsRead_start u) hr
  exact ⟨hrefs.1, (current_run hkeyed (sameKeys_start u) hstart hr).kept, hrefs.2⟩

end OmsCoreV2

end Zkbot
