import Zkbot.V1.OrderMgr
import Zkbot.Oms.Panics

/-!
# The life of an order in both cores

`OmsCore` and `OmsCoreV2` handle the entries of a report in separate code.  What a report does to an
order is stated here once, on `OrderLife`: the status, the cumulative fill with its average price
and the sums over its trades.  `OrderLife.entry` is one entry and `OrderLife.after` a whole report.

* `processReportForOrder_life` — `OmsCoreV2` follows `OrderLife.after`, whatever the report;
* `updateWithReport_life` — `OmsCore` does for the reports it heeds: those whose rejections come
  with error information, and that do more than link an order which is filled or cancelled.
-/

namespace Zkbot

open List Option AList Bool

variable {lone : Bool} {acc : EntryLoop} {e : OrderReportEntry}

open OrderReportEntry OrderStoreV2

open OrderStoreV2 (promoted)

/-! ## Lives -/

/-- What reports make of an order. -/
structure OrderLife where
  qty : ℚ
  orderStatus : OrderStatus
  filledQty : ℚ
  filledAvgPrice : ℚ
  accTradesFilledQty : ℚ
  accTradesValue : ℚ
  deriving DecidableEq

open OrderLife

namespace OrderLife

/-- One entry.  `lone` says that the report has one entry and none is inferred. -/
def entry (lone : Bool) (v : OrderLife) (e : OrderReportEntry) : OrderLife :=
  match e.acted with
  | none => v
  | some (.orderIdLinkageReport _) =>
    if lone then { v with orderStatus := promoted v.orderStatus } else v
  | some (.orderStateReport r) =>
    { v with
      orderStatus := statusAfter v.orderStatus r.exchOrderStatus
      filledQty := filledAfter v.filledQty (r.announced v.qty)
      filledAvgPrice := if r.avgPrice ≠ 0 then r.avgPrice else v.filledAvgPrice }
  | some (.tradeReport t) =>
    { v with
      accTradesFilledQty := v.accTradesFilledQty + t.filledQty
      accTradesValue := v.accTradesValue + t.filledQty * t.filledPrice }
  | some (.execReport r) =>
    if omsExecType r.execType = .placingOrder then { v with orderStatus := .rejected } else v
  | some (.feeReport _) => v

/-- The end of a report that updated the order: a terminal order without an average price gets
that of its trades. -/
def finish (updated : Bool) (v : OrderLife) : OrderLife :=
  if updated ∧ v.orderStatus.isTerminal ∧ v.filledAvgPrice = 0 ∧ v.accTradesFilledQty ≠ 0 then
    { v with filledAvgPrice := v.accTradesValue / v.accTradesFilledQty }
  else v

/-- The entries of a report, before it is finished; `extra` is the inferred entry. -/
def afterEntries (es : List OrderReportEntry) (extra : Option OrderReportEntry) (v : OrderLife) :
    OrderLife :=
  (es ++ extra.toList).foldl (entry (es.length == 1 && extra.isNone)) v

end OrderLife

/-- An entry that updates its order; a linkage does if it is the only entry. -/
def OrderReportEntry.marks (lone : Bool) (e : OrderReportEntry) : Bool :=
  e.touches || (lone && e.links)

namespace OrderLife

/-- The report updates the order. -/
def updates (es : List OrderReportEntry) (extra : Option OrderReportEntry) : Bool :=
  (es ++ extra.toList).any (·.marks (es.length == 1 && extra.isNone))

/-- A whole report. -/
def after (es : List OrderReportEntry) (extra : Option OrderReportEntry) (v : OrderLife) :
    OrderLife :=
  (v.afterEntries es extra).finish (updates es extra)

def closes (es : List OrderReportEntry) (extra : Option OrderReportEntry) (v : OrderLife) : Bool :=
  updates es extra && (v.afterEntries es extra).orderStatus.isTerminal

lemma finish_of_not_terminal {v : OrderLife} (h : v.orderStatus.isTerminal = false) (b : Bool) :
    v.finish b = v := by
  simp [finish, h]

@[simp] lemma finish_orderStatus (b : Bool) (v : OrderLife) :
    (v.finish b).orderStatus = v.orderStatus := by
  simp only [finish]
  split_ifs <;> rfl

end OrderLife

def LiveOrder.life (l : LiveOrder) : OrderLife where
  qty := l.qty
  orderStatus := l.orderStatus
  filledQty := l.filledQty
  filledAvgPrice := l.filledAvgPrice
  accTradesFilledQty := l.accTradesFilledQty
  accTradesValue := l.accTradesValue

def OmsOrder.life (o : OmsOrder) : OrderLife where
  qty := o.orderState.qty
  orderStatus := o.orderState.orderStatus
  filledQty := o.orderState.filledQty
  filledAvgPrice := o.orderState.filledAvgPrice
  accTradesFilledQty := o.accTradesFilledQty
  accTradesValue := o.accTradesValue

/-- The reference an order carries after a report: the last one that is linked, or the old one. -/
def refAfter (refs : List String) (ref : String) : String := refs.foldl (fun _ r => r) ref

/-- The two cores infer the same entry from the trades of a report. -/
lemma inferStateEntry_eq {o : OmsOrder} {l : LiveOrder} (h : o.life = l.life)
    (es : List OrderReportEntry) : inferStateEntry es o = inferStateFromTrades es l := by
  simp only [OmsOrder.life, LiveOrder.life, OrderLife.mk.injEq] at h
  obtain ⟨hqty, hstatus, -, -, hacc, hvalue⟩ := h
  simp [inferStateEntry, inferStateFromTrades, OmsOrder.isInTerminalState,
    LiveOrder.isInTerminalState, hqty, hstatus, hacc, hvalue]

/-! ## The second core -/

namespace OmsCoreV2

variable {gwId : ℕ} {md : MetadataTables} {id : Int}

lemma processEntry_life {ts : Int} {lo : Bool} {os os' : OrderStoreV2} {l : LiveOrder}
    {fl fl' : ReportFlags} {e : OrderReportEntry} (hl : os.live.lookup id = some l)
    (h : processEntry md id gwId ts lo (os, fl) e = some (os', fl')) :
    ∃ l', os'.live.lookup id = some l' ∧ l'.life = l.life.entry lo e ∧
      fl'.originalOrderUpdated = (fl.originalOrderUpdated || e.marks lo) := by
  simp only [processEntry] at h
  cases ha : e.acted with
  | none =>
    rw [ha] at h
    cases h
    refine ⟨l, hl, ?_, ?_⟩ <;>
      simp [entry, marks, touches, links, ha]
  | some r =>
    rw [ha] at h
    simp only [entry, marks, touches, links, ha]
    cases r with
    | orderIdLinkageReport linkage =>
      have hl' := registerExchRef_live hl gwId linkage.exchOrderRef
      cases lo <;> cases h
      · exact ⟨_, hl', rfl, by simp⟩
      · exact ⟨_, applyLinkagePromotion_live hl', rfl, by simp⟩
    | orderStateReport r =>
      simp only [bind_eq_some] at h
      obtain ⟨d, hd, os₁, hos₁, h⟩ := h
      rw [updateLiveAndDetail_eq hl hd] at hos₁
      cases hos₁
      simp only [lookup_insert, some.injEq, exists_eq_left', Prod.mk.injEq] at h
      obtain ⟨rfl, rfl⟩ := h
      exact ⟨_, lookup_insert _, rfl, by simp⟩
    | tradeReport t =>
      simp only [hl, some_bind, bind_eq_some, updateLiveAndDetail, tradeOf] at h
      obtain ⟨trade, ⟨_, -, _, -, htrade⟩, os₁, ⟨d, -, hos₁⟩, h⟩ := h
      cases htrade
      cases hos₁
      cases h
      exact ⟨_, lookup_insert _, rfl, by simp⟩
    | execReport r =>
      by_cases hx : omsExecType r.execType = .unspecified
      · simp only [hx, ne_eq, not_true_eq_false, if_false] at h
        cases h
        exact ⟨l, hl, by simp [hx], by simp [hx]⟩
      · simp only [ne_eq, hx, not_false_eq_true, if_true, bind_eq_some, updateLiveAndDetail, hl,
          some_bind] at h
        obtain ⟨_, ⟨d, -, hos₁⟩, h⟩ := h
        cases hos₁
        cases h
        refine ⟨_, lookup_insert _, ?_, by simp [hx]⟩
        simp only [applyOmsError]
        split_ifs <;> rfl
    | feeReport f =>
      simp only [hl, some_bind, bind_eq_some] at h
      obtain ⟨d, -, h⟩ := h
      cases h
      exact ⟨l, hl, rfl, by simp⟩

lemma foldlM_processEntry_life {ts : Int} {lo : Bool} (es : List OrderReportEntry) :
    ∀ {os os' : OrderStoreV2} {l : LiveOrder} {fl fl' : ReportFlags},
      os.live.lookup id = some l →
      es.foldlM (processEntry md id gwId ts lo) (os, fl) = some (os', fl') →
      ∃ l', os'.live.lookup id = some l' ∧ l'.life = es.foldl (entry lo) l.life ∧
        fl'.originalOrderUpdated = (fl.originalOrderUpdated || es.any (·.marks lo)) := by
  induction es with
  | nil =>
    intro os os' l fl fl' hl h
    cases h
    exact ⟨l, hl, rfl, by simp⟩
  | cons e es ih =>
    intro os os' l fl fl' hl h
    rw [foldlM_cons, bind_eq_some] at h
    obtain ⟨⟨os₁, fl₁⟩, h₁, h₂⟩ := h
    obtain ⟨l₁, hl₁, hlife₁, hfl₁⟩ := processEntry_life hl h₁
    obtain ⟨l₂, hl₂, hlife₂, hfl₂⟩ := ih hl₁ h₂
    refine ⟨l₂, hl₂, ?_, ?_⟩
    · rw [hlife₂, hlife₁, foldl_cons]
    · rw [hfl₂, hfl₁, any_cons, Bool.or_assoc]

lemma finalizeLive_life (l : LiveOrder) : (finalizeLive l).life = l.life.finish true := by
  by_cases h : l.isInTerminalState = true ∧ l.filledAvgPrice = 0 ∧ l.accTradesFilledQty ≠ 0
  · rw [finish, if_pos ⟨rfl, h⟩]
    simp [LiveOrder.life, finalizeLive, if_pos h]
  · rw [OrderLife.finish, if_neg fun h' => h h'.2]
    simp [LiveOrder.life, finalizeLive, if_neg h]

lemma string_foldl_refAfter (refs : List String) {v : RefView} {ref : String}
    (h : v.string = some ref) :
    (refs.foldl (RefView.link id gwId) v).string = some (refAfter refs ref) := by
  induction refs generalizing v ref with
  | nil => exact h
  | cons ref' refs ih => exact ih (RefView.string_link id gwId v ref')

/-- **The second core follows the life of an order.**  `os` and `l'` are the store and the record
before anything is evicted. -/
theorem processReportForOrder_life {s s' : OmsCoreV2} {r : OrderReport} {l : LiveOrder}
    {d : OrderDetailLog} {ref : String} {actions : List OmsActionV2}
    (hl : s.orders.live.lookup id = some l) (hd : s.orders.detail.lookup id = some d)
    (href : s.orders.exchRefString l = some ref)
    (h : s.processReportForOrder id gwId r = some (s', actions)) :
    ∃ os l', os.live.lookup id = some l' ∧
      l'.life = l.life.after r.orderReportEntries (inferStateFromTrades r.orderReportEntries l) ∧
      os.exchRefString l' = some (refAfter r.linkedRefs ref) ∧
      OrderStoreV2.SameBut id s.orders os ∧
      s'.orders =
        if l.life.closes r.orderReportEntries (inferStateFromTrades r.orderReportEntries l) then
          os.markClosed id
        else os := by
  simp only [processReportForOrder, hl, hd, map_some, getD_some, bind_eq_some] at h
  obtain ⟨⟨os, fl⟩, hloop, h⟩ := h
  obtain ⟨l₁, d₁, hl₁, hd₁, ht, hs⟩ := reportLoop_tracks hd hloop
  have htouch := s.orders.touch_live id l r.updateTimestamp
  -- the loop, seen by the life and by the reference of the order
  obtain ⟨l₂, hl₂, hlife, hupd⟩ := foldlM_processEntry_life (loopEntries l r) htouch hloop
  obtain rfl : l₁ = l₂ := mem_unique hl₁ hl₂
  obtain ⟨l₂, hl₂, hview⟩ := foldlM_processEntry_refView (loopEntries l r) htouch hloop
  obtain rfl : l₁ = l₂ := mem_unique hl₁ hl₂
  rw [filterMap_linkedRef_loopEntries] at hview
  have hstr : (os.refView l₁).string = some (refAfter r.linkedRefs ref) := by
    rw [hview]
    refine string_foldl_refAfter r.linkedRefs ?_
    rw [← href, exchRefString_eq]
    rfl
  have hupd' : fl.originalOrderUpdated = OrderLife.updates r.orderReportEntries
      (inferStateFromTrades r.orderReportEntries l) := by
    rw [hupd, Bool.false_or]
    rfl
  have hlife' : l₁.life = l.life.afterEntries r.orderReportEntries
      (inferStateFromTrades r.orderReportEntries l) := hlife
  rw [OrderLife.after, OrderLife.closes, ← hupd', ← hlife']
  cases hu : fl.originalOrderUpdated with
  | false =>
    rw [hu] at h
    cases h
    refine ⟨os, l₁, hl₁, ?_, ?_, hs, ?_⟩
    · simp [OrderLife.finish]
    · rw [exchRefString_eq]
      exact hstr
    · simp
  | true =>
    rw [hu] at h
    rw [finishReport_eq (s := { s with orders := os }) hl₁ hd₁ (newFills_of_tracks ht),
      handleTerminal_eq (lookup_insert _)] at h
    refine ⟨{ os with live := os.live.insert id (finalizeLive l₁) }, finalizeLive l₁,
      lookup_insert _, finalizeLive_life l₁, ?_,
      hs.trans (sameBut_setLive os id _), ?_⟩
    · rw [exchRefString_eq]
      exact hstr
    · have hterm : (finalizeLive l₁).isInTerminalState = l₁.life.orderStatus.isTerminal := rfl
      rw [hterm] at h
      cases hc : l₁.life.orderStatus.isTerminal <;> rw [hc] at h <;> cases h <;> rfl

end OmsCoreV2

/-! ## The first core -/

/-- An execution entry that means something to the OMS comes with error information. -/
def OrderReportEntry.explained (e : OrderReportEntry) : Bool :=
  match e.acted with
  | some (.execReport r) =>
    decide (omsExecType r.execType = .unspecified) || r.errorInfo.isSome
  | _ => true

/-- What holds of every order: the fill is not negative, and its sums are over its trades. -/
structure OmsOrder.Sound (o : OmsOrder) : Prop where
  filledQty : 0 ≤ o.orderState.filledQty
  accQty : o.trades = [] → o.accTradesFilledQty = 0

open OmsOrder

/-- For a fill that is not negative, an announcement of zero changes nothing either way. -/
lemma filledAfter_of_nonneg {filled : ℚ} (h : 0 ≤ filled) (announced : Option ℚ) :
    filledAfter filled announced = announced.elim filled fun nf => max nf filled := by
  rw [filledAfter_eq]
  cases announced with
  | none => simp
  | some nf =>
    by_cases hnf : nf = 0
    · simp [hnf, h]
    · simp [hnf]

lemma le_filledAfter (filled : ℚ) (announced : Option ℚ) :
    filled ≤ filledAfter filled announced := by
  rw [filledAfter_eq]
  split_ifs
  · exact le_refl _
  · exact le_max_right _ _

/-- What a turn of the entry loop of the first core makes of the order. -/
structure EntryLoop.Follows (lone : Bool) (es : List OrderReportEntry) (acc acc' : EntryLoop) :
    Prop where
  life : acc'.order.life = es.foldl (OrderLife.entry lone) acc.order.life
  updated : acc'.flags.originalOrderUpdated =
    (acc.flags.originalOrderUpdated || es.any (·.marks lone))
  sound : acc'.order.Sound
  ref : acc'.order.orderState.exchOrderRef =
    refAfter (es.filterMap (·.linkedRef)) acc.order.orderState.exchOrderRef

lemma EntryLoop.follows_single {acc' : EntryLoop}
    (hlife : acc'.order.life = acc.order.life.entry lone e)
    (hupdated : acc'.flags.originalOrderUpdated =
      (acc.flags.originalOrderUpdated || e.marks lone)) (hsound : acc'.order.Sound)
    (href : acc'.order.orderState.exchOrderRef =
      e.linkedRef.getD acc.order.orderState.exchOrderRef) : Follows lone [e] acc acc' := by
  refine ⟨hlife, ?_, hsound, ?_⟩
  · rw [hupdated, any_cons, any_nil, Bool.or_false]
  · rw [href, filterMap_cons]
    cases e.linkedRef <;> rfl

/-- **One turn of the loop**, for an entry that is explained and not a lone linkage. -/
lemma EntryLoop.follows_entry (gwKey : String) (id ts : Int) (hlone : lone = true → e.links = false)
    (hx : e.explained = true) (hs : acc.order.Sound) :
    Follows lone [e] acc (acc.entry gwKey id ts lone e) := by
  simp only [links] at hlone
  simp only [explained] at hx
  obtain ⟨hfill, hacc⟩ := hs
  cases ha : e.acted with
  | none =>
    refine follows_single ?_ ?_ ⟨?_, ?_⟩ ?_ <;>
      simp_all [EntryLoop.entry, OrderLife.entry, marks, touches, links, linkedRef]
  | some r =>
    cases r with
    | orderStateReport r =>
      have hfilled := filledAfter_of_nonneg hfill (r.announced acc.order.orderState.qty)
      have hle := le_filledAfter acc.order.orderState.filledQty
        (r.announced acc.order.orderState.qty)
      refine follows_single ?_ ?_ ⟨?_, ?_⟩ ?_
      · simp only [EntryLoop.entry, OrderLife.entry, ha, applyStateEntry, life, hfilled]
        rfl
      · simp [EntryLoop.entry, marks, touches, ha]
      · simp only [EntryLoop.entry, ha, applyStateEntry]
        rw [← hfilled]
        exact hfill.trans hle
      · simpa [EntryLoop.entry, applyStateEntry, ha] using hacc
      · simp [EntryLoop.entry, linkedRef, ha, applyStateEntry]
    | execReport r =>
      refine follows_single ?_ ?_ ⟨?_, ?_⟩ ?_ <;>
        cases hx' : omsExecType r.execType <;> cases hinfo : r.errorInfo <;>
        simp_all [EntryLoop.entry, OrderLife.entry, marks, touches, links, linkedRef,
          applyOrderError, life]
    | _ =>
      refine follows_single ?_ ?_ ⟨?_, ?_⟩ ?_ <;>
        simp_all [EntryLoop.entry, OrderLife.entry, marks, touches, links, linkedRef,
          applyTradeEntry, life]

lemma EntryLoop.follows_foldl (gwKey : String) (id ts : Int) {es : List OrderReportEntry}
    (hlone : lone = true → ∀ e ∈ es, e.links = false) (hx : ∀ e ∈ es, e.explained = true)
    (hs : acc.order.Sound) :
    Follows lone es acc (es.foldl (EntryLoop.entry gwKey id ts lone) acc) := by
  induction es generalizing acc with
  | nil => exact ⟨rfl, by simp, hs, rfl⟩
  | cons e es ih =>
    have hone := follows_entry gwKey id ts
      (fun h => hlone h e mem_cons_self) (hx e mem_cons_self) hs
    have hrest := ih (fun h e' he' => hlone h e' (mem_cons_of_mem _ he'))
      (forall_mem_cons.mp hx).2 hone.sound
    refine ⟨?_, ?_, hrest.sound, ?_⟩
    · rw [foldl_cons, hrest.life, hone.life]
      rfl
    · rw [foldl_cons, hrest.updated, hone.updated]
      simp [Bool.or_assoc]
    · rw [foldl_cons, hrest.ref, hone.ref]
      simp only [filterMap_cons, filterMap_nil]
      cases e.linkedRef <;> rfl

namespace OrderManager

variable {o : OmsOrder} {r : OrderReport} {es : List OrderReportEntry} {m : OrderManager}

lemma finishOrder_life (hs : o.Sound) : (finishOrder o).life = o.life.finish true := by
  simp only [finishOrder, finalizeAvgPrice]
  split_ifs with hnil hfin
  · -- without trades there is nothing to take an average of
    have hacc : o.life.accTradesFilledQty = 0 := hs.accQty (isEmpty_iff.mp hnil)
    rw [finish, if_neg fun h => h.2.2.2 hacc]
    rfl
  · rw [finish, if_pos ⟨rfl, hfin⟩]
    rfl
  · rw [finish, if_neg fun h => hfin h.2]
    rfl

lemma finishOrder_sound (hs : o.Sound) : (finishOrder o).Sound := by
  simp only [finishOrder, finalizeAvgPrice]
  split_ifs <;> exact ⟨hs.filledQty, hs.accQty⟩

@[simp] lemma finishOrder_exchOrderRef (o : OmsOrder) :
    (finishOrder o).orderState.exchOrderRef = o.orderState.exchOrderRef := by
  simp only [finishOrder, finalizeAvgPrice]
  split_ifs <;> rfl

/-- The manager with the record of one order written, and the order closed or not. -/
def written (m : OrderManager) (id : Int) (refs : Dict (String × String) Int) (o : OmsOrder)
    (closed : Bool) : OrderManager :=
  let m := { m with exchRefToOrderId := refs, orderDict := m.orderDict.insert id o }
  if closed then m.removeOpenOrder id else m

/-- What a loop that has followed the life of the order ends in. -/
lemma written_of_follows (now : Int) {v : OrderLife} {extra : Option OrderReportEntry}
    (hres : m.resolveReport r = some r.orderId) (ho : m.orderDict.lookup r.orderId = some o)
    (hlife : (m.entryLoop r.orderId o r).order.life = v.afterEntries es extra)
    (hupd : (m.entryLoop r.orderId o r).flags.originalOrderUpdated = updates es extra ∨
      (v.afterEntries es extra).orderStatus.isTerminal = false)
    (hsound : (m.entryLoop r.orderId o r).order.Sound) :
    ∃ o' refs, o'.life = v.after es extra ∧ o'.Sound ∧
      o'.orderState.exchOrderRef = (m.entryLoop r.orderId o r).order.orderState.exchOrderRef ∧
      (m.updateWithReport now r).1 = m.written r.orderId refs o' (v.closes es extra) := by
  set loop := m.entryLoop r.orderId o r with hloop
  -- an order that stays at work is not closed, whether or not the loop takes it for updated
  have hafter : v.after es extra = loop.order.life.finish loop.flags.originalOrderUpdated ∧
      v.closes es extra =
        (loop.flags.originalOrderUpdated && loop.order.life.orderStatus.isTerminal) := by
    rw [OrderLife.after, OrderLife.closes, hlife]
    rcases hupd with hupd | hwork
    · rw [hupd]
      exact ⟨rfl, rfl⟩
    · simp [finish_of_not_terminal hwork, hwork]
  rw [updateWithReport_of_order now hres ho, hafter.1, hafter.2]
  cases hu : loop.flags.originalOrderUpdated with
  | false =>
    refine ⟨loop.order, loop.exchRefToOrderId, ?_, hsound, rfl, rfl⟩
    simp [finish]
  | true =>
    refine ⟨finishOrder loop.order, loop.exchRefToOrderId, finishOrder_life hsound,
      finishOrder_sound hsound, finishOrder_exchOrderRef _, ?_⟩
    have hterm : (finishOrder loop.order).isInTerminalState =
        loop.order.life.orderStatus.isTerminal := by
      have hstatus := congrArg orderStatus (finishOrder_life hsound)
      rw [finish_orderStatus] at hstatus
      exact congrArg OrderStatus.isTerminal hstatus
    rw [Bool.true_and, ← hterm, if_pos rfl]
    rfl

/-- A report that only links its order leaves nothing to infer. -/
lemma eq_of_isLinkageOnly (h : r.isLinkageOnly = true) :
    ∃ e linkage, r.orderReportEntries = [e] ∧ e.acted = some (.orderIdLinkageReport linkage) ∧
      tradePayloads r.orderReportEntries = [] := by
  simp only [OrderReport.isLinkageOnly, and_eq_true, beq_iff_eq] at h
  obtain ⟨e, he⟩ := length_eq_one_iff.mp h.1
  have hlinks := h.2
  rw [he, any_cons, any_nil, Bool.or_false] at hlinks
  simp only [links] at hlinks
  split at hlinks
  · rename_i linkage hacted
    refine ⟨e, linkage, he, hacted, ?_⟩
    simp only [acted] at hacted
    split at hacted <;> cases hacted
    rename_i hpayload
    rw [he]
    simp [tradePayloads, hpayload]
  · cases hlinks

lemma inferStateFromTrades_of_no_trades (h : tradePayloads es = []) (l : LiveOrder) :
    inferStateFromTrades es l = none := by
  cases hinfer : inferStateFromTrades es l with
  | none => rfl
  | some e => exact absurd h (inferStateFromTrades_eq_some hinfer).2.2.1

/-- In a report that does more than link its order, a lone entry is not a linkage. -/
lemma links_of_lone (honly : ¬ r.isLinkageOnly = true) (l : LiveOrder)
    (hlone : (r.orderReportEntries.length == 1 &&
      (inferStateFromTrades r.orderReportEntries l).isNone) = true) :
    ∀ e ∈ r.orderReportEntries ++ (inferStateFromTrades r.orderReportEntries l).toList,
      e.links = false := by
  intro e he
  rw [and_eq_true, isNone_iff_eq_none] at hlone
  rw [hlone.2, toList_none, append_nil] at he
  by_contra hlinks
  rw [not_eq_false] at hlinks
  refine honly ?_
  rw [OrderReport.isLinkageOnly, hlone.1, Bool.true_and]
  exact any_eq_true.mpr ⟨e, he, hlinks⟩

/-- The entry that is inferred needs no explanation. -/
lemma explained_of_entries (hx : ∀ e ∈ es, e.explained = true) (l : LiveOrder) :
    ∀ e ∈ es ++ (inferStateFromTrades es l).toList, e.explained = true := by
  intro e he
  rcases mem_append.mp he with he | he
  · exact hx e he
  · obtain ⟨_, _, _, _, _, hacted⟩ := inferStateFromTrades_eq_some (mem_toList.mp he)
    simp [explained, hacted]

/-- Linking leaves an order at work, unless it was filled or cancelled. -/
lemma promoted_working {σ : OrderStatus} (h : σ.isSettled = false) :
    (promoted σ).isTerminal = false := by
  cases σ <;> first | rfl | cases h

/-- **The first core follows the life of an order**, for the reports it heeds. -/
theorem updateWithReport_life (now : Int) {l : LiveOrder} (h0 : r.orderId ≠ 0)
    (ho : m.orderDict.lookup r.orderId = some o) (hs : o.Sound) (hlife : o.life = l.life)
    (hx : ∀ e ∈ r.orderReportEntries, e.explained = true)
    (hlink : r.isLinkageOnly = true → o.orderState.orderStatus.isSettled = false) :
    ∃ o' refs, o'.life = l.life.after r.orderReportEntries
        (inferStateFromTrades r.orderReportEntries l) ∧ o'.Sound ∧
      o'.orderState.exchOrderRef = refAfter r.linkedRefs (touched o r).orderState.exchOrderRef ∧
      (m.updateWithReport now r).1 = m.written r.orderId refs o'
        (l.life.closes r.orderReportEntries (inferStateFromTrades r.orderReportEntries l)) := by
  have hres : m.resolveReport r = some r.orderId := by
    rw [resolveReport, if_pos h0, if_pos (Dict.mem_of_lookup ho)]
  have hinfer := inferStateEntry_eq hlife r.orderReportEntries
  have htouched : (touched o r).life = l.life := hlife
  have hsound : (touched o r).Sound := ⟨hs.filledQty, hs.accQty⟩
  by_cases honly : r.isLinkageOnly = true
  · -- the order is linked and perhaps promoted; it ends up working either way
    obtain ⟨e, linkage, hes, hacted, hno⟩ := eq_of_isLinkageOnly honly
    have hnone := inferStateFromTrades_of_no_trades hno l
    have hloop : m.entryLoop r.orderId o r = EntryLoop.entry r.exchange r.orderId
        r.updateTimestamp true
        { order := touched o r, exchRefToOrderId := m.exchRefToOrderId } e := by
      rw [entryLoop, hinfer, hnone, hes]
      rfl
    have hafter : l.life.afterEntries r.orderReportEntries
        (inferStateFromTrades r.orderReportEntries l) =
          { l.life with orderStatus := promoted l.life.orderStatus } := by
      rw [hnone, hes]
      show entry true l.life e = _
      simp [entry, hacted]
    have hwork : (l.life.afterEntries r.orderReportEntries
        (inferStateFromTrades r.orderReportEntries l)).orderStatus.isTerminal = false := by
      rw [hafter, ← hlife]
      exact promoted_working (hlink honly)
    have hloopLife : (m.entryLoop r.orderId o r).order.life = l.life.afterEntries
        r.orderReportEntries (inferStateFromTrades r.orderReportEntries l) := by
      rw [hafter, hloop, ← hlife]
      simp only [EntryLoop.entry, hacted, promoted]
      split_ifs with hlone hpromoted hpromoted
      · rfl
      · exact absurd hlone.2 hpromoted
      · exact absurd ⟨trivial, hpromoted⟩ hlone
      · rfl
    have hloopSound : (m.entryLoop r.orderId o r).order.Sound := by
      rw [hloop]
      simp only [EntryLoop.entry, hacted]
      split_ifs <;> exact ⟨hs.filledQty, hs.accQty⟩
    obtain ⟨o', refs, hlife', hsound', href, hm⟩ :=
      written_of_follows now hres ho hloopLife (.inr hwork) hloopSound
    refine ⟨o', refs, hlife', hsound', ?_, hm⟩
    rw [href, hloop, OrderReport.linkedRefs, hes]
    simp only [EntryLoop.entry, hacted, filterMap_cons, linkedRef]
    split_ifs <;> rfl
  · -- no linkage is alone, so the loop follows entry by entry
    have hstart : ({ order := touched o r, exchRefToOrderId := m.exchRefToOrderId } :
        EntryLoop).order.Sound := hsound
    have hfollows := EntryLoop.follows_foldl r.exchange r.orderId r.updateTimestamp
      (links_of_lone honly l) (explained_of_entries hx l) hstart
    have hloop : m.entryLoop r.orderId o r =
        (r.orderReportEntries ++ (inferStateFromTrades r.orderReportEntries l).toList).foldl
          (EntryLoop.entry r.exchange r.orderId r.updateTimestamp
            (r.orderReportEntries.length == 1 &&
              (inferStateFromTrades r.orderReportEntries l).isNone))
          { order := touched o r, exchRefToOrderId := m.exchRefToOrderId } := by
      rw [entryLoop, hinfer]
    rw [← hloop] at hfollows
    obtain ⟨o', refs, hlife', hsound', href, hm⟩ := written_of_follows now hres ho
      (hfollows.life.trans (by rw [htouched]; rfl))
      (.inl (hfollows.updated.trans (false_or _))) hfollows.sound
    refine ⟨o', refs, hlife', hsound', ?_, hm⟩
    rw [href, hfollows.ref]
    exact congrArg (refAfter · _) (filterMap_linkedRef_loopEntries l r)

end OrderManager

end Zkbot
