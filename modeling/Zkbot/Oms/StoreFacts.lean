import Zkbot.Core.Fifo
import Zkbot.Core.Run
import Zkbot.Oms.Reports

/-!
# What the store operations change

One set of equations for each operation of the order store, in the form the later modules use them:
what an operation does to the order it is about, and that it leaves everything else alone.

* `SameBut id os os'` — the two stores differ at most in the records of order `id` and in the
  reference index.
* `evicted os id` — the order that `mark_closed id` would push out of the cache, as a function of
  the store before the call.  It need not be `id`, and it need not be closed.
* `LiveOrder.terms` — the fields of an order that are fixed once it is created.
-/

namespace Zkbot

open List Option AList Dict

/-! ## The terms of an order -/

/-- The part of a live record that neither reports nor cancels nor failures change. -/
structure OrderTerms where
  orderId : Int
  accountId : Int
  instrumentId : ℕ
  gwId : ℕ
  buySellType : BuySellType
  price : ℚ
  qty : ℚ
  isExternal : Bool
  accountingFlags : OrderAccountingFlags

def LiveOrder.terms (l : LiveOrder) : OrderTerms :=
  { orderId := l.orderId, accountId := l.accountId, instrumentId := l.instrumentId,
    gwId := l.gwId, buySellType := l.buySellType, price := l.price, qty := l.qty,
    isExternal := l.isExternal, accountingFlags := l.accountingFlags }

section Terms

variable {l l' : LiveOrder} (h : l'.terms = l.terms)
include h

lemma LiveOrder.accountId_of_terms : l'.accountId = l.accountId := congrArg OrderTerms.accountId h
lemma LiveOrder.gwId_of_terms : l'.gwId = l.gwId := congrArg OrderTerms.gwId h
lemma LiveOrder.qty_of_terms : l'.qty = l.qty := congrArg OrderTerms.qty h
lemma LiveOrder.price_of_terms : l'.price = l.price := congrArg OrderTerms.price h
lemma LiveOrder.flags_of_terms : l'.accountingFlags = l.accountingFlags :=
  congrArg OrderTerms.accountingFlags h
lemma LiveOrder.buySellType_of_terms : l'.buySellType = l.buySellType :=
  congrArg OrderTerms.buySellType h

end Terms

namespace OrderStoreV2

variable {id : Int} {os : OrderStoreV2} {l : LiveOrder}

/-! ## Frames -/

/-- The stores differ at most in the records of `id`, in the reference index and in the table of
reference strings. -/
structure SameBut (id : Int) (os os' : OrderStoreV2) : Prop where
  live : ∀ j, j ≠ id → os'.live.lookup j = os.live.lookup j
  detail : ∀ j, j ≠ id → os'.detail.lookup j = os.detail.lookup j
  openOrderIds : os'.openOrderIds = os.openOrderIds
  openByAccount : os'.openByAccount = os.openByAccount
  externalOrderIds : os'.externalOrderIds = os.externalOrderIds
  closedLru : os'.closedLru = os.closedLru
  maxCachedOrders : os'.maxCachedOrders = os.maxCachedOrders
  useTimeEmulation : os'.useTimeEmulation = os.useTimeEmulation
  idCounter : os'.idCounter = os.idCounter

lemma SameBut.refl (id : Int) (os : OrderStoreV2) : SameBut id os os := by
  constructor <;> intros <;> rfl

lemma SameBut.trans {os' os'' : OrderStoreV2} (h : SameBut id os os') (h' : SameBut id os' os'') :
    SameBut id os os'' where
  live j hj := (h'.live j hj).trans (h.live j hj)
  detail j hj := (h'.detail j hj).trans (h.detail j hj)
  openOrderIds := h'.openOrderIds.trans h.openOrderIds
  openByAccount := h'.openByAccount.trans h.openByAccount
  externalOrderIds := h'.externalOrderIds.trans h.externalOrderIds
  closedLru := h'.closedLru.trans h.closedLru
  maxCachedOrders := h'.maxCachedOrders.trans h.maxCachedOrders
  useTimeEmulation := h'.useTimeEmulation.trans h.useTimeEmulation
  idCounter := h'.idCounter.trans h.idCounter

lemma SameBut.mem_live {os' : OrderStoreV2} (h : SameBut id os os') (hid : id ∈ os.live)
    (hid' : id ∈ os'.live) (j : Int) : j ∈ os'.live ↔ j ∈ os.live := by
  by_cases hj : j = id
  · subst hj
    exact iff_of_true hid' hid
  · rw [← lookup_isSome, h.live j hj, lookup_isSome]

lemma sameBut_setLive (os : OrderStoreV2) (id : Int) (l : LiveOrder) :
    SameBut id os { os with live := os.live.insert id l } := by
  constructor
  · exact fun j hj => lookup_insert_ne hj
  all_goals intros; rfl

lemma sameBut_setDetail (os : OrderStoreV2) (id : Int) (d : OrderDetailLog) :
    SameBut id os { os with detail := os.detail.insert id d } := by
  constructor
  · exact fun _ _ => rfl
  · exact fun j hj => lookup_insert_ne hj
  all_goals rfl

/-! ## Updating both records -/

lemma updateLiveAndDetail_eq {d : OrderDetailLog} (hl : os.live.lookup id = some l)
    (hd : os.detail.lookup id = some d)
    (f : LiveOrder → OrderDetailLog → LiveOrder × OrderDetailLog) :
    os.updateLiveAndDetail id f = some { os with
      live := os.live.insert id (f l d).1
      detail := os.detail.insert id (f l d).2 } := by
  simp [updateLiveAndDetail, hl, hd]

lemma sameBut_setBoth (os : OrderStoreV2) (id : Int) (l : LiveOrder) (d : OrderDetailLog) :
    SameBut id os { os with live := os.live.insert id l, detail := os.detail.insert id d } :=
  (sameBut_setLive os id l).trans (sameBut_setDetail { os with live := os.live.insert id l } id d)

/-! ## Linkage -/

lemma registerExchRef_live (hl : os.live.lookup id = some l) (gwId : ℕ) (ref : String) :
    (os.registerExchRef id gwId ref).live.lookup id =
      some { l with exchOrderRefId := some (os.dynStrings.intern ref).2 } := by
  simp [registerExchRef, hl]

lemma sameBut_registerExchRef (os : OrderStoreV2) (id : Int) (gwId : ℕ) (ref : String) :
    SameBut id os (os.registerExchRef id gwId ref) := by
  constructor
  · exact fun j hj => lookup_modify_ne hj _ _
  all_goals intros; rfl

/-- The status a linkage-only report leaves behind. -/
def promoted (σ : OrderStatus) : OrderStatus :=
  if σ = .pending ∨ σ = .rejected then .booked else σ

lemma applyLinkagePromotion_live (hl : os.live.lookup id = some l) :
    (os.applyLinkagePromotion id).live.lookup id =
      some { l with orderStatus := promoted l.orderStatus } := by
  simp only [applyLinkagePromotion, lookup_modify_self, hl, map_some, promoted]
  split_ifs <;> rfl

lemma sameBut_applyLinkagePromotion (os : OrderStoreV2) (id : Int) :
    SameBut id os (os.applyLinkagePromotion id) := by
  constructor
  · exact fun j hj => lookup_modify_ne hj _ _
  all_goals intros; rfl

/-! ## Closing and eviction -/

def evicted (os : OrderStoreV2) (id : Int) : Option Int :=
  if os.closedLru.length + 1 > os.maxCachedOrders then (os.closedLru ++ [id]).head? else none

lemma SameBut.evicted {os' : OrderStoreV2} (h : SameBut id os os') (j : Int) :
    os'.evicted j = os.evicted j := by
  simp [OrderStoreV2.evicted, h.closedLru, h.maxCachedOrders]

lemma touch_live (os : OrderStoreV2) (id : Int) (l : LiveOrder) (ts : Int) :
    (os.touch id l ts).live.lookup id = some { l with updatedAt := ts } := lookup_insert _

/-- The store between the bookkeeping of `mark_closed` and its eviction. -/
def afterClose (os : OrderStoreV2) (id : Int) (closedLru : List Int) : OrderStoreV2 :=
  { os with
    openOrderIds := os.openOrderIds.erase id
    openByAccount :=
      match os.live.lookup id with
      | some live => os.openByAccount.modify live.accountId (·.erase id)
      | none => os.openByAccount
    closedLru }

lemma markClosed_of_none (h : os.evicted id = none) :
    os.markClosed id = os.afterClose id (os.closedLru ++ [id]) := by
  have hlen : ¬ (os.closedLru ++ [id]).length > os.maxCachedOrders := by
    intro hgt
    simp only [evicted, length_append, length_singleton] at h hgt
    rw [if_pos hgt] at h
    simp at h
  simp only [markClosed, if_neg hlen]
  rfl

lemma markClosed_of_some {e : Int} (h : os.evicted id = some e) :
    os.markClosed id = (os.afterClose id (os.closedLru ++ [id]).tail).cleanupOrder e := by
  simp only [evicted] at h
  split_ifs at h with hgt
  obtain ⟨q, hq⟩ : ∃ q, os.closedLru ++ [id] = e :: q := by
    cases hc : os.closedLru ++ [id] with
    | nil => simp [hc] at h
    | cons x q =>
      rw [hc, head?_cons, some.injEq] at h
      exact ⟨q, by rw [h]⟩
  have hlen : (e :: q).length > os.maxCachedOrders := by
    rw [← hq]
    simpa using hgt
  simp only [markClosed, hq, if_pos hlen, tail_cons]
  rfl

/-- Closing removes the records of the evicted order and touches no other record. -/
lemma markClosed_records (os : OrderStoreV2) (id j : Int) :
    (os.markClosed id).live.lookup j =
        (if os.evicted id = some j then none else os.live.lookup j) ∧
      (os.markClosed id).detail.lookup j =
        if os.evicted id = some j then none else os.detail.lookup j := by
  cases he : os.evicted id with
  | none => simp [markClosed_of_none he, afterClose]
  | some e =>
    rw [markClosed_of_some he]
    simp [cleanupOrder, afterClose, lookup_erase_if, eq_comm]

lemma markClosed_live (os : OrderStoreV2) (id j : Int) :
    (os.markClosed id).live.lookup j =
      if os.evicted id = some j then none else os.live.lookup j :=
  (markClosed_records os id j).1

lemma live_of_markClosed {j : Int} (h : (os.markClosed id).live.lookup j = some l) :
    os.live.lookup j = some l := by
  rw [markClosed_live] at h
  split_ifs at h
  exact h

section

variable (os)

lemma markClosed_detail (id j : Int) :
    (os.markClosed id).detail.lookup j =
      if os.evicted id = some j then none else os.detail.lookup j :=
  (markClosed_records os id j).2

/-- Closing removes the evicted order's own reference from the index. -/
lemma markClosed_refs (id : Int) (k : ℕ × ℕ) :
    (os.markClosed id).orderIdByExchRef.lookup k =
      if (os.evicted id).bind os.refKey = some k then none else os.orderIdByExchRef.lookup k := by
  cases he : os.evicted id with
  | none => simp [markClosed_of_none he, afterClose]
  | some e =>
    rw [markClosed_of_some he, bind_some]
    have hk : (os.afterClose id (os.closedLru ++ [id]).tail).refKey e = os.refKey e := rfl
    simp only [cleanupOrder, hk]
    cases os.refKey e with
    | none => simp [afterClose]
    | some key =>
      simp [afterClose, lookup_erase_if, eq_comm]

/-- The ids of closed orders are a bounded queue. -/
lemma markClosed_closedLru (id : Int) :
    (os.markClosed id).closedLru = Fifo.push os.maxCachedOrders os.closedLru id := by
  cases he : os.evicted id with
  | none =>
    rw [markClosed_of_none he, Fifo.push, if_neg]
    · rfl
    · intro hgt
      simp [evicted, hgt] at he
  | some e =>
    rw [markClosed_of_some he, Fifo.push, if_pos]
    · rfl
    · by_contra hgt
      simp [evicted, hgt] at he

/-- An eviction changes no field that `cleanup_order` leaves alone. -/
lemma markClosed_field {β : Type} {field : OrderStoreV2 → β} {id : Int} {v : β}
    (hclean : ∀ os e, field (cleanupOrder os e) = field os)
    (hclose : ∀ q, field (os.afterClose id q) = v) : field (os.markClosed id) = v := by
  cases he : os.evicted id with
  | none => rw [markClosed_of_none he, hclose]
  | some e => rw [markClosed_of_some he, hclean, hclose]

lemma markClosed_dynStrings (id : Int) : (os.markClosed id).dynStrings = os.dynStrings :=
  os.markClosed_field (fun _ _ => rfl) fun _ => rfl

/-- Closing does not touch the index of external orders, whatever it evicts. -/
lemma markClosed_externalOrderIds (id : Int) :
    (os.markClosed id).externalOrderIds = os.externalOrderIds :=
  os.markClosed_field (fun _ _ => rfl) fun _ => rfl

lemma markClosed_maxCachedOrders (id : Int) :
    (os.markClosed id).maxCachedOrders = os.maxCachedOrders :=
  os.markClosed_field (fun _ _ => rfl) fun _ => rfl

lemma markClosed_openOrderIds (id : Int) :
    (os.markClosed id).openOrderIds = os.openOrderIds.erase id :=
  os.markClosed_field (fun _ _ => rfl) fun _ => rfl

end

/-- Closing takes the order out of the open set of its own account only. -/
lemma mem_markClosed_openByAccount (hl : os.live.lookup id = some l) (a j : Int) :
    j ∈ (os.markClosed id).openByAccount.getD a ∅ ↔
      j ∈ os.openByAccount.getD a ∅ ∧ ¬ (j = id ∧ a = l.accountId) := by
  have hopen : (os.markClosed id).openByAccount =
      os.openByAccount.modify l.accountId (·.erase id) :=
    os.markClosed_field (fun _ _ => rfl) fun _ => by simp only [afterClose, hl]
  rw [hopen, Dict.getD, Dict.getD]
  by_cases ha : a = l.accountId
  · rw [ha, lookup_modify_self]
    cases os.openByAccount.lookup l.accountId with
    | none => simp
    | some m => simp [and_comm]
  · rw [lookup_modify_ne ha]
    simp [ha]

/-- What closing pushes out was in the queue, or is the closed order itself. -/
lemma mem_of_evicted {e : Int} (h : os.evicted id = some e) : e ∈ os.closedLru ∨ e = id := by
  simp only [evicted] at h
  split_ifs at h
  have := mem_of_mem_head? h
  simpa using this

lemma mem_markClosed_closedLru {j : Int} (h : j ∈ (os.markClosed id).closedLru) :
    j ∈ os.closedLru ∨ j = id := by
  rw [markClosed_closedLru] at h
  simpa using (Fifo.push_suffix _ _ _).subset h

end OrderStoreV2

/-! ## Giving back inventory -/

namespace OmsCoreV2

/-- What closing an order does to the positions: a sell gives back `qty − filled`. -/
def closePositions (ps : PositionStoreV2) (live : LiveOrder) : PositionStoreV2 :=
  match live.accountingFlags.posInstrumentId with
  | some posId =>
    if live.accountingFlags.isBuy then ps
    else if live.qty - live.filledQty > 0 then
      ps.unfreeze live.accountId posId (live.qty - live.filledQty)
    else ps
  | none => ps

lemma unfreezeRemaining_of_some {s : OmsCoreV2} {id : Int} {live l : LiveOrder}
    (hl : s.orders.live.lookup id = some l) (hqty : l.qty = live.qty)
    (hfilled : l.filledQty = live.filledQty) :
    s.unfreezeRemaining id live.accountId live.accountingFlags =
      { s with positions := closePositions s.positions live } := by
  simp only [unfreezeRemaining, closePositions, hl, map_some, getD_some, hqty, hfilled]
  cases live.accountingFlags.posInstrumentId with
  | none => rfl
  | some posId =>
    cases live.accountingFlags.isBuy with
    | true => rfl
    | false =>
      split_ifs <;> rfl

lemma unfreezeRemaining_of_none {s : OmsCoreV2} {id : Int} (hl : s.orders.live.lookup id = none)
    (accountId : Int) (flags : OrderAccountingFlags) :
    s.unfreezeRemaining id accountId flags = s := by
  simp only [unfreezeRemaining, hl, map_none, getD_none, gt_iff_lt, lt_self_iff_false,
    if_false, ite_self]
  split <;> rfl

end OmsCoreV2

end Zkbot
