import Zkbot.Oms.ReportFills
import Zkbot.Oms.StepCases

/-!
# Frozen inventory

A sell that is booked freezes the requested quantity when it is placed, and the frozen quantity of a
position is meant to be what its open sells still hold.  The ledger of successful freezes is not in
the core; it is carried along as a ghost (`ledgerStep`), and `FrozenExact` compares it with the
store.

The freeze and its release do not go by the same rule.  Freezing depends on `bookkeeping_balance`
and `use_margin`, a fill releases under `balance_check`, and closing releases under neither; a fill
reported both as a trade and as a state releases twice; and a report on a closed sell releases
again.  `KeepsFrozen` says which operations avoid all that.

* `drain` — what fills do to a frozen quantity.
* `frozenInv_step` — one operation keeps ledger and store together.
* `frozen_exact_of_run` — so does a run.
-/

namespace Zkbot

open List OrderStoreV2 Sample LiveOrder Dict TouchesOnly

open OrderStoreV2 (SameBut Quiet TouchesOnly)

/-! ## What fills and closing release -/

/-- The frozen quantity `f` after a list of fills; `releases` says whether fills of the order
release anything. -/
def drain (releases : Bool) (f : ℚ) (fills : List ℚ) : ℚ :=
  (fills.filter (0 < ·)).foldl (fun f q => max (f + if releases then -q else 0) 0) f

lemma drain_nil (b : Bool) (f : ℚ) : drain b f [] = f := rfl

lemma drain_cons (b : Bool) (f q : ℚ) (fills : List ℚ) :
    drain b f (q :: fills) =
      if 0 < q then drain b (max (f + if b then -q else 0) 0) fills else drain b f fills := by
  simp only [drain, filter_cons, decide_eq_true_eq]
  split_ifs <;> rfl

lemma drain_zero (b : Bool) (fills : List ℚ) : drain b 0 fills = 0 := by
  induction fills with
  | nil => rfl
  | cons q fills ih =>
    rw [drain_cons]
    split_ifs with hq hb
    · rw [max_eq_right (by linarith)]
      exact ih
    · rw [zero_add]
      exact ih
    · exact ih

lemma drain_false {f : ℚ} (hf : 0 ≤ f) (fills : List ℚ) : drain false f fills = f := by
  induction fills with
  | nil => rfl
  | cons q fills ih =>
    rw [drain_cons]
    simp [max_eq_left hf, ih]

namespace OmsCoreV2

/-- Whether the fills of an order release frozen inventory. -/
def fillReleases (l : LiveOrder) : Bool :=
  !decide (l.buySellType = .buy) && l.accountingFlags.balanceCheck

lemma frozenAt_fillDeltas (ps : PositionStoreV2) (l : LiveOrder) (fills : List ℚ) (ts : Int)
    (a : Int) (k : ℕ) :
    (applyDeltas ps (fillDeltas l fills) ts).frozenAt a k =
      if l.accountId = a ∧ l.accountingFlags.posInstrumentId = some k then
        drain (fillReleases l) (ps.frozenAt a k) fills
      else ps.frozenAt a k := by
  cases hp : l.accountingFlags.posInstrumentId with
  | none => simp [fillDeltas, hp, applyDeltas]
  | some j =>
    simp only [fillDeltas, hp, drain, applyDeltas, Option.some.injEq]
    induction fills.filter (0 < ·) generalizing ps with
    | nil => simp
    | cons q qs ih =>
      rw [map_cons, foldl_cons, ih, PositionStoreV2.frozenAt_applyDelta]
      have hkey : (a, k) = ((fillDelta l j q).accountId, (fillDelta l j q).instrumentId) ↔
          l.accountId = a ∧ j = k := by
        rw [Prod.mk.injEq]
        exact and_congr eq_comm eq_comm
      by_cases h : l.accountId = a ∧ j = k
      · rw [if_pos h, if_pos h, if_pos (hkey.mpr h)]
        rfl
      · rw [if_neg h, if_neg h, if_neg (fun hk => h (hkey.mp hk))]

lemma frozenAt_closePositions (ps : PositionStoreV2) (l : LiveOrder) (a : Int) (k : ℕ) :
    (closePositions ps l).frozenAt a k =
      if (l.accountId = a ∧ l.accountingFlags.posInstrumentId = some k) ∧
          l.accountingFlags.isBuy = false ∧ l.filledQty < l.qty then
        ps.frozenAt a k - min (l.qty - l.filledQty) (ps.frozenAt a k)
      else ps.frozenAt a k := by
  simp only [closePositions]
  cases hp : l.accountingFlags.posInstrumentId with
  | none => simp
  | some j =>
    cases hb : l.accountingFlags.isBuy with
    | true => simp
    | false =>
      simp only [Bool.false_eq_true, if_false, sub_pos]
      by_cases hq : l.filledQty < l.qty
      · rw [if_pos hq, PositionStoreV2.frozenAt_unfreeze _ (sub_nonneg.mpr hq.le)]
        simp [hq, eq_comm (a := a), eq_comm (a := k)]
      · simp [hq]

/-! ## The ledger of freezes -/

end OmsCoreV2

/-- What a sell froze when it was placed. -/
structure Freeze where
  accountId : Int
  key : ℕ
  qty : ℚ

/-- The successful freezes, by order id. -/
abbrev Ledger := Dict Int Freeze

/-- What an order still holds of its freeze: nothing once it is terminal or gone. -/
def OrderStoreV2.stillHeld (os : OrderStoreV2) (id : Int) (x : Freeze) : ℚ :=
  match os.live.lookup id with
  | some l => if l.isInTerminalState then 0 else x.qty - l.filledQty
  | none => 0

def OrderStoreV2.heldAt (os : OrderStoreV2) (a : Int) (k : ℕ) (id : Int) (x : Freeze) : ℚ :=
  if x.accountId = a ∧ x.key = k then os.stillHeld id x else 0

namespace OmsCoreV2

/-- The key that a request freezes inventory under. -/
def freezeKey (req : OrderRequest) (om : ResolvedOrderMeta) : Option ℕ :=
  if om.bookkeepingBalance && !om.useMargin && decide (req.buySellType ≠ .buy) then
    om.posInstrumentId
  else none

lemma freezeKey_eq_some {req : OrderRequest} {om : ResolvedOrderMeta} {k : ℕ} :
    freezeKey req om = some k ↔ booksInventory req om k := by
  simp only [freezeKey, booksInventory]
  split_ifs with h
  · simp only [Bool.and_eq_true, Bool.not_eq_true', decide_eq_true_eq] at h
    simp [h]
  · simp only [Bool.and_eq_true, Bool.not_eq_true', decide_eq_true_eq, not_and] at h
    refine iff_of_false (by simp) ?_
    rintro ⟨hbk, hm, hs, -⟩
    exact h ⟨hbk, hm⟩ hs

def freezeOf (s : OmsCoreV2) (req : OrderRequest) : Option Freeze :=
  if s.admits req ∧ s.refuses req = false then
    match s.resolveOrderMeta req with
    | .ok om => (freezeKey req om).map fun key =>
      { accountId := req.accountId, key, qty := req.qty }
    | .error _ => none
  else none

def recordFreeze (s : OmsCoreV2) (op : Op) (led : Ledger) : Ledger :=
  match op with
  | .place _ req => (s.freezeOf req).elim led fun x => led.insert req.orderId x
  | _ => led

/-- An operation of the core, with the ledger beside it. -/
def ledgerStep : OmsCoreV2 × Ledger → Op → Option (OmsCoreV2 × Ledger) :=
  withGhost step recordFreeze

/-- Events handled by a core whose ledger is empty. -/
def ledgerRun (s : OmsCoreV2) (evs : List OmsEvent) : Option (OmsCoreV2 × Ledger) :=
  run ledgerStep (s, ∅) (evs.flatMap OmsEvent.ops)

lemma ledgerRun_fst (s : OmsCoreV2) (evs : List OmsEvent) :
    (ledgerRun s evs).map Prod.fst = run handle s evs := by
  rw [run_handle]
  exact run_withGhost recordFreeze (s, ∅) _

/-- **Frozen inventory is exactly what the open sells still hold.** -/
def FrozenExact (s : OmsCoreV2) (led : Ledger) : Prop :=
  ∀ a k, s.positions.frozenAt a k = led.sumBy (s.orders.heldAt a k)

/-! ## The operations that keep it exact -/

/-- The key under which fills or the closing of an order can release something. -/
def sellKey (l : LiveOrder) : Option ℕ :=
  if l.buySellType = .buy ∧ l.accountingFlags.isBuy = true then none
  else l.accountingFlags.posInstrumentId

/-- The order will not be closed by the report, or has nothing to give back when it is. -/
def KeepsRest (l : LiveOrder) (r : OrderReport) : Prop :=
  l.qty ≤ l.filledQty ∨ if l.isInTerminalState then r.touches = false else r.ends = false
deriving Decidable

/-- A report that releases nothing: nothing is frozen at the key of its order, or it fills nothing
and gives nothing back. -/
def LeavesFrozen (s : OmsCoreV2) (l : LiveOrder) (r : OrderReport) : Prop :=
  ∀ k ∈ sellKey l, s.positions.frozenAt l.accountId k = 0 ∨ NoNewFill l r ∧ KeepsRest l r
deriving Decidable

/-- A report that releases what it fills: it fills nothing, or one fill within the quantity of an
order whose fills release. -/
def ReleasesFill (l : LiveOrder) (r : OrderReport) : Prop :=
  NoNewFill l r ∨ l.accountingFlags.balanceCheck = true ∧
    ∃ a ∈ (r.announcedFills l.qty).head?, FillsTo l r a ∧ a ≤ l.qty
deriving Decidable

/-- The reports that keep the frozen quantities exact.  On an open sell in the ledger they release
what they fill; elsewhere they release nothing, and they do not revive a sell in the ledger. -/
def ReportKeepsFrozen (s : OmsCoreV2) (led : Ledger) (id : Int) (l : LiveOrder)
    (r : OrderReport) : Prop :=
  if id ∈ led then
    if l.isInTerminalState then revives l r = false ∧ s.LeavesFrozen l r else ReleasesFill l r
  else s.LeavesFrozen l r
deriving Decidable

/-- A quantity that rounding to the precision of the instrument does not change. -/
def OnGrid (s : OmsCoreV2) (req : OrderRequest) : Prop :=
  ∀ om ∈ (s.resolveOrderMeta req).toOption, scaledQty req om = req.qty
deriving Decidable

/-- The operations that keep the frozen quantities exact. -/
def KeepsFrozen (x : OmsCoreV2 × Ledger) : Op → Prop
  | .place _ req => x.1.admits req → req.orderId ∉ x.2 ∧ req.orderId ∉ x.1.orders.closedLru ∧
      ((x.1.freezeOf req).isSome → x.1.OnGrid req)
  | .report r => ((x.1.createsExternal r).isSome → x.1.orders.idCounter ∉ x.2) ∧
      ∀ t ∈ x.1.reportTarget r, ∀ l ∈ x.1.orders.live.lookup t.2, x.1.ReportKeepsFrozen x.2 t.2 l r
  | .sendFailed _ id _ => ∀ l ∈ x.1.orders.live.lookup id, l.isInTerminalState = false →
      if id ∈ x.2 then 0 < x.1.orders.maxCachedOrders
      else ∀ k ∈ sellKey l, x.1.positions.frozenAt l.accountId k = 0 ∨ l.qty ≤ l.filledQty
  | .balanceUpdate _ u => ∀ e ∈ u.balances, e.instrumentType = .spot
  | _ => True

instance (x : OmsCoreV2 × Ledger) : (op : Op) → Decidable (KeepsFrozen x op)
  | .place .. | .report _ | .sendFailed .. | .balanceUpdate .. | .cancel .. | .panic _
  | .dontPanic _ | .cancelSendFailed .. | .reload _ => by dsimp only [KeepsFrozen]; infer_instance

end OmsCoreV2

/-! ## The invariant -/

/-- The record of a sell that froze `x`. -/
structure SellOf (x : Freeze) (l : LiveOrder) : Prop where
  qty : l.qty = x.qty
  accountId : l.accountId = x.accountId
  key : l.accountingFlags.posInstrumentId = some x.key
  isBuy : l.accountingFlags.isBuy = false
  side : l.buySellType ≠ .buy
  filled : l.isInTerminalState = false → 0 ≤ l.filledQty ∧ l.filledQty ≤ l.qty

lemma SellOf.of_terms {x : Freeze} {l l' : LiveOrder} (h : SellOf x l) (ht : l'.terms = l.terms)
    (hf : l'.isInTerminalState = false → 0 ≤ l'.filledQty ∧ l'.filledQty ≤ l.qty) :
    SellOf x l' where
  qty := (qty_of_terms ht).trans h.qty
  accountId := (accountId_of_terms ht).trans h.accountId
  key := by rw [flags_of_terms ht, h.key]
  isBuy := by rw [flags_of_terms ht, h.isBuy]
  side := by
    rw [buySellType_of_terms ht]
    exact h.side
  filled := by
    rw [qty_of_terms ht]
    exact hf

namespace OmsCoreV2

variable {os : OrderStoreV2}

/-- Ledger and store together. -/
structure FrozenInv (s : OmsCoreV2) (led : Ledger) : Prop where
  keys : SameKeys s.orders
  exact : FrozenExact s led
  sells : ∀ id x l, led.lookup id = some x → s.orders.live.lookup id = some l → SellOf x l
  /-- a sell that waits for eviction is closed -/
  queue : ∀ id x l, led.lookup id = some x → id ∈ s.orders.closedLru →
    s.orders.live.lookup id = some l → l.isInTerminalState = true

lemma stillHeld_of_working {id : Int} {l : LiveOrder} (hl : os.live.lookup id = some l)
    (hw : l.isInTerminalState = false) (x : Freeze) : os.stillHeld id x = x.qty - l.filledQty := by
  simp [stillHeld, hl, hw]

lemma stillHeld_of_closed {id : Int}
    (h : ∀ l, os.live.lookup id = some l → l.isInTerminalState = true) (x : Freeze) :
    os.stillHeld id x = 0 := by
  simp only [stillHeld]
  cases hl : os.live.lookup id with
  | none => rfl
  | some l => simp [h l hl]

namespace FrozenInv

variable {s s' : OmsCoreV2} {led : Ledger} {id : Int} {x : Freeze} (h : FrozenInv s led)
include h

lemma heldAt_nonneg (a : Int) (k : ℕ) (j : Int) (y : Freeze) (hy : led.lookup j = some y) :
    0 ≤ s.orders.heldAt a k j y := by
  simp only [heldAt]
  split_ifs
  · simp only [stillHeld]
    cases hl : s.orders.live.lookup j with
    | none => exact le_refl _
    | some l =>
      have hsell := h.sells j y l hy hl
      simp only
      split_ifs with ht
      · exact le_refl _
      · rw [← hsell.qty, sub_nonneg]
        exact (hsell.filled (by simpa using ht)).2
  · exact le_refl _

lemma frozenAt_nonneg (a : Int) (k : ℕ) : 0 ≤ s.positions.frozenAt a k := by
  rw [h.exact a k]
  exact sumBy_nonneg (h.heldAt_nonneg a k)

lemma share_le (hx : led.lookup id = some x) {l : LiveOrder}
    (hl : s.orders.live.lookup id = some l) (hw : l.isInTerminalState = false) :
    l.qty - l.filledQty ≤ s.positions.frozenAt x.accountId x.key := by
  have hle := le_sumBy (h.heldAt_nonneg x.accountId x.key) hx
  rw [← h.exact, heldAt, if_pos ⟨rfl, rfl⟩, stillHeld_of_working hl hw] at hle
  rw [(h.sells id x l hx hl).qty]
  exact hle

variable (ht : TouchesOnly id s.orders s'.orders)
include ht

lemma stillHeld_ne {j : Int} (hj : j ≠ id) {y : Freeze} (hy : led.lookup j = some y) :
    s'.orders.stillHeld j y = s.orders.stillHeld j y := by
  rcases ht.live j hj with heq | ⟨hq, hnone⟩
  · simp [stillHeld, heq]
  · rw [stillHeld_of_closed (h.queue j y · hy hq)]
    simp [stillHeld, hnone]

lemma sumBy_heldAt (hid : led.lookup id = none) (a : Int) (k : ℕ) :
    led.sumBy (s'.orders.heldAt a k) = led.sumBy (s.orders.heldAt a k) := by
  refine sumBy_congr ?_
  intro j y hy
  have hj : j ≠ id := by
    rintro rfl
    rw [hid] at hy
    cases hy
  simp [heldAt, h.stillHeld_ne ht hj hy]

/-- An operation on an order in the ledger that moves the frozen quantity at its key by what the
order holds more or less than before. -/
lemma exact_of_mem (hx : led.lookup id = some x)
    (hpos : ∀ a k, s'.positions.frozenAt a k = s.positions.frozenAt a k +
      if x.accountId = a ∧ x.key = k then s'.orders.stillHeld id x - s.orders.stillHeld id x
      else 0) : FrozenExact s' led := by
  intro a k
  have hsum := sumBy_of_agree (f := s.orders.heldAt a k) (g := s'.orders.heldAt a k) hx ?_
  · rw [hpos, h.exact a k]
    simp only [heldAt] at hsum ⊢
    split_ifs with hk
    · rw [if_pos hk, if_pos hk] at hsum
      linarith
    · rw [if_neg hk, if_neg hk] at hsum
      linarith
  · intro j y hj hy
    simp [heldAt, h.stillHeld_ne ht hj hy]

lemma of_touches (hkeys : SameKeys s'.orders) (hexact : FrozenExact s' led)
    (hsell : ∀ x l', led.lookup id = some x → s'.orders.live.lookup id = some l' → SellOf x l')
    (hqueue : ∀ x l', led.lookup id = some x → s'.orders.live.lookup id = some l' →
      id ∈ s'.orders.closedLru → l'.isInTerminalState = true) : FrozenInv s' led where
  keys := hkeys
  exact := hexact
  sells j y l hy hl := by
    by_cases hj : j = id
    · subst hj
      exact hsell y l hy hl
    · exact h.sells j y l hy (ht.live_some hj hl)
  queue j y l hy hq hl := by
    by_cases hj : j = id
    · subst hj
      exact hqueue y l hy hl hq
    · exact h.queue j y l hy ((ht.queue j hq).resolve_right hj) (ht.live_some hj hl)

lemma of_notMem (hkeys : SameKeys s'.orders) (hid : led.lookup id = none)
    (hpos : ∀ a k, s'.positions.frozenAt a k = s.positions.frozenAt a k) : FrozenInv s' led := by
  refine h.of_touches ht hkeys (fun a k => ?_) ?_ ?_
  · rw [hpos, h.exact, h.sumBy_heldAt ht hid]
  all_goals
    intro y m hy
    rw [hid] at hy
    cases hy

end FrozenInv

/-! ## What reports release -/

/-- A working order that a report neither fills by trades nor ends is not closed by it. -/
lemma not_closes_of_not_ends {l : LiveOrder} {r : OrderReport} (hw : l.isInTerminalState = false)
    (htr : tradePayloads r.orderReportEntries = []) (hr : r.ends = false) : closes l r = false := by
  have hstatus : (reportEffect l r).status.isTerminal = false := by
    rw [reportEffect, ReportEffect.finish_status, loopEntries_of_no_trades htr]
    refine ReportEffect.foldl_entry_induct (P := fun v => v.status.isTerminal = false) ?_ hw
    intro e he v hv
    simp only [OrderReport.ends, any_eq_false] at hr
    exact ReportEffect.entry_working hv (by simpa using hr e he)
  rw [closes, hstatus, Bool.and_false]

section Report

variable {s s' : OmsCoreV2} {led : Ledger} {id : Int} {gwId : ℕ} {r : OrderReport}
  {l l' : LiveOrder} {d d' : OrderDetailLog} {os : OrderStoreV2} {x : Freeze}
  (spec : ReportSpec s id gwId r l d s' os l' d')
include spec

/-- A report that does not close its order and has no fills changes no position. -/
lemma positions_of_no_fills (hfills : (reportEffect l r).fills = []) (hc : closes l r = false) :
    s'.positions = s.positions := by
  rw [spec.positions, hc, hfills]
  simp only [Bool.false_eq_true, fillDeltas, filter_nil]
  cases l.accountingFlags.posInstrumentId <;> rfl

/-- No report moves what is frozen under another key than that of its order. -/
lemma frozenAt_other_key {a : Int} {k : ℕ}
    (hkey : ¬ (l.accountId = a ∧ l.accountingFlags.posInstrumentId = some k)) :
    s'.positions.frozenAt a k = s.positions.frozenAt a k := by
  have hkey' : ¬ (l'.accountId = a ∧ l'.accountingFlags.posInstrumentId = some k) := by
    rw [accountId_of_terms spec.follows.terms, flags_of_terms spec.follows.terms]
    exact hkey
  rw [spec.positions]
  split_ifs
  · rw [frozenAt_closePositions, if_neg (fun h => hkey' h.1), frozenAt_fillDeltas, if_neg hkey]
  · rw [frozenAt_fillDeltas, if_neg hkey]

/-- **A report that leaves the frozen quantities alone.** -/
lemma frozenAt_of_leavesFrozen (hpos : ∀ a k, 0 ≤ s.positions.frozenAt a k)
    (hok : s.LeavesFrozen l r) (a : Int) (k : ℕ) :
    s'.positions.frozenAt a k = s.positions.frozenAt a k := by
  by_cases hkey : l.accountId = a ∧ l.accountingFlags.posInstrumentId = some k
  · obtain ⟨rfl, hp⟩ := hkey
    by_cases hbuy : l.buySellType = .buy ∧ l.accountingFlags.isBuy = true
    · -- a buy releases nothing
      have hrel : fillReleases l = false := by simp [fillReleases, hbuy.1]
      have hdrain : ∀ fills, (applyDeltas s.positions (fillDeltas l fills)
          r.updateTimestamp).frozenAt l.accountId k = s.positions.frozenAt l.accountId k := by
        intro fills
        rw [frozenAt_fillDeltas, hrel, drain_false (hpos _ _), ite_self]
      rw [spec.positions]
      split_ifs
      · rw [frozenAt_closePositions, flags_of_terms spec.follows.terms, hbuy.2]
        simp [hdrain]
      · exact hdrain _
    · rcases hok k (by rw [sellKey, if_neg hbuy, hp]; rfl) with hzero | ⟨hno, hrest⟩
      · -- nothing is frozen, so nothing can be released
        have hdrain : ∀ fills, (applyDeltas s.positions (fillDeltas l fills)
            r.updateTimestamp).frozenAt l.accountId k = 0 := by
          intro fills
          rw [frozenAt_fillDeltas, hzero, drain_zero, ite_self]
        rw [spec.positions, hzero]
        split_ifs
        · rw [frozenAt_closePositions, hdrain]
          split_ifs with hc
          · rw [min_eq_right (sub_nonneg.mpr hc.2.2.le), sub_zero]
          · rfl
        · exact hdrain _
      · -- nothing is filled, and nothing is given back
        obtain ⟨hfilled, hfills⟩ := reportEffect_of_noNewFill hno
        have hnil : applyDeltas s.positions (fillDeltas l []) r.updateTimestamp = s.positions := by
          rw [fillDeltas_nil]
          rfl
        rcases hrest with hfull | hstay
        · rw [spec.positions, hfills, hnil]
          split_ifs
          · rw [frozenAt_closePositions, if_neg]
            rw [spec.follows.filledQty, hfilled, qty_of_terms spec.follows.terms]
            rintro ⟨-, -, hlt⟩
            exact absurd hfull (not_le.mpr hlt)
          · rfl
        · rw [positions_of_no_fills spec hfills]
          split_ifs at hstay with ht
          · rw [closes, not_updated_of_not_touches ht hstay, Bool.false_and]
          · exact not_closes_of_not_ends (by simpa using ht) hno.1 hstay
  · exact frozenAt_other_key spec hkey

/-- **A report on an open sell that releases what it fills.**  The frozen quantity falls by the new
fill, and by the whole rest if the order is closed. -/
lemma frozenAt_of_releasesFill (hsell : SellOf x l) (hw : l.isInTerminalState = false)
    (hshare : l.qty - l.filledQty ≤ s.positions.frozenAt x.accountId x.key)
    (hok : ReleasesFill l r) :
    l.filledQty ≤ (reportEffect l r).filledQty ∧ (reportEffect l r).filledQty ≤ l.qty ∧
      ∀ a k, s'.positions.frozenAt a k = s.positions.frozenAt a k -
        if x.accountId = a ∧ x.key = k then
          if closes l r then l.qty - l.filledQty else (reportEffect l r).filledQty - l.filledQty
        else 0 := by
  obtain ⟨h0, hle⟩ := hsell.filled hw
  -- the fills release the increment of the cumulative fill
  have hfill : l.filledQty ≤ (reportEffect l r).filledQty ∧
      (reportEffect l r).filledQty ≤ l.qty ∧
      drain (fillReleases l) (s.positions.frozenAt x.accountId x.key) (reportEffect l r).fills =
        s.positions.frozenAt x.accountId x.key - ((reportEffect l r).filledQty - l.filledQty) := by
    rcases hok with hno | ⟨hbc, a, -, hto, hqty⟩
    · obtain ⟨hf, hfills⟩ := reportEffect_of_noNewFill hno
      rw [hf, hfills, sub_self, sub_zero]
      exact ⟨le_refl _, hle, rfl⟩
    · obtain ⟨hf, hfills⟩ := reportEffect_of_fillsTo hto h0
      have hpos : 0 < a - l.filledQty := fillTolerance_pos.trans hto.2.2.2
      have hrel : fillReleases l = true := by simp [fillReleases, hsell.side, hbc]
      rw [hf, hfills, hrel, drain_cons, if_pos hpos, if_pos rfl, drain_nil, max_eq_left]
      · exact ⟨by linarith, hqty, by ring⟩
      · linarith
  obtain ⟨hmono, hcap, hdrain⟩ := hfill
  refine ⟨hmono, hcap, fun a k => ?_⟩
  have hterms := spec.follows.terms
  by_cases hkey : x.accountId = a ∧ x.key = k
  · obtain ⟨rfl, rfl⟩ := hkey
    have hl : l.accountId = x.accountId ∧ l.accountingFlags.posInstrumentId = some x.key :=
      ⟨hsell.accountId, hsell.key⟩
    have hself : x.accountId = x.accountId ∧ x.key = x.key := ⟨rfl, rfl⟩
    rw [if_pos hself, spec.positions]
    cases closes l r with
    | true =>
      rw [if_pos rfl, if_pos rfl, frozenAt_closePositions, frozenAt_fillDeltas, hdrain,
        accountId_of_terms hterms, flags_of_terms hterms,
        qty_of_terms hterms, spec.follows.filledQty, hsell.isBuy]
      split_ifs with hc
      · rw [min_eq_left (by linarith)]
        ring
      · have hfull : ¬ (reportEffect l r).filledQty < l.qty := fun hlt => hc ⟨hl, rfl, hlt⟩
        rw [le_antisymm hcap (not_lt.mp hfull)]
    | false =>
      rw [if_neg (by simp), if_neg (by simp), frozenAt_fillDeltas, if_pos hl, hdrain]
  · have hl : ¬ (l.accountId = a ∧ l.accountingFlags.posInstrumentId = some k) := by
      rw [hsell.accountId, hsell.key, Option.some.injEq]
      exact hkey
    rw [if_neg hkey, sub_zero, frozenAt_other_key spec hl]

/-! ## Reports keep the invariant -/

lemma isInTerminalState_after {m : LiveOrder} (hm : s'.orders.live.lookup id = some m) :
    m.isInTerminalState = (reportEffect l r).status.isTerminal := by
  rw [spec.live_self hm, isInTerminalState, spec.follows.status]

lemma stillHeld_after_terminal (h : (reportEffect l r).status.isTerminal = true) (y : Freeze) :
    s'.orders.stillHeld id y = 0 :=
  stillHeld_of_closed (fun _ hm => (isInTerminalState_after spec hm).trans h) y

variable (hinv : FrozenInv s led) (hkeys : SameKeys s'.orders)
  (hl : s.orders.live.lookup id = some l)
include hinv hkeys hl

lemma frozenInv_report_closed (hx : led.lookup id = some x) (hw : l.isInTerminalState = true)
    (hrev : revives l r = false) (hok : s.LeavesFrozen l r) : FrozenInv s' led := by
  have ht := report spec
  have hterm := terminal_of_not_revives hw hrev
  have hbefore : s.orders.stillHeld id x = 0 := by
    refine stillHeld_of_closed (fun m hm => ?_) x
    rw [hl, Option.some.injEq] at hm
    exact hm ▸ hw
  refine hinv.of_touches ht hkeys (hinv.exact_of_mem ht hx ?_) ?_ ?_
  · intro a k
    rw [frozenAt_of_leavesFrozen spec hinv.frozenAt_nonneg hok, hbefore,
      stillHeld_after_terminal spec hterm, sub_self, ite_self, add_zero]
  · intro y m hy hm
    rw [spec.live_self hm]
    refine (hinv.sells id y l hy hl).of_terms spec.follows.terms (fun hcon => ?_)
    rw [← spec.live_self hm, isInTerminalState_after spec hm, hterm] at hcon
    cases hcon
  · intro y m hy hm _
    exact (isInTerminalState_after spec hm).trans hterm

lemma frozenInv_report_open (hx : led.lookup id = some x) (hw : l.isInTerminalState = false)
    (hok : ReleasesFill l r) : FrozenInv s' led := by
  have ht := report spec
  have hsell := hinv.sells id x l hx hl
  obtain ⟨hmono, hcap, hfrozen⟩ := frozenAt_of_releasesFill spec hsell hw
    (hinv.share_le hx hl hw) hok
  have hclosed : closes l r = true → (reportEffect l r).status.isTerminal = true := by
    intro hc
    rw [closes, Bool.and_eq_true] at hc
    exact hc.2
  refine hinv.of_touches ht hkeys (hinv.exact_of_mem ht hx ?_) ?_ ?_
  · intro a k
    rw [hfrozen, stillHeld_of_working hl hw, hsell.qty]
    cases hc : closes l r with
    | true =>
      rw [stillHeld_after_terminal spec (hclosed hc), if_pos rfl]
      split_ifs <;> ring
    | false =>
      have hwork : (reportEffect l r).status.isTerminal = false := by
        by_contra hcon
        rw [closes_of_terminal hw (by simpa using hcon)] at hc
        cases hc
      have hlive : s'.orders.live.lookup id = some l' := by
        rw [spec.orders, hc]
        exact spec.live
      rw [stillHeld_of_working hlive ((isInTerminalState_after spec hlive).trans hwork),
        spec.follows.filledQty]
      simp only [Bool.false_eq_true, if_false]
      split_ifs <;> ring
  · intro y m hy hm
    rw [spec.live_self hm]
    refine (hinv.sells id y l hy hl).of_terms spec.follows.terms (fun _ => ?_)
    rw [spec.follows.filledQty]
    exact ⟨(hsell.filled hw).1.trans hmono, hcap⟩
  · intro y m hy hm hq
    -- an open sell joins the queue only by being closed
    rw [isInTerminalState_after spec hm]
    cases hc : closes l r with
    | true => exact hclosed hc
    | false =>
      rw [spec.orders, hc] at hq
      have hcon := hinv.queue id x l hx (spec.same.closedLru ▸ hq) hl
      rw [hw] at hcon
      cases hcon

/-- **A report keeps ledger and store together.** -/
lemma frozenInv_report (hok : s.ReportKeepsFrozen led id l r) : FrozenInv s' led := by
  rw [ReportKeepsFrozen] at hok
  cases hx : led.lookup id with
  | none =>
    rw [if_neg (AList.lookup_eq_none.mp hx)] at hok
    exact hinv.of_notMem (.report spec) hkeys hx
      (frozenAt_of_leavesFrozen spec hinv.frozenAt_nonneg hok)
  | some x =>
    rw [if_pos (mem_of_lookup hx)] at hok
    cases hw : l.isInTerminalState with
    | true =>
      rw [hw, if_pos rfl] at hok
      exact frozenInv_report_closed spec hinv hkeys hl hx hw hok.1 hok.2
    | false =>
      rw [hw, if_neg (by simp)] at hok
      exact frozenInv_report_open spec hinv hkeys hl hx hw hok

end Report

/-! ## One operation -/

section Step

variable {s s' : OmsCoreV2} {led : Ledger} {req : OrderRequest} {om : ResolvedOrderMeta}
  {l : LiveOrder} {os : OrderStoreV2}

lemma recordFreeze_of_idle {op : Op} (h : s.Idle op) (led : Ledger) :
    s.recordFreeze op led = led := by
  cases op with
  | place now req =>
    have hnone : s.freezeOf req = none := if_neg fun hc => h hc.1
    simp [recordFreeze, hnone]
  | _ => rfl

lemma frozenInv_quiet (hinv : FrozenInv s led) (hkeys : SameKeys s'.orders)
    (hq : Quiet s.orders s'.orders) (hpos : s'.positions = s.positions) : FrozenInv s' led := by
  have hheld : ∀ id x, s'.orders.stillHeld id x = s.orders.stillHeld id x := by
    intro id x
    simp only [stillHeld]
    cases hl : s'.orders.live.lookup id with
    | none => rw [hq.live_none.mp hl]
    | some l' =>
      obtain ⟨l, hl₀, hcore⟩ := hq.live_some hl
      simp [hl₀, isInTerminalState_of_core hcore, filledQty_of_core hcore]
  refine ⟨hkeys, fun a k => ?_, fun id x l' hx hl' => ?_, fun id x l' hx hin hl' => ?_⟩
  · rw [hpos, hinv.exact a k]
    refine sumBy_congr ?_
    intro id x _
    simp [heldAt, hheld]
  · obtain ⟨l, hl, hcore⟩ := hq.live_some hl'
    have hsell := hinv.sells id x l hx hl
    refine hsell.of_terms (terms_of_core hcore) ?_
    rw [isInTerminalState_of_core hcore, filledQty_of_core hcore]
    exact hsell.filled
  · obtain ⟨l, hl, hcore⟩ := hq.live_some hl'
    rw [isInTerminalState_of_core hcore]
    exact hinv.queue id x l hx (hq.closedLru ▸ hin) hl

lemma freezeOf_eq (hadm : s.admits req) (hrefuse : s.refuses req = false)
    (hom : s.resolveOrderMeta req = .ok om) :
    s.freezeOf req = (freezeKey req om).map fun key =>
      { accountId := req.accountId, key, qty := req.qty } := by
  rw [freezeOf, if_pos ⟨hadm, hrefuse⟩, hom]

/-- **A new freeze is entered in the ledger.** -/
lemma frozenInv_freeze {k : ℕ} {d : OrderDetailLog} (hinv : FrozenInv s led)
    (hkeys : SameKeys s'.orders) (hadm : s.admits req) (hid : led.lookup req.orderId = none)
    (hq : req.orderId ∉ s.orders.closedLru) (hbook : booksInventory req om k)
    (hfreeze : s.positions.checkAndFreeze req.accountId k req.qty false = .ok s'.positions)
    (hl : Fresh req l) (hw : l.isInTerminalState = false) (hqty : l.qty = req.qty)
    (hflags : l.accountingFlags = accountingFlags req om)
    (horders : s'.orders = s.orders.enter req.orderId l d) :
    FrozenInv s' (led.insert req.orderId { accountId := req.accountId, key := k, qty := req.qty })
    := by
  have ht : TouchesOnly req.orderId s.orders s'.orders := by
    rw [horders]
    exact .enter _ _ _ _
  have hlive : s'.orders.live.lookup req.orderId = some l := by
    rw [horders]
    exact enter_live_self _ _ _ _
  have hpos := (validateOrderRequest_ok hadm.1).2.2
  have hsell : SellOf { accountId := req.accountId, key := k, qty := req.qty } l := by
    refine ⟨hqty, hl.accountId, ?_, ?_, ?_, fun _ => ?_⟩
    · rw [hflags]
      exact hbook.2.2.2
    · rw [hflags]
      exact decide_eq_false hbook.2.2.1
    · rw [hl.buySellType]
      exact hbook.2.2.1
    · rw [hl.filledQty, hqty]
      exact ⟨le_refl _, hpos.le⟩
  refine ⟨hkeys, fun a j => ?_, fun id x l' hx hl' => ?_, fun id x l' hx hin hl' => ?_⟩
  · rw [sumBy_insert _ hid, hinv.sumBy_heldAt ht hid, ← hinv.exact a j,
      PositionStoreV2.frozenAt_checkAndFreeze hfreeze, heldAt,
      stillHeld_of_working hlive hw, hl.filledQty, sub_zero]
    by_cases hkey : req.accountId = a ∧ k = j
    · rw [if_pos hkey, if_pos (by rw [hkey.1, hkey.2]), add_comm]
    · rw [if_neg hkey, zero_add, if_neg]
      rintro hcon
      exact hkey ⟨(Prod.mk.inj hcon).1.symm, (Prod.mk.inj hcon).2.symm⟩
  · rw [lookup_insert_if] at hx
    split_ifs at hx with hj
    · subst hj
      rw [hlive, Option.some.injEq] at hl'
      cases hx
      exact hl' ▸ hsell
    · rw [horders, enter_live_ne hj] at hl'
      exact hinv.sells id x l' hx hl'
  · rw [lookup_insert_if] at hx
    rw [horders] at hin hl'
    split_ifs at hx with hj
    · subst hj
      exact absurd hin hq
    · rw [enter_live_ne hj] at hl'
      exact hinv.queue id x l' hx hin hl'

/-- Closing does not evict the order that is closed, if there is room for one and it does not wait
in the queue already. -/
lemma evicted_ne_self {id : Int} (hroom : 0 < os.maxCachedOrders) (hq : id ∉ os.closedLru) :
    os.evicted id ≠ some id := by
  intro he
  simp only [evicted] at he
  split_ifs at he with hlen
  cases hc : os.closedLru with
  | nil =>
    rw [hc, length_nil] at hlen
    omega
  | cons e q =>
    rw [hc, cons_append, head?_cons, Option.some.injEq] at he
    exact hq (by rw [hc, he]; exact mem_cons_self)

/-- Closing an order releases nothing if nothing is frozen at its key or it is filled. -/
lemma frozenAt_close_of_empty {ps : PositionStoreV2}
    (h : ∀ k ∈ sellKey l, ps.frozenAt l.accountId k = 0 ∨ l.qty ≤ l.filledQty) (a : Int) (k : ℕ) :
    (closePositions ps l).frozenAt a k = ps.frozenAt a k := by
  rw [frozenAt_closePositions]
  split_ifs with hc
  · obtain ⟨⟨rfl, hp⟩, hbuy, hlt⟩ := hc
    have hkey : sellKey l = some k := by
      rw [sellKey, if_neg (by simp [hbuy]), hp]
    rcases h k hkey with hzero | hfull
    · rw [hzero, min_eq_right (sub_nonneg.mpr hlt.le), sub_zero]
    · exact absurd hfull (not_le.mpr hlt)
  · rfl

/-- **A failed send gives back what its order held, and nothing else.** -/
lemma frozenInv_sendFailed {id : Int} {l' : LiveOrder} (hinv : FrozenInv s led)
    (hkeys : SameKeys s'.orders) (hfail : s.SendFailure id l l' os s')
    (hok : if id ∈ led then 0 < s.orders.maxCachedOrders
      else ∀ k ∈ sellKey l, s.positions.frozenAt l.accountId k = 0 ∨ l.qty ≤ l.filledQty) :
    FrozenInv s' led := by
  have ht := TouchesOnly.sendFailed hfail
  have hl := hfail.found
  have hw := hfail.working
  cases hx : led.lookup id with
  | none =>
    rw [if_neg (AList.lookup_eq_none.mp hx)] at hok
    refine hinv.of_notMem ht hkeys hx (fun a k => ?_)
    rw [hfail.positions]
    split_ifs
    · rfl
    · exact frozenAt_close_of_empty hok a k
  | some x =>
    rw [if_pos (mem_of_lookup hx)] at hok
    have hsell := hinv.sells id x l hx hl
    have hnq : id ∉ s.orders.closedLru := by
      intro hq
      have hcon := hinv.queue id x l hx hq hl
      rw [hw] at hcon
      cases hcon
    have hstay : os.evicted id ≠ some id :=
      evicted_ne_self (hfail.same.maxCachedOrders ▸ hok) (hfail.same.closedLru ▸ hnq)
    have hshare := hinv.share_le hx hl hw
    have hafter : s'.orders.stillHeld id x = 0 :=
      stillHeld_of_closed (fun m hm => hfail.live_self hm ▸ hfail.closed) x
    refine hinv.of_touches ht hkeys (hinv.exact_of_mem ht hx (fun a k => ?_)) ?_ ?_
    · rw [hfail.positions, if_neg hstay, frozenAt_closePositions, hafter, stillHeld_of_working hl hw,
        ← hsell.qty]
      simp only [hsell.isBuy, hsell.key, hsell.accountId, Option.some.injEq, true_and]
      by_cases hkey : x.accountId = a ∧ x.key = k
      · rw [if_pos hkey]
        obtain ⟨rfl, rfl⟩ := hkey
        split_ifs with hc
        · rw [min_eq_left hshare]
          ring
        · have hfull : ¬ l.filledQty < l.qty := fun hlt => hc ⟨⟨rfl, rfl⟩, hlt⟩
          rw [le_antisymm (hsell.filled hw).2 (not_lt.mp hfull)]
          ring
      · rw [if_neg hkey, if_neg (fun hc => hkey hc.1), add_zero]
    · intro y m hy hm
      rw [hfail.live_self hm]
      refine (hinv.sells id y l hy hl).of_terms hfail.terms (fun hcon => ?_)
      rw [hfail.closed] at hcon
      cases hcon
    · intro y m hy hm _
      rw [hfail.live_self hm]
      exact hfail.closed

/-- **One operation keeps ledger and store together.** -/
theorem frozenInv_step {op : Op} (hinv : FrozenInv s led) (hok : KeepsFrozen (s, led) op)
    (h : s.step op = some s') : FrozenInv s' (s.recordFreeze op led) := by
  have hkeys := sameKeys_step hinv.keys h
  cases step_cases hinv.keys h with
  | quiet hq hres hpos hidle =>
    rw [recordFreeze_of_idle hidle]
    refine frozenInv_quiet hinv hkeys hq ?_
    rcases hpos with hpos | ⟨now, u, rfl, e, he, hne⟩
    · exact hpos
    · exact absurd (hok e he) hne
  | rejected hadm hrefuse l d hl hst horders hres hpos =>
    rename_i now req
    have hnone : s.freezeOf req = none := if_neg fun hc => by
      rw [hrefuse] at hc
      exact absurd hc.2 (by simp)
    simp only [recordFreeze, hnone]
    have ht : TouchesOnly req.orderId s.orders s'.orders := by
      rw [horders]
      exact (TouchesOnly.enter _ _ l d).trans (.markClosed _ _)
    exact hinv.of_notMem ht hkeys (AList.lookup_eq_none.mpr (hok hadm).1) (fun a k => by rw [hpos])
  | accepted hadm hrefuse om hom l d hbook hl hw hqty hprice hflags horders =>
    rename_i now req
    obtain ⟨hid, hq, hgrid⟩ := hok hadm
    have hnone : led.lookup req.orderId = none := AList.lookup_eq_none.mpr hid
    have ht : TouchesOnly req.orderId s.orders s'.orders := by
      rw [horders]
      exact .enter _ _ l d
    have hfr := freezeOf_eq hadm hrefuse hom
    have hother : (∀ k, ¬ booksInventory req om k) → s'.positions = s.positions →
        FrozenInv s' (s.recordFreeze (.place now req) led) := by
      intro hinv' hpos
      have hkey : freezeKey req om = none := by
        by_contra hcon
        obtain ⟨k, hk⟩ := Option.ne_none_iff_exists'.mp hcon
        exact hinv' k (freezeKey_eq_some.mp hk)
      rw [hkey, Option.map_none] at hfr
      simp only [recordFreeze, hfr]
      exact hinv.of_notMem ht hkeys hnone (fun a k => by rw [hpos])
    generalize hps : s'.positions = ps at hbook
    generalize s'.reservations = rs at hbook
    cases hbook with
    | nothing _ hno => exact hother hno hps
    | cash f hcash => exact hother (fun k hk => hk.2.2.1 hcash.2.2.1) hps
    | inventory k hk ps hfreeze =>
      rw [freezeKey_eq_some.mpr hk, Option.map_some] at hfr
      have hqty' : l.qty = req.qty := by
        rw [hqty]
        exact hgrid (by rw [hfr]; rfl) om (by rw [hom]; rfl)
      simp only [recordFreeze, hfr]
      exact frozenInv_freeze hinv hkeys hadm hnone hq hk (hps ▸ hfreeze) hl hw hqty' hflags
        horders
  | sendFailed l _ _ hfail =>
    exact frozenInv_sendFailed hinv hkeys hfail (hok l hfail.found hfail.working)
  | report _ gwId id l _ _ _ _ htarget hl _ spec =>
    exact frozenInv_report spec hinv hkeys hl (hok.2 (gwId, id) htarget l hl)
  | external r gwId _ _ _ hx spec =>
    have hid : s.orders.idCounter ∉ led := hok.1 (by rw [hx]; rfl)
    refine hinv.of_notMem ((touchesOnly_external s gwId r).trans (.report spec))
      hkeys (AList.lookup_eq_none.mpr hid) (fun a k => ?_)
    rw [positions_of_external spec]

end Step

/-! ## Runs -/

/-- An operation that is not about an open sell of the ledger, and enters none. -/
def Bystander (x : OmsCoreV2 × Ledger) : Op → Prop
  | .place _ req => x.1.freezeOf req = none
  | .report r => ∀ t ∈ x.1.reportTarget r, ∀ l ∈ x.1.orders.live.lookup t.2, t.2 ∈ x.2 →
      l.isInTerminalState = true
  | .sendFailed _ id _ => id ∉ x.2
  | _ => True

/-- A sell that never froze anything, or that is terminal already, does not move what is frozen. -/
lemma frozenAt_of_bystander {s s' : OmsCoreV2} {led : Ledger} {op : Op} (hinv : FrozenInv s led)
    (hok : KeepsFrozen (s, led) op) (hby : Bystander (s, led) op) (h : s.step op = some s')
    (a : Int)
    (k : ℕ) : s'.positions.frozenAt a k = s.positions.frozenAt a k := by
  cases step_cases hinv.keys h with
  | quiet _ _ hpos =>
    rcases hpos with hpos | ⟨now, u, rfl, e, he, hne⟩
    · rw [hpos]
    · exact absurd (hok e he) hne
  | rejected _ _ _ _ _ _ _ _ hpos => rw [hpos]
  | accepted hadm hrefuse om hom l d hbook hl hw hqty hprice hflags horders =>
    rename_i now req
    have hnone : s.freezeOf req = none := hby
    rw [freezeOf_eq hadm hrefuse hom, Option.map_eq_none_iff] at hnone
    generalize s'.positions = ps at hbook
    generalize s'.reservations = rs at hbook
    cases hbook with
    | nothing => rfl
    | cash => rfl
    | inventory j hj =>
      rw [freezeKey_eq_some.mpr hj] at hnone
      cases hnone
  | sendFailed l _ _ hfail =>
    have hrel := hok l hfail.found hfail.working
    rw [if_neg (show _ ∉ led from hby)] at hrel
    rw [hfail.positions]
    split_ifs
    · rfl
    · exact frozenAt_close_of_empty hrel a k
  | report _ gwId id l _ _ _ _ htarget hl _ spec =>
    have hrep := hok.2 (gwId, id) htarget l hl
    refine frozenAt_of_leavesFrozen spec hinv.frozenAt_nonneg ?_ a k
    rw [ReportKeepsFrozen] at hrep
    split_ifs at hrep with hmem ht
    · exact hrep.2
    · exact absurd (hby (gwId, id) htarget l hl hmem) ht
    · exact hrep
  | external _ _ _ _ _ _ spec => rw [positions_of_external spec]

end OmsCoreV2

/-- A core with empty stores, except for positions. -/
def OmsSetup.withPositions (u : OmsSetup) (ps : PositionStoreV2) : OmsCoreV2 :=
  { u.blank with positions := ps }

namespace OmsCoreV2

lemma frozenInv_start (u : OmsSetup) {ps : PositionStoreV2} (hzero : ∀ a k, ps.frozenAt a k = 0) :
    FrozenInv (u.withPositions ps) ∅ where
  keys _ := Iff.rfl
  exact a k := hzero a k
  sells _ _ _ hx := by cases hx
  queue _ _ _ hx := by cases hx

/-- **Frozen inventory.**  From empty stores and positions with nothing frozen, in every run whose
operations meet the conditions, the frozen quantities are exactly what the open sells still hold;
and an operation that is not about an open sell of the ledger does not change them. -/
theorem frozen_exact_of_run (u : OmsSetup) (ps : PositionStoreV2)
    (hzero : ∀ a k, ps.frozenAt a k = 0) (evs : List OmsEvent)
    (hok : Guarded ledgerStep KeepsFrozen (u.withPositions ps, ∅) (evs.flatMap OmsEvent.ops))
    (s : OmsCoreV2) (led : Ledger) (hrun : ledgerRun (u.withPositions ps) evs = some (s, led)) :
    FrozenExact s led ∧
      ∀ op s', KeepsFrozen (s, led) op → Bystander (s, led) op → s.step op = some s' →
        ∀ a k, s'.positions.frozenAt a k = s.positions.frozenAt a k := by
  have hinv : FrozenInv s led := by
    refine run_invariant (I := fun x => FrozenInv x.1 x.2) ?_ (frozenInv_start u hzero) hok hrun
    rintro ⟨s₁, led₁⟩ op ⟨s₂, led₂⟩ hinv hop hstep
    obtain ⟨s₃, hs₃, heq⟩ := Option.map_eq_some_iff.mp hstep
    obtain ⟨rfl, rfl⟩ := Prod.mk.inj heq
    exact frozenInv_step hinv hop hs₃
  refine ⟨hinv.exact, ?_⟩
  intro op s' hop hby hstep
  exact frozenAt_of_bystander hinv hop hby hstep

open Sample

/-- Ten bought at no price; two sells of six and four, of which the first is filled by two and the
second cannot be sent. -/
theorem frozen_exact_sample :
    ∃ s led, ledgerRun ((setup true false 4).withPositions {})
      [.message 0 (.placeOrder { request 10 .buy 10 with price := 0 }),
        report 10 [state .filled 10], place 11 .sell 6,
        place 12 .sell 4, report 11 [state .partialFilled 2],
        .message 0 (.gatewaySendFailed 12 0 "down")] = some (s, led) ∧
      FrozenExact s led ∧ s.positions.frozenAt 1 5 = 4 := by
  refine Prod.exists'.mp (exists_mem_imp (P := fun x : OmsCoreV2 × _ =>
    x.1.positions.frozenAt 1 5 = 4) (by decide +kernel) fun x hrun hval => ⟨?_, hval⟩)
  exact (frozen_exact_of_run (setup true false 4) {} (fun _ _ => rfl) _ (by decide +kernel)
    x.1 x.2 hrun).1

/-- A sell of ten that froze ten, and one report with a trade of four and the state that goes with
it: two are left frozen, where the order still holds six. -/
theorem frozen_released_twice :
    ∃ s led, ledgerRun ((setup true false 4).withPositions {})
      [.message 0 (.placeOrder { request 10 .buy 10 with price := 0 }),
        report 10 [trade 10, state .filled 10], place 11 .sell 10,
        report 11 [trade 4, state .partialFilled 4]] = some (s, led) ∧
      ¬ FrozenExact s led ∧ s.positions.frozenAt 1 5 = 2 := by
  refine Prod.exists'.mp (exists_mem_imp (P := fun x : OmsCoreV2 × _ =>
    x.1.positions.frozenAt 1 5 = 2 ∧ x.2.sumBy (x.1.orders.heldAt 1 5) = 6)
    (by decide +kernel) ?_)
  rintro ⟨s, led⟩ - ⟨hval, hheld⟩
  refine ⟨fun hexact => ?_, hval⟩
  have hcon := hexact 1 5
  rw [hval, hheld] at hcon
  norm_num at hcon

end OmsCoreV2

end Zkbot
