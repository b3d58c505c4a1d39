import Zkbot.Oms.OpenIndex

/-!
# Eviction of closed orders

The store keeps `max_cached_orders` closed orders in a queue and forgets the oldest.  Eviction looks
at the queue alone, so it is right only as long as the queue holds closed orders, each once.  But
every report that updates an order that is terminal already closes it again: the second copy pushes
out an order that closed later, and a rejected order that goes back to work stays in the queue.

* `reaches` — the order that an operation takes to a terminal state; `closedHistory` is the history
  of these along a run.
* `CacheSound` — no working order is forgotten, the record maps agree, and the last
  `max_cached_orders` distinct orders of the history can still be found.
* `EvictInv` — the invariant: the queue is the recent part of the history (`Fifo.Recent`), and what
  it holds is terminal and in the store.
* `KeepsQueue` — the operations that preserve it.
-/

namespace Zkbot

open List Option AList Dict Fifo LiveOrder OmsCoreV2 OmsEvent OrderStoreV2 Sample

open OrderStoreV2 (SameBut Quiet)

/-! ## The queue fits -/

/-- The queue is not longer than its capacity. -/
def OrderStoreV2.QueueFits (cap : ℕ) (os : OrderStoreV2) : Prop :=
  os.maxCachedOrders = cap ∧ os.closedLru.length ≤ cap

namespace OrderStoreV2

variable {cap : ℕ} {os os' : OrderStoreV2}

lemma QueueFits.congr (h : QueueFits cap os) (hcap : os'.maxCachedOrders = os.maxCachedOrders)
    (hq : os'.closedLru = os.closedLru) : QueueFits cap os' := by
  rw [QueueFits, hcap, hq]
  exact h

lemma QueueFits.markClosed (h : QueueFits cap os) (id : Int) :
    QueueFits cap (os.markClosed id) := by
  obtain ⟨rfl, hle⟩ := h
  rw [QueueFits, markClosed_maxCachedOrders, markClosed_closedLru]
  exact ⟨rfl, length_push_le hle id⟩

end OrderStoreV2

namespace OmsCoreV2

/-- **No operation overfills the queue.** -/
theorem queueFits_step {cap : ℕ} {s s' : OmsCoreV2} {op : Op} (hk : SameKeys s.orders)
    (h : s.orders.QueueFits cap) (hstep : s.step op = some s') : s'.orders.QueueFits cap := by
  have hreport : ∀ {s₀ : OmsCoreV2} {id : Int} {gwId : ℕ} {r : OrderReport} {l l' : LiveOrder}
      {d d' : OrderDetailLog} {os : OrderStoreV2}, s₀.orders.QueueFits cap →
      ReportSpec s₀ id gwId r l d s' os l' d' → s'.orders.QueueFits cap := by
    intro s₀ id gwId r l l' d d' os h₀ spec
    have hos := h₀.congr spec.same.maxCachedOrders spec.same.closedLru
    rw [spec.orders]
    split_ifs
    · exact hos.markClosed id
    · exact hos
  cases step_cases hk hstep with
  | quiet hq => exact h.congr hq.maxCachedOrders hq.closedLru
  | @rejected _ req _ _ _ l d _ _ horders =>
    have henter : (s.orders.enter req.orderId l d).QueueFits cap := h.congr rfl rfl
    rw [horders]
    exact henter.markClosed req.orderId
  | accepted _ _ om _ l d _ _ _ _ _ _ horders =>
    rw [horders]
    exact h.congr rfl rfl
  | sendFailed l l' os hfail =>
    rw [hfail.orders]
    exact (h.congr hfail.same.maxCachedOrders hfail.same.closedLru).markClosed _
  | report _ _ _ _ _ _ _ _ _ _ _ spec => exact hreport h spec
  | external r gwId _ _ _ _ spec =>
    have hadd : (s.addExternalOrder gwId r).orders.QueueFits cap := h.congr rfl rfl
    exact hreport hadd spec

/-! ## The history of closed orders -/

/-- The order that an operation takes to a terminal state. -/
def reaches (s : OmsCoreV2) : Op → Option Int
  | .place _ req => if s.admits req ∧ s.refuses req = true then some req.orderId else none
  | .report r =>
    match s.reportTarget r with
    | some (_, id) =>
      (s.orders.live.lookup id).bind fun l =>
        if !l.isInTerminalState && (reportEffect l r).status.isTerminal then some id else none
    | none =>
      (s.createsExternal r).bind fun gwId =>
        if (reportEffect (s.newExternal gwId r) r).status.isTerminal then
          some s.orders.idCounter
        else none
  | .sendFailed _ id _ =>
    (s.orders.live.lookup id).bind fun l => if l.isInTerminalState then none else some id
  | _ => none

/-- The orders that a run takes to a terminal state, oldest first. -/
def closedHistory (s : OmsCoreV2) (ops : List Op) : List Int :=
  trace step (fun s op => (s.reaches op).toList) s ops

end OmsCoreV2

/-- The persisted orders that are terminal when the core starts. -/
def OmsSetup.closedAtStart (u : OmsSetup) : List Int :=
  (u.orders.filter fun v1 => decide (v1.orderId ≠ 0) && v1.orderState.orderStatus.isTerminal).map
    (·.orderId)

/-- **The cache is sound** along a run from `u` that handles `evs`. -/
structure OmsCoreV2.CacheSound (u : OmsSetup) (evs : List OmsEvent) : Prop where
  /-- an order leaves `live` only if the operation takes it to a terminal state -/
  working : ∀ before op after, evs.flatMap ops = before ++ op :: after →
    ∀ s s', run step u.start before = some s → s.step op = some s' →
      ∀ l id, s.orders.live.lookup id = some l → l.isInTerminalState = false →
        id ∈ s'.orders.live ∨ s.reaches op = some id
  sameKeys : ∀ s, run handle u.start evs = some s → ∀ id, id ∈ s.orders.live ↔ id ∈ s.orders.detail
  /-- the newest closed orders are in `live` and found by their id -/
  newest : ∀ s, run handle u.start evs = some s →
    ∀ id ∈ newest u.maxCachedOrders (u.closedAtStart ++ closedHistory u.start (evs.flatMap ops)),
      id ∈ s.orders.live ∧ ∀ gwId ref, s.orders.resolveOrderId id gwId ref = some id

/-! ## The invariant -/

/-- The queue holds the recent part of the history `h`, and only terminal orders. -/
structure EvictInv (cap : ℕ) (h : List Int) (os : OrderStoreV2) : Prop where
  cap_eq : os.maxCachedOrders = cap
  recent : Fifo.Recent cap h os.closedLru
  terminal : ∀ id ∈ os.closedLru, ∃ l, os.live.lookup id = some l ∧ l.isInTerminalState = true
  /-- while there is room, nothing has been forgotten -/
  kept : os.closedLru.length < cap → ∀ id ∈ h, id ∈ os.live
  nonzero : ∀ id ∈ h, id ≠ 0
  noZero : 0 ∉ os.live

section EvictInv

variable {cap : ℕ} {h : List Int} {os os' : OrderStoreV2} {id : Int} (hinv : EvictInv cap h os)
  {l : LiveOrder}

include hinv

lemma EvictInv.mono (hcap : os'.maxCachedOrders = os.maxCachedOrders)
    (hq : os'.closedLru = os.closedLru)
    (hterm : ∀ j ∈ os.closedLru, ∀ l, os.live.lookup j = some l → l.isInTerminalState = true →
      ∃ l', os'.live.lookup j = some l' ∧ l'.isInTerminalState = true)
    (hkeys : ∀ j, j ∈ os.live → j ∈ os'.live) (h0 : 0 ∉ os'.live) : EvictInv cap h os' where
  cap_eq := hcap.trans hinv.cap_eq
  recent := by
    rw [hq]
    exact hinv.recent
  terminal j hj := by
    rw [hq] at hj
    obtain ⟨l, hl, ht⟩ := hinv.terminal j hj
    exact hterm j hj l hl ht
  kept hlt j hj := by
    rw [hq] at hlt
    exact hkeys j (hinv.kept hlt j hj)
  nonzero := hinv.nonzero
  noZero := h0

lemma EvictInv.sameBut (hs : SameBut id os os') (hid : id ∈ os.live) (hid' : id ∈ os'.live)
    (hq : id ∉ os.closedLru) : EvictInv cap h os' := by
  refine hinv.mono hs.maxCachedOrders hs.closedLru (fun j hj l hl ht => ?_)
    (fun j => (hs.mem_live hid hid' j).mpr) ?_
  · have hne : j ≠ id := fun heq => hq (heq ▸ hj)
    exact ⟨l, (hs.live j hne).trans hl, ht⟩
  · rw [hs.mem_live hid hid']
    exact hinv.noZero

lemma EvictInv.insert (l : LiveOrder) (hcap : os'.maxCachedOrders = os.maxCachedOrders)
    (hqueue : os'.closedLru = os.closedLru) (hlive : os'.live = os.live.insert id l) (h0 : id ≠ 0)
    (hq : id ∉ os.closedLru) : EvictInv cap h os' := by
  refine hinv.mono hcap hqueue (fun j hj l' hl' ht => ?_) (fun j hj => ?_) ?_
  · have hne : j ≠ id := fun heq => hq (heq ▸ hj)
    exact ⟨l', by rw [hlive, lookup_insert_ne hne, hl'], ht⟩
  · rw [hlive, mem_insert]
    exact .inr hj
  · rw [hlive, mem_insert]
    rintro (heq | hmem)
    · exact h0 heq.symm
    · exact hinv.noZero hmem

/-- **Closing an order that is not queued yet** extends the history by it. -/
lemma EvictInv.markClosed (hl : os.live.lookup id = some l) (ht : l.isInTerminalState = true)
    (hq : id ∉ os.closedLru) : EvictInv cap (h ++ [id]) (os.markClosed id) := by
  have hid0 : id ≠ 0 := by
    rintro rfl
    exact hinv.noZero (mem_of_lookup hl)
  have hrec : Fifo.Recent cap (h ++ [id]) (os.markClosed id).closedLru := by
    rw [markClosed_closedLru, hinv.cap_eq]
    exact hinv.recent.push hq
  -- the queue has no repetitions, so what stays in it is not what is evicted
  have hstay : ∀ j ∈ (os.markClosed id).closedLru, os.evicted id ≠ some j := by
    intro j hj he
    have hnodup : (os.closedLru ++ [id]).Nodup := by
      refine List.Nodup.append ?_ (nodup_singleton id) (by simpa using hq)
      exact (nodup_dedup h).sublist hinv.recent.isSuffix.sublist
    rw [markClosed_closedLru, Fifo.push] at hj
    simp only [evicted] at he
    split_ifs at he with hgt
    rw [if_pos hgt] at hj
    cases hc : os.closedLru ++ [id] with
    | nil => simp [hc] at he
    | cons x q =>
      rw [hc, head?_cons, some.injEq] at he
      rw [hc] at hj
      rw [hc, nodup_cons] at hnodup
      exact hnodup.1 (he ▸ hj)
  have hlookup : ∀ j ∈ (os.markClosed id).closedLru,
      ∃ l, os.live.lookup j = some l ∧ l.isInTerminalState = true := by
    intro j hj
    rcases mem_markClosed_closedLru hj with hold | heq
    · exact hinv.terminal j hold
    · exact ⟨l, heq ▸ hl, ht⟩
  refine ⟨?_, hrec, fun j hj => ?_, fun hlt j hj => ?_, fun j hj => ?_, fun hmem => ?_⟩
  · rw [markClosed_maxCachedOrders, hinv.cap_eq]
  · obtain ⟨l', hl', ht'⟩ := hlookup j hj
    refine ⟨l', ?_, ht'⟩
    rw [markClosed_live, if_neg (hstay j hj), hl']
  · -- there is room left, so nothing was evicted this time either
    rw [markClosed_closedLru, length_push, hinv.cap_eq] at hlt
    have hroom : ¬ os.closedLru.length + 1 > cap := by
      intro hgt
      rw [if_pos hgt] at hlt
      omega
    have hno : os.evicted id = none := by
      rw [evicted, hinv.cap_eq, if_neg hroom]
    rw [mem_markClosed_live, hno]
    refine ⟨by simp, ?_⟩
    rw [mem_append, mem_singleton] at hj
    rcases hj with hold | heq
    · exact hinv.kept (by omega) j hold
    · exact heq ▸ mem_of_lookup hl
  · rw [mem_append, mem_singleton] at hj
    rcases hj with hold | heq
    · exact hinv.nonzero j hold
    · exact heq ▸ hid0
  · exact hinv.noZero (mem_markClosed_live.mp hmem).2

lemma EvictInv.notMem_of_working (hl : os.live.lookup id = some l)
    (ht : l.isInTerminalState = false) : id ∉ os.closedLru := by
  intro hmem
  obtain ⟨l', hl', ht'⟩ := hinv.terminal id hmem
  obtain rfl : l = l' := mem_unique hl hl'
  rw [ht] at ht'
  cases ht'

/-- Closing one order does not evict another that is still working. -/
lemma EvictInv.mem_markClosed {j : Int} (hj : j ≠ id) (hl : os.live.lookup j = some l)
    (ht : l.isInTerminalState = false) : j ∈ (os.markClosed id).live := by
  rw [mem_markClosed_live]
  refine ⟨fun he => ?_, mem_of_lookup hl⟩
  rcases mem_of_evicted he with hq | heq
  · exact hinv.notMem_of_working hl ht hq
  · exact hj heq

end EvictInv

/-! ## Every operation -/

namespace OmsCoreV2

variable {s s' : OmsCoreV2} {h : List Int} {op : Op} {cap : ℕ}

/-- The operations that keep the queue right: an order is recorded under an id that is not in the
queue, and no report touches an order that is terminal already. -/
def KeepsQueue (s : OmsCoreV2) : Op → Prop
  | .place _ req => s.admits req → req.orderId ∉ s.orders.closedLru
  | .report r =>
    ((s.createsExternal r).isSome →
      s.orders.idCounter ∉ s.orders.closedLru ∧ s.orders.idCounter ≠ 0) ∧
    ∀ t ∈ s.reportTarget r, ∀ l ∈ s.orders.live.lookup t.2,
      l.isInTerminalState = true → r.touches = false
  | _ => True

instance (s : OmsCoreV2) : (op : Op) → Decidable (s.KeepsQueue op)
  | .place .. | .report _ | .cancel .. | .balanceUpdate .. | .panic _ | .dontPanic _
  | .sendFailed .. | .cancelSendFailed .. | .reload _ => by dsimp only [KeepsQueue]; infer_instance

lemma reaches_of_idle (h : s.Idle op) : s.reaches op = none := by
  cases op with
  | place now req => exact if_neg fun hc => h hc.1
  | report r =>
    simp only [reaches]
    split
    · rename_i gwId id ht
      rw [h.2 gwId id ht, bind_none]
    · rw [h.1, bind_none]
  | sendFailed now id msg =>
    cases hl : s.orders.live.lookup id with
    | none => simp [reaches, hl]
    | some l => simp [reaches, hl, h l hl]
  | _ => rfl

/-- The ways an operation can act on the queue: it closes nothing, or it closes the order it takes
to a terminal state, which was not in the queue before. -/
inductive QueueCase (cap : ℕ) (h : List Int) (s : OmsCoreV2) (op : Op) (s' : OmsCoreV2) : Prop where
  | kept (hreach : s.reaches op = none) (hinv : EvictInv cap h s'.orders)
      (hlive : ∀ j, j ∈ s.orders.live → j ∈ s'.orders.live)
  | closed (id : Int) (l : LiveOrder) (os : OrderStoreV2) (hreach : s.reaches op = some id)
      (horders : s'.orders = os.markClosed id) (hinv : EvictInv cap h os)
      (hl : os.live.lookup id = some l) (ht : l.isInTerminalState = true)
      (hq : id ∉ os.closedLru)
      (hlive : ∀ j, j ≠ id → os.live.lookup j = s.orders.live.lookup j)

lemma queueCase_report {s₀ : OmsCoreV2} {id : Int} {gwId : ℕ} {r : OrderReport} {l l' : LiveOrder}
    {d d' : OrderDetailLog} {os : OrderStoreV2} (hinv : EvictInv cap h s₀.orders)
    (spec : ReportSpec s₀ id gwId r l d s' os l' d') (hl : s₀.orders.live.lookup id = some l)
    (ht : l.isInTerminalState = false) (hq : id ∉ s₀.orders.closedLru)
    (hreach : s.reaches (.report r) =
      if (reportEffect l r).status.isTerminal then some id else none)
    (hsub : ∀ j, j ∈ s.orders.live → j ∈ s₀.orders.live)
    (hlive : ∀ j, j ≠ id → s₀.orders.live.lookup j = s.orders.live.lookup j) :
    QueueCase cap h s (.report r) s' := by
  have hos : EvictInv cap h os :=
    hinv.sameBut spec.same (mem_of_lookup hl) (mem_of_lookup spec.live) hq
  cases hterm : (reportEffect l r).status.isTerminal with
  | true =>
    have hc := closes_of_terminal ht hterm
    have horders := spec.orders
    rw [hc] at horders
    rw [hterm] at hreach
    refine .closed id l' os hreach horders hos spec.live ?_ ?_ (fun j hj => ?_)
    · rw [isInTerminalState, spec.follows.status]
      exact hterm
    · rw [spec.same.closedLru]
      exact hq
    · rw [spec.same.live j hj, hlive j hj]
  | false =>
    have hc : closes l r = false := by rw [closes, hterm, Bool.and_false]
    have horders := spec.orders
    rw [hc, if_neg (by simp)] at horders
    rw [hterm] at hreach
    refine .kept hreach (by rw [horders]; exact hos) (fun j hj => ?_)
    rw [horders, spec.same.mem_live (mem_of_lookup hl) (mem_of_lookup spec.live)]
    exact hsub j hj

section

variable (hk : SameKeys s.orders) (hinv : EvictInv cap h s.orders) (hok : s.KeepsQueue op)
  (hstep : s.step op = some s')
include hk hinv hok hstep

theorem queueCase_step : QueueCase cap h s op s' := by
  cases step_cases hk hstep with
  | quiet hq _ _ hidle =>
    refine .kept (reaches_of_idle hidle) ?_ (fun j => (mem_live_of_quiet hq j).mpr)
    refine hinv.mono hq.maxCachedOrders hq.closedLru (fun j _ l hl ht => ?_)
      (fun j => (mem_live_of_quiet hq j).mpr) ?_
    · obtain ⟨l', hl', hcore⟩ := hq.live_some' hl
      refine ⟨l', hl', ?_⟩
      rw [isInTerminalState, status_of_core hcore]
      exact ht
    · rw [mem_live_of_quiet hq]
      exact hinv.noZero
  | @rejected _ req _ hadm hrefuse l d hl hterm horders =>
    have hid0 : req.orderId ≠ 0 := (validateOrderRequest_ok hadm.1).1.ne'
    exact .closed req.orderId l _ (if_pos ⟨hadm, hrefuse⟩) horders
      (hinv.insert l rfl rfl rfl hid0 (hok hadm)) (enter_live_self ..) hterm (hok hadm)
      (fun j hj => enter_live_ne hj l d)
  | @accepted _ req _ hadm hrefuse _ _ l _ _ _ _ _ _ _ horders =>
    have hid0 : req.orderId ≠ 0 := (validateOrderRequest_ok hadm.1).1.ne'
    refine .kept (if_neg fun hc => by rw [hc.2] at hrefuse; cases hrefuse) ?_ (fun j hj => ?_)
    · rw [horders]
      exact hinv.insert l rfl rfl rfl hid0 (hok hadm)
    · rw [horders]
      exact (mem_insert _).mpr (.inr hj)
  | @sendFailed now id msg _ l l' os hfail =>
    have hq := hinv.notMem_of_working hfail.found hfail.working
    have hreach : s.reaches (.sendFailed now id msg) = some id := by
      simp [reaches, hfail.found, hfail.working]
    refine .closed id l' os hreach hfail.orders (hinv.sameBut hfail.same (mem_of_lookup hfail.found)
      (mem_of_lookup hfail.live) hq) hfail.live hfail.closed ?_ hfail.same.live
    rw [hfail.same.closedLru]
    exact hq
  | report r gwId id l _ _ l' _ ht hl _ spec =>
    cases hterm : l.isInTerminalState with
    | false =>
      refine queueCase_report hinv spec hl hterm (hinv.notMem_of_working hl hterm) ?_
        (fun _ hj => hj) (fun _ _ => rfl)
      simp [reaches, ht, hl, hterm]
    | true =>
      -- the report does not touch the order, so nothing about it changes
      have hupd := not_updated_of_not_touches hterm (hok.2 (gwId, id) ht l hl hterm)
      have horders := spec.orders
      rw [show closes l r = false by rw [closes, hupd, Bool.false_and], if_neg (by simp)] at horders
      have hstat : l'.isInTerminalState = true := by
        rw [isInTerminalState, spec.follows.status, reportEffect_of_not_updated hupd]
        exact hterm
      have hmem := spec.same.mem_live (mem_of_lookup hl) (mem_of_lookup spec.live)
      refine .kept (by simp [reaches, ht, hl, hterm]) ?_
        (by rw [horders]; exact fun j => (hmem j).mpr)
      rw [horders]
      refine hinv.mono spec.same.maxCachedOrders spec.same.closedLru (fun j _ m hm htm => ?_)
        (fun j => (hmem j).mpr) ?_
      · by_cases hne : j = id
        · exact ⟨l', hne ▸ spec.live, hstat⟩
        · exact ⟨m, (spec.same.live j hne).trans hm, htm⟩
      · rw [hmem]
        exact hinv.noZero
  | external r gwId _ _ _ hx spec =>
    obtain ⟨hq, hid0⟩ := hok.1 (by rw [hx]; rfl)
    have hadd : EvictInv cap h (s.addExternalOrder gwId r).orders :=
      hinv.insert (s.newExternal gwId r) rfl rfl rfl hid0 hq
    refine queueCase_report hadd spec (lookup_insert _) rfl hq ?_
      (fun j hj => (mem_insert _).mpr (.inr hj)) (fun j hj => lookup_insert_ne hj)
    simp [reaches, reportTarget_of_createsExternal hx, hx]

lemma evictInv_step : EvictInv cap (h ++ (s.reaches op).toList) s'.orders := by
  cases queueCase_step hk hinv hok hstep with
  | kept hreach hinv' hlive =>
    rw [hreach, toList_none, append_nil]
    exact hinv'
  | closed _ _ _ hreach horders hos hl ht hq =>
    rw [hreach, horders]
    exact hos.markClosed hl ht hq

lemma working_kept_step {id : Int} {l : LiveOrder} (hl : s.orders.live.lookup id = some l)
    (ht : l.isInTerminalState = false) : id ∈ s'.orders.live ∨ s.reaches op = some id := by
  cases queueCase_step hk hinv hok hstep with
  | kept hreach hinv' hlive => exact .inl (hlive id (mem_of_lookup hl))
  | closed j _ _ hreach horders hos _ _ _ hlive =>
    by_cases hj : id = j
    · right
      rw [hreach, hj]
    · left
      rw [horders]
      exact hos.mem_markClosed hj ((hlive id hj).trans hl) ht

end

/-! ## Warm start and whole runs -/

lemma mem_initOrder_live (s : OmsCoreV2) (v1 : OmsOrder) (j : Int) :
    j ∈ (s.initOrder v1).orders.live ↔ j ∈ s.orders.live ∨ j ≠ 0 ∧ j = v1.orderId := by
  rw [initOrder_live]
  split_ifs with h0
  · rw [h0]
    simp
  · rw [mem_insert]
    constructor
    · rintro (rfl | hmem)
      · exact .inr ⟨h0, rfl⟩
      · exact .inl hmem
    · rintro (hmem | ⟨-, rfl⟩)
      · exact .inr hmem
      · exact .inl rfl

lemma initOrder_queue (s : OmsCoreV2) (v1 : OmsOrder) :
    (s.initOrder v1).orders.closedLru = s.orders.closedLru ∧
      (s.initOrder v1).orders.maxCachedOrders = s.orders.maxCachedOrders := by
  simp only [initOrder, initWithOrder]
  split_ifs <;> exact ⟨rfl, rfl⟩

lemma foldl_initOrder_queue (warm : List OmsOrder) (s : OmsCoreV2) :
    (warm.foldl initOrder s).orders.closedLru = s.orders.closedLru ∧
      (warm.foldl initOrder s).orders.maxCachedOrders = s.orders.maxCachedOrders ∧
      ∀ j, j ∈ (warm.foldl initOrder s).orders.live ↔
        j ∈ s.orders.live ∨ j ≠ 0 ∧ j ∈ warm.map (·.orderId) := by
  induction warm generalizing s with
  | nil => simp
  | cons v1 warm ih =>
    obtain ⟨hq, hcap, hmem⟩ := ih (s.initOrder v1)
    obtain ⟨hq₁, hcap₁⟩ := initOrder_queue s v1
    refine ⟨hq.trans hq₁, hcap.trans hcap₁, fun j => ?_⟩
    rw [foldl_cons, hmem j, mem_initOrder_live, map_cons, mem_cons]
    tauto

lemma queueFits_start (u : OmsSetup) : u.start.orders.QueueFits u.maxCachedOrders := by
  rw [OmsSetup.start, initState_orders]
  obtain ⟨hq, hcap, -⟩ := foldl_initOrder_queue u.orders u.blank
  rw [OrderStoreV2.QueueFits, hq, hcap]
  exact ⟨rfl, Nat.zero_le _⟩

lemma evictInv_start (u : OmsSetup) :
    EvictInv u.maxCachedOrders u.closedAtStart u.start.orders := by
  rw [OmsSetup.start, initState_orders]
  obtain ⟨hq, hcap, hmem⟩ := foldl_initOrder_queue u.orders u.blank
  have hnil : u.blank.orders.closedLru = [] := rfl
  have hclosed : ∀ id ∈ u.closedAtStart, id ≠ 0 ∧ id ∈ u.orders.map (·.orderId) := by
    intro id hid
    simp only [OmsSetup.closedAtStart, List.mem_map, List.mem_filter, Bool.and_eq_true,
      decide_eq_true_eq] at hid
    obtain ⟨v1, ⟨hv1, h0, -⟩, rfl⟩ := hid
    exact ⟨h0, List.mem_map_of_mem hv1⟩
  refine ⟨hcap, ?_, ?_, fun _ id hid => ?_, fun id hid => (hclosed id hid).1, ?_⟩
  · rw [hq]
    exact .nil _ _
  · rw [hq]
    intro id hid
    cases hid
  · rw [hmem]
    exact .inr (hclosed id hid)
  · rw [hmem]
    rintro (habs | ⟨h0, -⟩)
    · exact notMem_empty _ habs
    · exact h0 rfl

/-- **Eviction forgets no working order and keeps the newest closed ones**, in every run whose
operations keep the queue right. -/
theorem cacheSound_of_run (u : OmsSetup) (evs : List OmsEvent)
    (hok : Guarded step KeepsQueue u.start (evs.flatMap ops)) : CacheSound u evs := by
  have hinv : ∀ ops s, Guarded step KeepsQueue u.start ops → run step u.start ops = some s →
      SameKeys s.orders ∧
        EvictInv u.maxCachedOrders (u.closedAtStart ++ closedHistory u.start ops) s.orders := by
    intro ops s hg hr
    refine run_trace_invariant
      (I := fun s h => SameKeys s.orders ∧ EvictInv u.maxCachedOrders h s.orders) ?_
      ⟨sameKeys_start u, evictInv_start u⟩ hg hr
    rintro s h op s' ⟨hk, hi⟩ hop hstep
    exact ⟨sameKeys_step hk hstep, evictInv_step hk hi hop hstep⟩
  refine ⟨fun before op after hsplit s s' hr hs' l id hl ht => ?_, fun s hr => ?_,
    fun s hr id hid => ?_⟩
  · rw [hsplit] at hok
    obtain ⟨hk, hi⟩ := hinv before s hok.left hr
    exact working_kept_step hk hi (hok.right hr).1 hs' hl ht
  · rw [run_handle] at hr
    exact (hinv _ s hok hr).1
  · rw [run_handle] at hr
    obtain ⟨-, hi⟩ := hinv _ s hok hr
    have hlive : id ∈ s.orders.live := by
      rcases hi.recent.newest hid with hq | ⟨hroom, hmem⟩
      · obtain ⟨l, hl, -⟩ := hi.terminal id hq
        exact mem_of_lookup hl
      · exact hi.kept hroom id hmem
    have hid0 : id ≠ 0 := by
      have := mem_of_mem_take hid
      exact hi.nonzero id (by simpa using this)
    exact ⟨hlive, fun gwId ref => if_pos ⟨hid0, hlive⟩⟩

open Sample

/-- Three orders close one after another in a cache of two. -/
theorem cacheSound_sample :
    closedHistory (setup false false 2).start
        ([place 10 .buy 5, place 11 .sell 3, place 12 .buy 1,
          report 10 [state .filled 5], report 11 [rejection],
          report 12 [state .cancelled 0]].flatMap ops) = [10, 11, 12] ∧
      CacheSound (setup false false 2)
        [place 10 .buy 5, place 11 .sell 3, place 12 .buy 1,
          report 10 [state .filled 5], report 11 [rejection],
          report 12 [state .cancelled 0]] :=
  ⟨by decide +kernel, cacheSound_of_run _ _ (by decide +kernel)⟩

/-- With room for one order, a fee that arrives after the fill of order 11 evicts it, although it
is the newest of the two closed orders. -/
theorem cache_forgets_newest :
    ¬ CacheSound (setup false false 1)
      [place 10 .buy 5, place 11 .buy 3, report 10 [state .filled 5],
        report 11 [state .filled 3],
        report 11 [⟨.fee, some (.feeReport { feeSymbol := "Q", feeQty := 1 })⟩]] := by
  have hforgets : ∀ evs, (∃ s ∈ run handle (setup false false 1).start evs,
      11 ∈ newest 1 ((setup false false 1).closedAtStart ++
        closedHistory (setup false false 1).start (evs.flatMap ops)) ∧
      11 ∉ s.orders.live) → ¬ CacheSound (setup false false 1) evs := by
    rintro evs ⟨s, hs, hnew, hgone⟩ h
    exact hgone (h.newest s hs 11 hnew).1
  exact hforgets _ (by decide +kernel)

end OmsCoreV2

end Zkbot
