import Zkbot.Oms.Fills

/-!
# What a report reads of its order

Of an order's records, a report reads the quantity, the status, the cumulative fill and, if it has
trades and no state entry, the quantity of the trades before it: the state that is inferred from
trades counts all trades of the order.  This file compares what one report does to an order `l` and
to a record `m` of the same order from which trades of `lost` are missing (`Restored`).

* `InfersAlike` — the inference comes to the same status and fill without the lost trades.
* `effect_iff` — status and cumulative fill after a consistent report are the same on both exactly
  if it does.
* `outcome_iff` — the same with the position deltas, which a record without a position key never
  gets.
-/

namespace Zkbot

open List OmsCoreV2 OrderStateReport OrderStatus ReportEffect

open OrderStoreV2 (promoted)

/-! ## Effects that differ in the terminal time -/

namespace ReportEffect

variable {v w : ReportEffect}

/-- Two effects that are the same but for the terminal time. -/
def Alike (v w : ReportEffect) : Prop := ∃ t, w = { v with terminalAt := t }

variable (h : Alike v w) (qty : ℚ) (ts : Int) (lo : Bool)
include h

lemma Alike.entry (e : OrderReportEntry) : Alike (v.entry qty ts lo e) (w.entry qty ts lo e) := by
  obtain ⟨t, rfl⟩ := h
  simp only [ReportEffect.entry]
  cases e.acted with
  | none => exact ⟨t, rfl⟩
  | some payload =>
    cases payload with
    | orderIdLinkageReport linkage =>
      simp only
      split_ifs <;> exact ⟨t, rfl⟩
    | execReport r =>
      simp only
      cases omsExecType r.execType with
      | placingOrder => exact ⟨_, rfl⟩
      | cancel | unspecified => exact ⟨t, rfl⟩
    | orderStateReport r | tradeReport trade | feeReport fee => exact ⟨t, rfl⟩

lemma Alike.foldl (es : List OrderReportEntry) :
    Alike (es.foldl (ReportEffect.entry qty ts lo) v)
      (es.foldl (ReportEffect.entry qty ts lo) w) := by
  induction es generalizing v w with
  | nil => exact h
  | cons e es ih => exact ih (h.entry qty ts lo e)

end ReportEffect

/-! ## Records that lost trades -/

/-- `m` is a record of the order `l` from which trades of `lost` are missing, and the position key
with them. -/
structure Restored (lost : ℚ) (l m : LiveOrder) : Prop where
  qty : m.qty = l.qty
  status : m.orderStatus = l.orderStatus
  filledQty : m.filledQty = l.filledQty
  acc : m.accTradesFilledQty + lost = l.accTradesFilledQty
  since : 0 ≤ m.accTradesFilledQty
  noKey : m.accountingFlags.posInstrumentId = none

/-- A state is inferred from the trades of the report. -/
def infers (l : LiveOrder) (r : OrderReport) : Bool :=
  !l.isInTerminalState && !hasStatePayload r.orderReportEntries &&
    !(tradePayloads r.orderReportEntries).isEmpty

/-- The inference comes to the same without the lost trades: there are none, or nothing is inferred,
or the fill it comes to is known already and the order looks filled either with both or with
neither. -/
def InfersAlike (lost : ℚ) (l : LiveOrder) (r : OrderReport) : Prop :=
  lost = 0 ∨ infers l r = false ∨
    l.accTradesFilledQty + r.tradeTotal ≤ l.filledQty ∧
      (fillTolerance ≤ l.qty - (l.accTradesFilledQty + r.tradeTotal) ∨
        l.qty - (l.accTradesFilledQty + r.tradeTotal - lost) < fillTolerance)
deriving Decidable

/-! ## A report on one record -/

section Record

variable {n : LiveOrder} {r : OrderReport}

lemma loopEntries_of_not_infers (h : infers n r = false) :
    loopEntries n r = r.orderReportEntries ∧
      linkageOnly n r = (r.orderReportEntries.length == 1) := by
  have hnone : inferStateFromTrades r.orderReportEntries n = none := by
    cases hi : inferStateFromTrades r.orderReportEntries n with
    | none => rfl
    | some e =>
      obtain ⟨ht, hs, hne, -⟩ := inferStateFromTrades_eq_some hi
      simp [infers, ht, hs, hne] at h
  simp [loopEntries, linkageOnly, hnone]

/-- The entry that is inferred from the trades of the order and the report. -/
def inferredState (n : LiveOrder) (r : OrderReport) (avgPrice : ℚ) : OrderReportEntry where
  reportType := .state
  report := some (.orderStateReport
    { exchOrderStatus :=
        if n.qty - (n.accTradesFilledQty + r.tradeTotal) < fillTolerance then .filled
        else .partialFilled
      filledQty := n.accTradesFilledQty + r.tradeTotal
      unfilledQty := n.qty - (n.accTradesFilledQty + r.tradeTotal)
      avgPrice })

variable (htag : ∀ e ∈ r.orderReportEntries, e.acted = e.report)
include htag

/-- With inference, the loop sees one more state entry, on the trades of the order and the report
together. -/
lemma loopEntries_of_infers (hle : n.accTradesFilledQty + r.tradeTotal ≤ n.qty)
    (h : infers n r = true) :
    ∃ avgPrice, loopEntries n r = r.orderReportEntries ++ [inferredState n r avgPrice] ∧
      linkageOnly n r = false := by
  simp only [infers, Bool.and_eq_true, Bool.not_eq_true', isEmpty_eq_false_iff] at h
  obtain ⟨⟨ht, hs⟩, hne⟩ := h
  have habs : |r.tradeTotal + n.accTradesFilledQty - n.qty| =
      n.qty - (n.accTradesFilledQty + r.tradeTotal) := by
    rw [abs_of_nonpos (by linarith)]
    ring
  have hgt : ¬ r.tradeTotal + n.accTradesFilledQty > n.qty := by
    rw [add_comm]
    exact not_lt.mpr hle
  have hsome : ∃ avgPrice,
      inferStateFromTrades r.orderReportEntries n = some (inferredState n r avgPrice) := by
    refine ⟨if n.accTradesFilledQty + r.tradeTotal ≠ 0 then
      (n.accTradesValue + ((tradePayloads r.orderReportEntries).map fun t =>
        t.filledQty * t.filledPrice).sum) / (n.accTradesFilledQty + r.tradeTotal) else 0, ?_⟩
    simp only [inferStateFromTrades, inferredState, ht, hs, Bool.false_eq_true, if_false,
      if_neg hne, sum_tradePayloads htag, if_neg hgt, habs]
    rw [add_comm r.tradeTotal]
  obtain ⟨avgPrice, hsome⟩ := hsome
  exact ⟨avgPrice, by simp [loopEntries, hsome], by simp [linkageOnly, hsome]⟩

/-- A report that infers leaves the status of a working order to the inference: its own entries can
only reject the order, and a rejected order is not protected. -/
lemma entries_of_infers (h : infers n r = true) (ts : Int) :
    let v := r.orderReportEntries.foldl (entry n.qty ts false) (start n)
    v.status.isSettled = false ∧ v.filledQty = n.filledQty := by
  simp only [infers, Bool.and_eq_true, Bool.not_eq_true', isEmpty_eq_false_iff] at h
  obtain ⟨⟨ht, hs⟩, -⟩ := h
  have hstart : n.orderStatus.isSettled = false := by
    rw [Bool.eq_false_iff]
    intro hset
    rw [LiveOrder.isInTerminalState, isTerminal_of_isSettled hset] at ht
    cases ht
  refine foldl_entry_induct
    (P := fun v => v.status.isSettled = false ∧ v.filledQty = n.filledQty)
    (fun e he v hv => ?_) ⟨hstart, rfl⟩
  have hnostate : ∀ sr, e.acted ≠ some (.orderStateReport sr) := by
    intro sr hact
    rw [htag e he] at hact
    simp only [hasStatePayload, any_eq_false] at hs
    have hno := hs e he
    rw [hact] at hno
    exact hno rfl
  simp only [entry]
  cases hact : e.acted with
  | none => exact hv
  | some payload =>
    cases payload with
    | orderIdLinkageReport linkage => exact hv
    | orderStateReport sr => exact absurd hact (hnostate sr)
    | tradeReport trade => exact hv
    | execReport x =>
      simp only
      cases omsExecType x.execType with
      | placingOrder => exact ⟨rfl, hv.2⟩
      | cancel => exact hv
      | unspecified => exact hv
    | feeReport fee => exact hv

/-- **What the inference comes to.** -/
lemma reportEffect_of_infers (hpos : 0 < n.accTradesFilledQty + r.tradeTotal)
    (hle : n.accTradesFilledQty + r.tradeTotal ≤ n.qty) (h : infers n r = true) :
    (reportEffect n r).status =
        (if n.qty - (n.accTradesFilledQty + r.tradeTotal) < fillTolerance then .filled
         else .partiallyFilled) ∧
      (reportEffect n r).filledQty = max (n.accTradesFilledQty + r.tradeTotal) n.filledQty ∧
      (reportEffect n r).updated = true := by
  obtain ⟨avgPrice, hentries, hlo⟩ := loopEntries_of_infers htag hle h
  obtain ⟨hstatus, hfilled⟩ := entries_of_infers htag h r.updateTimestamp
  simp only [reportEffect, hentries, hlo, foldl_append, foldl_cons, foldl_nil,
    finish_status, finish_filledQty, finish_updated]
  generalize r.orderReportEntries.foldl (entry n.qty r.updateTimestamp false)
    (start n) = v at hstatus hfilled
  have hmap : ∀ x, mapOrderStatus x ≠ .unspecified → statusAfter v.status x = mapOrderStatus x := by
    intro x hx
    have hcan : canUpdateStatus v.status (mapOrderStatus x) = true := by
      revert hstatus
      cases v.status <;> simp [isSettled, canUpdateStatus, hx]
    rw [statusAfter, if_pos hcan]
  refine ⟨?_, ?_, rfl⟩
  · show statusAfter v.status (if _ then _ else _) = _
    split_ifs
    · exact hmap .filled (by simp [mapOrderStatus])
    · exact hmap .partialFilled (by simp [mapOrderStatus])
  · show filledAfter v.filledQty (announced _ n.qty) = _
    rw [filledAfter_eq, hfilled]
    simp [announced, hpos.ne']

end Record

/-! ## The same report on both records -/

section Both

variable {lost delivered : ℚ} {l m : LiveOrder} {r : OrderReport}

lemma Restored.infers_eq (h : Restored lost l m) : infers m r = infers l r := by
  simp [infers, LiveOrder.isInTerminalState, h.status]

lemma Restored.alike_of_not_infers (h : Restored lost l m) (hno : infers l r = false) :
    (reportEffect m r).status = (reportEffect l r).status ∧
      (reportEffect m r).filledQty = (reportEffect l r).filledQty ∧
      (reportEffect m r).updated = (reportEffect l r).updated := by
  obtain ⟨hl, hlol⟩ := loopEntries_of_not_infers hno
  obtain ⟨hm, hlom⟩ := loopEntries_of_not_infers (h.infers_eq.trans hno)
  have hstart : ReportEffect.Alike (.start l) (.start m) := by
    refine ⟨m.terminalAt, ?_⟩
    simp [start, h.status, h.filledQty]
  obtain ⟨t, ht⟩ := hstart.foldl l.qty r.updateTimestamp (r.orderReportEntries.length == 1)
    r.orderReportEntries
  simp [reportEffect, hl, hlol, hm, hlom, h.qty, ht, finish_status, finish_filledQty,
    finish_updated]

/-- Counting less trades changes neither the fill nor the look of an order of quantity `q`. -/
lemma counts_alike_iff {q f total : ℚ} (hlost : 0 < lost) :
    ((if q - (total - lost) < fillTolerance then filled else .partiallyFilled) =
        (if q - total < fillTolerance then .filled else .partiallyFilled) ∧
      max (total - lost) f = max total f) ↔
    total ≤ f ∧ (fillTolerance ≤ q - total ∨ q - (total - lost) < fillTolerance) := by
  have hmax : max (total - lost) f = max total f ↔ total ≤ f := by
    constructor
    · intro heq
      by_contra hgt
      have hlt : max (total - lost) f < total := max_lt (by linarith) (not_le.mp hgt)
      rw [heq] at hlt
      exact absurd (le_max_left total f) (not_le.mpr hlt)
    · intro hle
      rw [max_eq_right hle, max_eq_right (by linarith)]
  rw [hmax, and_comm]
  refine and_congr_right fun _ => ?_
  by_cases hnear : q - total < fillTolerance
  · split_ifs with hless
    · exact iff_of_true rfl (.inr hless)
    · refine iff_of_false (by simp) ?_
      rintro (hfar | hnear')
      · exact absurd hnear (not_lt.mpr hfar)
      · exact hless hnear'
  · -- with less trades it looks filled even less
    rw [if_neg hnear, if_neg (by linarith)]
    exact iff_of_true rfl (.inl (not_lt.mp hnear))

section

variable (h : Restored lost l m) (hlost : 0 ≤ lost) (hc : ReportConsistent l.qty delivered r)
  (hdel : l.accTradesFilledQty ≤ delivered)
include h hlost hc hdel

/-- What a consistent report that infers does to both. -/
lemma Restored.effects_of_infers (hi : infers l r = true) :
    let total := l.accTradesFilledQty + r.tradeTotal
    ((reportEffect l r).status =
        (if l.qty - total < fillTolerance then .filled else .partiallyFilled) ∧
      (reportEffect l r).filledQty = max total l.filledQty ∧
      (reportEffect l r).updated = true) ∧
    (reportEffect m r).status =
        (if l.qty - (total - lost) < fillTolerance then .filled else .partiallyFilled) ∧
      (reportEffect m r).filledQty = max (total - lost) l.filledQty ∧
      (reportEffect m r).updated = true := by
  intro total
  have htotal : 0 < r.tradeTotal := by
    have hne : r.tradeQtys ≠ [] := by
      rw [← tradePayloads_of_tagged hc.tagged]
      simp only [infers, Bool.and_eq_true, Bool.not_eq_true', isEmpty_eq_false_iff] at hi
      simpa using hi.2
    exact sum_pos _ hc.positive hne
  have hacc := h.acc
  have hsince := h.since
  have hbound : l.accTradesFilledQty + r.tradeTotal ≤ l.qty := by
    have := hc.bounded
    linarith
  have hm : m.accTradesFilledQty + r.tradeTotal = total - lost := by
    show _ = l.accTradesFilledQty + r.tradeTotal - lost
    linarith
  refine ⟨reportEffect_of_infers hc.tagged (by linarith) hbound hi, ?_⟩
  rw [← hm, ← h.qty, ← h.filledQty]
  exact reportEffect_of_infers hc.tagged (by linarith) (by rw [h.qty]; linarith)
    (h.infers_eq.trans hi)

/-- **Status and cumulative fill after a consistent report** are the same on both records exactly if
the inference comes to the same without the lost trades. -/
theorem effect_iff :
    (reportEffect m r).status = (reportEffect l r).status ∧
      (reportEffect m r).filledQty = (reportEffect l r).filledQty ↔ InfersAlike lost l r := by
  cases hi : infers l r with
  | false =>
    obtain ⟨hst, hfill, -⟩ := h.alike_of_not_infers hi
    exact iff_of_true ⟨hst, hfill⟩ (.inr (.inl hi))
  | true =>
    obtain ⟨⟨hsl, hfl, -⟩, hsm, hfm, -⟩ := h.effects_of_infers hlost hc hdel hi
    rw [hsl, hfl, hsm, hfm]
    rcases hlost.eq_or_lt with hzero | hgt
    · rw [← hzero, sub_zero]
      exact iff_of_true ⟨rfl, rfl⟩ (.inl rfl)
    · rw [counts_alike_iff hgt]
      constructor
      · exact fun hsame => .inr (.inr hsame)
      · rintro (hzero | hno | hsame)
        · exact absurd hzero hgt.ne'
        · rw [hi] at hno
          cases hno
        · exact hsame

lemma Restored.updated_eq : (reportEffect m r).updated = (reportEffect l r).updated := by
  cases hi : infers l r with
  | false => exact (h.alike_of_not_infers hi).2.2
  | true =>
    obtain ⟨⟨-, -, hul⟩, -, -, hum⟩ := h.effects_of_infers hlost hc hdel hi
    rw [hul, hum]

end

/-- A report that moves no position: the order has no position key, or the report has no trades and
announces no fill that would be inferred as one. -/
def MovesNothing (l : LiveOrder) (r : OrderReport) : Prop :=
  l.accountingFlags.posInstrumentId = none ∨
    tradePayloads r.orderReportEntries = [] ∧
      ∀ b ∈ r.announcedFills l.qty, b = 0 ∨ b ≤ l.filledQty + fillTolerance
deriving Decidable

/-- Entries that all announce the fill `a` infer nothing exactly if `a` is not beyond what is known,
or announces nothing. -/
lemma foldl_entry_infers_nothing {qty : ℚ} {ts : Int} {lo : Bool} {a : ℚ}
    {es : List OrderReportEntry} (hes : ∀ e ∈ es, ∀ b ∈ e.stateFill qty, b = a)
    (v : ReportEffect) :
    (es.foldl (ReportEffect.entry qty ts lo) v).inferredFills = v.inferredFills ↔
      ∀ e ∈ es, ∀ b ∈ e.stateFill qty, b = 0 ∨ b ≤ v.filledQty + fillTolerance := by
  induction es generalizing v with
  | nil => simp
  | cons e es ih =>
    have ih' := ih (forall_mem_cons.mp hes).2 (v.entry qty ts lo e)
    have hfill := v.entry_filledQty qty ts lo e
    have hinf := v.entry_inferredFills qty ts lo e
    rw [foldl_cons, forall_mem_cons]
    cases hst : e.stateFill qty with
    | none =>
      rw [hst, Option.elim_none] at hfill
      rw [hfill, sub_self, inferredFrom_of_le fillTolerance_pos.le, append_nil] at hinf
      rw [hinf, hfill] at ih'
      rw [ih']
      simp
    | some b =>
      obtain rfl : b = a := hes e mem_cons_self b hst
      rw [hst, Option.elim_some] at hfill
      -- once the fill is known, the other entries announce nothing new
      have hknown : b = 0 ∨ b ≤ (v.entry qty ts lo e).filledQty + fillTolerance := by
        by_cases hb : b = 0
        · exact .inl hb
        · right
          rw [hfill, if_neg hb]
          have := le_max_left b v.filledQty
          linarith [fillTolerance_pos]
      have hrest : ∀ e' ∈ es, ∀ c ∈ e'.stateFill qty, c = b :=
        (forall_mem_cons.mp hes).2
      rw [ih'.mpr fun e' he' c hc => by rw [hrest e' he' c hc]; exact hknown, hinf,
        append_right_eq_self]
      constructor
      · intro hnil
        have hb : b = 0 ∨ b ≤ v.filledQty + fillTolerance := by
          rw [or_iff_not_imp_left]
          intro hb
          by_contra hgt
          rw [hfill, if_neg hb, inferredFrom_of_gt] at hnil
          · cases hnil
          · have := le_max_left b v.filledQty
            linarith
        refine ⟨fun c hc => ?_, fun e' he' c hc => ?_⟩
        · cases hc
          exact hb
        · rw [hrest e' he' c hc]
          exact hb
      · rintro ⟨hb, -⟩
        refine inferredFrom_of_le ?_
        rw [hfill]
        split_ifs with hz
        · rw [sub_self]
          exact fillTolerance_pos.le
        · rcases le_total b v.filledQty with hle | hge
          · rw [max_eq_right hle, sub_self]
            exact fillTolerance_pos.le
          · rw [max_eq_left hge]
            have := (hb b rfl).resolve_left hz
            linarith

section

variable (hc : ReportConsistent l.qty delivered r)
include hc

/-- Every fill of a consistent report is positive. -/
lemma fills_pos : ∀ q ∈ (reportEffect l r).fills, 0 < q := by
  intro q hq
  rw [fills, mem_append, reportEffect_tradeFills] at hq
  rcases hq with hq | hq
  · exact hc.positive q hq
  · exact fillTolerance_pos.trans ((inferred_le_increment l r).2.1 q hq)

lemma fills_eq_nil :
    (reportEffect l r).fills = [] ↔ tradePayloads r.orderReportEntries = [] ∧
      ∀ b ∈ r.announcedFills l.qty, b = 0 ∨ b ≤ l.filledQty + fillTolerance := by
  rw [fills, append_eq_nil_iff, reportEffect_tradeFills,
    ← tradePayloads_of_tagged hc.tagged, map_eq_nil_iff]
  refine and_congr_right fun hno => ?_
  have hnothing := @foldl_entry_infers_nothing l.qty r.updateTimestamp (linkageOnly l r) _ _
    hc.states (start l)
  rw [reportEffect, finish_inferredFills, loopEntries_of_no_trades hno]
  refine hnothing.trans ?_
  simp only [OrderReport.announcedFills, mem_filterMap]
  constructor
  · rintro h b ⟨e, he, hb⟩
    exact h e he b hb
  · intro h e he b hb
    exact h b ⟨e, he, hb⟩

lemma fillDeltas_eq_nil : fillDeltas l (reportEffect l r).fills = [] ↔ MovesNothing l r := by
  rw [MovesNothing, ← fills_eq_nil hc]
  simp only [fillDeltas]
  cases l.accountingFlags.posInstrumentId with
  | none => simp
  | some posId =>
    have hall : (reportEffect l r).fills.filter (0 < ·) = (reportEffect l r).fills := by
      rw [filter_eq_self]
      intro q hq
      simpa using fills_pos hc q hq
    rw [hall]
    simp

end

/-- **What a consistent report does to an order**, position deltas included, is the same on both
records exactly if it moves no position and infers alike. -/
theorem outcome_iff (h : Restored lost l m) (hlost : 0 ≤ lost)
    (hc : ReportConsistent l.qty delivered r) (hdel : l.accTradesFilledQty ≤ delivered) :
    ((reportEffect m r).status, (reportEffect m r).filledQty,
        fillDeltas m (reportEffect m r).fills) =
      ((reportEffect l r).status, (reportEffect l r).filledQty,
        fillDeltas l (reportEffect l r).fills) ↔
    MovesNothing l r ∧ InfersAlike lost l r := by
  have hnil : fillDeltas m (reportEffect m r).fills = [] := by
    simp [fillDeltas, h.noKey]
  rw [hnil, Prod.mk.injEq, Prod.mk.injEq, ← fillDeltas_eq_nil hc, ← effect_iff h hlost hc hdel]
  constructor
  · rintro ⟨hst, hfill, hdeltas⟩
    exact ⟨hdeltas.symm, hst, hfill⟩
  · rintro ⟨hdeltas, hst, hfill⟩
    exact ⟨hst, hfill, hdeltas.symm⟩

end Both

end Zkbot
