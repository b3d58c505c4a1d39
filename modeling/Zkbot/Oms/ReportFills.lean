import Zkbot.Oms.ReportStatus

/-!
# The fills of a report

Which fills a report hands to the fill loop.  There are two sources: every trade entry is a fill
(`reportEffect_tradeFills`), and so is every increment of the cumulative fill that a state entry
announces, unless it is negligible (`entry_inferredFills`).  Nothing compares the two, so an
execution that is reported both ways is filled twice.

* `inferred_le_increment` — the inferred fills never exceed the increment of the cumulative fill.
* `foldl_entry_of_announces` — if all state entries announce the same fill, the increment is
  inferred once.
* `NoNewFill`, `FillsTo` — reports without trades that announce nothing new, or one new fill; what
  they do to the order.
-/

namespace Zkbot

open List Option OrderReportEntry

variable {q : ℚ} {l : LiveOrder}

open ReportEffect

variable {r : OrderReport}

/-! ## What the entries say about fills -/

def OrderReportEntry.tradeQty (e : OrderReportEntry) : Option ℚ :=
  match e.acted with
  | some (.tradeReport t) => some t.filledQty
  | _ => none

/-- The cumulative fill a state entry announces for an order of quantity `qty`; zero if it announces
none. -/
def OrderReportEntry.stateFill (qty : ℚ) (e : OrderReportEntry) : Option ℚ :=
  match e.acted with
  | some (.orderStateReport r) => some ((r.announced qty).getD 0)
  | _ => none

namespace OrderReport

def tradeQtys (r : OrderReport) : List ℚ := r.orderReportEntries.filterMap (·.tradeQty)

def tradeTotal (r : OrderReport) : ℚ := r.tradeQtys.sum

/-- The cumulative fills its state entries announce for an order of quantity `qty`. -/
def announcedFills (r : OrderReport) (qty : ℚ) : List ℚ :=
  r.orderReportEntries.filterMap (·.stateFill qty)

end OrderReport

lemma filledAfter_eq (filled : ℚ) (announced : Option ℚ) :
    filledAfter filled announced =
      if announced.getD 0 = 0 then filled else max (announced.getD 0) filled := by
  cases announced with
  | none => simp [filledAfter]
  | some a =>
    by_cases ha : a = 0
    · simp [filledAfter, ha, Option.filter]
    · simp [filledAfter, ha, Option.filter]

lemma fillTolerance_pos : 0 < fillTolerance := by norm_num [fillTolerance]

lemma inferredFrom_of_le (h : q ≤ fillTolerance) : inferredFrom q = [] :=
  if_neg (not_lt.mpr h)

lemma inferredFrom_of_gt (h : fillTolerance < q) : inferredFrom q = [q] := if_pos h

lemma sum_inferredFrom_le (h : 0 ≤ q) : (inferredFrom q).sum ≤ q := by
  rcases le_or_gt q fillTolerance with hle | hgt
  · rw [inferredFrom_of_le hle]
    exact h
  · rw [inferredFrom_of_gt hgt]
    simp

/-! ## One entry -/

namespace ReportEffect

variable (qty : ℚ) (ts : Int) (lo : Bool) (v : ReportEffect) (e : OrderReportEntry)

lemma entry_tradeFills : (v.entry qty ts lo e).tradeFills = v.tradeFills ++ e.tradeQty.toList := by
  simp only [entry, tradeQty]
  cases e.acted with
  | none => simp
  | some r =>
    cases r with
    | orderIdLinkageReport _ =>
      simp only
      split_ifs <;> simp
    | execReport r =>
      simp only
      cases omsExecType r.execType <;> simp
    | _ => simp

lemma entry_filledQty :
    (v.entry qty ts lo e).filledQty =
      (e.stateFill qty).elim v.filledQty fun a =>
        if a = 0 then v.filledQty else max a v.filledQty := by
  simp only [entry, stateFill]
  cases e.acted with
  | none => rfl
  | some r =>
    cases r with
    | orderIdLinkageReport _ =>
      simp only
      split_ifs <;> rfl
    | orderStateReport r => exact filledAfter_eq _ _
    | execReport r =>
      simp only
      cases omsExecType r.execType <;> rfl
    | tradeReport _ => rfl
    | feeReport _ => rfl

/-- The increment of the cumulative fill is inferred as a trade, unless it is negligible. -/
lemma entry_inferredFills :
    (v.entry qty ts lo e).inferredFills =
      v.inferredFills ++ inferredFrom ((v.entry qty ts lo e).filledQty - v.filledQty) := by
  have h0 : inferredFrom (v.filledQty - v.filledQty) = [] :=
    inferredFrom_of_le (by rw [sub_self]; exact fillTolerance_pos.le)
  simp only [entry]
  split
  · rw [h0, append_nil]
  · split_ifs <;> rw [h0, append_nil]
  · rfl
  · rw [h0, append_nil]
  · split <;> rw [h0, append_nil]
  · rw [h0, append_nil]

/-- The cumulative fill never falls. -/
lemma filledQty_le_entry : v.filledQty ≤ (v.entry qty ts lo e).filledQty := by
  rw [entry_filledQty]
  cases e.stateFill qty with
  | none => exact le_refl _
  | some a =>
    rw [elim_some]
    split_ifs
    · exact le_refl _
    · exact le_max_right _ _

lemma foldl_entry_tradeFills (es : List OrderReportEntry) (v : ReportEffect) :
    (es.foldl (entry qty ts lo) v).tradeFills = v.tradeFills ++ es.filterMap (·.tradeQty) := by
  induction es generalizing v with
  | nil => simp
  | cons e es ih =>
    rw [foldl_cons, ih, entry_tradeFills, append_assoc, filterMap_cons]
    cases e.tradeQty <;> rfl

end ReportEffect

/-! ## A whole report -/

section

variable (l) (r)

lemma filterMap_tradeQty_loopEntries : (loopEntries l r).filterMap (·.tradeQty) = r.tradeQtys := by
  rw [loopEntries, filterMap_append, OrderReport.tradeQtys]
  cases h : inferStateFromTrades r.orderReportEntries l with
  | none => simp
  | some e =>
    obtain ⟨-, -, -, status, avgPrice, hact⟩ := inferStateFromTrades_eq_some h
    simp [tradeQty, hact]

/-- **Every trade entry is a fill.** -/
lemma reportEffect_tradeFills : (reportEffect l r).tradeFills = r.tradeQtys := by
  rw [reportEffect, finish_tradeFills, foldl_entry_tradeFills, filterMap_tradeQty_loopEntries]
  rfl

/-- The inferred fills of a report: each is above the tolerance, and together they do not exceed
the increment of the cumulative fill. -/
lemma inferred_le_increment :
    l.filledQty ≤ (reportEffect l r).filledQty ∧
      (∀ q ∈ (reportEffect l r).inferredFills, fillTolerance < q) ∧
      (reportEffect l r).inferredFills.sum ≤ (reportEffect l r).filledQty - l.filledQty := by
  rw [reportEffect, finish_filledQty, finish_inferredFills]
  refine foldl_entry_induct (P := fun v => l.filledQty ≤ v.filledQty ∧
    (∀ q ∈ v.inferredFills, fillTolerance < q) ∧
      v.inferredFills.sum ≤ v.filledQty - l.filledQty) ?_ ?_
  · rintro e - v ⟨hle, hgt, hsum⟩
    have hstep := v.filledQty_le_entry l.qty r.updateTimestamp (linkageOnly l r) e
    rw [entry_inferredFills]
    refine ⟨hle.trans hstep, fun q hq => ?_, ?_⟩
    · rcases mem_append.mp hq with hq | hq
      · exact hgt q hq
      · rw [inferredFrom] at hq
        split_ifs at hq with hc
        · rw [mem_singleton] at hq
          exact hq ▸ hc
        · cases hq
    · rw [sum_append]
      have hinf := sum_inferredFrom_le (sub_nonneg.mpr hstep)
      linarith
  · refine ⟨le_refl _, fun q hq => ?_, ?_⟩
    · cases hq
    · show (0 : ℚ) ≤ l.filledQty - l.filledQty
      rw [sub_self]

end

/-- If every state entry announces the fill `a`, the cumulative fill rises to `a` and the increment
is inferred once; without state entries nothing happens. -/
lemma foldl_entry_of_announces {qty : ℚ} {ts : Int} {lo : Bool} {a : ℚ}
    {es : List OrderReportEntry} (hes : ∀ e ∈ es, ∀ b ∈ e.stateFill qty, b = a)
    {v : ReportEffect} (h0 : 0 ≤ v.filledQty) (ha : v.filledQty ≤ a) :
    (es.foldl (entry qty ts lo) v).filledQty =
        (if es.any (fun e => (e.stateFill qty).isSome) then a else v.filledQty) ∧
      (es.foldl (entry qty ts lo) v).inferredFills =
        v.inferredFills ++
          if es.any (fun e => (e.stateFill qty).isSome) then inferredFrom (a - v.filledQty)
          else [] := by
  induction es generalizing v with
  | nil => simp
  | cons e es ih =>
    have hes' : ∀ e' ∈ es, ∀ b ∈ e'.stateFill qty, b = a :=
      (forall_mem_cons.mp hes).2
    rw [foldl_cons, any_cons]
    have hfill := v.entry_filledQty qty ts lo e
    have hinf := v.entry_inferredFills qty ts lo e
    cases hst : e.stateFill qty with
    | none =>
      rw [hst, elim_none] at hfill
      obtain ⟨h₁, h₂⟩ := ih (v := v.entry qty ts lo e) hes' (hfill ▸ h0) (hfill ▸ ha)
      rw [hfill, sub_self, inferredFrom_of_le fillTolerance_pos.le, append_nil] at hinf
      rw [h₁, h₂, hfill, hinf]
      simp
    | some b =>
      have hb : b = a := hes e mem_cons_self b hst
      have hfill' : (v.entry qty ts lo e).filledQty = a := by
        rw [hfill, hst, elim_some, hb]
        split_ifs with hz
        · exact le_antisymm ha (hz ▸ h0)
        · exact max_eq_left ha
      obtain ⟨h₁, h₂⟩ := ih (v := v.entry qty ts lo e) hes' (hfill' ▸ h0.trans ha) hfill'.le
      rw [hfill'] at hinf
      rw [h₁, h₂, hfill', hinf, sub_self, inferredFrom_of_le fillTolerance_pos.le]
      simp

/-! ## Reports without trades -/

/-- A report without trades that announces no fill beyond what is known. -/
def NoNewFill (l : LiveOrder) (r : OrderReport) : Prop :=
  tradePayloads r.orderReportEntries = [] ∧ ∀ b ∈ r.announcedFills l.qty, b ≤ l.filledQty
deriving Decidable

/-- A report without trades whose state entries all announce the one new fill `a`, which is not
negligible. -/
def FillsTo (l : LiveOrder) (r : OrderReport) (a : ℚ) : Prop :=
  tradePayloads r.orderReportEntries = [] ∧ r.announcedFills l.qty ≠ [] ∧
    (∀ b ∈ r.announcedFills l.qty, b = a) ∧ fillTolerance < a - l.filledQty
deriving Decidable

section NoTrades

variable {l : LiveOrder} {r : OrderReport} (h : tradePayloads r.orderReportEntries = [])
include h

lemma loopEntries_of_no_trades : loopEntries l r = r.orderReportEntries := by
  cases hinf : inferStateFromTrades r.orderReportEntries l with
  | none => rw [loopEntries, hinf, toList_none, append_nil]
  | some e => exact absurd h (inferStateFromTrades_eq_some hinf).2.2.1

lemma tradeFills_of_no_trades : (reportEffect l r).tradeFills = [] := by
  rw [reportEffect_tradeFills, OrderReport.tradeQtys, filterMap_eq_nil_iff]
  intro e he
  rw [tradePayloads, filterMap_eq_nil_iff] at h
  have hrep := h e he
  cases hact : e.acted with
  | none => rw [tradeQty, hact]
  | some p =>
    cases p with
    | tradeReport t =>
      -- an entry that is acted on as a trade has a trade payload
      rcases e with ⟨type, report⟩
      cases type <;> rcases report with - | ⟨⟨⟩⟩ <;> cases hact
      cases hrep
    | _ => rw [tradeQty, hact]

end NoTrades

lemma mem_announcedFills {e : OrderReportEntry} (he : e ∈ r.orderReportEntries) {qty b : ℚ}
    (hb : e.stateFill qty = some b) : b ∈ r.announcedFills qty := mem_filterMap.mpr ⟨e, he, hb⟩

/-- Without trades, the cumulative fill stays what it was or becomes one that is announced. -/
lemma filledQty_of_no_trades (h : tradePayloads r.orderReportEntries = []) :
    (reportEffect l r).filledQty = l.filledQty ∨
      (reportEffect l r).filledQty ∈ r.announcedFills l.qty := by
  rw [reportEffect, finish_filledQty, loopEntries_of_no_trades h]
  refine foldl_entry_induct
    (P := fun v => v.filledQty = l.filledQty ∨ v.filledQty ∈ r.announcedFills l.qty) ?_ (.inl rfl)
  intro e he v hv
  rw [entry_filledQty]
  cases hb : e.stateFill l.qty with
  | none => exact hv
  | some b =>
    rw [elim_some]
    split_ifs
    · exact hv
    · rcases max_choice b v.filledQty with hmax | hmax
      · rw [hmax]
        exact .inr (mem_announcedFills he hb)
      · rw [hmax]
        exact hv

lemma reportEffect_of_noNewFill (h : NoNewFill l r) :
    (reportEffect l r).filledQty = l.filledQty ∧ (reportEffect l r).fills = [] := by
  rw [fills, tradeFills_of_no_trades h.1, nil_append, reportEffect,
    finish_filledQty, finish_inferredFills, loopEntries_of_no_trades h.1]
  refine foldl_entry_induct
    (P := fun v => v.filledQty = l.filledQty ∧ v.inferredFills = []) ?_ ⟨rfl, rfl⟩
  rintro e he v ⟨hfill, hinf⟩
  have hsame : (v.entry l.qty r.updateTimestamp (linkageOnly l r) e).filledQty = l.filledQty := by
    rw [entry_filledQty, hfill]
    cases hb : e.stateFill l.qty with
    | none => rfl
    | some b =>
      rw [elim_some, max_eq_right (h.2 b (mem_announcedFills he hb)), ite_self]
  refine ⟨hsame, ?_⟩
  rw [entry_inferredFills, hsame, hfill, hinf, sub_self,
    inferredFrom_of_le fillTolerance_pos.le, append_nil]

lemma reportEffect_of_fillsTo {a : ℚ} (h : FillsTo l r a) (h0 : 0 ≤ l.filledQty) :
    (reportEffect l r).filledQty = a ∧ (reportEffect l r).fills = [a - l.filledQty] := by
  obtain ⟨htr, hne, hall, htol⟩ := h
  have hle : l.filledQty ≤ a := by
    have := fillTolerance_pos
    linarith
  have hany : r.orderReportEntries.any (fun e => (e.stateFill l.qty).isSome) = true := by
    obtain ⟨b, hb⟩ := exists_mem_of_ne_nil _ hne
    obtain ⟨e, he, hst⟩ := mem_filterMap.mp hb
    exact any_eq_true.mpr ⟨e, he, by rw [hst]; rfl⟩
  obtain ⟨hfill, hinf⟩ := foldl_entry_of_announces (v := start l)
    (fun e he b hb => hall b (mem_announcedFills he hb)) h0 hle
  rw [fills, tradeFills_of_no_trades htr, nil_append, reportEffect,
    finish_filledQty, finish_inferredFills, loopEntries_of_no_trades htr,
    hfill, hinf, if_pos hany, if_pos hany]
  refine ⟨rfl, ?_⟩
  exact inferredFrom_of_gt htol

end Zkbot
