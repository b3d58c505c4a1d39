import Zkbot.Oms.ReportSpec

/-!
# The status of an order under reports

What a report can do to the status of its order, read off the entries of the report.

Filled and cancelled are protected against state entries (`canUpdateStatus`) and against linkage,
but not against an execution rejection; rejected is protected against nothing.  So a terminal order
can go back to work: a rejected one by a state entry or by a linkage-only report, a filled or
cancelled one by an execution rejection followed by a state entry in the same report.

* `revives` — the reports that can do so, as a condition on the order before and the report.
* `terminal_of_not_revives` — any other report leaves a terminal order terminal.
* `settled_status` — without an execution rejection, a filled or cancelled order keeps its status.
* `terminalAt_kept` — no report changes a terminal time once it is set.
-/

namespace Zkbot

open List

variable {es : List OrderReportEntry}

open OrderReportEntry ReportEffect

variable {σ : OrderStatus} {l : LiveOrder} {e : OrderReportEntry} {r : OrderReport}

open OrderStoreV2 (promoted)

/-! ## What the entries of a report ask for -/

def OrderStatus.isSettled : OrderStatus → Bool
  | .filled | .cancelled => true
  | _ => false

namespace OrderReportEntry

variable (e : OrderReportEntry)

def announcesWork : Bool :=
  match e.acted with
  | some (.orderStateReport r) =>
    decide (mapOrderStatus r.exchOrderStatus ≠ .unspecified) &&
      !(mapOrderStatus r.exchOrderStatus).isTerminal
  | _ => false

def rejects : Bool :=
  match e.acted with
  | some (.execReport r) => decide (omsExecType r.execType = .placingOrder)
  | _ => false

/-- An entry that can end a working order: a state entry with a terminal status, or a rejection. -/
def ends : Bool :=
  match e.acted with
  | some (.orderStateReport r) => (mapOrderStatus r.exchOrderStatus).isTerminal
  | some (.execReport r) => decide (omsExecType r.execType = .placingOrder)
  | _ => false

/-- A state entry that says the order is filled or cancelled. -/
def settles : Bool :=
  match e.acted with
  | some (.orderStateReport r) => (mapOrderStatus r.exchOrderStatus).isSettled
  | _ => false

def links : Bool :=
  match e.acted with
  | some (.orderIdLinkageReport _) => true
  | _ => false

/-- An entry that updates its order whatever else is in the report. -/
def touches : Bool :=
  match e.acted with
  | some (.tradeReport _) | some (.orderStateReport _) | some (.feeReport _) => true
  | some (.execReport r) => decide (omsExecType r.execType ≠ .unspecified)
  | _ => false

end OrderReportEntry

namespace OrderReport

variable (r : OrderReport)

def announcesWork : Bool := r.orderReportEntries.any (·.announcesWork)

def rejects : Bool := r.orderReportEntries.any (·.rejects)

def ends : Bool := r.orderReportEntries.any (·.ends)

def settles : Bool := r.orderReportEntries.any (·.settles)

def isLinkageOnly : Bool :=
  r.orderReportEntries.length == 1 && r.orderReportEntries.any (·.links)

/-- The report updates an order that is terminal already. -/
def touches : Bool := r.orderReportEntries.any (·.touches) || r.isLinkageOnly

end OrderReport

/-- A report that can take a terminal order back to work. -/
def revives (live : LiveOrder) (r : OrderReport) : Bool :=
  (decide (live.orderStatus = .rejected) || r.rejects) && (r.announcesWork || r.isLinkageOnly)

lemma OrderStatus.isTerminal_of_isSettled (h : σ.isSettled = true) : σ.isTerminal = true := by
  cases σ <;> first | rfl | cases h

/-! ## The entry inferred from trades -/

/-- When a state entry is inferred from trades, and what it says; its status and its average price
are left open. -/
lemma inferStateFromTrades_eq_some (h : inferStateFromTrades es l = some e) :
    l.isInTerminalState = false ∧ hasStatePayload es = false ∧ tradePayloads es ≠ [] ∧
      ∃ status avgPrice, e.acted = some (.orderStateReport
        { exchOrderStatus := status
          filledQty := ((tradePayloads es).map (·.filledQty)).sum + l.accTradesFilledQty
          unfilledQty :=
            l.qty - (((tradePayloads es).map (·.filledQty)).sum + l.accTradesFilledQty)
          avgPrice }) := by
  simp only [inferStateFromTrades] at h
  cases ht : l.isInTerminalState with
  | true => simp [ht] at h
  | false =>
    cases hs : hasStatePayload es with
    | true => simp [ht, hs] at h
    | false =>
      simp only [ht, hs, Bool.false_eq_true, if_false] at h
      by_cases hn : tradePayloads es = []
      · simp [hn] at h
      · rw [if_neg hn] at h
        by_cases hq : ((tradePayloads es).map (·.filledQty)).sum + l.accTradesFilledQty > l.qty
        · rw [if_pos hq] at h
          cases h
        · rw [if_neg hq] at h
          cases h
          exact ⟨rfl, rfl, hn, _, _, rfl⟩

/-! ## One entry -/

lemma statusAfter_of_isSettled (h : σ.isSettled = true) (x : ExchangeOrderStatus) :
    statusAfter σ x = σ := by
  cases σ <;> first | rfl | cases h

lemma promoted_of_isSettled (h : σ.isSettled = true) : promoted σ = σ := by
  cases σ <;> first | rfl | cases h

lemma statusAfter_isTerminal (h : σ.isTerminal = true) {x : ExchangeOrderStatus}
    (hx : mapOrderStatus x = .unspecified ∨ (mapOrderStatus x).isTerminal = true) :
    (statusAfter σ x).isTerminal = true := by
  simp only [statusAfter]
  split_ifs with hc
  · rcases hx with hx | hx
    · simp [canUpdateStatus, hx] at hc
    · exact hx
  · exact h

namespace ReportEffect

variable {qty : ℚ} {ts : Int} {lo : Bool} {v : ReportEffect} {e : OrderReportEntry}

lemma foldl_entry_induct {P : ReportEffect → Prop} {es : List OrderReportEntry}
    (hstep : ∀ e ∈ es, ∀ v, P v → P (v.entry qty ts lo e)) (h : P v) :
    P (es.foldl (entry qty ts lo) v) := by
  induction es generalizing v with
  | nil => exact h
  | cons e es ih =>
    refine ih (forall_mem_cons.mp hstep).2 ?_
    exact hstep e mem_cons_self v h

lemma entry_isSettled (hv : v.status.isSettled = true) (he : e.rejects = false) :
    (v.entry qty ts lo e).status = v.status := by
  simp only [rejects] at he
  simp only [entry]
  split
  · rfl
  · split_ifs
    · exact promoted_of_isSettled hv
    · rfl
  · exact statusAfter_of_isSettled hv _
  · rfl
  · rename_i r hr
    simp only [hr, decide_eq_false_iff_not] at he
    split
    · contradiction
    · rfl
    · rfl
  · rfl

lemma entry_settles (v : ReportEffect) (he : e.settles = true) :
    (v.entry qty ts lo e).status.isSettled = true := by
  simp only [settles] at he
  simp only [entry]
  split at he
  · rename_i r hr
    rw [hr]
    simp only [statusAfter]
    split_ifs with hc
    · exact he
    · -- only a settled status cannot be updated
      have hmap : mapOrderStatus r.exchOrderStatus ≠ .unspecified := by
        intro hcon
        rw [hcon] at he
        cases he
      simp only [canUpdateStatus, bne_iff_ne, ne_eq, hmap, not_false_eq_true,
        Bool.and_eq_true, Bool.not_eq_true', and_true, Bool.not_eq_false, Bool.or_eq_true,
        beq_iff_eq] at hc
      rcases hc with hc | hc <;> rw [hc] <;> rfl
  · cases he

lemma entry_isTerminal (hv : v.status.isTerminal = true) (hw : e.announcesWork = false)
    (hlink : lo = false ∨ e.links = false) : (v.entry qty ts lo e).status.isTerminal = true := by
  simp only [announcesWork] at hw
  simp only [links] at hlink
  simp only [entry]
  split
  · exact hv
  · rename_i hr
    simp only [hr, Bool.true_eq_false, or_false] at hlink
    rw [hlink]
    exact hv
  · rename_i r hr
    simp only [hr, Bool.and_eq_false_iff, decide_eq_false_iff_not, not_not,
      Bool.not_eq_eq_eq_not, Bool.not_false] at hw
    exact statusAfter_isTerminal hv hw
  · exact hv
  · split
    · rfl
    · exact hv
    · exact hv
  · exact hv

lemma entry_working (hv : v.status.isTerminal = false) (he : e.ends = false) :
    (v.entry qty ts lo e).status.isTerminal = false := by
  simp only [ends] at he
  simp only [entry]
  split
  · exact hv
  · split_ifs
    · simp only [promoted]
      split_ifs
      · rfl
      · exact hv
    · exact hv
  · rename_i r hr
    simp only [hr] at he
    simp only [statusAfter]
    split_ifs
    · exact he
    · exact hv
  · exact hv
  · rename_i r hr
    simp only [hr, decide_eq_false_iff_not] at he
    split
    · contradiction
    · exact hv
    · exact hv
  · exact hv

lemma entry_terminalAt {t : Int} (hv : v.terminalAt = some t) :
    (v.entry qty ts lo e).terminalAt = some t := by
  simp only [entry]
  split
  · exact hv
  · split_ifs <;> exact hv
  · exact hv
  · exact hv
  · split
    · simp [hv]
    · exact hv
    · exact hv
  · exact hv

end ReportEffect

/-! ## A whole report -/

lemma loopEntries_of_terminal (h : l.isInTerminalState = true) (r : OrderReport) :
    loopEntries l r = r.orderReportEntries := by
  simp [loopEntries, inferStateFromTrades, h]

lemma not_rejects_of_mem_infer (h : e ∈ (inferStateFromTrades es l).toList) :
    e.rejects = false := by
  obtain ⟨-, -, -, status, avgPrice, hact⟩ := inferStateFromTrades_eq_some (Option.mem_toList.mp h)
  rw [rejects, hact]

lemma rejects_eq_false (h : r.rejects = false) (he : e ∈ loopEntries l r) : e.rejects = false := by
  rcases mem_append.mp he with he | he
  · simp only [OrderReport.rejects, any_eq_false] at h
    simpa using h e he
  · exact not_rejects_of_mem_infer he

/-- **Filled and cancelled are absorbing for reports without an execution rejection.** -/
lemma settled_status (hs : l.orderStatus.isSettled = true) (hr : r.rejects = false) :
    (reportEffect l r).status = l.orderStatus := by
  rw [reportEffect, finish_status]
  refine foldl_entry_induct (P := fun v => v.status = l.orderStatus) ?_ rfl
  intro e he v hv
  rw [entry_isSettled (by rw [hv]; exact hs) (rejects_eq_false hr he)]
  exact hv

/-- A report that settles its order and does not reject it leaves it filled or cancelled. -/
lemma settled_of_settles (hs : r.settles = true) (hr : r.rejects = false) :
    (reportEffect l r).status.isSettled = true := by
  simp only [OrderReport.settles, any_eq_true] at hs
  obtain ⟨e, he, hset⟩ := hs
  obtain ⟨pre, post, hsplit⟩ := append_of_mem (mem_append_left
    (inferStateFromTrades r.orderReportEntries l).toList he)
  have hloop : loopEntries l r = pre ++ e :: post := hsplit
  rw [reportEffect, finish_status, hloop, foldl_append, foldl_cons]
  refine foldl_entry_induct (P := fun v => v.status.isSettled = true) ?_ (entry_settles _ hset)
  intro e' he' v hv
  have hmem : e' ∈ loopEntries l r := by
    rw [hloop]
    exact mem_append_right pre (mem_cons_of_mem e he')
  rw [entry_isSettled hv (rejects_eq_false hr hmem)]
  exact hv

/-- **Only a reviving report takes a terminal order back to work.** -/
lemma terminal_of_not_revives (ht : l.isInTerminalState = true) (hr : revives l r = false) :
    (reportEffect l r).status.isTerminal = true := by
  simp only [revives, Bool.and_eq_false_iff, Bool.or_eq_false_iff, decide_eq_false_iff_not] at hr
  rcases hr with ⟨hrej, hnor⟩ | ⟨hwork, hlink⟩
  · -- not rejected, so settled, and the report does not reject it
    have hset : l.orderStatus.isSettled = true := by
      simp only [LiveOrder.isInTerminalState] at ht
      cases hst : l.orderStatus <;> rw [hst] at ht hrej <;>
        first | rfl | exact absurd rfl hrej | cases ht
    rw [settled_status hset hnor]
    exact ht
  · -- no entry names a working status
    rw [reportEffect, finish_status]
    refine foldl_entry_induct (P := fun v => v.status.isTerminal = true) ?_ ht
    intro e he v hv
    rw [loopEntries_of_terminal ht] at he
    have hw : e.announcesWork = false := by
      simp only [OrderReport.announcesWork, any_eq_false] at hwork
      simpa using hwork e he
    refine entry_isTerminal hv hw ?_
    simp only [OrderReport.isLinkageOnly, Bool.and_eq_false_iff, any_eq_false] at hlink
    rcases hlink with hlen | hlinks
    · simp [linkageOnly, hlen]
    · right
      simpa using hlinks e he

lemma reportEffect_of_not_updated (h : (reportEffect l r).updated = false) :
    reportEffect l r = ReportEffect.start l := by
  rw [reportEffect, finish_updated] at h
  rw [reportEffect, foldl_entry_of_not_updated _ _ _ _ h]
  rfl

lemma closes_of_terminal (hl : l.isInTerminalState = false)
    (h : (reportEffect l r).status.isTerminal = true) : closes l r = true := by
  cases hu : (reportEffect l r).updated with
  | true => rw [closes, hu, h, Bool.and_true]
  | false =>
    rw [reportEffect_of_not_updated hu] at h
    rw [show l.isInTerminalState = true from h] at hl
    cases hl

lemma not_updated_of_not_touches (ht : l.isInTerminalState = true) (hr : r.touches = false) :
    (reportEffect l r).updated = false := by
  simp only [OrderReport.touches, Bool.or_eq_false_iff, any_eq_false] at hr
  rw [reportEffect, finish_updated, loopEntries_of_terminal ht]
  refine foldl_entry_induct (P := fun v => v.updated = false) ?_ rfl
  intro e he v hv
  have hte := hr.1 e he
  simp only [touches] at hte
  simp only [entry]
  split
  · exact hv
  · -- a linkage entry updates only when it is alone
    rename_i hlink
    have hlo : linkageOnly l r = false := by
      by_contra hlo
      rw [Bool.not_eq_false, linkageOnly, Bool.and_eq_true] at hlo
      have hlen := hlo.1
      have hany : r.orderReportEntries.any (·.links) = true :=
        any_eq_true.mpr ⟨e, he, by simp [links, hlink]⟩
      have honly := hr.2
      rw [OrderReport.isLinkageOnly, hlen, hany] at honly
      cases honly
    rw [hlo]
    exact hv
  · rename_i hst
    simp [hst] at hte
  · rename_i htr
    simp [htr] at hte
  · rename_i x hex
    simp only [hex, decide_eq_true_eq, not_not] at hte
    rw [hte]
    exact hv
  · rename_i hfee
    simp [hfee] at hte

/-- **A terminal time is written once.** -/
lemma terminalAt_kept {t : Int} (h : l.terminalAt = some t) (r : OrderReport) :
    (reportEffect l r).terminalAt = some t := by
  rw [reportEffect]
  have hv : ((loopEntries l r).foldl (entry l.qty r.updateTimestamp (linkageOnly l r))
      (start l)).terminalAt = some t :=
    foldl_entry_induct (P := fun v => v.terminalAt = some t) (fun e _ v hv => entry_terminalAt hv) h
  simp only [finish]
  split_ifs
  · rw [hv]
    rfl
  · exact hv

end Zkbot
