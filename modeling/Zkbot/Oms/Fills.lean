import Zkbot.Oms.ReportFills
import Zkbot.Oms.StepCases

/-!
# Executions and positions

Every executed unit should move the managed position once.  A venue can report an execution as a
trade, as an increment of the order's cumulative fill, or as both, and the handler infers whichever
is missing: a state entry from trades (`infer_state_from_trades`) and a trade from a state entry
(`apply_state_report`).  The fill loop then applies the trades *and* the inferred trades, so with
data that agrees with itself every execution above the tolerance is applied twice, however it is
reported.

* `ConsistentFrom` — the reports on an order agree with each other.
* `fillLoop` — what the fill loop of `process_report_for_order` is given.
* `CountedFrom` — at the end of every report the deltas handed to `apply_delta` add up to the signed
  cumulative fill of the order.
* `counted_iff` — for consistent data this holds exactly when no report carries trades above the
  tolerance.
-/

namespace Zkbot

open List Option LiveOrder OrderReportEntry ReportEffect Sample

open OrderStoreV2 (SameBut)

/-! ## Consistent reports -/

/-- A report agrees with the trades of an order of quantity `qty`, of which trades of `delivered`
have been delivered before: trades are positive, every state entry announces what has been traded up
to and including this report, and that is not more than the order's quantity. -/
@[mk_iff] structure ReportConsistent (qty delivered : ℚ) (r : OrderReport) : Prop where
  tagged : ∀ e ∈ r.orderReportEntries, e.acted = e.report
  positive : ∀ q ∈ r.tradeQtys, 0 < q
  states : ∀ e ∈ r.orderReportEntries, ∀ a ∈ e.stateFill qty, a = delivered + r.tradeTotal
  bounded : delivered + r.tradeTotal ≤ qty

instance (qty delivered : ℚ) (r : OrderReport) : Decidable (ReportConsistent qty delivered r) :=
  decidable_of_iff' _ (reportConsistent_iff ..)

/-- The reports on an order agree with each other. -/
def ConsistentFrom (qty : ℚ) : ℚ → List OrderReport → Prop
  | _, [] => True
  | delivered, r :: rs =>
    ReportConsistent qty delivered r ∧ ConsistentFrom qty (delivered + r.tradeTotal) rs

instance ConsistentFrom.decidable (qty : ℚ) :
    (delivered : ℚ) → (rs : List OrderReport) → Decidable (ConsistentFrom qty delivered rs)
  | _, [] => .isTrue trivial
  | delivered, r :: rs =>
    have := ConsistentFrom.decidable qty (delivered + r.tradeTotal) rs
    inferInstanceAs (Decidable (_ ∧ _))

/-! ## The fill loop -/

namespace OmsCoreV2

/-- What `process_report_for_order` has in hand when its fill loop starts: the order's live record
and the deltas that the loop hands to `apply_delta`. -/
def fillLoop (s : OmsCoreV2) (id : Int) (gwId : ℕ) (r : OrderReport) :
    Option (LiveOrder × List PositionDeltaV2) := do
  let live ← s.orders.live.lookup id
  let detail ← s.orders.detail.lookup id
  let (orders, flags) ← s.reportLoop id gwId r live
  let after ← orders.live.lookup id
  let fills ← { s with orders }.collectFills id detail.trades.length
    detail.inferredTrades.length flags
  let after := if flags.originalOrderUpdated then finalizeLive after else after
  some (after, fillDeltas after fills)

def totalChange (deltas : List PositionDeltaV2) : ℚ := (deltas.map (·.totalChange)).sum

def signedFill (l : LiveOrder) (q : ℚ) : ℚ := if l.buySellType = .buy then q else -q

/-- **Every executed unit is counted once**: at the end of each of the reports `rs` on order `id`,
the deltas handed over so far (`sum` of them before) add up to the signed cumulative fill. -/
def CountedFrom (id : Int) : ℚ → OmsCoreV2 → List OrderReport → Prop
  | _, _, [] => True
  | sum, s, r :: rs =>
    ∀ t ∈ s.reportTarget r, ∀ p ∈ s.fillLoop id t.1 r,
      sum + totalChange p.2 = signedFill p.1 p.1.filledQty ∧
        ∀ s' ∈ s.step (.report r), CountedFrom id (sum + totalChange p.2) s' rs

lemma fillLoop_eq {s : OmsCoreV2} {id : Int} {gwId : ℕ} {r : OrderReport} {l : LiveOrder}
    {d : OrderDetailLog} {os : OrderStoreV2} {fl : ReportFlags}
    (hl : s.orders.live.lookup id = some l) (hd : s.orders.detail.lookup id = some d)
    (hloop : s.reportLoop id gwId r l = some (os, fl)) :
    ∃ live, s.fillLoop id gwId r = some (live, fillDeltas l (reportEffect l r).fills) ∧
      live.terms = l.terms ∧ live.filledQty = (reportEffect l r).filledQty ∧
      live.orderStatus = (reportEffect l r).status := by
  obtain ⟨l', d', hl', hd', ht, -⟩ := reportLoop_tracks hd hloop
  have hfills : { s with orders := os }.collectFills id d.trades.length d.inferredTrades.length fl
      = some (reportEffect l r).fills := by
    have hnew : newFills d.trades.length d.inferredTrades.length d' = (reportEffect l r).fills := by
      rw [newFills_of_follows ht.toFollows, fills, fills, reportEffect,
        finish_tradeFills, finish_inferredFills]
    simp only [collectFills]
    split_ifs with hn
    · rw [hd', map_some, hnew]
    · -- no flag is set, so there are no fills
      rw [ht.newTrade, ht.newOmsTrade] at hn
      rw [← hnew, newFills_of_follows ht.toFollows, fills]
      simp only [Bool.or_eq_true, Bool.not_eq_eq_eq_not, Bool.not_true, isEmpty_eq_false_iff,
        not_or, ne_eq, not_not] at hn
      rw [hn.1, hn.2]
      rfl
  set live := if fl.originalOrderUpdated then finalizeLive l' else l' with hlive
  have hterms : live.terms = l.terms := by
    rw [hlive, ← ht.terms]
    split_ifs <;> rfl
  refine ⟨live, ?_, hterms, ?_, ?_⟩
  · simp only [fillLoop, hl, hd, hloop, hl', hfills, some_bind]
    rw [← hlive, fillDeltas_of_terms hterms]
  · have hfilled : live.filledQty = l'.filledQty := by
      rw [hlive]
      split_ifs <;> rfl
    rw [hfilled, ht.filledQty, reportEffect, finish_filledQty]
  · have hstatus : live.orderStatus = l'.orderStatus := by
      rw [hlive]
      split_ifs <;> rfl
    rw [hstatus, ht.status, reportEffect, finish_status]

lemma totalChange_fillDeltas {l : LiveOrder} (hpos : l.accountingFlags.posInstrumentId.isSome)
    (fills : List ℚ) :
    totalChange (fillDeltas l fills) = signedFill l (fills.filter (0 < ·)).sum := by
  obtain ⟨posId, hpos⟩ := isSome_iff_exists.mp hpos
  simp only [totalChange, fillDeltas, hpos, List.map_map, signedFill]
  generalize fills.filter (0 < ·) = qs
  by_cases hbuy : l.buySellType = .buy
  · simp [fillDelta, Function.comp_def, hbuy]
  · simp only [hbuy, if_false]
    induction qs with
    | nil => simp
    | cons q qs ih =>
      rw [List.map_cons, List.sum_cons, List.sum_cons, ih, neg_add]
      simp [fillDelta, hbuy]

end OmsCoreV2

/-! ## One consistent report -/

section Consistent

variable {l : LiveOrder} {r : OrderReport} {delivered : ℚ}

lemma tradePayloads_of_tagged (h : ∀ e ∈ r.orderReportEntries, e.acted = e.report) :
    (tradePayloads r.orderReportEntries).map (·.filledQty) = r.tradeQtys := by
  rw [OrderReport.tradeQtys, tradePayloads]
  generalize r.orderReportEntries = es at h ⊢
  induction es with
  | nil => rfl
  | cons e es ih =>
    have ih' := ih (forall_mem_cons.mp h).2
    have he := h e mem_cons_self
    rw [filterMap_cons, filterMap_cons, tradeQty, he]
    cases e.report with
    | none => exact ih'
    | some x =>
      cases x with
      | tradeReport t =>
        simp only [List.map_cons]
        rw [ih']
      | _ => exact ih'

lemma sum_tradePayloads (htag : ∀ e ∈ r.orderReportEntries, e.acted = e.report) :
    ((tradePayloads r.orderReportEntries).map (·.filledQty)).sum = r.tradeTotal := by
  rw [tradePayloads_of_tagged htag]
  rfl

lemma hasStatePayload_of_tagged (h : ∀ e ∈ r.orderReportEntries, e.acted = e.report) (qty : ℚ) :
    r.orderReportEntries.any (fun e => (e.stateFill qty).isSome) =
      hasStatePayload r.orderReportEntries := by
  rw [hasStatePayload, Bool.eq_iff_iff, List.any_eq_true, List.any_eq_true]
  refine exists_congr fun e => and_congr_right fun he => ?_
  rw [stateFill, h e he]
  cases e.report with
  | none => simp
  | some x => cases x <;> simp

/-- The report makes the loop see a state entry: its own, or one inferred from its trades. -/
def seesState (l : LiveOrder) (r : OrderReport) : Bool :=
  (loopEntries l r).any fun e => (e.stateFill l.qty).isSome

variable (hc : ReportConsistent l.qty delivered r)
include hc

/-- Every state entry that the loop sees announces what has been traded so far, the inferred one
included. -/
lemma announces_of_consistent (hd : 0 ≤ delivered) (hacc : l.accTradesFilledQty = delivered) :
    ∀ e ∈ loopEntries l r, ∀ a ∈ e.stateFill l.qty, a = delivered + r.tradeTotal := by
  intro e he a ha
  rcases mem_append.mp he with he | he
  · exact hc.states e he a ha
  · have hsum := sum_tradePayloads hc.tagged
    obtain ⟨-, -, hne, status, avgPrice, hact⟩ :=
      inferStateFromTrades_eq_some (mem_toList.mp he)
    have hpos : 0 < r.tradeTotal := by
      refine sum_pos _ hc.positive ?_
      rw [← tradePayloads_of_tagged hc.tagged]
      simpa using hne
    have htotal : r.tradeTotal + delivered ≠ 0 := by
      have : 0 < r.tradeTotal + delivered := by linarith
      exact this.ne'
    simp only [stateFill, hact, OrderStateReport.announced, hsum, hacc, htotal,
      ne_eq, not_false_eq_true, if_true, getD_some, mem_some_iff] at ha
    rw [← ha, add_comm]

/-- A report whose loop sees no state entry has none, and its trades are not turned into one only
because the order is terminal or there are no trades. -/
lemma seesState_iff (hacc : l.accTradesFilledQty = delivered) :
    seesState l r = true ↔ hasStatePayload r.orderReportEntries = true ∨
      l.isInTerminalState = false ∧ r.tradeTotal ≠ 0 := by
  have hsum := sum_tradePayloads hc.tagged
  have hnil : tradePayloads r.orderReportEntries = [] ↔ r.tradeTotal = 0 := by
    constructor
    · intro h
      rw [← hsum, h]
      rfl
    · intro h
      by_contra hne
      have hne' : r.tradeQtys ≠ [] := by
        rw [← tradePayloads_of_tagged hc.tagged]
        simpa using hne
      exact (sum_pos _ hc.positive hne').ne' h
  have hbound : ¬ r.tradeTotal + l.accTradesFilledQty > l.qty := by
    rw [hacc, add_comm]
    exact not_lt.mpr hc.bounded
  rw [seesState, loopEntries, any_append, hasStatePayload_of_tagged hc.tagged, Bool.or_eq_true]
  refine or_congr_right' fun hno => ?_
  simp only [inferStateFromTrades, hsum]
  cases ht : l.isInTerminalState with
  | true => simp
  | false =>
    by_cases hz : r.tradeTotal = 0
    · simp [hnil.mpr hz, hz]
    · simp [hno, hnil, hz, hbound, stateFill, acted]

/-- **The fills of a consistent report.**  The cumulative fill rises by what the report's trades add
up to, if the loop sees a state entry; the fills are the trades and, if it sees one and the amount
is not negligible, the same amount again. -/
lemma reportEffect_of_consistent (hd : 0 ≤ delivered) (hacc : l.accTradesFilledQty = delivered)
    (hfilled : l.filledQty = delivered) :
    (reportEffect l r).filledQty = (if seesState l r then delivered + r.tradeTotal else delivered) ∧
      ((reportEffect l r).fills.filter (0 < ·)).sum =
        r.tradeTotal +
          if seesState l r ∧ fillTolerance < r.tradeTotal then r.tradeTotal else 0 := by
  have hnonneg : 0 ≤ r.tradeTotal := sum_nonneg fun q hq => (hc.positive q hq).le
  have hstart : (start l).filledQty = delivered := hfilled
  have hstart' : (start l).inferredFills = [] := rfl
  obtain ⟨hfill, hinf⟩ := @foldl_entry_of_announces l.qty r.updateTimestamp (linkageOnly l r) _ _
    (announces_of_consistent hc hd hacc) (start l) (by rw [hstart]; exact hd)
    (by rw [hstart]; linarith)
  rw [hstart] at hfill hinf
  rw [hstart', nil_append, add_sub_cancel_left] at hinf
  have htrades : r.tradeQtys.filter (0 < ·) = r.tradeQtys := by
    rw [filter_eq_self]
    intro q hq
    simpa using hc.positive q hq
  refine ⟨?_, ?_⟩
  · rw [reportEffect, finish_filledQty, hfill]
    rfl
  · have hinf' : (reportEffect l r).inferredFills =
        if seesState l r then inferredFrom r.tradeTotal else [] := by
      rw [reportEffect, finish_inferredFills, hinf]
      rfl
    rw [fills, filter_append, sum_append, reportEffect_tradeFills, htrades, hinf']
    congr 1
    rcases le_or_gt r.tradeTotal fillTolerance with hle | hgt
    · rw [inferredFrom_of_le hle]
      simp [not_lt.mpr hle]
    · have hpos : 0 < r.tradeTotal := fillTolerance_pos.trans hgt
      rw [inferredFrom_of_gt hgt]
      split_ifs with h₁ h₂ h₂
      · simp [hpos]
      · exact absurd ⟨h₁, hgt⟩ h₂
      · exact absurd h₂.1 h₁
      · simp

end Consistent

/-! ## All reports on an order -/

namespace OmsCoreV2

variable {l : LiveOrder}

/-- A report that moves the position by what it adds to the cumulative fill: its trades are
negligible, and if there are any, the loop turns them into a fill. -/
def CountsOnce (l : LiveOrder) (r : OrderReport) : Prop :=
  r.tradeTotal ≤ fillTolerance ∧
    (r.tradeTotal = 0 ∨ l.isInTerminalState = false ∨ hasStatePayload r.orderReportEntries = true)
deriving Decidable

/-- The report counts its units once on order `id`. -/
def CountsOnceOn (id : Int) (s : OmsCoreV2) (r : OrderReport) : Prop :=
  ∀ l ∈ s.orders.live.lookup id, CountsOnce l r
deriving Decidable

/-- The report is for order `id`, which is in the store. -/
def ReportsOn (id : Int) (s : OmsCoreV2) (r : OrderReport) : Prop :=
  (s.reportTarget r).map (·.2) = some id ∧ id ∈ s.orders.live
deriving Decidable

lemma signedFill_add (l : LiveOrder) (p q : ℚ) :
    signedFill l (p + q) = signedFill l p + signedFill l q := by
  rw [signedFill, signedFill, signedFill]
  split_ifs
  · rfl
  · ring

lemma signedFill_inj {p q : ℚ} : signedFill l p = signedFill l q ↔ p = q := by
  rw [signedFill, signedFill]
  split_ifs
  · exact Iff.rfl
  · exact neg_inj

lemma signedFill_of_terms {l' : LiveOrder} (h : l'.terms = l.terms) (q : ℚ) :
    signedFill l' q = signedFill l q := by
  rw [signedFill, signedFill, buySellType_of_terms h]

/-- **One report**: what it hands over is what it adds to the cumulative fill exactly if it counts
its units once, and then the cumulative fill is what has been traded. -/
lemma count_report {r : OrderReport} {delivered : ℚ} (hc : ReportConsistent l.qty delivered r)
    (hd : 0 ≤ delivered) (hacc : l.accTradesFilledQty = delivered)
    (hfilled : l.filledQty = delivered) :
    (delivered + ((reportEffect l r).fills.filter (0 < ·)).sum = (reportEffect l r).filledQty ↔
      CountsOnce l r) ∧
    (CountsOnce l r → (reportEffect l r).filledQty = delivered + r.tradeTotal) := by
  obtain ⟨hfill, hsum⟩ := reportEffect_of_consistent hc hd hacc hfilled
  have hnonneg : 0 ≤ r.tradeTotal := sum_nonneg fun q hq => (hc.positive q hq).le
  have hsees := seesState_iff hc hacc
  have htol := fillTolerance_pos
  rw [hfill, hsum, CountsOnce]
  cases hs : seesState l r with
  | true =>
    -- the loop sees a state entry: the amount is doubled unless it is negligible
    have hwhy : r.tradeTotal = 0 ∨ l.isInTerminalState = false ∨
        hasStatePayload r.orderReportEntries = true := by
      rcases hsees.mp hs with hst | ⟨ht, -⟩
      · exact .inr (.inr hst)
      · exact .inr (.inl ht)
    refine ⟨?_, fun _ => if_pos rfl⟩
    rw [if_pos rfl, and_iff_left hwhy]
    rcases le_or_gt r.tradeTotal fillTolerance with hle | hgt
    · simp [hle, not_lt.mpr hle]
    · rw [if_pos ⟨rfl, hgt⟩]
      refine iff_of_false (fun heq => ?_) (not_le.mpr hgt)
      linarith
  | false =>
    -- it sees none: the trades move the position and not the order
    have hno : ¬ (hasStatePayload r.orderReportEntries = true ∨
        l.isInTerminalState = false ∧ r.tradeTotal ≠ 0) := by
      rw [← hsees, hs]
      simp
    rw [not_or, not_and, not_not] at hno
    simp only [Bool.false_eq_true, false_and, if_false, add_zero]
    have hzero : (r.tradeTotal ≤ fillTolerance ∧ (r.tradeTotal = 0 ∨ l.isInTerminalState = false ∨
        hasStatePayload r.orderReportEntries = true)) ↔ r.tradeTotal = 0 := by
      constructor
      · rintro ⟨-, hz | ht | hst⟩
        · exact hz
        · exact hno.2 ht
        · exact absurd hst hno.1
      · intro hz
        exact ⟨hz ▸ htol.le, .inl hz⟩
    rw [hzero]
    refine ⟨?_, fun hz => by rw [hz, add_zero]⟩
    constructor
    · intro heq
      linarith
    · intro hz
      rw [hz, add_zero]

/-- **All reports**, by induction: as long as each report counts its units once, the cumulative fill
is what has been traded and the deltas add up to it; the first one that does not breaks it. -/
lemma countedFrom_iff {id : Int} (rs : List OrderReport) :
    ∀ {s : OmsCoreV2} {l : LiveOrder} {delivered : ℚ}, SameKeys s.orders →
      s.orders.live.lookup id = some l → l.accountingFlags.posInstrumentId.isSome →
      0 ≤ delivered → l.accTradesFilledQty = delivered → l.filledQty = delivered →
      ConsistentFrom l.qty delivered rs → Guarded reportStep (ReportsOn id) s rs →
      (run reportStep s rs).isSome →
      (CountedFrom id (signedFill l delivered) s rs ↔
        Guarded reportStep (CountsOnceOn id) s rs) := by
  induction rs with
  | nil =>
    intro s l delivered _ _ _ _ _ _ _ _ _
    exact Iff.rfl
  | cons r rs ih =>
    intro s l delivered hk hl hpos hd hacc hfilled hcons hon hrun
    obtain ⟨hc, hcons'⟩ := hcons
    obtain ⟨⟨htarget, -⟩, hon'⟩ := hon
    obtain ⟨t, hrun⟩ := isSome_iff_exists.mp hrun
    obtain ⟨s', hstep, hrun'⟩ := run_cons_eq_some.mp hrun
    obtain ⟨⟨gwId, id'⟩, ht, rfl⟩ := map_eq_some_iff.mp htarget
    obtain ⟨d, hdet⟩ := hk.detail hl
    -- the step applies the report to this order
    obtain ⟨os, l', d', spec⟩ := reportSpec_of_target ht hl hdet hstep
    obtain ⟨os₁, fl, l₁, hloop, -⟩ := spec.refs
    obtain ⟨live, hlive, hterms, hfill, -⟩ := fillLoop_eq hl hdet hloop
    obtain ⟨hcount, hnext⟩ := count_report hc hd hacc hfilled
    have hsum := totalChange_fillDeltas hpos (reportEffect l r).fills
    have hhead : signedFill l delivered + totalChange (fillDeltas l (reportEffect l r).fills) =
        signedFill live live.filledQty ↔ CountsOnce l r := by
      rw [hsum, ← signedFill_add, signedFill_of_terms hterms, signedFill_inj, hfill, hcount]
    -- what is left of the order, if it is still cached, is ready for the next report
    have htail : CountsOnce l r → ∀ sum,
        sum = signedFill l (delivered + r.tradeTotal) →
        (CountedFrom id' sum s' rs ↔ Guarded reportStep (CountsOnceOn id') s' rs) := by
      rintro honce sum rfl
      cases rs with
      | nil => exact Iff.rfl
      | cons r₂ rs =>
        obtain ⟨⟨-, hmem⟩, -⟩ := hon' s' hstep
        obtain ⟨m, hm⟩ := Dict.mem_iff_lookup.mp hmem
        have hml := spec.live_self hm
        have hmt : m.terms = l.terms := hml ▸ spec.follows.terms
        have hnonneg : 0 ≤ r.tradeTotal := sum_nonneg fun q hq => (hc.positive q hq).le
        rw [← signedFill_of_terms hmt]
        refine ih (sameKeys_step hk hstep) hm ?_ (by linarith) ?_ ?_ ?_ (hon' s' hstep) ?_
        · rw [flags_of_terms hmt]
          exact hpos
        · rw [hml, spec.follows.accQty, hacc, reportEffect_tradeFills]
          rfl
        · rw [hml, spec.follows.filledQty, hnext honce]
        · rw [qty_of_terms hmt]
          exact hcons'
        · rw [hrun']
          rfl
    constructor
    · intro h
      obtain ⟨heq, hrest⟩ := h (gwId, id') ht (live, _) hlive
      have honce := hhead.mp heq
      refine ⟨fun l₂ hl₂ => ?_, fun s₂ hs₂ => ?_⟩
      · obtain rfl : l = l₂ := mem_unique hl hl₂
        exact honce
      · obtain rfl : s' = s₂ := mem_unique hstep hs₂
        refine (htail honce _ ?_).mp (hrest s' hstep)
        rw [heq, signedFill_of_terms hterms, hfill, hnext honce]
    · rintro ⟨honce, hrest⟩ ⟨gwId₂, id₂⟩ ht₂ p hp
      rw [mem_def, ht, some.injEq, Prod.mk.injEq] at ht₂
      obtain ⟨rfl, rfl⟩ := ht₂
      obtain rfl : (live, fillDeltas l (reportEffect l r).fills) = p :=
        mem_unique hlive hp
      have hone := honce l hl
      have heq := hhead.mpr hone
      refine ⟨heq, fun s₂ hs₂ => ?_⟩
      obtain rfl : s' = s₂ := mem_unique hstep hs₂
      refine (htail hone _ ?_).mpr (hrest s' hstep)
      rw [heq, signedFill_of_terms hterms, hfill, hnext hone]

/-- **Executions and position deltas.**  For an order with a position key that has just been placed,
and any reports on it that agree with each other: the deltas handed to `apply_delta` add up to the
signed cumulative fill at the end of every report if and only if every report counts its units
once. -/
theorem counted_iff (u : OmsSetup) (before : List OmsEvent) (s₀ : OmsCoreV2)
    (hreach : run handle u.start before = some s₀) (now : Int) (req : OrderRequest)
    (hadmits : s₀.admits req) (haccepted : s₀.refuses req = false) (s : OmsCoreV2)
    (hplace : s₀.step (.place now req) = some s) (l : LiveOrder)
    (hl : s.orders.live.lookup req.orderId = some l)
    (hpos : l.accountingFlags.posInstrumentId.isSome) (rs : List OrderReport)
    (hconsistent : ConsistentFrom l.qty 0 rs)
    (hreports : Guarded reportStep (ReportsOn req.orderId) s rs)
    (hrun : (run reportStep s rs).isSome) :
    CountedFrom req.orderId 0 s rs ↔ Guarded reportStep (CountsOnceOn req.orderId) s rs := by
  have hk₀ : SameKeys s₀.orders := sameKeys_run (sameKeys_start u) hreach
  have hfresh : Fresh req l := by
    cases step_cases hk₀ hplace with
    | quiet _ _ _ hidle => exact absurd hadmits hidle
    | rejected _ hrefuse =>
      rw [hrefuse] at haccepted
      cases haccepted
    | accepted _ _ _ _ _ _ _ hl₁ _ _ _ _ horders =>
      rw [horders, OrderStoreV2.enter_live_self, some.injEq] at hl
      exact hl ▸ hl₁
  have h := countedFrom_iff rs (sameKeys_step hk₀ hplace) hl hpos (le_refl 0) hfresh.accQty
    hfresh.filledQty hconsistent hreports hrun
  have hzero : signedFill l 0 = 0 := by simp [signedFill]
  rw [hzero] at h
  exact h

open Sample

/-- Executions below the tolerance, as a trade with a state entry and as a trade alone. -/
theorem counted_sample :
    ∃ s ∈ (setup false false 4).start.step (.place 0 (request 10 .buy 5)),
      CountedFrom 10 0 s
        [orderReport 10 "" [linkage "a"],
          orderReport 10 "" [trade (1 / 10 ^ 9), state .partialFilled (1 / 10 ^ 9)],
          orderReport 10 "" [trade (1 / 10 ^ 9)]] := by
  have hcounted : ∀ rs, (∃ s ∈ (setup false false 4).start.step (.place 0 (request 10 .buy 5)),
      ∃ l ∈ s.orders.live.lookup 10, l.accountingFlags.posInstrumentId.isSome ∧
        ConsistentFrom l.qty 0 rs ∧ Guarded reportStep (ReportsOn 10) s rs ∧
        (run reportStep s rs).isSome ∧ Guarded reportStep (CountsOnceOn 10) s rs) →
      ∃ s ∈ (setup false false 4).start.step (.place 0 (request 10 .buy 5)),
        CountedFrom 10 0 s rs := by
    rintro rs ⟨s, hs, l, hl, hpos, hcons, hon, hrun, hok⟩
    refine ⟨s, hs, ?_⟩
    exact (counted_iff (setup false false 4) [] _ rfl 0 (request 10 .buy 5)
      (by decide +kernel) (by decide +kernel) s hs l hl hpos rs hcons hon hrun).mpr hok
  exact hcounted _ (by decide +kernel)

/-- A trade of 4 reported together with the cumulative fill of 4 moves the position by 8. -/
theorem counted_twice :
    ∃ s ∈ (setup false false 4).start.step (.place 0 (request 10 .buy 5)),
      ConsistentFrom 5 0 [orderReport 10 "" [trade 4, state .partialFilled 4]] ∧
      (∃ p ∈ s.fillLoop 10 0 (orderReport 10 "" [trade 4, state .partialFilled 4]),
        p.1.filledQty = 4 ∧ totalChange p.2 = 8) ∧
      ¬ CountedFrom 10 0 s [orderReport 10 "" [trade 4, state .partialFilled 4]] := by
  refine exists_mem_imp (P := fun s =>
    s.reportTarget (orderReport 10 "" [trade 4, state .partialFilled 4]) = some (0, 10) ∧
      ∃ p ∈ s.fillLoop 10 0 (orderReport 10 "" [trade 4, state .partialFilled 4]),
        p.1.filledQty = 4 ∧ totalChange p.2 = 8 ∧ p.1.buySellType = .buy) (by decide +kernel) ?_
  rintro s - ⟨ht, p, hp, hfilled, htotal, hbuy⟩
  refine ⟨by decide +kernel, ⟨p, hp, hfilled, htotal⟩, fun h => ?_⟩
  have heq := (h (0, 10) ht p hp).1
  rw [htotal, signedFill, hbuy, if_pos rfl, hfilled] at heq
  norm_num at heq

end OmsCoreV2

end Zkbot
