import Mathlib.Algebra.BigOperators.Ring.List
import Zkbot.Oms.ReportFills
import Zkbot.Oms.StepCases

/-!
# Cash reservations

A buy that is placed under the balance check reserves the cost of the request, and every fill gives
back its share at the order's price.  The reservation is meant to cover what is still unfilled for
as long as the order works, and to be gone when it does not.

Nothing ties the two together but the arithmetic of single fills.  A fill reported both as a trade
and as a state is given back twice; a price that is not positive empties the reservation at the
first fill; a reservation is not made at all when the instrument has no fund asset or the id has one
already; a rejection of a repeated id leaves the old one behind; and an order that goes back to work
after a rejection has none.

* `lookup_releaseFills` — what a report leaves of a reservation that its fills do not exhaust.
* `CashCovered`, `KeepsReserved` — the property, and the operations that keep it.
* `coverInv_step`, `cash_covered_of_run` — one operation, and a run.
-/

namespace Zkbot

open List LiveOrder ReservationStoreV2 OrderStoreV2

open OrderStoreV2 (SameBut Quiet TouchesOnly)

namespace OmsCoreV2

variable {id : Int} {rs : ReservationStoreV2}

/-! ## What fills leave of a reservation -/

/-- What a list of fills gives back. -/
def released (l : LiveOrder) (fills : List ℚ) : ℚ :=
  ((fills.filter (0 < ·)).map (fillRelease l)).sum

lemma lookup_releaseFills_ne (rs : ReservationStoreV2) {j : Int} (h : j ≠ id) (l : LiveOrder)
    (fills : List ℚ) :
    (releaseFills rs id l fills).reservations.lookup j = rs.reservations.lookup j := by
  rw [releaseFills]
  induction fills.filter (0 < ·) generalizing rs with
  | nil => rfl
  | cons q qs ih => rw [foldl_cons, ih, lookup_releasePartial_ne rs _ h]

lemma lookup_releaseFills_none (h : rs.reservations.lookup id = none) (l : LiveOrder)
    (fills : List ℚ) : (releaseFills rs id l fills).reservations.lookup id = none := by
  rw [releaseFills]
  induction fills.filter (0 < ·) generalizing rs with
  | nil => exact h
  | cons q qs ih =>
    refine ih ?_
    rw [lookup_releasePartial_self, h, Option.bind_none]

/-- **Fills that do not exhaust a reservation take exactly their share out of it.** -/
lemma lookup_releaseFills {l : LiveOrder} {fills : List ℚ} (hpos : ∀ q, 0 < q → 0 ≤ fillRelease l q)
    {res : ReservationRecordV2} (h : rs.reservations.lookup id = some res)
    (hlt : released l fills < res.reservedQty) :
    ∃ res', (releaseFills rs id l fills).reservations.lookup id = some res' ∧
      res'.reservedQty = res.reservedQty - released l fills := by
  rw [releaseFills]
  rw [released] at hlt ⊢
  have hmem : ∀ q ∈ fills.filter (0 < ·), 0 < q := by
    intro q hq
    simpa using (mem_filter.mp hq).2
  generalize fills.filter (0 < ·) = qs at hmem hlt ⊢
  induction qs generalizing rs res with
  | nil => exact ⟨res, h, by simp⟩
  | cons q qs ih =>
    rw [map_cons, sum_cons] at hlt
    have hqs : ∀ q ∈ qs, 0 < q := (forall_mem_cons.mp hmem).2
    have hrest : 0 ≤ (qs.map (fillRelease l)).sum := by
      refine sum_nonneg ?_
      intro w hw
      obtain ⟨q', hq', rfl⟩ := mem_map.mp hw
      exact hpos q' (hqs q' hq')
    -- the first fill leaves more than the others take
    have hfirst : (rs.releasePartial id (fillRelease l q)).reservations.lookup id =
        some { res with reservedQty := res.reservedQty - fillRelease l q } := by
      rw [lookup_releasePartial_self, h, Option.bind_some,
        min_eq_left (by linarith), if_neg (by linarith)]
    obtain ⟨res', hres', hval⟩ := ih hfirst hqs (by simp only; linarith)
    refine ⟨res', hres', ?_⟩
    rw [hval, map_cons, sum_cons]
    ring

/-! ## The property -/

end OmsCoreV2

/-- A buy that was placed with bookkeeping and the balance check on, and not on margin. -/
def LiveOrder.reservesCash (l : LiveOrder) : Bool :=
  l.accountingFlags.isBuy && l.accountingFlags.bookkeepingBalance &&
    l.accountingFlags.balanceCheck && !l.accountingFlags.useMargin

namespace OmsCoreV2

variable {s : OmsCoreV2} {l : LiveOrder} {om : ResolvedOrderMeta} {s' : OmsCoreV2} {id : Int}
  {req : OrderRequest} {ps : PositionStoreV2} {rs : ReservationStoreV2}

/-- **A cash reservation covers what is still unfilled**, and no terminal order has one. -/
structure CashCovered (s : OmsCoreV2) : Prop where
  covered : ∀ id l, s.orders.live.lookup id = some l → l.isInTerminalState = false →
    l.reservesCash = true → ∃ res, s.reservations.reservations.lookup id = some res ∧
      l.price * (l.qty - l.filledQty) ≤ res.reservedQty
  released : ∀ id l, s.orders.live.lookup id = some l → l.isInTerminalState = true →
    s.reservations.reservations.lookup id = none

/-- A request that is placed with bookkeeping and the balance check on, and not on margin. -/
def cashChecked (req : OrderRequest) (om : ResolvedOrderMeta) : Bool :=
  decide (req.buySellType = .buy) && om.bookkeepingBalance && om.balanceCheck && !om.useMargin

/-- A report that leaves a reservation in step with a working buy: no trades, and either the report
settles the order or it announces no complete fill. -/
def FillsWithin (l : LiveOrder) (r : OrderReport) : Prop :=
  tradePayloads r.orderReportEntries = [] ∧
    (r.settles = true ∧ r.rejects = false ∨ ∀ b ∈ r.announcedFills l.qty, b < l.qty)
deriving Decidable

/-- The operations that keep the reservations in step.  An admitted request uses an id without a
reservation, and if it is to reserve cash it has a positive price and an asset to pay with; a report
on such an order fills it within its quantity, or finds it terminal and does not revive it. -/
def KeepsReserved (s : OmsCoreV2) : Op → Prop
  | .place _ req => s.admits req → req.orderId ∉ s.reservations.reservations ∧
      ∀ om ∈ (s.resolveOrderMeta req).toOption, cashChecked req om = true →
        om.fundAssetId.isSome = true ∧ 0 < req.price
  | .report r => ∀ t ∈ s.reportTarget r, ∀ l ∈ s.orders.live.lookup t.2, l.reservesCash = true →
      (l.isInTerminalState = true → revives l r = false) ∧
        (l.isInTerminalState = false → FillsWithin l r)
  | _ => True

instance (s : OmsCoreV2) : (op : Op) → Decidable (s.KeepsReserved op)
  | .place .. | .report _ | .cancel .. | .balanceUpdate .. | .panic _ | .dontPanic _
  | .sendFailed .. | .cancelSendFailed .. | .reload _ =>
    by dsimp only [KeepsReserved]; infer_instance

/-! ## The invariant -/

/-- The reservation `res` covers the order `l`, and is not used up. -/
structure Covers (l : LiveOrder) (res : ReservationRecordV2) : Prop where
  price : 0 ≤ l.price
  positive : 0 < res.reservedQty
  enough : l.price * (l.qty - l.filledQty) ≤ res.reservedQty

/-- What is known of one order: a working buy is covered, a terminal order has no reservation. -/
structure CoverAt (l : LiveOrder) (res : Option ReservationRecordV2) : Prop where
  covered : l.isInTerminalState = false → l.reservesCash = true → ∃ x, res = some x ∧ Covers l x
  released : l.isInTerminalState = true → res = none

/-- The invariant behind `CashCovered`. -/
structure CoverInv (s : OmsCoreV2) : Prop where
  keys : SameKeys s.orders
  each : ∀ id l, s.orders.live.lookup id = some l →
    CoverAt l (s.reservations.reservations.lookup id)

lemma CoverInv.cashCovered (h : CoverInv s) : CashCovered s where
  covered id l hl hw hc := by
    obtain ⟨res, hres, hcov⟩ := (h.each id l hl).covered hw hc
    exact ⟨res, hres, hcov.enough⟩
  released id l hl ht := (h.each id l hl).released ht

lemma CoverAt.of_same {l' : LiveOrder} {res : Option ReservationRecordV2} (h : CoverAt l res)
    (hterms : l'.terms = l.terms) (hst : l'.isInTerminalState = l.isInTerminalState)
    (hf : l'.filledQty = l.filledQty) : CoverAt l' res := by
  refine ⟨fun hw hc => ?_, fun ht => h.released (hst ▸ ht)⟩
  rw [reservesCash, flags_of_terms hterms] at hc
  obtain ⟨x, hx, hcov⟩ := h.covered (hst ▸ hw) hc
  refine ⟨x, hx, ?_, hcov.positive, ?_⟩
  · rw [price_of_terms hterms]
    exact hcov.price
  · rw [price_of_terms hterms, qty_of_terms hterms, hf]
    exact hcov.enough

lemma CoverInv.of_touches (h : CoverInv s) (ht : TouchesOnly id s.orders s'.orders)
    (hkeys : SameKeys s'.orders)
    (hres : ∀ j, j ≠ id → s'.reservations.reservations.lookup j =
      s.reservations.reservations.lookup j)
    (hself : ∀ l, s'.orders.live.lookup id = some l →
      CoverAt l (s'.reservations.reservations.lookup id)) : CoverInv s' where
  keys := hkeys
  each j l hl := by
    by_cases hj : j = id
    · subst hj
      exact hself l hl
    · rw [hres j hj]
      exact h.each j l (ht.live_some hj hl)

/-! ## Reports -/

section Report

variable {s s' : OmsCoreV2} {id : Int} {gwId : ℕ} {r : OrderReport} {l l' : LiveOrder}
  {d d' : OrderDetailLog} {os : OrderStoreV2} (spec : ReportSpec s id gwId r l d s' os l' d')

/-- Without trades, a covered order gives back no more than the increment of its fill is worth. -/
lemma released_le (hbuy : l.reservesCash = true) (hprice : 0 ≤ l.price)
    (htr : tradePayloads r.orderReportEntries = []) :
    released l (reportEffect l r).fills ≤
      l.price * ((reportEffect l r).filledQty - l.filledQty) := by
  simp only [reservesCash, Bool.and_eq_true] at hbuy
  have hrel : fillRelease l = fun q => q * l.price := by
    funext q
    rw [fillRelease, if_pos hbuy.1.1.1]
  obtain ⟨-, hgt, hsum⟩ := inferred_le_increment l r
  have hall : (reportEffect l r).inferredFills.filter (0 < ·) =
      (reportEffect l r).inferredFills := by
    rw [filter_eq_self]
    intro q hq
    exact decide_eq_true (fillTolerance_pos.trans (hgt q hq))
  rw [released, ReportEffect.fills, tradeFills_of_no_trades htr, nil_append, hall, hrel,
    sum_map_mul_right, map_id', mul_comm]
  exact mul_le_mul_of_nonneg_left hsum hprice

include spec

/-- A reservation that a report does not release as a whole. -/
lemma reservations_of_not_closes (hc : closes l r = false) :
    s'.reservations = releaseFills s.reservations id l (reportEffect l r).fills := by
  rw [spec.reservations, hc]
  rfl

/-- **A report keeps its own order covered.** -/
lemma coverAt_report (hat : CoverAt l (s.reservations.reservations.lookup id))
    (hok : l.reservesCash = true → (l.isInTerminalState = true → revives l r = false) ∧
      (l.isInTerminalState = false → FillsWithin l r)) :
    CoverAt l' (s'.reservations.reservations.lookup id) := by
  have hst : l'.isInTerminalState = (reportEffect l r).status.isTerminal := by
    rw [isInTerminalState, spec.follows.status]
  cases hc : closes l r with
  | true =>
    -- closed: the reservation is dropped as a whole
    have hnone : s'.reservations.reservations.lookup id = none := by
      rw [spec.reservations, hc, if_pos rfl, lookup_release_self]
    rw [closes, Bool.and_eq_true] at hc
    refine ⟨fun hw => ?_, fun _ => hnone⟩
    rw [hst, hc.2] at hw
    cases hw
  | false =>
    rw [reservations_of_not_closes spec hc]
    refine ⟨fun hw hcash => ?_, fun ht => ?_⟩
    · -- still working: the fills take their share
      rw [reservesCash, flags_of_terms spec.follows.terms] at hcash
      have hcash' : l.reservesCash = true := hcash
      obtain ⟨hrev, hfill⟩ := hok hcash'
      have hlw : l.isInTerminalState = false := by
        by_contra hcon
        rw [Bool.not_eq_false] at hcon
        rw [hst, terminal_of_not_revives hcon (hrev hcon)] at hw
        cases hw
      obtain ⟨res, hres, hcov⟩ := hat.covered hlw hcash'
      obtain ⟨htr, hwithin⟩ := hfill hlw
      have hle := released_le hcash' hcov.price htr
      have hbelow : released l (reportEffect l r).fills < res.reservedQty := by
        rcases filledQty_of_no_trades htr with hsame | hann
        · rw [hsame, sub_self, mul_zero] at hle
          exact hle.trans_lt hcov.positive
        · have hlt : (reportEffect l r).filledQty < l.qty := by
            rcases hwithin with ⟨hset, hnor⟩ | hall
            · rw [hst, OrderStatus.isTerminal_of_isSettled (settled_of_settles hset hnor)] at hw
              cases hw
            · exact hall _ hann
          rcases hcov.price.eq_or_lt with hzero | hpos
          · rw [← hzero, zero_mul] at hle
            exact hle.trans_lt hcov.positive
          · have hstep := mul_lt_mul_of_pos_left (sub_lt_sub_right hlt l.filledQty) hpos
            have henough := hcov.enough
            linarith
      have hnonneg : ∀ q, 0 < q → 0 ≤ fillRelease l q := by
        intro q hq
        rw [fillRelease]
        split_ifs
        · exact mul_nonneg hq.le hcov.price
        · exact hq.le
      obtain ⟨res', hres', hval⟩ := lookup_releaseFills hnonneg hres hbelow
      refine ⟨res', hres', ?_, ?_, ?_⟩
      · rw [price_of_terms spec.follows.terms]
        exact hcov.price
      · linarith
      · rw [hval, price_of_terms spec.follows.terms,
          qty_of_terms spec.follows.terms, spec.follows.filledQty]
        have henough := hcov.enough
        linarith
    · -- terminal and not closed: it was terminal before, and nothing happened
      rw [hst] at ht
      have hupd : (reportEffect l r).updated = false := by
        rw [closes, ht, Bool.and_true] at hc
        exact hc
      rw [reportEffect_of_not_updated hupd] at ht
      exact lookup_releaseFills_none (hat.released ht) l _

end Report

lemma lookup_reservations_ne {gwId : ℕ} {r : OrderReport} {l' : LiveOrder} {d d' : OrderDetailLog}
    {os : OrderStoreV2} (spec : ReportSpec s id gwId r l d s' os l' d') {j : Int} (hj : j ≠ id) :
    s'.reservations.reservations.lookup j = s.reservations.reservations.lookup j := by
  rw [spec.reservations]
  split_ifs
  · rw [lookup_release_ne _ hj, lookup_releaseFills_ne _ hj]
  · exact lookup_releaseFills_ne _ hj _ _

/-! ## Placing -/

/-- Rounding is down, so the cost of the request covers the order. -/
lemma covers_cost (hadm : validateOrderRequest req = .ok ()) (hprice : 0 < req.price)
    (hl : Fresh req l) (hqty : l.qty = scaledQty req om) (hp : l.price = scaledPrice req om)
    (kind : ReserveKind) (target : ℕ) :
    Covers l { orderId := req.orderId, accountId := req.accountId, kind, targetId := target,
               reservedQty := req.qty * req.price } := by
  have hq := (validateOrderRequest_ok hadm).2.2
  refine ⟨?_, mul_pos hq hprice, ?_⟩
  · rw [hp]
    exact scaledPrice_nonneg om hprice.le
  · rw [hp, hqty, hl.filledQty, sub_zero]
    calc scaledPrice req om * scaledQty req om
        ≤ scaledPrice req om * req.qty :=
          mul_le_mul_of_nonneg_left (scaledQty_le om) (scaledPrice_nonneg om hprice.le)
      _ ≤ req.price * req.qty := mul_le_mul_of_nonneg_right (scaledPrice_le om) hq.le
      _ = req.qty * req.price := mul_comm _ _

lemma coverAt_accepted (hadm : s.admits req) (hid : req.orderId ∉ s.reservations.reservations)
    (hcash : cashChecked req om = true → om.fundAssetId.isSome = true ∧ 0 < req.price)
    (hbook : Booking s req om ps rs) (hl : Fresh req l) (hw : l.isInTerminalState = false)
    (hqty : l.qty = scaledQty req om) (hp : l.price = scaledPrice req om)
    (hflags : l.accountingFlags = accountingFlags req om) :
    CoverAt l (rs.reservations.lookup req.orderId) := by
  refine ⟨fun _ hc => ?_, fun ht => ?_⟩
  · have hchecked : cashChecked req om = true := by
      rw [reservesCash, hflags] at hc
      exact hc
    obtain ⟨hfund, hprice⟩ := hcash hchecked
    simp only [cashChecked, Bool.and_eq_true, decide_eq_true_eq, Bool.not_eq_true'] at hchecked
    obtain ⟨⟨⟨hbuy, hbk⟩, hbc⟩, hm⟩ := hchecked
    cases hbook with
    | nothing hno =>
      obtain ⟨f, hf⟩ := Option.isSome_iff_exists.mp hfund
      exact absurd ⟨hbk, hm, hbuy, hf, hbc⟩ (hno f)
    | cash f hf =>
      refine ⟨_, ?_, covers_cost hadm.1 hprice hl hqty hp .cashAsset f⟩
      rw [tryReserve_reservations hid, AList.lookup_insert]
    | inventory k hk => exact absurd hbuy hk.2.2.1
  · rw [hw] at ht
    cases ht

lemma Booking.lookup_ne (h : Booking s req om ps rs) {j : Int} (hj : j ≠ req.orderId) :
    rs.reservations.lookup j = s.reservations.reservations.lookup j := by
  cases h with
  | nothing => rfl
  | cash | inventory => exact lookup_tryReserve_ne _ hj _ _ _ _

/-! ## One operation -/

/-- **One operation keeps the reservations in step.** -/
theorem coverInv_step {op : Op} (hinv : CoverInv s) (hok : s.KeepsReserved op)
    (h : s.step op = some s') : CoverInv s' := by
  have hkeys := sameKeys_step hinv.keys h
  cases step_cases hinv.keys h with
  | quiet hq hres =>
    refine ⟨hkeys, fun id l' hl' => ?_⟩
    obtain ⟨l, hl, hcore⟩ := hq.live_some hl'
    rw [hres]
    exact (hinv.each id l hl).of_same (terms_of_core hcore)
      (isInTerminalState_of_core hcore) (filledQty_of_core hcore)
  | rejected hadm hrefuse l d hl hterm horders hres hpos =>
    rename_i now req
    have ht : TouchesOnly req.orderId s.orders s'.orders := by
      rw [horders]
      exact (TouchesOnly.enter _ _ l d).trans (.markClosed _ _)
    refine hinv.of_touches ht hkeys (fun j _ => by rw [hres]) (fun m hm => ?_)
    rw [horders] at hm
    have hml : some l = some m := by
      rw [← live_of_markClosed hm, enter_live_self]
    cases hml
    refine ⟨fun hw => ?_, fun _ => ?_⟩
    · rw [hterm] at hw
      cases hw
    · rw [hres]
      exact AList.lookup_eq_none.mpr (hok hadm).1
  | accepted hadm hrefuse om hom l d hbook hl hw hqty hprice hflags horders =>
    rename_i now req
    have ht : TouchesOnly req.orderId s.orders s'.orders := by
      rw [horders]
      exact .enter _ _ l d
    refine hinv.of_touches ht hkeys (fun j hj => hbook.lookup_ne hj) (fun m hm => ?_)
    rw [horders, enter_live_self] at hm
    cases hm
    obtain ⟨hid, hcash⟩ := hok hadm
    exact coverAt_accepted hadm hid (hcash om (by rw [hom]; rfl)) hbook hl hw hqty hprice hflags
  | sendFailed l l' os hfail =>
    refine hinv.of_touches (.sendFailed hfail) hkeys (fun j hj => ?_) (fun m hm => ?_)
    · rw [hfail.state, lookup_release_ne _ hj]
    · obtain rfl := hfail.live_self hm
      refine ⟨fun hw => ?_, fun _ => ?_⟩
      · rw [hfail.closed] at hw
        cases hw
      · rw [hfail.state, lookup_release_self]
  | report _ gwId id l _ _ _ _ htarget hl _ spec =>
    refine hinv.of_touches (.report spec) hkeys (fun j hj => lookup_reservations_ne spec hj)
      (fun m hm => ?_)
    rw [spec.live_self hm]
    exact coverAt_report spec (hinv.each id l hl) (hok (gwId, id) htarget l hl)
  | external r gwId _ _ _ _ spec =>
    refine hinv.of_touches ((touchesOnly_external s gwId r).trans (.report spec))
      hkeys (fun j hj => lookup_reservations_ne spec hj) (fun m hm => ?_)
    rw [spec.live_self hm]
    -- an external order is working and reserves nothing
    refine coverAt_report spec ⟨fun _ hc => ?_, fun ht => ?_⟩ (fun hc => ?_)
    · cases hc
    · cases ht
    · cases hc

/-! ## Runs -/

lemma reservations_start (u : OmsSetup) : u.start.reservations = {} := by
  have hord : ∀ (s : OmsCoreV2) o, (s.initOrder o).reservations = s.reservations := fun _ _ => rfl
  have hstart := initState_preserves u.blank u.orders u.positions u.balances (·.reservations)
    (fun _ _ => rfl) fun _ _ => rfl
  rw [OmsSetup.start, hstart, foldl_preserves hord]
  rfl

lemma flags_start (u : OmsSetup) (hl : u.start.orders.live.lookup id = some l) :
    l.accountingFlags = {} := by
  obtain ⟨s, v1, -, rfl⟩ := warmLive_of_start u hl
  rfl

lemma coverInv_start (u : OmsSetup) : CoverInv u.start where
  keys := sameKeys_start u
  each id l hl := by
    refine ⟨fun _ hc => ?_, fun _ => ?_⟩
    · rw [reservesCash, flags_start u hl] at hc
      cases hc
    · rw [reservations_start]
      rfl

/-- **Cash reservations.**  In every run whose operations meet the conditions, every working buy
that was placed under the balance check has a reservation that covers what is still unfilled, and no
terminal order has one. -/
theorem cash_covered_of_run (u : OmsSetup) (evs : List OmsEvent)
    (hok : Guarded step KeepsReserved u.start (evs.flatMap OmsEvent.ops)) (s : OmsCoreV2)
    (hrun : run handle u.start evs = some s) : CashCovered s :=
  (events_invariant (I := CoverInv) (fun _ _ _ hinv hop hstep => coverInv_step hinv hop hstep)
    (coverInv_start u) hok hrun).cashCovered

open Sample

/-- A buy of five at one: after a fill of two, three are reserved for the rest. -/
theorem cash_covered_sample :
    ∃ s ∈ run handle (funded 5).start
      [place 10 .buy 5, report 10 [state .partialFilled 2]],
      CashCovered s ∧ (s.reservations.reservations.lookup 10).map (·.reservedQty) = some 3 := by
  refine exists_mem_imp (P := fun s =>
    (s.reservations.reservations.lookup 10).map (·.reservedQty) = some 3) (by decide +kernel) ?_
  exact fun s hrun hval => ⟨cash_covered_of_run (funded 5) _ (by decide +kernel) s hrun, hval⟩

/-- The same fill, reported as a trade and as the state that goes with it: one is left reserved,
where three are still unfilled. -/
theorem cash_not_covered :
    ∃ s ∈ run handle (funded 5).start [place 10 .buy 5,
      report 10 [trade 2, state .partialFilled 2]],
      ¬ CashCovered s ∧ (s.reservations.reservations.lookup 10).map (·.reservedQty) = some 1 := by
  refine exists_mem_imp (P := fun s =>
    (s.reservations.reservations.lookup 10).map (·.reservedQty) = some 1 ∧
      ∃ l ∈ s.orders.live.lookup 10, l.isInTerminalState = false ∧ l.reservesCash = true ∧
        l.price * (l.qty - l.filledQty) = 3) (by decide +kernel) ?_
  rintro s - ⟨hval, l, hl, hw, hc, hrest⟩
  refine ⟨fun hcov => ?_, hval⟩
  obtain ⟨res, hres, hle⟩ := hcov.covered 10 l hl hw hc
  rw [hres, Option.map_some, Option.some.injEq] at hval
  rw [hrest, hval] at hle
  norm_num at hle

end OmsCoreV2

end Zkbot
