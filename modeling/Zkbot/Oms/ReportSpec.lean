import Zkbot.Oms.ReportEffect

/-!
# The effect of a report on the core

`process_report_for_order` in terms of the effect of the report on its order: which deltas reach the
position store, what is released of the reservations, and what happens to the order store.

`processReportForOrder_spec` is the interface of the report handler: every later statement about
reports goes through `ReportSpec`.
-/

namespace Zkbot

open List Option AList LiveOrder ReportEffect OrderStoreV2

open OrderStoreV2 (SameBut)

namespace OmsCoreV2

variable {s : OmsCoreV2} {id : Int} {l : LiveOrder} {d d₀ : OrderDetailLog} {fl : ReportFlags}
  {gwId : ℕ} {r : OrderReport} {ts : Int} {l₀ l' : LiveOrder} {v : ReportEffect}
  {actions : List OmsActionV2}

/-- The position deltas of a list of fills: none for an order without a position key, and none for
a fill that is not positive. -/
def fillDeltas (live : LiveOrder) (fills : List ℚ) : List PositionDeltaV2 :=
  match live.accountingFlags.posInstrumentId with
  | some posId => (fills.filter (0 < ·)).map (fillDelta live posId)
  | none => []

lemma fillDeltas_nil (live : LiveOrder) : fillDeltas live [] = [] := by
  simp only [fillDeltas]
  cases live.accountingFlags.posInstrumentId <;> rfl

def applyDeltas (ps : PositionStoreV2) (deltas : List PositionDeltaV2) (ts : Int) :
    PositionStoreV2 :=
  deltas.foldl (fun ps δ => ps.applyDelta δ ts) ps

/-- The reservations after a list of fills. -/
def releaseFills (rs : ReservationStoreV2) (id : Int) (live : LiveOrder) (fills : List ℚ) :
    ReservationStoreV2 :=
  (fills.filter (0 < ·)).foldl (fun rs q => rs.releasePartial id (fillRelease live q)) rs

lemma foldl_applyFill (id : Int) (live : LiveOrder) (ts : Int) (fills : List ℚ) (s : OmsCoreV2) :
    fills.foldl (applyFill id live ts) s = { s with
      positions := applyDeltas s.positions (fillDeltas live fills) ts
      reservations := releaseFills s.reservations id live fills } := by
  induction fills generalizing s with
  | nil =>
    simp only [fillDeltas, releaseFills, applyDeltas]
    cases live.accountingFlags.posInstrumentId <;> rfl
  | cons q fills ih =>
    rw [foldl_cons, ih]
    by_cases hq : q ≤ 0
    · have hq' : ¬ 0 < q := not_lt.mpr hq
      simp [applyFill, hq, fillDeltas, releaseFills, hq']
    · have hq' : 0 < q := not_le.mp hq
      cases hp : live.accountingFlags.posInstrumentId <;>
        simp [applyFill, hq, fillDeltas, releaseFills, applyDeltas, hq', hp]

lemma handleTerminal_eq {live : LiveOrder} (hl : s.orders.live.lookup id = some live) :
    (s.handleTerminal id live).1 =
      if live.isInTerminalState then
        { s with
          orders := s.orders.markClosed id
          positions := closePositions s.positions live
          reservations := s.reservations.release id }
      else s := by
  simp only [handleTerminal]
  split_ifs with ht
  · rw [unfreezeRemaining_of_some (s := { s with reservations := s.reservations.release id }) hl rfl
      rfl]
  · rfl

lemma reportLoop_tracks {os : OrderStoreV2} (hd : s.orders.detail.lookup id = some d)
    (h : s.reportLoop id gwId r l = some (os, fl)) :
    ∃ l' d', os.live.lookup id = some l' ∧ os.detail.lookup id = some d' ∧
      Tracks r.updateTimestamp l d
        ((loopEntries l r).foldl (entry l.qty r.updateTimestamp (linkageOnly l r)) (start l))
        l' d' fl ∧
      SameBut id s.orders os := by
  have hl : (s.orders.touch id l r.updateTimestamp).live.lookup id
      = some { l with updatedAt := r.updateTimestamp } := lookup_insert _
  obtain ⟨l', d', hl', hd', ht, hs⟩ := foldlM_processEntry_tracks (loopEntries l r) hl hd
    (Tracks.start r.updateTimestamp l d) h
  exact ⟨l', d', hl', hd', ht, (sameBut_setLive s.orders id _).trans hs⟩

lemma follows_finalizeLive (ht : Tracks ts l₀ d₀ v l d fl) (hu : v.updated = true) :
    Follows l₀ d₀ (v.finish ts) (finalizeLive l) d := by
  have hterm : l.isInTerminalState = v.status.isTerminal := by
    rw [isInTerminalState, ht.status]
  refine ⟨ht.terms, ?_, ?_, ?_, ?_, ?_, ht.kept, ?_, ht.requests⟩
  · rw [finish_status]
    exact ht.status
  · rw [finish_filledQty]
    exact ht.filledQty
  · simp only [finalizeLive, finish, hu, hterm, ht.terminalAt, ht.updatedAt, Bool.true_and]
    split_ifs <;> rfl
  · rw [finish_tradeFills]
    exact ht.accQty
  · rw [finish_tradeFills]
    exact ht.trades
  · rw [finish_inferredFills]
    exact ht.inferred

lemma newFills_of_follows (h : Follows l₀ d₀ v l d) :
    newFills d₀.trades.length d₀.inferredTrades.length d = v.fills := by
  rw [newFills, map_drop, map_drop, h.trades, h.inferred,
    drop_left' (length_map _), drop_left' (length_map _)]
  rfl

lemma newFills_of_tracks (ht : Tracks ts l₀ d₀ v l d fl)
    (hno : (fl.newTrade || fl.newOmsTrade) = false) :
    newFills d₀.trades.length d₀.inferredTrades.length d = [] := by
  rw [ht.newTrade, ht.newOmsTrade] at hno
  rw [newFills_of_follows ht.toFollows]
  simpa [fills] using hno

lemma fillDeltas_of_terms (h : l'.terms = l.terms) (fills : List ℚ) :
    fillDeltas l' fills = fillDeltas l fills := by
  have hδ : fillDelta l' = fillDelta l := by
    funext posId q
    simp [fillDelta, flags_of_terms h, buySellType_of_terms h, accountId_of_terms h]
  simp [fillDeltas, flags_of_terms h, hδ]

lemma fillActions_of_terms (h : l'.terms = l.terms) (fills : List ℚ) :
    fillActions l' fills = fillActions l fills := by
  simp [fillActions, flags_of_terms h, accountId_of_terms h]

lemma releaseFills_of_terms (h : l'.terms = l.terms) (rs : ReservationStoreV2) (id : Int)
    (fills : List ℚ) : releaseFills rs id l' fills = releaseFills rs id l fills := by
  simp [releaseFills, fillRelease, flags_of_terms h, price_of_terms h]

/-- The part of the handler after the entry loop, store by store, and the actions it puts out.  The
flags only decide whether the list of new trades is read at all, so they can be dropped if an unread
list is empty. -/
lemma finishReport_eq {tb ib : ℕ} (hl : s.orders.live.lookup id = some l)
    (hd : s.orders.detail.lookup id = some d)
    (hno : (fl.newTrade || fl.newOmsTrade) = false → newFills tb ib d = []) :
    s.finishReport id ts tb ib fl =
      some (({ s with
        orders := { s.orders with live := s.orders.live.insert id (finalizeLive l) }
        positions := applyDeltas s.positions (fillDeltas (finalizeLive l) (newFills tb ib d)) ts
        reservations := releaseFills s.reservations id (finalizeLive l) (newFills tb ib d) :
        OmsCoreV2 }.handleTerminal id (finalizeLive l)).1,
        .publishOrderUpdate id fl.newTrade fl.newFee fl.newExecMsg fl.newOmsTrade ::
          fillActions (finalizeLive l) (newFills tb ib d) ++
          [.persistOrder id (finalizeLive l).isInTerminalState
            (finalizeLive l).isInTerminalState]) := by
  have hfills : { s with
      orders := { s.orders with live := s.orders.live.insert id (finalizeLive l) } :
      OmsCoreV2 }.collectFills id tb ib fl = some (newFills tb ib d) := by
    simp only [collectFills]
    split_ifs with hn
    · rw [hd, map_some]
    · rw [hno (by simpa using hn)]
  have hpersist : ∀ (t : OmsCoreV2) (m : LiveOrder), (t.handleTerminal id m).2 =
      [.persistOrder id m.isInTerminalState m.isInTerminalState] := by
    intro t m
    simp only [handleTerminal]
    split_ifs with ht
    · rw [ht]
    · rw [Bool.not_eq_true] at ht
      rw [ht]
  simp [finishReport, hl, hfills, foldl_applyFill, hpersist]

/-- What a report does to the core, in terms of its effect: `os`, `l'` and `d'` are the order store
and the order's records when the entry loop is done, before anything is evicted. -/
structure ReportSpec (s : OmsCoreV2) (id : Int) (gwId : ℕ) (r : OrderReport) (l : LiveOrder)
    (d : OrderDetailLog) (s' : OmsCoreV2) (os : OrderStoreV2) (l' : LiveOrder)
    (d' : OrderDetailLog) : Prop where
  live : os.live.lookup id = some l'
  detail : os.detail.lookup id = some d'
  follows : Follows l d (reportEffect l r) l' d'
  same : SameBut id s.orders os
  refs : ∃ os₁ fl l₁, s.reportLoop id gwId r l = some (os₁, fl) ∧
    os₁.live.lookup id = some l₁ ∧ os.orderIdByExchRef = os₁.orderIdByExchRef ∧
    os.dynStrings = os₁.dynStrings ∧ l'.exchOrderRefId = l₁.exchOrderRefId
  orders : s'.orders = if closes l r then os.markClosed id else os
  positions : s'.positions =
    if closes l r then
      closePositions (applyDeltas s.positions (fillDeltas l (reportEffect l r).fills)
        r.updateTimestamp) l'
    else applyDeltas s.positions (fillDeltas l (reportEffect l r).fills) r.updateTimestamp
  reservations : s'.reservations =
    if closes l r then
      (releaseFills s.reservations id l (reportEffect l r).fills).release id
    else releaseFills s.reservations id l (reportEffect l r).fills
  rest : s' = { s with
    orders := s'.orders, positions := s'.positions, reservations := s'.reservations }

/-- The actions of a report: none if it updates nothing; otherwise the order is published and
persisted, and so is its position if a fill has moved it. -/
def ReportActions (id : Int) (l : LiveOrder) (r : OrderReport) (actions : List OmsActionV2) : Prop :=
  (reportEffect l r).updated = false ∧ actions = [] ∨
    (reportEffect l r).updated = true ∧ ∃ trade fee exec inferred,
      actions = .publishOrderUpdate id trade fee exec inferred ::
        fillActions l (reportEffect l r).fills ++ [.persistOrder id (closes l r) (closes l r)]

section Records

variable {s s' : OmsCoreV2} {id : Int} {gwId : ℕ} {r : OrderReport} {l l' m : LiveOrder}
  {d d' : OrderDetailLog} {os : OrderStoreV2} (spec : ReportSpec s id gwId r l d s' os l' d')
include spec

lemma ReportSpec.live_ne {j : Int} (hj : j ≠ id) (hm : s'.orders.live.lookup j = some m) :
    s.orders.live.lookup j = some m := by
  rw [spec.orders] at hm
  rw [← spec.same.live j hj]
  split_ifs at hm
  · exact live_of_markClosed hm
  · exact hm

lemma ReportSpec.live_self (hm : s'.orders.live.lookup id = some m) : m = l' := by
  rw [spec.orders] at hm
  have hos := spec.live
  split_ifs at hm
  · exact some.inj ((live_of_markClosed hm).symm.trans hos)
  · exact mem_unique hm hos

end Records

variable (hl : s.orders.live.lookup id = some l) (hd : s.orders.detail.lookup id = some d)
include hl hd

/-- **A report follows its effect.** -/
theorem processReportForOrder_spec {s' : OmsCoreV2}
    (h : s.processReportForOrder id gwId r = some (s', actions)) :
    (∃ os l' d', ReportSpec s id gwId r l d s' os l' d') ∧ ReportActions id l r actions := by
  simp only [processReportForOrder, hl, hd, map_some, getD_some, bind_eq_some] at h
  obtain ⟨⟨os, fl⟩, hloop, h⟩ := h
  obtain ⟨l₁, d₁, hl₁, hd₁, ht, hs⟩ := reportLoop_tracks hd hloop
  set v := (loopEntries l r).foldl
    (entry l.qty r.updateTimestamp (linkageOnly l r)) (start l) with hv
  have hr : reportEffect l r = v.finish r.updateTimestamp := rfl
  have hupdated : (reportEffect l r).updated = v.updated := by rw [hr, finish_updated]
  cases hu : v.updated with
  | false =>
    -- nothing was updated: the effect is the starting one, with no fills
    rw [ht.updated, hu] at h
    cases h
    have hstart : v = start l := foldl_entry_of_not_updated _ _ _ _ hu
    have hfin : v.finish r.updateTimestamp = v := by simp [finish, hu]
    have hclose : closes l r = false := by simp [closes, hr, hu]
    have hfills : (reportEffect l r).fills = [] := by
      rw [hr, hfin, hstart]
      rfl
    refine ⟨⟨os, l₁, d₁, hl₁, hd₁, ?_, hs, ⟨os, fl, l₁, hloop, hl₁, rfl, rfl, rfl⟩, ?_, ?_, ?_,
      rfl⟩, .inl ⟨hupdated.trans hu, rfl⟩⟩
    · rw [hr, hfin]
      exact ht.toFollows
    · simp [hclose]
    · simp only [hclose, hfills, Bool.false_eq_true, if_false, fillDeltas_nil]
      rfl
    · simp [hclose, hfills, releaseFills]
  | true =>
    rw [ht.updated, hu] at h
    have hfol := follows_finalizeLive ht hu
    have hnew : newFills d.trades.length d.inferredTrades.length d₁ = (reportEffect l r).fills :=
      newFills_of_follows hfol
    have hclose : (finalizeLive l₁).isInTerminalState = closes l r := by
      simp [isInTerminalState, closes, hfol.status, hr, hu]
    rw [finishReport_eq (s := { s with orders := os }) hl₁ hd₁ (newFills_of_tracks ht),
      handleTerminal_eq (lookup_insert _), hnew, fillDeltas_of_terms hfol.terms,
      releaseFills_of_terms hfol.terms, fillActions_of_terms hfol.terms, hclose] at h
    refine ⟨⟨{ os with live := os.live.insert id (finalizeLive l₁) }, finalizeLive l₁, d₁,
      lookup_insert _, hd₁, hfol, hs.trans (sameBut_setLive os id _),
      ⟨os, fl, l₁, hloop, hl₁, rfl, rfl, rfl⟩, ?_, ?_, ?_, ?_⟩,
      .inr ⟨hupdated.trans hu, fl.newTrade, fl.newFee, fl.newExecMsg, fl.newOmsTrade, ?_⟩⟩
    all_goals cases hc : closes l r <;> rw [hc] at h <;> cases h <;> rfl

end OmsCoreV2

end Zkbot
