import Zkbot.Oms.Departures
import Zkbot.Oms.Panics
import Mathlib.Data.List.ReduceOption

/-!
# Reconciling orders with a gateway

`reconcile.rs` of the service, and the loop of `oms_actor.rs` that feeds its reports to the core.
The service asks a gateway for its open orders, compares them with its own, and makes up the reports
that would bring an order to the state the gateway has it in; for an order that the gateway does not
list it asks for details first.

The reports are made up with `..Default::default()`, so their `exchange` is empty, and the core
drops a report from a gateway it does not know.  Unless a gateway is registered under the empty key,
reconciling therefore changes nothing at all (`reconcile_dropped`).

* `Converged` — what reconciling is for.
* `InAgreement` — there was nothing to do.
* `FoundInTurn`, `Keeps`, `FillReached` — when the reports do get through.
-/

namespace Zkbot

open List Option OrderReportEntry ReportEffect

variable {gwKey : String}

/-! ## `reconcile.rs` -/

/-- `ExchOrder`: an order as a gateway answers a query for it. -/
structure ExchOrder where
  orderRef : String
  orderReport : Option OrderReport
  deriving DecidableEq

structure OmsOrderSnapshot where
  orderId : Int
  accountId : Int
  gwKey : String
  exchOrderRef : Option String
  instrument : String
  orderStatus : OrderStatus
  filledQty : ℚ
  deriving DecidableEq

/-- The reference under which the exchange knows an order, unless it is empty. -/
def OmsOrderSnapshot.reference (snap : OmsOrderSnapshot) : Option String :=
  snap.exchOrderRef.filter (· ≠ "")

structure VenueOrderQuery where
  exchOrderRef : Option String := none
  orderId : Option Int := none
  instrument : Option String := none

/-- What `query_order_details` of a gateway makes of the query for a missing order. -/
def OmsOrderSnapshot.query (snap : OmsOrderSnapshot) : VenueOrderQuery where
  exchOrderRef := (some (snap.exchOrderRef.getD "")).filter (· ≠ "")
  orderId := (some snap.orderId).filter (· ≠ 0)
  instrument := (some snap.instrument).filter (· ≠ "")

structure GwReconcileResult where
  gwKey : String
  ordersMatched : ℕ := 0
  ordersUpdated : ℕ := 0
  ordersNeedDetail : ℕ := 0
  ordersRejected : ℕ := 0
  deriving DecidableEq

/-- One turn of `extract_open_order_snapshots`.  Outside, `none` is a panic; inside, an order that
is skipped. -/
def OmsCoreV2.snapshotOf (s : OmsCoreV2) (oid : Int) (live : LiveOrder) :
    Option (Option OmsOrderSnapshot) :=
  if live.isInTerminalState then some none
  else
    match s.metadata.gw live.gwId with
    | none => some none
    | some gw => do
        let gwKey ← s.metadata.strResolve gw.gwKeySym
        match s.metadata.instrument live.instrumentId with
        | none => some none
        | some inst => do
            let instrument ← s.metadata.strResolve inst.instrumentCodeSym
            some (some
              { orderId := oid, accountId := live.accountId, gwKey
                exchOrderRef := live.exchOrderRefId.bind s.orders.dynStrings.resolve
                instrument, orderStatus := live.orderStatus, filledQty := live.filledQty })

/-- `extract_open_order_snapshots`, in one order of iteration of the map. -/
def OmsCoreV2.extractOpenOrderSnapshots (s : OmsCoreV2) : Option (List OmsOrderSnapshot) :=
  (s.orders.live.entries.mapM fun e => s.snapshotOf e.1 e.2).map reduceOption

/-- `extract_gw_order_state`: the first state entry. -/
def extractGwOrderState (order : ExchOrder) : Option OrderStateReport :=
  order.orderReport.bind fun report =>
    report.orderReportEntries.findSome? fun entry =>
      match entry.reportType, entry.report with
      | .state, some (.orderStateReport r) => some r
      | _, _ => none

/-- `make_synthetic_state_report`.  The exchange is left to its default. -/
def makeSyntheticStateReport (orderId : Int) (exchOrderRef : String) (accountId : Int)
    (state : OrderStateReport) (tsMs : Int) : OrderReport :=
  { exchOrderRef, orderId, exchange := "", accountId, updateTimestamp := tsMs
    orderSourceType := .tq
    orderReportEntries := [⟨.state, some (.orderStateReport state)⟩] }

def makeSyntheticRejectReport (orderId accountId : Int) (reason : String) (tsMs : Int) :
    OrderReport :=
  { exchOrderRef := "", orderId, exchange := "", accountId, updateTimestamp := tsMs
    orderSourceType := .tq
    orderReportEntries :=
      [⟨.exec, some (.execReport
        { execType := .rejected, execMessage := reason
          rejectionInfo := some
            { reason := .exchReject, source := .exchReject, errorMessage := reason } })⟩] }

/-- The largest difference of fills that counts as none. -/
def reconcileTolerance : ℚ := 1 / 10 ^ 12

/-- The open orders of a gateway by reference; of two with the same one the last counts. -/
def gwIndex (gwOpenOrders : List ExchOrder) : Dict String ExchOrder :=
  gwOpenOrders.foldl (fun index o => index.insert o.orderRef o) ∅

def diverged (snap : OmsOrderSnapshot) (state : OrderStateReport) : Bool :=
  decide (|state.filledQty - snap.filledQty| > reconcileTolerance) ||
    decide (mapOrderStatus state.exchOrderStatus ≠ snap.orderStatus)

/-- What the loop of `reconcile_orders_against_gateway` has collected. -/
abbrev ReconcileAcc := List OrderReport × List OmsOrderSnapshot × GwReconcileResult

/-- One turn of the loop. -/
def reconcileOne (index : Dict String ExchOrder) (gwKey : String) (nowMs : Int) (acc : ReconcileAcc)
    (snap : OmsOrderSnapshot) : ReconcileAcc :=
  let (reports, needsDetail, result) := acc
  if snap.gwKey ≠ gwKey then acc
  else
    match snap.reference with
    | some exchRef =>
      match index.lookup exchRef with
      | some gwOrder =>
        let result := { result with ordersMatched := result.ordersMatched + 1 }
        match extractGwOrderState gwOrder with
        | some state =>
          if diverged snap state then
            (reports ++ [makeSyntheticStateReport snap.orderId exchRef snap.accountId state
              nowMs], needsDetail,
             { result with ordersUpdated := result.ordersUpdated + 1 })
          else (reports, needsDetail, result)
        | none => (reports, needsDetail, result)
      | none =>
        (reports, needsDetail ++ [snap],
         { result with ordersNeedDetail := result.ordersNeedDetail + 1 })
    | none =>
      (reports ++ [makeSyntheticRejectReport snap.orderId snap.accountId
        "reconcile: order never reached exchange (no exch_order_ref after restart)" nowMs],
       needsDetail, { result with ordersRejected := result.ordersRejected + 1 })

def reconcileOrdersAgainstGateway (omsOpenOrders : List OmsOrderSnapshot)
    (gwOpenOrders : List ExchOrder) (gwKey : String) (nowMs : Int) : ReconcileAcc :=
  omsOpenOrders.foldl (reconcileOne (gwIndex gwOpenOrders) gwKey nowMs) ([], [], { gwKey })

/-- The state that the details give for a reference. -/
def detailState (detailOrders : List ExchOrder) (exchRef : String) : Option OrderStateReport :=
  detailOrders.findSome? fun detail =>
    if detail.orderRef = exchRef then extractGwOrderState detail else none

def resolveMissingOrder (snap : OmsOrderSnapshot) (detailOrders : List ExchOrder) (nowMs : Int) :
    OrderReport :=
  let exchRef := snap.exchOrderRef.getD ""
  let state := (detailState detailOrders exchRef).getD
    { exchOrderStatus := .cancelled, filledQty := snap.filledQty }
  makeSyntheticStateReport snap.orderId exchRef snap.accountId state nowMs

/-- The reports that `reconcile_gw_orders` dispatches, in order. -/
def reconcileReports (snapshots : List OmsOrderSnapshot)
    (gwOpenOrders detailOrders : List ExchOrder)
    (gwKey : String) (nowMs : Int) : List OrderReport :=
  let phase1 := reconcileOrdersAgainstGateway snapshots gwOpenOrders gwKey nowMs
  phase1.1 ++ phase1.2.1.map fun snap => resolveMissingOrder snap detailOrders nowMs

/-- `reconcile_gw_orders`: the core after both phases.  Each report goes through
`process_message`. -/
def OmsCoreV2.reconcileGwOrders (s : OmsCoreV2) (snapshots : List OmsOrderSnapshot)
    (gwOpenOrders detailOrders : List ExchOrder) (gwKey : String) (nowMs : Int) :
    Option OmsCoreV2 :=
  run reportStep s (reconcileReports snapshots gwOpenOrders detailOrders gwKey nowMs)

/-! ## Which reports are dispatched -/

section Reports

variable (index : Dict String ExchOrder) (gwKey : String) (nowMs : Int)

def listedState (snap : OmsOrderSnapshot) : Option OrderStateReport :=
  (snap.reference.bind index.lookup).bind extractGwOrderState

def immediateReport (snap : OmsOrderSnapshot) : Option OrderReport :=
  if snap.gwKey ≠ gwKey then none
  else
    match snap.reference with
    | some exchRef =>
      ((listedState index snap).filter fun state => diverged snap state).map fun state =>
        makeSyntheticStateReport snap.orderId exchRef snap.accountId state nowMs
    | none =>
      some (makeSyntheticRejectReport snap.orderId snap.accountId
        "reconcile: order never reached exchange (no exch_order_ref after restart)" nowMs)

def isMissing (snap : OmsOrderSnapshot) : Bool :=
  decide (snap.gwKey = gwKey) && snap.reference.isSome && (snap.reference.bind index.lookup).isNone

lemma reconcileOne_eq (acc : ReconcileAcc) (snap : OmsOrderSnapshot) :
    (reconcileOne index gwKey nowMs acc snap).1 =
        acc.1 ++ (immediateReport index gwKey nowMs snap).toList ∧
      (reconcileOne index gwKey nowMs acc snap).2.1 =
        acc.2.1 ++ if isMissing index gwKey snap then [snap] else [] := by
  by_cases hgw : snap.gwKey = gwKey
  · cases href : snap.reference with
    | none => simp [reconcileOne, immediateReport, isMissing, hgw, href]
    | some exchRef =>
      cases hindex : index.lookup exchRef with
      | none =>
        simp [reconcileOne, immediateReport, isMissing, hgw, href, hindex, listedState]
      | some gwOrder =>
        cases hstate : extractGwOrderState gwOrder with
        | none =>
          simp [reconcileOne, immediateReport, isMissing, hgw, href, hindex, listedState, hstate]
        | some state =>
          cases hdiv : diverged snap state <;>
            simp [reconcileOne, immediateReport, isMissing, hgw, href, hindex, listedState,
              hstate, filter_some, hdiv]
  · simp [reconcileOne, immediateReport, isMissing, hgw]

lemma foldl_reconcileOne (snaps : List OmsOrderSnapshot) (acc : ReconcileAcc) :
    (snaps.foldl (reconcileOne index gwKey nowMs) acc).1 =
        acc.1 ++ snaps.filterMap (immediateReport index gwKey nowMs) ∧
      (snaps.foldl (reconcileOne index gwKey nowMs) acc).2.1 =
        acc.2.1 ++ snaps.filter (isMissing index gwKey) := by
  induction snaps generalizing acc with
  | nil => simp
  | cons snap snaps ih =>
    obtain ⟨hreports, hmissing⟩ := ih (reconcileOne index gwKey nowMs acc snap)
    obtain ⟨hreport, hmiss⟩ := reconcileOne_eq index gwKey nowMs acc snap
    constructor
    · rw [foldl_cons, hreports, hreport, append_assoc]
      cases h : immediateReport index gwKey nowMs snap with
      | none => simp [h]
      | some r => simp [h]
    · rw [foldl_cons, hmissing, hmiss, append_assoc]
      cases h : isMissing index gwKey snap with
      | false => simp [h]
      | true => simp [h]

end Reports

/-- **The reports that are dispatched**: those of the first phase, and one for each order that is
missing. -/
theorem reconcileReports_eq (snaps : List OmsOrderSnapshot)
    (gwOpenOrders detailOrders : List ExchOrder)
    (gwKey : String) (nowMs : Int) :
    reconcileReports snaps gwOpenOrders detailOrders gwKey nowMs =
      snaps.filterMap (immediateReport (gwIndex gwOpenOrders) gwKey nowMs) ++
        (snaps.filter (isMissing (gwIndex gwOpenOrders) gwKey)).map fun snap =>
          resolveMissingOrder snap detailOrders nowMs := by
  obtain ⟨hreports, hmissing⟩ :=
    foldl_reconcileOne (gwIndex gwOpenOrders) gwKey nowMs snaps ([], [], { gwKey })
  simp [reconcileReports, reconcileOrdersAgainstGateway, hreports, hmissing]

section Own

variable (index : Dict String ExchOrder) (details : List ExchOrder) (gwKey : String) (nowMs : Int)
  {snap : OmsOrderSnapshot} {r : OrderReport}

def ownReport (snap : OmsOrderSnapshot) : Option OrderReport :=
  if isMissing index gwKey snap then some (resolveMissingOrder snap details nowMs)
  else immediateReport index gwKey nowMs snap

variable {index details gwKey nowMs}

lemma immediateReport_of_isMissing (h : isMissing index gwKey snap = true) :
    immediateReport index gwKey nowMs snap = none := by
  simp only [isMissing, Bool.and_eq_true, decide_eq_true_eq, isNone_iff_eq_none] at h
  obtain ⟨⟨hgw, href⟩, hindex⟩ := h
  obtain ⟨exchRef, href⟩ := isSome_iff_exists.mp href
  rw [href] at hindex
  simp [immediateReport, listedState, hgw, href, hindex]

/-- What is known of a dispatched report: it names its order, and no exchange. -/
lemma ownReport_names (h : ownReport index details gwKey nowMs snap = some r) :
    r.orderId = snap.orderId ∧ r.exchange = "" ∧ snap.gwKey = gwKey := by
  simp only [ownReport] at h
  split_ifs at h with hmiss
  · cases h
    simp only [isMissing, Bool.and_eq_true, decide_eq_true_eq] at hmiss
    exact ⟨rfl, rfl, hmiss.1.1⟩
  · simp only [immediateReport] at h
    split_ifs at h with hgw
    refine ⟨?_, ?_, not_not.mp hgw⟩
    all_goals
      split at h
      · obtain ⟨state, -, rfl⟩ := map_eq_some_iff.mp h
        rfl
      · cases h
        rfl

end Own

variable {details : List ExchOrder} {snaps : List OmsOrderSnapshot} {gwOpenOrders : List ExchOrder}

/-- Up to their order, the reports that are dispatched are those that the orders have. -/
lemma reconcileReports_perm (nowMs : Int) :
    (reconcileReports snaps gwOpenOrders details gwKey nowMs).Perm
      (snaps.filterMap (ownReport (gwIndex gwOpenOrders) details gwKey nowMs)) := by
  rw [reconcileReports_eq]
  induction snaps with
  | nil => exact .refl _
  | cons snap snaps ih =>
    cases hmiss : isMissing (gwIndex gwOpenOrders) gwKey snap with
    | true =>
      have hown : ownReport (gwIndex gwOpenOrders) details gwKey nowMs snap =
          some (resolveMissingOrder snap details nowMs) := if_pos hmiss
      rw [filterMap_cons_none (immediateReport_of_isMissing hmiss), filter_cons_of_pos hmiss,
        filterMap_cons_some hown, map_cons]
      exact perm_middle.trans (ih.cons _)
    | false =>
      have hown : ownReport (gwIndex gwOpenOrders) details gwKey nowMs snap =
          immediateReport (gwIndex gwOpenOrders) gwKey nowMs snap := by simp [ownReport, hmiss]
      rw [filter_cons_of_neg (by simp [hmiss]), filterMap_cons, filterMap_cons, hown]
      cases immediateReport (gwIndex gwOpenOrders) gwKey nowMs snap with
      | none => exact ih
      | some r => exact ih.cons r

lemma mem_reconcileReports {nowMs : Int} {r : OrderReport} :
    r ∈ reconcileReports snaps gwOpenOrders details gwKey nowMs ↔
      ∃ snap ∈ snaps, ownReport (gwIndex gwOpenOrders) details gwKey nowMs snap = some r := by
  rw [(reconcileReports_perm nowMs).mem_iff, List.mem_filterMap]

lemma nodup_reconcileReports {nowMs : Int} (h : (snaps.map (·.orderId)).Nodup) :
    ((reconcileReports snaps gwOpenOrders details gwKey nowMs).map (·.orderId)).Nodup := by
  rw [((reconcileReports_perm nowMs).map _).nodup_iff]
  refine pairwise_map.mpr (pairwise_filterMap.mpr ((pairwise_map.mp h).imp ?_))
  intro snap snap' hne r hr r' hr'
  rwa [(ownReport_names hr).1, (ownReport_names hr').1]

/-! ## Snapshots and records -/

namespace OmsCoreV2

variable {snap : OmsOrderSnapshot}

/-- The order belongs to the gateway with this key. -/
def OfGateway (s : OmsCoreV2) (l : LiveOrder) (gwKey : String) : Prop :=
  ∃ g, s.metadata.gw l.gwId = some g ∧ s.metadata.strResolve g.gwKeySym = some gwKey

/-- The record that a snapshot was taken of. -/
structure SnapshotOf (s : OmsCoreV2) (snap : OmsOrderSnapshot) (l : LiveOrder) : Prop where
  live : s.orders.live.lookup snap.orderId = some l
  working : l.isInTerminalState = false
  orderStatus : snap.orderStatus = l.orderStatus
  filledQty : snap.filledQty = l.filledQty
  gateway : s.OfGateway l snap.gwKey

lemma snapshotOf_some {s : OmsCoreV2} {oid : Int} {l : LiveOrder}
    (hl : s.orders.live.lookup oid = some l) (h : s.snapshotOf oid l = some (some snap)) :
    snap.orderId = oid ∧ s.SnapshotOf snap l := by
  simp only [snapshotOf] at h
  split_ifs at h with hterm
  · cases h
  · split at h
    · cases h
    · rename_i g hg
      simp only [bind_eq_some] at h
      obtain ⟨gwKey, hkey, h⟩ := h
      split at h
      · cases h
      · simp only [bind_eq_some] at h
        obtain ⟨instrument, -, h⟩ := h
        cases h
        exact ⟨rfl, hl, by simpa using hterm, rfl, rfl, g, hg, hkey⟩

/-- The snapshots, in any order in which the map of orders can be gone through. -/
def Snapshots (s : OmsCoreV2) (snaps : List OmsOrderSnapshot) : Prop :=
  ∃ extracted, s.extractOpenOrderSnapshots = some extracted ∧ snaps.Perm extracted

lemma extracted_of_entries {s : OmsCoreV2} (es : List (Sigma fun _ : Int => LiveOrder))
    (hes : ∀ e ∈ es, s.orders.live.lookup e.1 = some e.2) {found : List (Option OmsOrderSnapshot)}
    (h : es.mapM (fun e => s.snapshotOf e.1 e.2) = some found) :
    (found.reduceOption.map (·.orderId)).Sublist (es.map Sigma.fst) ∧
      ∀ snap ∈ found.reduceOption, ∃ l, s.SnapshotOf snap l := by
  induction es generalizing found with
  | nil =>
    cases h
    exact ⟨List.Sublist.slnil, fun snap hsnap => by cases hsnap⟩
  | cons e es ih =>
    simp only [mapM_cons, bind_eq_some] at h
    obtain ⟨one, hone, rest, hrest, h⟩ := h
    cases h
    obtain ⟨hsub, hall⟩ := ih (forall_mem_cons.mp hes).2 hrest
    cases one with
    | none =>
      exact ⟨hsub.cons _, hall⟩
    | some snap =>
      obtain ⟨hid, hsnap⟩ := snapshotOf_some (hes e mem_cons_self) hone
      rw [reduceOption_cons_of_some, map_cons, map_cons, hid]
      refine ⟨hsub.cons_cons _, fun snap' hmem => ?_⟩
      rcases mem_cons.mp hmem with rfl | hmem
      · exact ⟨e.2, hsnap⟩
      · exact hall snap' hmem

variable {s : OmsCoreV2} {snaps : List OmsOrderSnapshot}

lemma Snapshots.record (h : s.Snapshots snaps) (hsnap : snap ∈ snaps) :
    ∃ l, s.SnapshotOf snap l := by
  obtain ⟨extracted, hext, hperm⟩ := h
  obtain ⟨found, hfound, rfl⟩ := map_eq_some_iff.mp hext
  exact (extracted_of_entries _ (fun e he => Dict.mem_entries_iff.mp he) hfound).2 snap
    (hperm.mem_iff.mp hsnap)

lemma Snapshots.nodup (h : s.Snapshots snaps) : (snaps.map (·.orderId)).Nodup := by
  obtain ⟨extracted, hext, hperm⟩ := h
  obtain ⟨found, hfound, rfl⟩ := map_eq_some_iff.mp hext
  rw [(hperm.map _).nodup_iff]
  exact List.Nodup.sublist
    (extracted_of_entries _ (fun e he => Dict.mem_entries_iff.mp he) hfound).1
    s.orders.live.nodupKeys

end OmsCoreV2

/-! ## What reconciling is for -/

/-- What an order has to come to. -/
inductive Goal where
  | rejected
  | cancelled
  | agrees (state : OrderStateReport)

/-- The order has come to it. -/
def Goal.Met : Goal → LiveOrder → Prop
  | .rejected, l => l.orderStatus = .rejected
  | .cancelled, l => l.orderStatus = .cancelled
  | .agrees state, l =>
    state.filledQty ≤ l.filledQty ∧
      (mapOrderStatus state.exchOrderStatus ≠ .unspecified →
        l.orderStatus = mapOrderStatus state.exchOrderStatus)

/-- The goal for an order, if the answers of the gateway set one: an order without a reference is
rejected, one of which the gateway knows nothing is cancelled, one that it lists with a state
agrees with it. -/
def goalOf (index : Dict String ExchOrder) (details : List ExchOrder) (snap : OmsOrderSnapshot) :
    Option Goal :=
  match snap.reference with
  | none => some .rejected
  | some exchRef =>
    match index.lookup exchRef with
    | none => if ∀ d ∈ details, d.orderRef ≠ exchRef then some .cancelled else none
    | some order => (extractGwOrderState order).map .agrees

/-- **Reconciling has converged**: every order of the gateway has met its goal, and no order of
another gateway has changed. -/
structure Converged (s t : OmsCoreV2) (snaps : List OmsOrderSnapshot)
    (gwOpenOrders details : List ExchOrder) (gwKey : String) : Prop where
  settled : ∀ snap ∈ snaps, snap.gwKey = gwKey →
    ∀ goal, goalOf (gwIndex gwOpenOrders) details snap = some goal →
      ∃ l, t.orders.live.lookup snap.orderId = some l ∧ goal.Met l
  others : ∀ id l, s.orders.live.lookup id = some l → ¬ s.OfGateway l gwKey →
    t.orders.live.lookup id = some l

/-! ## Without a gateway under the empty key -/

/-- There is nothing to do: every goal is to agree with a state that the order is in already. -/
def InAgreement (snaps : List OmsOrderSnapshot) (gwOpenOrders details : List ExchOrder)
    (gwKey : String) : Prop :=
  ∀ snap ∈ snaps, snap.gwKey = gwKey →
    ∀ goal, goalOf (gwIndex gwOpenOrders) details snap = some goal →
      ∃ state, goal = .agrees state ∧ state.filledQty ≤ snap.filledQty ∧
        (mapOrderStatus state.exchOrderStatus ≠ .unspecified →
          snap.orderStatus = mapOrderStatus state.exchOrderStatus)

namespace OmsCoreV2

variable {s : OmsCoreV2} {snaps : List OmsOrderSnapshot} {gwOpenOrders details : List ExchOrder}
  {gwKey : String} {nowMs : Int}

/-- **The reports are dropped**: reconciling leaves the core as it was. -/
theorem reconcile_dropped (h : s.metadata.gwIdOfKey "" = none) :
    s.reconcileGwOrders snaps gwOpenOrders details gwKey nowMs = some s := by
  have hdrop : ∀ r ∈ reconcileReports snaps gwOpenOrders details gwKey nowMs,
      s.reportStep r = some s := by
    intro r hr
    obtain ⟨snap, -, hown⟩ := mem_reconcileReports.mp hr
    simp [reportStep, step, processOrderReport, (ownReport_names hown).2.1, h]
  rw [reconcileGwOrders]
  generalize reconcileReports snaps gwOpenOrders details gwKey nowMs = rs at hdrop
  induction rs with
  | nil => rfl
  | cons r rs ih =>
    rw [run_cons, hdrop r mem_cons_self, bind_some]
    exact ih (forall_mem_cons.mp hdrop).2

lemma working_of_terminal {l : LiveOrder} {σ : OrderStatus} (hl : l.isInTerminalState = false)
    (hσ : σ.isTerminal = true) : l.orderStatus ≠ σ := by
  rintro rfl
  rw [LiveOrder.isInTerminalState, hσ] at hl
  cases hl

/-- The core as it was has converged only if there was nothing to do. -/
lemma converged_self_iff (hsnaps : s.Snapshots snaps) :
    Converged s s snaps gwOpenOrders details gwKey ↔
      InAgreement snaps gwOpenOrders details gwKey := by
  constructor
  · intro hconv snap hsnap hgw goal hgoal
    obtain ⟨l, hrec⟩ := hsnaps.record hsnap
    obtain ⟨l', hl', hmet⟩ := hconv.settled snap hsnap hgw goal hgoal
    obtain rfl : l = l' := mem_unique hrec.live hl'
    cases goal with
    | rejected | cancelled => exact absurd hmet (working_of_terminal hrec.working rfl)
    | agrees state =>
      refine ⟨state, rfl, ?_, ?_⟩
      · rw [hrec.filledQty]
        exact hmet.1
      · rw [hrec.orderStatus]
        exact hmet.2
  · intro hagree
    refine ⟨fun snap hsnap hgw goal hgoal => ?_, fun id l hl _ => hl⟩
    obtain ⟨l, hrec⟩ := hsnaps.record hsnap
    obtain ⟨state, rfl, hfill, hstatus⟩ := hagree snap hsnap hgw goal hgoal
    rw [hrec.filledQty] at hfill
    rw [hrec.orderStatus] at hstatus
    exact ⟨l, hrec.live, hfill, hstatus⟩

end OmsCoreV2

/-! ## With one -/

lemma reportEffect_state (l : LiveOrder) (orderId : Int) (exchRef : String) (accountId : Int)
    (state : OrderStateReport) (ts : Int) :
    (reportEffect l (makeSyntheticStateReport orderId exchRef accountId state ts)).status =
        statusAfter l.orderStatus state.exchOrderStatus ∧
      (reportEffect l (makeSyntheticStateReport orderId exchRef accountId state ts)).filledQty =
        filledAfter l.filledQty (state.announced l.qty) := by
  have hinfer : inferStateFromTrades [⟨.state, some (.orderStateReport state)⟩] l = none := by
    simp [inferStateFromTrades, hasStatePayload]
  simp [reportEffect, loopEntries, makeSyntheticStateReport, hinfer, entry, acted, start]

lemma reportEffect_reject (l : LiveOrder) (orderId accountId : Int) (reason : String) (ts : Int) :
    (reportEffect l (makeSyntheticRejectReport orderId accountId reason ts)).status =
      .rejected := by
  have hinfer : ∀ e, inferStateFromTrades [⟨.exec, some (.execReport e)⟩] l = none := by
    simp [inferStateFromTrades, hasStatePayload, tradePayloads]
  simp [reportEffect, loopEntries, makeSyntheticRejectReport, hinfer, entry, acted, omsExecType]

/-- A working order takes every status that the gateway can give. -/
lemma statusAfter_of_working {l : LiveOrder} (hl : l.isInTerminalState = false)
    {x : ExchangeOrderStatus} (hx : mapOrderStatus x ≠ .unspecified) :
    statusAfter l.orderStatus x = mapOrderStatus x := by
  have hupdate : canUpdateStatus l.orderStatus (mapOrderStatus x) = true := by
    have hc : l.orderStatus ≠ .cancelled := OmsCoreV2.working_of_terminal hl rfl
    have hf : l.orderStatus ≠ .filled := OmsCoreV2.working_of_terminal hl rfl
    simp [canUpdateStatus, hc, hf, hx]
  rw [statusAfter, if_pos hupdate]

lemma ownReport_of_goal {index : Dict String ExchOrder} (nowMs : Int) {snap : OmsOrderSnapshot}
    {goal : Goal} (hgw : snap.gwKey = gwKey) (h : goalOf index details snap = some goal) :
    (goal = .rejected ∧ ∃ reason, ownReport index details gwKey nowMs snap =
      some (makeSyntheticRejectReport snap.orderId snap.accountId reason nowMs)) ∨
    (goal = .cancelled ∧ ∃ exchRef, ownReport index details gwKey nowMs snap =
      some (makeSyntheticStateReport snap.orderId exchRef snap.accountId
        { exchOrderStatus := .cancelled, filledQty := snap.filledQty } nowMs)) ∨
    ∃ state, goal = .agrees state ∧ ∃ exchRef, ownReport index details gwKey nowMs snap =
      if diverged snap state then
        some (makeSyntheticStateReport snap.orderId exchRef snap.accountId state nowMs)
      else none := by
  simp only [goalOf] at h
  cases href : snap.reference with
  | none =>
    rw [href] at h
    cases h
    exact .inl ⟨rfl, _, by simp [ownReport, isMissing, immediateReport, hgw, href]; rfl⟩
  | some exchRef =>
    rw [href] at h
    simp only at h
    cases hindex : index.lookup exchRef with
    | none =>
      rw [hindex] at h
      split_ifs at h with hnone
      cases h
      have hdetail : detailState details (snap.exchOrderRef.getD "") = none := by
        have hkept : snap.exchOrderRef = some exchRef := (filter_eq_some_iff.mp href).1
        rw [hkept, getD_some, detailState, findSome?_eq_none_iff]
        exact fun d hd => if_neg (hnone d hd)
      refine .inr (.inl ⟨rfl, snap.exchOrderRef.getD "", ?_⟩)
      simp [ownReport, isMissing, hgw, href, hindex, resolveMissingOrder, hdetail]
    | some order =>
      rw [hindex] at h
      obtain ⟨state, hstate, rfl⟩ := map_eq_some_iff.mp h
      refine .inr (.inr ⟨state, rfl, exchRef, ?_⟩)
      cases hdiv : diverged snap state <;>
        simp [ownReport, isMissing, immediateReport, listedState, hgw, href, hindex, hstate,
          filter_some, hdiv]

namespace OmsCoreV2

variable {snap : OmsOrderSnapshot}

/-- Every report finds its order in the store when its turn comes. -/
def FoundInTurn (s : OmsCoreV2) (rs : List OrderReport) : Prop :=
  Guarded reportStep (fun s r => r.orderId ≠ 0 ∧ r.orderId ∈ s.orders.live) s rs

/-- No report pushes out the order `j`. -/
def Keeps (s : OmsCoreV2) (rs : List OrderReport) (j : Int) : Prop :=
  Guarded reportStep (fun s r => s.evicts (.report r) ≠ some j) s rs

/-- What a made-up report does to the orders. -/
structure InTurn (s s' : OmsCoreV2) (r : OrderReport) (l l' : LiveOrder) : Prop where
  before : s.orders.live.lookup r.orderId = some l
  after : s'.orders.live.lookup r.orderId =
    if s.evicts (.report r) = some r.orderId then none else some l'
  status : l'.orderStatus = (reportEffect l r).status
  filledQty : l'.filledQty = (reportEffect l r).filledQty
  others : ∀ j, j ≠ r.orderId → s'.orders.live.lookup j =
    if s.evicts (.report r) = some j then none else s.orders.live.lookup j
  metadata : s'.metadata = s.metadata

lemma report_inTurn {s s' : OmsCoreV2} {r : OrderReport} {g : ℕ} (hk : SameKeys s.orders)
    (hg : s.metadata.gwIdOfKey r.exchange = some g) (h0 : r.orderId ≠ 0)
    (hlive : r.orderId ∈ s.orders.live) (h : s.reportStep r = some s') :
    ∃ l l', InTurn s s' r l l' := by
  have htarget : s.reportTarget r = some (g, r.orderId) := by
    simp [reportTarget, hg, OrderStoreV2.resolveOrderId, h0, hlive]
  obtain ⟨l, hl⟩ := Dict.mem_iff_lookup.mp hlive
  obtain ⟨d, hd⟩ := hk.detail hl
  obtain ⟨os, l', d', spec⟩ := reportSpec_of_target htarget hl hd h
  have hev := spec.same.evicted r.orderId
  have hlookup : ∀ j, s'.orders.live.lookup j =
      if s.evicts (.report r) = some j then none else os.live.lookup j := by
    rw [spec.orders]
    cases hc : closes l r with
    | true => simp [OrderStoreV2.markClosed_live, evicts, closing, htarget, hl, hc, hev]
    | false => simp [evicts, closing, htarget, hl, hc]
  refine ⟨l, l', hl, ?_, spec.follows.status, spec.follows.filledQty, fun j hj => ?_, ?_⟩
  · rw [hlookup, spec.live]
  · rw [hlookup, spec.same.live j hj]
  · rw [spec.rest]

/-! ### A whole run of reports -/

section Run

variable {g : ℕ} {j : Int} {rs : List OrderReport} {r : OrderReport}

/-- What every report of the run finds. -/
structure Ready (g : ℕ) (s : OmsCoreV2) (rs : List OrderReport) : Prop where
  keys : SameKeys s.orders
  gateway : s.metadata.gwIdOfKey "" = some g
  unnamed : ∀ r ∈ rs, r.exchange = ""
  nodup : (rs.map (·.orderId)).Nodup
  found : s.FoundInTurn rs

lemma Ready.inTurn {s t : OmsCoreV2} (h : Ready g s (r :: rs))
    (hr : run reportStep s (r :: rs) = some t) : ∃ s' l l', s.reportStep r = some s' ∧
      InTurn s s' r l l' ∧ Ready g s' rs ∧ run reportStep s' rs = some t := by
  obtain ⟨s', hstep, hr⟩ := run_cons_eq_some.mp hr
  have hunnamed := h.unnamed r mem_cons_self
  have hfound : (r.orderId ≠ 0 ∧ r.orderId ∈ s.orders.live) ∧ s'.FoundInTurn rs :=
    ⟨h.found.1, h.found.2 s' hstep⟩
  obtain ⟨l, l', hturn⟩ := report_inTurn h.keys (by rw [hunnamed]; exact h.gateway) hfound.1.1
    hfound.1.2 hstep
  refine ⟨s', l, l', hstep, hturn, ⟨sameKeys_step h.keys hstep, ?_,
    (forall_mem_cons.mp h.unnamed).2, (nodup_cons.mp h.nodup).2, hfound.2⟩, hr⟩
  rw [hturn.metadata]
  exact h.gateway

/-- An order that is gone stays gone: no report creates one. -/
lemma gone_of_reports {s t : OmsCoreV2} (h : Ready g s rs) (hr : run reportStep s rs = some t)
    (hj : s.orders.live.lookup j = none) : t.orders.live.lookup j = none := by
  induction rs generalizing s with
  | nil =>
    cases hr
    exact hj
  | cons r rs ih =>
    obtain ⟨s', l, l', hstep, hturn, hready, hr⟩ := h.inTurn hr
    refine ih hready hr ?_
    have hne : j ≠ r.orderId := by
      rintro rfl
      rw [hturn.before] at hj
      cases hj
    rw [hturn.others j hne, hj, ite_self]

/-- An order that some report pushes out is gone at the end. -/
lemma gone_of_not_keeps {s t : OmsCoreV2} (h : Ready g s rs) (hr : run reportStep s rs = some t)
    (hj : ¬ s.Keeps rs j) : t.orders.live.lookup j = none := by
  induction rs generalizing s with
  | nil => exact absurd trivial hj
  | cons r rs ih =>
    obtain ⟨s', l, l', hstep, hturn, hready, hr⟩ := h.inTurn hr
    by_cases he : s.evicts (.report r) = some j
    · refine gone_of_reports hready hr ?_
      by_cases hne : j = r.orderId
      · subst hne
        rw [hturn.after, if_pos he]
      · rw [hturn.others j hne, if_pos he]
    · refine ih hready hr fun hkeeps => hj ⟨he, fun s'' hs'' => ?_⟩
      rw [hstep, some.injEq] at hs''
      rw [← hs'']
      exact hkeeps

/-- An order that no report names and none pushes out is as it was. -/
lemma lookup_of_unnamed {s t : OmsCoreV2} (h : Ready g s rs) (hr : run reportStep s rs = some t)
    (hkeeps : s.Keeps rs j) (hj : ∀ r ∈ rs, r.orderId ≠ j) :
    t.orders.live.lookup j = s.orders.live.lookup j := by
  induction rs generalizing s with
  | nil =>
    cases hr
    rfl
  | cons r rs ih =>
    obtain ⟨s', l, l', hstep, hturn, hready, hr⟩ := h.inTurn hr
    rw [ih hready hr (hkeeps.2 s' hstep) (forall_mem_cons.mp hj).2,
      hturn.others j (hj r mem_cons_self).symm, if_neg hkeeps.1]

/-- An order that a report names, and none pushes out, is in the state the report brings it to. -/
lemma lookup_of_named {s t : OmsCoreV2} {l : LiveOrder} (h : Ready g s rs)
    (hr : run reportStep s rs = some t) (hkeeps : s.Keeps rs r.orderId) (hmem : r ∈ rs)
    (hl : s.orders.live.lookup r.orderId = some l) :
    ∃ l', t.orders.live.lookup r.orderId = some l' ∧ l'.orderStatus = (reportEffect l r).status ∧
      l'.filledQty = (reportEffect l r).filledQty := by
  induction rs generalizing s with
  | nil => cases hmem
  | cons r₀ rs ih =>
    obtain ⟨s', m, m', hstep, hturn, hready, hrest⟩ := h.inTurn hr
    have hfirst : ∀ r' ∈ rs, r'.orderId ≠ r₀.orderId := by
      intro r' hr' heq
      exact (nodup_cons.mp h.nodup).1 (mem_map.mpr ⟨r', hr', heq⟩)
    have hlater := hkeeps.2 s' hstep
    rcases mem_cons.mp hmem with rfl | hmem
    · -- its own turn, and no later report names it
      obtain rfl : l = m := mem_unique hl hturn.before
      refine ⟨m', ?_, hturn.status, hturn.filledQty⟩
      rw [lookup_of_unnamed hready hrest hlater hfirst, hturn.after, if_neg hkeeps.1]
    · refine ih hready hrest hlater hmem ?_
      rw [hturn.others _ (hfirst r hmem), if_neg hkeeps.1, hl]

end Run

/-! ### The reports of one gateway -/

variable {s t : OmsCoreV2} {nowMs : Int} {g : ℕ} {rs : List OrderReport}

/-- The order has a goal, or belongs to another gateway. -/
def Guards (s : OmsCoreV2) (snaps : List OmsOrderSnapshot) (gwOpenOrders details : List ExchOrder)
    (gwKey : String) (j : Int) : Prop :=
  (∃ snap ∈ snaps, snap.gwKey = gwKey ∧
      (goalOf (gwIndex gwOpenOrders) details snap).isSome ∧ snap.orderId = j) ∨
    ∃ l, s.orders.live.lookup j = some l ∧ ¬ s.OfGateway l gwKey

/-- The fill that the gateway gives is one the order comes to: what the state announces if a
report is made of it, and what the order has if none is. -/
def FillReached (s : OmsCoreV2) (snaps : List OmsOrderSnapshot)
    (gwOpenOrders details : List ExchOrder) (gwKey : String) : Prop :=
  ∀ snap ∈ snaps, snap.gwKey = gwKey →
    ∀ state, goalOf (gwIndex gwOpenOrders) details snap = some (.agrees state) →
      ∀ l, s.orders.live.lookup snap.orderId = some l →
        state.filledQty ≤
          if diverged snap state then filledAfter l.filledQty (state.announced l.qty)
          else l.filledQty

section

variable (hsnaps : s.Snapshots snaps) {l : LiveOrder}
  (hrs : reconcileReports snaps gwOpenOrders details gwKey nowMs = rs)

include hsnaps hrs

lemma Snapshots.ready (hk : SameKeys s.orders) (hg : s.metadata.gwIdOfKey "" = some g)
    (hfound : s.FoundInTurn rs) : Ready g s rs where
  keys := hk
  gateway := hg
  unnamed r hr := by
    obtain ⟨snap, -, hown⟩ := mem_reconcileReports.mp (hrs ▸ hr)
    exact (ownReport_names hown).2.1
  nodup := hrs ▸ nodup_reconcileReports hsnaps.nodup
  found := hfound

/-- No report names an order that has none of its own. -/
lemma Snapshots.unnamed (hsnap : snap ∈ snaps)
    (hown : ownReport (gwIndex gwOpenOrders) details gwKey nowMs snap = none) :
    ∀ r ∈ rs, r.orderId ≠ snap.orderId := by
  intro r hr heq
  obtain ⟨snap', hsnap', hown'⟩ := mem_reconcileReports.mp (hrs ▸ hr)
  obtain rfl : snap' = snap := by
    refine inj_on_of_nodup_map hsnaps.nodup hsnap' hsnap ?_
    rw [← (ownReport_names hown').1]
    exact heq
  rw [hown] at hown'
  cases hown'

/-- No report names an order of another gateway. -/
lemma Snapshots.unnamed_other {id : Int} (hl : s.orders.live.lookup id = some l)
    (hgw : ¬ s.OfGateway l gwKey) :
    ∀ r ∈ rs, r.orderId ≠ id := by
  rintro r hr rfl
  obtain ⟨snap, hsnap, hown⟩ := mem_reconcileReports.mp (hrs ▸ hr)
  obtain ⟨horder, -, hkey⟩ := ownReport_names hown
  obtain ⟨l', hrec⟩ := hsnaps.record hsnap
  rw [horder, hrec.live] at hl
  cases hl
  exact hgw (hkey ▸ hrec.gateway)

variable (hready : Ready g s rs) (hr : run reportStep s rs = some t)

include hready hr

/-- The order of a snapshot after the run: where its own report brings it, or as it was. -/
lemma Snapshots.after (hsnap : snap ∈ snaps) (hl : s.orders.live.lookup snap.orderId = some l)
    (hkeeps : s.Keeps rs snap.orderId) :
    match ownReport (gwIndex gwOpenOrders) details gwKey nowMs snap with
    | none => t.orders.live.lookup snap.orderId = some l
    | some r => ∃ l', t.orders.live.lookup snap.orderId = some l' ∧
        l'.orderStatus = (reportEffect l r).status ∧
          l'.filledQty = (reportEffect l r).filledQty := by
  cases hown : ownReport (gwIndex gwOpenOrders) details gwKey nowMs snap with
  | none =>
    show t.orders.live.lookup snap.orderId = some l
    rw [lookup_of_unnamed hready hr hkeeps (hsnaps.unnamed hrs hsnap hown), hl]
  | some r =>
    have hname := (ownReport_names hown).1
    rw [← hname] at hl hkeeps ⊢
    exact lookup_of_named hready hr hkeeps (hrs ▸ mem_reconcileReports.mpr ⟨snap, hsnap, hown⟩) hl

/-- An order that is not pushed out meets its goal exactly if it comes to the fill. -/
lemma Snapshots.met_iff (hsnap : snap ∈ snaps) (hgw : snap.gwKey = gwKey) {goal : Goal}
    (hgoal : goalOf (gwIndex gwOpenOrders) details snap = some goal) (hrec : s.SnapshotOf snap l)
    (hkeeps : s.Keeps rs snap.orderId) :
    (∃ l', t.orders.live.lookup snap.orderId = some l' ∧ goal.Met l') ↔
      ∀ state, goal = .agrees state →
        state.filledQty ≤
          if diverged snap state then filledAfter l.filledQty (state.announced l.qty)
          else l.filledQty := by
  have hafter := hsnaps.after hrs hready hr hsnap hrec.live hkeeps
  rcases ownReport_of_goal nowMs hgw hgoal with
    ⟨rfl, reason, hown⟩ | ⟨rfl, exchRef, hown⟩ | ⟨state, rfl, exchRef, hown⟩
  · rw [hown] at hafter
    obtain ⟨l', hl', hstatus, -⟩ := hafter
    rw [reportEffect_reject] at hstatus
    refine ⟨fun _ state h => ?_, fun _ => ⟨l', hl', hstatus⟩⟩
    cases h
  · rw [hown] at hafter
    obtain ⟨l', hl', hstatus, -⟩ := hafter
    rw [(reportEffect_state ..).1] at hstatus
    have hcancelled : statusAfter l.orderStatus .cancelled = .cancelled :=
      statusAfter_of_working hrec.working (by decide)
    refine ⟨fun _ state h => ?_, fun _ => ⟨l', hl', hstatus.trans hcancelled⟩⟩
    cases h
  · obtain ⟨l', hl', hfilled, hstatus⟩ : ∃ l', t.orders.live.lookup snap.orderId = some l' ∧
        l'.filledQty = (if diverged snap state then filledAfter l.filledQty (state.announced l.qty)
          else l.filledQty) ∧
        (mapOrderStatus state.exchOrderStatus ≠ .unspecified →
          l'.orderStatus = mapOrderStatus state.exchOrderStatus) := by
      rw [hown] at hafter
      split_ifs at hafter ⊢ with hdiv
      · obtain ⟨l', hl', hstatus, hfilled⟩ := hafter
        rw [(reportEffect_state ..).1] at hstatus
        rw [(reportEffect_state ..).2] at hfilled
        exact ⟨l', hl', hfilled, fun hx => hstatus.trans (statusAfter_of_working hrec.working hx)⟩
      · -- no report was made because the statuses agree already
        have hsame : snap.orderStatus = mapOrderStatus state.exchOrderStatus := by
          by_contra hne
          exact hdiv (by simp [diverged, Ne.symm hne])
        exact ⟨l, hafter, rfl, fun _ => hrec.orderStatus.symm.trans hsame⟩
    constructor
    · rintro ⟨l'', hl'', hmet⟩ state' heq
      cases heq
      obtain rfl : l' = l'' := mem_unique hl' hl''
      rw [← hfilled]
      exact hmet.1
    · intro hfill
      refine ⟨l', hl', ?_, hstatus⟩
      rw [hfilled]
      exact hfill state rfl

/-- What a whole run comes to when every report finds its order. -/
lemma converged_iff :
    Converged s t snaps gwOpenOrders details gwKey ↔
      (∀ j, s.Guards snaps gwOpenOrders details gwKey j →
        s.Keeps rs j) ∧
      s.FillReached snaps gwOpenOrders details gwKey := by
  -- an order that is there at the end was never pushed out
  have hkept : ∀ {j l}, t.orders.live.lookup j = some l →
      s.Keeps rs j := by
    intro j l hl
    by_contra hnot
    rw [gone_of_not_keeps hready hr hnot] at hl
    cases hl
  constructor
  · intro hconv
    refine ⟨?_, ?_⟩
    · rintro j (⟨snap, hsnap, hgw, hgoal, rfl⟩ | ⟨l, hl, hgw⟩)
      · obtain ⟨goal, hgoal⟩ := isSome_iff_exists.mp hgoal
        obtain ⟨l, hl, -⟩ := hconv.settled snap hsnap hgw goal hgoal
        exact hkept hl
      · exact hkept (hconv.others j l hl hgw)
    · intro snap hsnap hgw state hgoal l hl
      obtain ⟨l₀, hrec⟩ := hsnaps.record hsnap
      obtain rfl : l₀ = l := mem_unique hrec.live hl
      obtain ⟨l', hl', hmet⟩ := hconv.settled snap hsnap hgw _ hgoal
      exact (hsnaps.met_iff hrs hready hr hsnap hgw hgoal hrec (hkept hl')).mp ⟨l', hl', hmet⟩ state rfl
  · rintro ⟨hkeeps, hfill⟩
    refine ⟨?_, ?_⟩
    · intro snap hsnap hgw goal hgoal
      obtain ⟨l, hrec⟩ := hsnaps.record hsnap
      have hk := hkeeps snap.orderId (.inl ⟨snap, hsnap, hgw, by rw [hgoal]; rfl, rfl⟩)
      refine (hsnaps.met_iff hrs hready hr hsnap hgw hgoal hrec hk).mpr ?_
      rintro state rfl
      exact hfill snap hsnap hgw state hgoal l hrec.live
    · intro id l hl hgw
      rw [lookup_of_unnamed hready hr (hkeeps id (.inr ⟨l, hl, hgw⟩))
        (hsnaps.unnamed_other hrs hl hgw), hl]

end

/-- Reconciling a legible core does not panic. -/
lemma Legible.reconciles (h : s.Legible) :
    ∃ t, s.reconcileGwOrders snaps gwOpenOrders details gwKey nowMs = some t := by
  have hstep : ∀ s : OmsCoreV2,
      ∀ r ∈ reconcileReports snaps gwOpenOrders details gwKey nowMs, s.Legible →
        ∃ s', s.reportStep r = some s' ∧ s'.Legible := by
    intro s r _ hs
    have hmsg : (Op.report r).isReload = false := rfl
    obtain ⟨⟨s', actions⟩, hperform⟩ := perform_total hs hmsg
    exact ⟨s', step_of_perform hperform, hs.step rfl (step_of_perform hperform)⟩
  obtain ⟨t, ht, -⟩ := run_total hstep h
  exact ⟨t, ht⟩

/-- **When reconciling converges.**  If no gateway is registered under the empty key, the reports
are dropped, and the gateway and the orders must have agreed before.  If one is, and the reports
find their orders, then no order with a goal or of another gateway may be pushed out, and the
gateway's fills must be reached. -/
theorem reconcile_converges_iff (s : OmsCoreV2) (snaps : List OmsOrderSnapshot)
    (hsnaps : s.Snapshots snaps) (gwOpenOrders details : List ExchOrder) (gwKey : String)
    (nowMs : Int) :
    (s.metadata.gwIdOfKey "" = none →
      ((∃ t, s.reconcileGwOrders snaps gwOpenOrders details gwKey nowMs = some t ∧
          Converged s t snaps gwOpenOrders details gwKey) ↔
        InAgreement snaps gwOpenOrders details gwKey)) ∧
    ∀ g, s.metadata.gwIdOfKey "" = some g → s.Legible →
      s.FoundInTurn (reconcileReports snaps gwOpenOrders details gwKey nowMs) →
      ((∃ t, s.reconcileGwOrders snaps gwOpenOrders details gwKey nowMs = some t ∧
          Converged s t snaps gwOpenOrders details gwKey) ↔
        (∀ j, s.Guards snaps gwOpenOrders details gwKey j →
          s.Keeps (reconcileReports snaps gwOpenOrders details gwKey nowMs) j) ∧
        s.FillReached snaps gwOpenOrders details gwKey) := by
  refine ⟨fun hnone => ?_, fun g hg hs hfound => ?_⟩
  · rw [← converged_self_iff hsnaps]
    constructor
    · rintro ⟨t, ht, hconv⟩
      rw [reconcile_dropped hnone] at ht
      cases ht
      exact hconv
    · exact fun hconv => ⟨s, reconcile_dropped hnone, hconv⟩
  · have hready := hsnaps.ready rfl hs.keys hg hfound
    obtain ⟨t, ht⟩ : ∃ t, s.reconcileGwOrders snaps gwOpenOrders details gwKey nowMs = some t :=
      hs.reconciles
    rw [← converged_iff hsnaps rfl hready ht]
    constructor
    · rintro ⟨t', ht', hconv⟩
      obtain rfl := mem_unique ht ht'
      exact hconv
    · exact fun hconv => ⟨t, ht, hconv⟩

end OmsCoreV2

open Sample

/-- Order 10 once it is linked to the reference `a`. -/
def Sample.linkedOrder : OmsOrderSnapshot :=
  { orderId := 10, accountId := 1, gwKey := "gw", exchOrderRef := some "a", instrument := "P"
    orderStatus := .booked, filledQty := 0 }

/-- An order that is booked here and at the gateway. -/
theorem OmsCoreV2.reconcile_converges_booked :
    ∃ s snaps, run handle (setup false false 4).start
        [place 10 .buy 1, .message 0 (.gatewayOrderReport linkReport)] = some s ∧
      s.Snapshots snaps ∧ (∃ snap ∈ snaps, snap.gwKey = "gw") ∧
      ∃ t, s.reconcileGwOrders snaps [⟨"a", some bookedReport⟩] [] "gw" 1 = some t ∧
        Converged s t snaps [⟨"a", some bookedReport⟩] [] "gw" := by
  obtain ⟨s, hs, hextract, hnone⟩ : ∃ s ∈ run handle (setup false false 4).start
        [place 10 .buy 1, .message 0 (.gatewayOrderReport linkReport)],
      s.extractOpenOrderSnapshots = some [linkedOrder] ∧ s.metadata.gwIdOfKey "" = none := by
    decide +kernel
  have hsnaps : s.Snapshots _ := ⟨_, hextract, .refl _⟩
  refine ⟨s, _, hs, hsnaps, ⟨_, mem_cons_self, rfl⟩, ?_⟩
  refine ((reconcile_converges_iff s _ hsnaps _ _ "gw" 1).1 hnone).mpr ?_
  intro snap hsnap _ goal hgoal
  obtain rfl := mem_singleton.mp hsnap
  have hagrees : goalOf (gwIndex [⟨"a", some bookedReport⟩]) [] linkedOrder =
      some (.agrees { exchOrderStatus := .booked, filledQty := 0 }) := rfl
  obtain rfl := mem_unique hagrees hgoal
  exact ⟨_, rfl, le_refl _, fun _ => rfl⟩

/-- An order that never reached the exchange.  Its rejection is made, names no exchange, and is
dropped: the order stays pending. -/
theorem OmsCoreV2.rejection_dropped :
    ∃ s ∈ run handle (setup false false 4).start [place 10 .buy 1],
      ∃ snaps ∈ s.extractOpenOrderSnapshots,
        (snaps.map fun snap => (snap.orderId, snap.gwKey, snap.reference)) = [(10, "gw", none)] ∧
        (reconcileReports snaps [] [] "gw" 1).map (·.orderId) = [10] ∧
        ∃ t ∈ s.reconcileGwOrders snaps [] [] "gw" 1,
          (t.orders.live.lookup 10).map (·.orderStatus) = some .pending := by
  decide +kernel

end Zkbot
