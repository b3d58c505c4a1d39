import Zkbot.Oms.StoreFacts
import Zkbot.Oms.TableFacts

/-!
# What placing, cancelling and failing to send can do

The interface of the handlers of `Placement`.  A request is dropped, recorded as rejected, or
recorded as sent (`processOrder_cases`); a sent order has booked cash, inventory or nothing
(`Booking`).  A cancel leaves every order as it was but for its history (`Quiet`), and a failed send
rejects a working order (`processGatewaySendFailed_cases`).
-/

namespace Zkbot

open Option AList Dict LiveOrder OrderStoreV2

open OrderStoreV2 (SameBut)

/-! ## Quiet changes -/

/-- A live record without its count of cancel attempts. -/
def LiveOrder.core (l : LiveOrder) : LiveOrder := { l with cancelAttempts := 0 }

namespace OrderStoreV2

variable {os os' : OrderStoreV2} {j : Int}

/-- The stores agree on everything except cancel attempts, cancel requests, execution messages and
fees. -/
structure Quiet (os os' : OrderStoreV2) : Prop where
  live : ∀ j, (os'.live.lookup j).map core = (os.live.lookup j).map core
  detail : ∀ j, (os'.detail.lookup j).map (fun d => (d.trades, d.inferredTrades)) =
    (os.detail.lookup j).map fun d => (d.trades, d.inferredTrades)
  openOrderIds : os'.openOrderIds = os.openOrderIds
  openByAccount : os'.openByAccount = os.openByAccount
  orderIdByExchRef : os'.orderIdByExchRef = os.orderIdByExchRef
  externalOrderIds : os'.externalOrderIds = os.externalOrderIds
  closedLru : os'.closedLru = os.closedLru
  maxCachedOrders : os'.maxCachedOrders = os.maxCachedOrders
  /-- the table of reference strings may have grown -/
  dynStrings : ∀ r i, os.dynStrings.lookup r = some i → os'.dynStrings.lookup r = some i
  idCounter : os'.idCounter = os.idCounter

lemma Quiet.refl (os : OrderStoreV2) : Quiet os os := by
  constructor <;> intros <;> first | rfl | assumption

lemma Quiet.live_some (h : Quiet os os') {l' : LiveOrder} (hl : os'.live.lookup j = some l') :
    ∃ l, os.live.lookup j = some l ∧ l'.core = l.core := by
  have hj := h.live j
  rw [hl, map_some, eq_comm, map_eq_some_iff] at hj
  obtain ⟨l, hl₀, hcore⟩ := hj
  exact ⟨l, hl₀, hcore.symm⟩

lemma Quiet.live_some' (h : Quiet os os') {l : LiveOrder} (hl : os.live.lookup j = some l) :
    ∃ l', os'.live.lookup j = some l' ∧ l'.core = l.core := by
  have hj := h.live j
  rw [hl, map_some, map_eq_some_iff] at hj
  exact hj

lemma Quiet.live_none (h : Quiet os os') : os'.live.lookup j = none ↔ os.live.lookup j = none := by
  rw [← map_eq_none_iff, h.live j, map_eq_none_iff]

/-- Enter a new order in both record maps and in the index of open orders. -/
def enter (os : OrderStoreV2) (id : Int) (l : LiveOrder) (d : OrderDetailLog) : OrderStoreV2 :=
  { os with
    live := os.live.insert id l
    detail := os.detail.insert id d
    openOrderIds := insert id os.openOrderIds
    openByAccount := addOpenByAccount os.openByAccount l.accountId id }

@[simp] lemma enter_live_self (os : OrderStoreV2) (id : Int) (l : LiveOrder) (d : OrderDetailLog) :
    (os.enter id l d).live.lookup id = some l := lookup_insert _

lemma enter_live_ne {id : Int} (hj : j ≠ id) (l : LiveOrder) (d : OrderDetailLog) :
    (os.enter id l d).live.lookup j = os.live.lookup j :=
  lookup_insert_ne hj

end OrderStoreV2

section Core

variable {l l' : LiveOrder} (h : l'.core = l.core)
include h

lemma LiveOrder.terms_of_core : l'.terms = l.terms :=
  (congrArg terms h :)

lemma LiveOrder.status_of_core : l'.orderStatus = l.orderStatus :=
  (congrArg orderStatus h :)

lemma LiveOrder.isInTerminalState_of_core : l'.isInTerminalState = l.isInTerminalState :=
  (congrArg isInTerminalState h :)

lemma LiveOrder.filledQty_of_core : l'.filledQty = l.filledQty :=
  (congrArg filledQty h :)

lemma LiveOrder.terminalAt_of_core : l'.terminalAt = l.terminalAt :=
  (congrArg terminalAt h :)

lemma LiveOrder.exchOrderRefId_of_core : l'.exchOrderRefId = l.exchOrderRefId :=
  (congrArg exchOrderRefId h :)

end Core

namespace OmsCoreV2

variable {s s' : OmsCoreV2} {req : OrderRequest} {om : ResolvedOrderMeta} {now : Int} {msg : String}
  {actions : List OmsActionV2} {flags : OrderAccountingFlags} {id : Int}

/-! ## Placing -/

/-- A request that `process_order` looks at: it is valid and its account is not in panic mode. -/
def admits (s : OmsCoreV2) (req : OrderRequest) : Prop :=
  validateOrderRequest req = .ok () ∧ req.accountId ∉ s.panicAccounts
deriving Decidable

/-- An order that books cash when it is placed. -/
def booksCash (req : OrderRequest) (orderMeta : ResolvedOrderMeta) (fundId : ℕ) : Prop :=
  orderMeta.bookkeepingBalance = true ∧ orderMeta.useMargin = false ∧ req.buySellType = .buy ∧
    orderMeta.fundAssetId = some fundId ∧ orderMeta.balanceCheck = true

/-- An order that freezes inventory when it is placed. -/
def booksInventory (req : OrderRequest) (orderMeta : ResolvedOrderMeta) (posId : ℕ) : Prop :=
  orderMeta.bookkeepingBalance = true ∧ orderMeta.useMargin = false ∧ req.buySellType ≠ .buy ∧
    orderMeta.posInstrumentId = some posId

/-- What an order that passed the pre-trade check has booked. -/
inductive Booking (s : OmsCoreV2) (req : OrderRequest) (orderMeta : ResolvedOrderMeta) :
    PositionStoreV2 → ReservationStoreV2 → Prop where
  | nothing (hcash : ∀ f, ¬ booksCash req orderMeta f)
      (hinv : ∀ k, ¬ booksInventory req orderMeta k) :
      Booking s req orderMeta s.positions s.reservations
  | cash (f : ℕ) (h : booksCash req orderMeta f) :
      Booking s req orderMeta s.positions
        (s.reservations.tryReserve req.orderId req.accountId .cashAsset f (req.qty * req.price))
  | inventory (k : ℕ) (h : booksInventory req orderMeta k) (ps : PositionStoreV2)
      (hps : s.positions.checkAndFreeze req.accountId k req.qty false = .ok ps) :
      Booking s req orderMeta ps
        (s.reservations.tryReserve req.orderId req.accountId .inventoryInstrument k req.qty)

lemma preTrade_ok (h : s.preTrade req om = .ok s') :
    Booking s req om s'.positions s'.reservations ∧
      s' = { s with positions := s'.positions, reservations := s'.reservations } := by
  simp only [preTrade] at h
  by_cases hbk : (om.bookkeepingBalance && !om.useMargin) = true
  · rw [if_pos hbk] at h
    simp only [Bool.and_eq_true, Bool.not_eq_true'] at hbk
    by_cases hbuy : req.buySellType = .buy
    · -- a buy: cash is booked if there is a fund asset and the check is on
      rw [if_pos hbuy] at h
      have hinv : ∀ k, ¬ booksInventory req om k := fun k hk => hk.2.2.1 hbuy
      cases hf : om.fundAssetId with
      | none =>
        rw [hf] at h
        cases h
        refine ⟨.nothing (fun f hc => ?_) hinv, rfl⟩
        have := hc.2.2.2.1
        rw [hf] at this
        cases this
      | some f =>
        rw [hf] at h
        by_cases hbc : om.balanceCheck = true
        · simp only [if_pos hbc] at h
          split at h
          · cases h
          · cases h
            exact ⟨.cash f ⟨hbk.1, hbk.2, hbuy, hf, hbc⟩, rfl⟩
        · simp only [if_neg hbc] at h
          cases h
          exact ⟨.nothing (fun f hc => hbc hc.2.2.2.2) hinv, rfl⟩
    · -- a sell: inventory is booked if there is a position key
      rw [if_neg hbuy] at h
      have hcash : ∀ f, ¬ booksCash req om f := fun f hc => hbuy hc.2.2.1
      cases hp : om.posInstrumentId with
      | none =>
        rw [hp] at h
        cases h
        refine ⟨.nothing hcash (fun k hk => ?_), rfl⟩
        have := hk.2.2.2
        rw [hp] at this
        cases this
      | some k =>
        rw [hp] at h
        simp only at h
        split at h
        · cases h
        · rename_i ps hps
          cases h
          exact ⟨.inventory k ⟨hbk.1, hbk.2, hbuy, hp⟩ ps hps, rfl⟩
  · rw [if_neg hbk] at h
    cases h
    simp only [Bool.and_eq_true, Bool.not_eq_true', not_and] at hbk
    exact ⟨.nothing (fun f hc => hbk hc.1 hc.2.1) (fun k hk => hbk hk.1 hk.2.1), rfl⟩

/-- Why a request is recorded as rejected. -/
structure Refusal where
  orderMeta : ResolvedOrderMeta
  flags : OrderAccountingFlags
  errorMsg : String
  reason : RejectionReason

/-- The checks of `process_order`, in its order: resolving the request, the risk check, the
pre-trade check. -/
def refusalOf (s : OmsCoreV2) (req : OrderRequest) : Option Refusal :=
  match s.resolveOrderMeta req with
  | .error errors =>
    some ⟨stubMeta req.accountId, {}, String.intercalate "; " errors, .omsInternalError⟩
  | .ok resolved =>
    let orderMeta := s.withSource req resolved
    match (s.internSource req).riskCheck req orderMeta with
    | .error e => some ⟨orderMeta, {}, e, .omsInvalidState⟩
    | .ok _ =>
      match (s.internSource req).preTrade req orderMeta with
      | .error e => some ⟨orderMeta, accountingFlags req orderMeta, e, .omsInvalidState⟩
      | .ok _ => none

/-- A request that `process_order` records as rejected. -/
def refuses (s : OmsCoreV2) (req : OrderRequest) : Bool := (s.refusalOf req).isSome

/-- The route and the instrument that a request is resolved to, and what is taken from them. -/
structure ResolvedBy (s : OmsCoreV2) (req : OrderRequest) (om : ResolvedOrderMeta)
    (rt : RouteMeta) (inst : InstrumentMeta) : Prop where
  route : s.metadata.route req.accountId = some rt
  instrument : s.metadata.resolveInstrument req.instrumentCode = some inst
  gwId : om.gwId = rt.gwId
  exchAccountSym : om.exchAccountSym = rt.exchAccountSym
  instrumentId : om.instrumentId = inst.instrumentId
  instrumentExchSym : om.instrumentExchSym = inst.instrumentExchSym
  sourceSym : om.sourceSym = 0
  qtyPrecision : om.qtyPrecision = inst.qtyPrecision
  maxOrderSize : om.maxOrderSize =
    ((s.metadata.trading inst.instrumentId).getD defaultTradingMeta).maxOrderSize

lemma resolveOrderMeta_ok (h : s.resolveOrderMeta req = .ok om) :
    ∃ rt inst, s.ResolvedBy req om rt inst := by
  simp only [resolveOrderMeta] at h
  split at h
  · cases h
  · rename_i route hroute
    split at h
    · cases h
    · rename_i inst hinst
      cases h
      exact ⟨route, inst, hroute, hinst, rfl, rfl, rfl, rfl, rfl, rfl, rfl⟩

/-- What is known of an order at the moment it is recorded. -/
structure Fresh (req : OrderRequest) (l : LiveOrder) : Prop where
  orderId : l.orderId = req.orderId
  accountId : l.accountId = req.accountId
  buySellType : l.buySellType = req.buySellType
  filledQty : l.filledQty = 0
  accQty : l.accTradesFilledQty = 0
  exchOrderRefId : l.exchOrderRefId = none
  isExternal : l.isExternal = false

/-- The live record of a refused request, created at `created` and refused at `ts`. -/
def refusedLive (req : OrderRequest) (f : Refusal) (created ts : Int) : LiveOrder :=
  { newLive req.orderId req f.orderMeta f.flags created with
    snapshotVersion := 2, orderStatus := .rejected, updatedAt := ts, errorMsg := f.errorMsg,
    terminalAt := some ts }

/-- The history of a refused request. -/
def refusedDetail (req : OrderRequest) (f : Refusal) (ts : Int) : OrderDetailLog :=
  { orderId := req.orderId, originalReq := some req
    execMsgs := [{ orderId := req.orderId, execType := .placingOrder, execSuccess := false,
                   timestamp := ts, errorMsg := f.errorMsg,
                   rejectionInfo := some { source := .omsReject, reason := f.reason } }] }

/-- Recording a refusal writes its two records and closes the order; nothing is sent. -/
lemma rejectOrder_refusal (s : OmsCoreV2) (now : Int) (req : OrderRequest) (f : Refusal) :
    s.rejectOrder now req f.orderMeta f.flags f.errorMsg f.reason =
      some ({ s with
        orders := (s.orders.enter req.orderId (refusedLive req f
          (if s.orders.useTimeEmulation then req.timestamp else now) (s.timeOf req.timestamp now))
          (refusedDetail req f (s.timeOf req.timestamp now))).markClosed req.orderId },
        [.publishOrderUpdate req.orderId false false true false]) := by
  simp only [rejectOrder, createOrder]
  rw [updateLiveAndDetail_eq (lookup_insert _) (lookup_insert _)]
  simp only [insert_insert, some_bind]
  rfl

/-- The records of an order that is sent. -/
def sentLive (req : OrderRequest) (orderMeta : ResolvedOrderMeta) (created : Int) : LiveOrder :=
  { newLive req.orderId req orderMeta (accountingFlags req orderMeta) created with
    price := scaledPrice req orderMeta, qty := scaledQty req orderMeta }

def sentDetail (req : OrderRequest) (gwReq : SendOrderRequest) : OrderDetailLog :=
  { orderId := req.orderId, originalReq := some req, lastGwReq := some gwReq }

lemma buildGwRequest_scaled {gwReq : SendOrderRequest}
    (h : s.buildGwRequest now req om = some gwReq) :
    gwReq.scaledPrice = scaledPrice req om ∧ gwReq.scaledQty = scaledQty req om := by
  simp only [buildGwRequest, bind_eq_some] at h
  obtain ⟨_, -, _, -, h⟩ := h
  cases h
  exact ⟨rfl, rfl⟩

lemma acceptOrder_sent
    (h : s.acceptOrder now req om (accountingFlags req om) = some (s', actions)) :
    ∃ gwReq, s.buildGwRequest now req om = some gwReq ∧
      s' = { s with
        orders := s.orders.enter req.orderId
          (sentLive req om (if s.orders.useTimeEmulation then req.timestamp else now))
          (sentDetail req gwReq) } ∧
      actions = [.persistOrder req.orderId false false,
        .sendOrderToGw om.gwId req.orderId (s.timeOf req.timestamp now)] := by
  simp only [acceptOrder, bind_eq_some] at h
  obtain ⟨gwReq, hgw, h⟩ := h
  simp only [createOrder, modify_of_lookup (lookup_insert _),
    insert_insert, some.injEq, Prod.mk.injEq] at h
  obtain ⟨rfl, rfl⟩ := h
  refine ⟨gwReq, hgw, ?_, rfl⟩
  obtain ⟨hprice, hqty⟩ := buildGwRequest_scaled hgw
  rw [hprice, hqty]
  rfl

/-- Interning the source of a request changes no store, and no field of the order's metadata that
the bookings or the flags depend on. -/
lemma source_irrelevant (s : OmsCoreV2) (req : OrderRequest) (om : ResolvedOrderMeta) :
    ∃ md sym, s.internSource req = { s with metadata := md } ∧
      s.withSource req om = { om with sourceSym := sym } ∧ s.metadata.Grows md := by
  simp only [internSource, withSource]
  split_ifs
  · exact ⟨s.metadata, om.sourceSym, rfl, rfl, .refl _⟩
  · exact ⟨_, _, rfl, rfl, .intern _ _⟩

lemma Booking.of_source {md : MetadataTables} {sym : ℕ} {ps : PositionStoreV2}
    {rs : ReservationStoreV2}
    (h : Booking { s with metadata := md } req { om with sourceSym := sym } ps rs) :
    Booking s req om ps rs := by
  cases h with
  | nothing hcash hinv => exact .nothing hcash hinv
  | cash f h => exact .cash f h
  | inventory k h ps hps =>
    have hps' : s.positions.checkAndFreeze req.accountId k req.qty false = .ok ps := hps
    have h' : booksInventory req om k := h
    exact .inventory k h' ps hps'

/-- What placing an order records of the config. -/
def placedMeta (s : OmsCoreV2) (req : OrderRequest) : ResolvedOrderMeta :=
  match s.resolveOrderMeta req with
  | .error _ => stubMeta req.accountId
  | .ok om => s.withSource req om

/-- The tables after placing an order: the source is interned if the request can be resolved. -/
def placedTables (s : OmsCoreV2) (req : OrderRequest) : MetadataTables :=
  match s.resolveOrderMeta req with
  | .error _ => s.metadata
  | .ok _ => (s.internSource req).metadata

/-- What is recorded of a request that is refused for `f`: nothing is booked. -/
structure Rejected (s : OmsCoreV2) (now : Int) (req : OrderRequest) (f : Refusal)
    (s' : OmsCoreV2) : Prop where
  refusal : s.refusalOf req = some f
  orderMeta : f.orderMeta = s.placedMeta req
  state : s' = { s with
    metadata := s.placedTables req
    orders := (s.orders.enter req.orderId (refusedLive req f
      (if s.orders.useTimeEmulation then req.timestamp else now) (s.timeOf req.timestamp now))
      (refusedDetail req f (s.timeOf req.timestamp now))).markClosed req.orderId }

/-- What happens to a request that passes all checks: it is recorded as pending, and sent. -/
structure Accepted (s : OmsCoreV2) (now : Int) (req : OrderRequest) (om : ResolvedOrderMeta)
    (sym : ℕ) (gwReq : SendOrderRequest) (s' : OmsCoreV2) : Prop where
  resolved : s.resolveOrderMeta req = .ok om
  orderMeta : s.placedMeta req = { om with sourceSym := sym }
  risk : s.riskCheck req om = .ok ()
  booking : Booking s req om s'.positions s'.reservations
  correlationId : gwReq.correlationId = req.orderId
  scaledQty : gwReq.scaledQty = Zkbot.scaledQty req om
  state : s' = { s with
    metadata := s.placedTables req
    orders := s.orders.enter req.orderId (sentLive req { om with sourceSym := sym }
      (if s.orders.useTimeEmulation then req.timestamp else now)) (sentDetail req gwReq)
    positions := s'.positions
    reservations := s'.reservations }

lemma Accepted.records {sym : ℕ} {gwReq : SendOrderRequest}
    (h : s.Accepted now req om sym gwReq s') :
    s'.orders = s.orders.enter req.orderId (sentLive req { om with sourceSym := sym }
      (if s.orders.useTimeEmulation then req.timestamp else now)) (sentDetail req gwReq) := by
  rw [h.state]

/-- The ways `process_order` can end, and the actions it ends with. -/
inductive PlaceCase (s : OmsCoreV2) (now : Int) (req : OrderRequest) (s' : OmsCoreV2) :
    List OmsActionV2 → Prop where
  /-- invalid, or the account is in panic mode: nothing happens -/
  | dropped (hadm : ¬ s.admits req) (hs : s' = s) : PlaceCase s now req s' []
  | rejected (hadm : s.admits req) (hrefuse : s.refuses req = true) (f : Refusal)
      (h : s.Rejected now req f s') :
      PlaceCase s now req s' [.publishOrderUpdate req.orderId false false true false]
  | accepted (hadm : s.admits req) (hrefuse : s.refuses req = false) (om : ResolvedOrderMeta)
      (sym : ℕ) (gwReq : SendOrderRequest) (h : s.Accepted now req om sym gwReq s') :
      PlaceCase s now req s' [.persistOrder req.orderId false false,
        .sendOrderToGw om.gwId req.orderId (s.timeOf req.timestamp now)]

lemma accepted_of_checks {s₁ : OmsCoreV2} (hom : s.resolveOrderMeta req = .ok om)
    (hrisk : (s.internSource req).riskCheck req (s.withSource req om) = .ok ())
    (hpre : (s.internSource req).preTrade req (s.withSource req om) = .ok s₁)
    (h : s₁.acceptOrder now req (s.withSource req om)
      (accountingFlags req (s.withSource req om)) = some (s', actions)) :
    (∃ sym gwReq, s.Accepted now req om sym gwReq s') ∧
      actions = [.persistOrder req.orderId false false,
        .sendOrderToGw om.gwId req.orderId (s.timeOf req.timestamp now)] := by
  obtain ⟨md, sym, hsrc, hmeta, -⟩ := source_irrelevant s req om
  have hmd : s.placedTables req = md := by simp only [placedTables, hom, hsrc]
  rw [hsrc, hmeta] at hrisk hpre
  rw [hmeta] at h
  obtain ⟨hbook, hs₁⟩ := preTrade_ok hpre
  obtain ⟨gwReq, hgw, rfl, rfl⟩ := acceptOrder_sent h
  simp only [buildGwRequest, bind_eq_some] at hgw
  obtain ⟨_, -, _, -, hgw⟩ := hgw
  refine ⟨⟨sym, gwReq, hom, by simp only [placedMeta, hom, hmeta], hrisk, hbook.of_source, ?_, ?_,
    ?_⟩, ?_⟩
  · rw [← some.inj hgw]
  · rw [← some.inj hgw]
    rfl
  · rw [hs₁, hmd]
  · rw [hs₁]
    rfl

/-- **Placing an order ends in one of three ways.** -/
theorem processOrder_cases (h : s.processOrder now req = some (s', actions)) :
    PlaceCase s now req s' actions := by
  simp only [processOrder] at h
  cases hv : validateOrderRequest req with
  | error e =>
    rw [hv] at h
    cases h
    refine .dropped (fun hadm => ?_) rfl
    rw [admits, hv] at hadm
    cases hadm.1
  | ok u =>
    rw [hv] at h
    by_cases hp : req.accountId ∈ s.panicAccounts
    · simp only [if_pos hp] at h
      cases h
      exact .dropped (fun hadm => hadm.2 hp) rfl
    · simp only [if_neg hp] at h
      have hadm : s.admits req := ⟨hv, hp⟩
      -- what a check that fails leads to
      have hrejected : ∀ f, s.refusalOf req = some f → f.orderMeta = s.placedMeta req →
          ({ s with metadata := s.placedTables req } : OmsCoreV2).rejectOrder now req f.orderMeta
            f.flags f.errorMsg f.reason = some (s', actions) → PlaceCase s now req s' actions := by
        intro f hf hmeta h
        rw [rejectOrder_refusal] at h
        cases h
        exact .rejected hadm (by rw [refuses, hf]; rfl) f ⟨hf, hmeta, rfl⟩
      cases hom : s.resolveOrderMeta req with
      | error errors =>
        rw [hom] at h
        refine hrejected ⟨stubMeta req.accountId, {}, String.intercalate "; " errors,
          .omsInternalError⟩ (by simp [refusalOf, hom]) (by simp [placedMeta, hom]) ?_
        simp only [placedTables, hom]
        exact h
      | ok om =>
        rw [hom] at h
        obtain ⟨md, sym, hsrc, -, -⟩ := source_irrelevant s req om
        have hmd : s.placedTables req = md := by simp only [placedTables, hom, hsrc]
        simp only at h
        cases hrisk : (s.internSource req).riskCheck req (s.withSource req om) with
        | error e =>
          rw [hrisk, hsrc, ← hmd] at h
          exact hrejected ⟨s.withSource req om, {}, e, .omsInvalidState⟩
            (by simp [refusalOf, hom, hrisk]) (by simp [placedMeta, hom]) h
        | ok u =>
          rw [hrisk] at h
          cases hpre : (s.internSource req).preTrade req (s.withSource req om) with
          | error e =>
            rw [hpre, hsrc, ← hmd] at h
            exact hrejected ⟨s.withSource req om, accountingFlags req (s.withSource req om), e,
              .omsInvalidState⟩ (by simp [refusalOf, hom, hrisk, hpre])
              (by simp [placedMeta, hom]) h
          | ok s₁ =>
            rw [hpre] at h
            obtain ⟨⟨sym, gwReq, hacc⟩, rfl⟩ := accepted_of_checks hom hrisk hpre h
            exact .accepted hadm (by simp [refuses, refusalOf, hom, hrisk, hpre]) om sym gwReq hacc

lemma fresh_refused (req : OrderRequest) (f : Refusal) (created ts : Int) :
    Fresh req (refusedLive req f created ts) := ⟨rfl, rfl, rfl, rfl, rfl, rfl, rfl⟩

lemma fresh_sent (req : OrderRequest) (om : ResolvedOrderMeta) (created : Int) :
    Fresh req (sentLive req om created) := ⟨rfl, rfl, rfl, rfl, rfl, rfl, rfl⟩

/-! ## Cancelling and failed sends -/

lemma quiet_cancelError {os os' : OrderStoreV2} {ts : Int} {rej : Rejection}
    (h : os.updateLiveAndDetail id
      (fun live detail => applyOmsError live detail msg ts .cancel rej) = some os') :
    OrderStoreV2.Quiet os os' := by
  simp only [updateLiveAndDetail, bind_eq_some] at h
  obtain ⟨l, hl, d, hd, h⟩ := h
  cases h
  exact ⟨map_lookup_insert hl rfl, map_lookup_insert hd rfl, rfl, rfl, rfl, rfl, rfl, rfl,
    fun _ _ h => h, rfl⟩

/-- A cancel changes nothing but the history of its order.  It is refused, or sent on. -/
theorem processCancel_quiet {req : OrderCancelRequest}
    (h : s.processCancel now req = some (s', actions)) :
    (OrderStoreV2.Quiet s.orders s'.orders ∧ s' = { s with orders := s'.orders }) ∧
    (actions = [] ∨ req.orderId ∈ s.orders.live ∧
      (actions = [.publishOrderUpdate req.orderId false false true false] ∨
        ∃ gwId, actions = [.sendCancelToGw gwId req.orderId])) := by
  simp only [processCancel] at h
  split at h
  · cases h
    exact ⟨⟨.refl _, rfl⟩, .inl rfl⟩
  · split at h
    · cases h
      exact ⟨⟨.refl _, rfl⟩, .inl rfl⟩
    · rename_i l hl
      have hlive := Dict.mem_of_lookup hl
      obtain ⟨ref, -, h⟩ := bind_eq_some.mp h
      split_ifs at h with hext hterm
      · cases h
        exact ⟨⟨.refl _, rfl⟩, .inl rfl⟩
      · obtain ⟨os, hos, h⟩ := bind_eq_some.mp h
        cases h
        exact ⟨⟨quiet_cancelError hos, rfl⟩, .inr ⟨hlive, .inl rfl⟩⟩
      · cases h
        exact ⟨⟨⟨map_lookup_insert hl rfl, map_lookup_modify (by exact fun _ => rfl) _ _,
          rfl, rfl, rfl, rfl, rfl, rfl, fun _ _ h => h, rfl⟩, rfl⟩, .inr ⟨hlive, .inr ⟨_, rfl⟩⟩⟩

/-- The shape of both handlers of a failed send: only a working order is handled. -/
lemma onWorking_eq_some {β : Type} {live? : Option LiveOrder} {idle b : β}
    {f : LiveOrder → Option β}
    (h : (match live? with
      | none => some idle
      | some live => if live.isInTerminalState then some idle else f live) = some b) :
    b = idle ∧ (∀ l ∈ live?, l.isInTerminalState = true) ∨
      ∃ l, live? = some l ∧ l.isInTerminalState = false ∧ f l = some b := by
  cases live? with
  | none =>
    cases h
    exact .inl ⟨rfl, fun _ hl => by cases hl⟩
  | some l =>
    cases hterm : l.isInTerminalState with
    | true =>
      simp only [hterm, if_true] at h
      cases h
      exact .inl ⟨rfl, by simpa using hterm⟩
    | false => exact .inr ⟨l, rfl, hterm, by simpa [hterm] using h⟩

theorem processGatewayCancelSendFailed_quiet
    (h : s.processGatewayCancelSendFailed now id msg = some (s', actions)) :
    (OrderStoreV2.Quiet s.orders s'.orders ∧ s' = { s with orders := s'.orders }) ∧
    (actions = [] ∨ ∃ l, s.orders.live.lookup id = some l ∧ l.isInTerminalState = false ∧
      actions = [.persistOrder id false false, .publishOrderUpdate id false false true false]) := by
  rcases onWorking_eq_some h with ⟨h, -⟩ | ⟨l, hl, hterm, h⟩
  · cases h
    exact ⟨⟨.refl _, rfl⟩, .inl rfl⟩
  · obtain ⟨os, hos, h⟩ := bind_eq_some.mp h
    cases h
    exact ⟨⟨quiet_cancelError hos, rfl⟩, .inr ⟨l, hl, hterm, rfl⟩⟩

/-- A failed send of a working order: it is rejected and closed, and what it still holds is given
back, unless closing it has evicted it. -/
structure SendFailure (s : OmsCoreV2) (id : Int) (l l' : LiveOrder) (os : OrderStoreV2)
    (s' : OmsCoreV2) : Prop where
  found : s.orders.live.lookup id = some l
  working : l.isInTerminalState = false
  terms : l'.terms = l.terms
  closed : l'.isInTerminalState = true
  ref : l'.exchOrderRefId = l.exchOrderRefId
  live : os.live.lookup id = some l'
  detail : id ∈ os.detail
  same : SameBut id s.orders os
  refs : os.orderIdByExchRef = s.orders.orderIdByExchRef
  dynStrings : os.dynStrings = s.orders.dynStrings
  state : s' = { s with
    orders := os.markClosed id
    reservations := s.reservations.release id
    positions := if os.evicted id = some id then s.positions else closePositions s.positions l }

section SendFailure

variable {l l' : LiveOrder} {os : OrderStoreV2} (h : s.SendFailure id l l' os s')
include h

lemma SendFailure.orders : s'.orders = os.markClosed id := by rw [h.state]

lemma SendFailure.positions : s'.positions =
    if os.evicted id = some id then s.positions else closePositions s.positions l := by
  rw [h.state]

lemma SendFailure.live_self {m : LiveOrder} (hm : s'.orders.live.lookup id = some m) : m = l' := by
  rw [h.orders] at hm
  exact some.inj ((live_of_markClosed hm).symm.trans h.live)

end SendFailure

/-- The ways a failed send can end, and the actions it ends with. -/
inductive SendFailedCase (s : OmsCoreV2) (id : Int) (s' : OmsCoreV2) : List OmsActionV2 → Prop where
  /-- no such order, or it is terminal already -/
  | ignored (h : ∀ l, s.orders.live.lookup id = some l → l.isInTerminalState = true)
      (hs : s' = s) : SendFailedCase s id s' []
  | rejected (l l' : LiveOrder) (os : OrderStoreV2) (h : s.SendFailure id l l' os s') :
      SendFailedCase s id s'
        [.persistOrder id true true, .publishOrderUpdate id false false true false]

theorem processGatewaySendFailed_cases
    (h : s.processGatewaySendFailed now id msg = some (s', actions)) :
    SendFailedCase s id s' actions := by
  rcases onWorking_eq_some h with ⟨h, hterm⟩ | ⟨l, hl, hterm, h⟩
  · cases h
    exact .ignored hterm rfl
  · obtain ⟨os, hos, h⟩ := bind_eq_some.mp h
    simp only [updateLiveAndDetail, hl, some_bind, bind_eq_some] at hos
    obtain ⟨d, hd, hos⟩ := hos
    set p := applyOmsError l d s!"gateway send failed: {msg}" now .placingOrder
      { source := .omsReject, reason := .omsInternalError }
    cases hos
    cases h
    refine .rejected l p.1 _ ⟨hl, hterm, rfl, rfl, rfl, lookup_insert _,
      Dict.mem_of_lookup (lookup_insert _), sameBut_setBoth s.orders id p.1 p.2, rfl, rfl, ?_⟩
    split_ifs with hev
    · rw [unfreezeRemaining_of_none]
      rw [markClosed_live, if_pos hev]
    · refine unfreezeRemaining_of_some (l := p.1) ?_ rfl rfl
      rw [markClosed_live, if_neg hev]
      exact lookup_insert _

end OmsCoreV2

end Zkbot
