import Zkbot.Oms.Departures
import Zkbot.Oms.Panics
import Zkbot.Svc.Redis

/-!
# Actions in full

The core puts out small actions that name an order by its id.  `materialize_action` of
`oms_core_v2.rs` turns one into the full `OmsAction`, and the service builds the same records by
`build_order_update_event` and `build_persisted_order`.  All of them read the order from the store
at the time they are called: the first panics if it is gone, the service skips the action.

`none` is a panic; the builders of the service return an option besides, `some none` for an order
that is gone.  In a reachable state an order that is there can always be built
(`Legible.materializes`), so the actions of a message stand exactly if the message keeps the orders
they name (`actions_stand_iff`).
-/

namespace Zkbot

open Option

namespace OmsCoreV2

def buildOrderUpdateEvent (s : OmsCoreV2) (now orderId : Int) (includeLastTrade includeLastFee
    includeExecMessage includeInferredTrade : Bool) : Option (Option OrderUpdateEvent) :=
  match s.orders.live.lookup orderId with
  | none => some none
  | some live => do
      let detail := s.orders.detail.lookup orderId
      let orderState ← s.buildProtoOrder live
      some (some
        { orderId, accountId := live.accountId
          timestamp := if s.useTimeEmulation then live.updatedAt else now
          orderSnapshot := some orderState
          orderSourceId := (s.metadata.strings.resolve live.sourceSym).getD ""
          lastTrade := if includeLastTrade then detail.bind (·.trades.getLast?) else none
          lastFee := if includeLastFee then detail.bind (·.fees.getLast?) else none
          execMessage := if includeExecMessage then detail.bind (·.execMsgs.getLast?) else none
          orderInferredTrade :=
            if includeInferredTrade then detail.bind (·.inferredTrades.getLast?) else none })

/-- `build_balance_update_event`: the known balances of the account, and then the others. -/
def buildBalanceUpdateEvent (s : OmsCoreV2) (now accountId : Int) : BalanceUpdateEvent :=
  { accountId
    balanceSnapshots :=
      ((s.balances.exchBalances.entries.filter fun e => e.1.1 = accountId).map
        (·.2.balanceState)) ++
      (s.balances.unknownExchBalances.entries.filter fun e => e.1.1 = accountId).map
        (·.2.balanceState)
    timestamp := if s.useTimeEmulation then 0 else now }

/-- `build_v1_order`: what the service persists, but it panics on an order that is gone. -/
def buildV1Order (s : OmsCoreV2) (orderId : Int) : Option OmsOrder :=
  (s.buildPersistedOrder orderId).join

def materializeAction (s : OmsCoreV2) (now : Int) : OmsActionV2 → Option OmsAction
  | .sendOrderToGw gwId orderId orderCreatedAt => do
      let gwKey ← entryName s.metadata (·.gwKeySym) (s.metadata.gw gwId)
      some (.sendOrderToGw gwKey
        (((s.orders.detail.lookup orderId).bind (·.lastGwReq)).getD .empty) orderId orderCreatedAt)
  | .sendCancelToGw gwId orderId => do
      let gwKey ← entryName s.metadata (·.gwKeySym) (s.metadata.gw gwId)
      some (.sendCancelToGw gwKey
        (((s.orders.detail.lookup orderId).bind (·.cancelReq)).getD .empty))
  | .persistOrder orderId setExpire setClosed => do
      let order ← s.buildV1Order orderId
      some (.persistOrder order setExpire setClosed)
  | .publishOrderUpdate orderId trade fee exec inferred => do
      let event ← (s.buildOrderUpdateEvent now orderId trade fee exec inferred).join
      some (.publishOrderUpdate event)
  | .publishBalanceUpdate accountId =>
    some (.publishBalanceUpdate (s.buildBalanceUpdateEvent now accountId))
  | .publishPositionUpdate accountId => do
      let event ← s.buildPositionUpdateEvent now accountId
      some (.publishPositionUpdate event)
  | .persistBalance accountId assetId =>
    let snap := (s.balances.getBalance accountId assetId).getD
      { accountId, asset := "", balanceState := {} }
    some (.persistBalance accountId snap.asset snap)
  | .persistPosition accountId instrumentId => do
      let position ← s.materializePersistPosition accountId instrumentId
      some (.persistPosition position)

/-! ## Orders that are there can be built -/

section Legible

variable {s : OmsCoreV2} (h : s.Legible) {id : Int}

include h

lemma Legible.entryName_instrument (sym : InstrumentMeta → ℕ)
    (hsym : ∀ i inst, inst.Good s.metadata.strings i → s.metadata.strings.Resolves (sym inst))
    (i : ℕ) : ∃ name, entryName s.metadata sym (s.metadata.instrument i) = some name := by
  cases hi : s.metadata.instrument i with
  | none => exact ⟨"", rfl⟩
  | some inst =>
    exact isSome_iff_exists.mp (hsym i inst (h.tables.instruments i inst hi))

lemma Legible.entryName_gw (i : ℕ) :
    ∃ name, entryName s.metadata (·.gwKeySym) (s.metadata.gw i) = some name := by
  cases hi : s.metadata.gw i with
  | none => exact ⟨"", rfl⟩
  | some g => exact isSome_iff_exists.mp (h.tables.gws i g hi).gwKeySym

lemma Legible.buildProtoOrder_total {l : LiveOrder} (hl : s.orders.live.lookup id = some l) :
    ∃ order, s.buildProtoOrder l = some order := by
  obtain ⟨code, hcode⟩ := h.entryName_instrument (·.instrumentCodeSym)
    (fun _ _ hgood => hgood.instrumentCodeSym) l.instrumentId
  obtain ⟨exch, hexch⟩ := h.entryName_instrument (·.instrumentExchSym)
    (fun _ _ hgood => hgood.instrumentExchSym) l.instrumentId
  obtain ⟨gw, hgw⟩ := h.entryName_gw l.gwId
  obtain ⟨ref, href⟩ := isSome_iff_exists.mp (h.refs id l hl)
  simp only [buildProtoOrder, hcode, hexch, hgw, href, some_bind]
  exact ⟨_, rfl⟩

/-- The service publishes an order that is in the store. -/
lemma Legible.publishes (hid : id ∈ s.orders.live) (now : Int) (trade fee exec inferred : Bool) :
    ∃ event, s.buildOrderUpdateEvent now id trade fee exec inferred = some (some event) := by
  obtain ⟨l, hl⟩ := Dict.mem_iff_lookup.mp hid
  obtain ⟨order, horder⟩ := h.buildProtoOrder_total hl
  simp only [buildOrderUpdateEvent, hl, horder, some_bind]
  exact ⟨_, rfl⟩

lemma Legible.persists (hid : id ∈ s.orders.live) :
    ∃ order, s.buildPersistedOrder id = some (some order) := by
  obtain ⟨l, hl⟩ := Dict.mem_iff_lookup.mp hid
  obtain ⟨order, horder⟩ := h.buildProtoOrder_total hl
  have href := h.refs id l hl
  simp only [OrderStoreV2.exchRefString] at href
  simp only [buildPersistedOrder, hl, horder, some_bind]
  cases hi : l.exchOrderRefId with
  | none => exact ⟨_, rfl⟩
  | some i =>
    rw [hi] at href
    obtain ⟨ref, href⟩ := isSome_iff_exists.mp href
    simp only [href, map_some]
    exact ⟨_, rfl⟩

lemma Legible.instrumentCode_total (i : ℕ) : ∃ code, instrumentCode s.metadata i = some code :=
  isSome_iff_exists.mp (MetadataTables.isSome_instrumentCode h.tables i)

lemma Legible.buildPositionUpdateEvent_total (now accountId : Int) :
    ∃ event, s.buildPositionUpdateEvent now accountId = some event := by
  have hall : ∀ ps : List ManagedPositionV2, ∃ snaps, ps.mapM s.positionSnapshot = some snaps := by
    intro ps
    induction ps with
    | nil => exact ⟨[], rfl⟩
    | cons p ps ih =>
      obtain ⟨snaps, hsnaps⟩ := ih
      obtain ⟨code, hcode⟩ := h.instrumentCode_total p.instrumentId
      simp only [List.mapM_cons, positionSnapshot, hcode, some_bind, hsnaps]
      exact ⟨_, rfl⟩
  obtain ⟨snaps, hsnaps⟩ := hall (s.positions.getPositionsForAccount accountId)
  simp only [buildPositionUpdateEvent, hsnaps, some_bind]
  exact ⟨_, rfl⟩

/-- **An action can be materialized if the order it mentions is in the store.** -/
theorem Legible.materializes (now : Int) (a : OmsActionV2)
    (ha : ∀ id ∈ a.order, id ∈ s.orders.live) : (s.materializeAction now a).isSome = true := by
  cases a with
  | sendOrderToGw gwId orderId ts | sendCancelToGw gwId orderId =>
    obtain ⟨key, hkey⟩ := h.entryName_gw gwId
    simp [materializeAction, hkey]
  | publishOrderUpdate id trade fee exec inferred =>
    obtain ⟨event, hevent⟩ := h.publishes (ha id rfl) now trade fee exec inferred
    simp [materializeAction, hevent]
  | persistOrder id setExpire setClosed =>
    obtain ⟨order, horder⟩ := h.persists (ha id rfl)
    simp [materializeAction, buildV1Order, horder]
  | publishPositionUpdate accountId =>
    obtain ⟨event, hevent⟩ := h.buildPositionUpdateEvent_total now accountId
    simp [materializeAction, hevent]
  | persistPosition accountId i =>
    obtain ⟨code, hcode⟩ := h.instrumentCode_total i
    simp [materializeAction, materializePersistPosition, hcode]
  | publishBalanceUpdate accountId => rfl
  | persistBalance accountId assetId => rfl

end Legible

end OmsCoreV2

open Sample

/-- A core on the small venue that caches `cap` closed orders. -/
def Sample.cached (cap : ℕ) : OmsSetup :=
  { setup false false cap with config := (venue false).toConfdataManager }

namespace OmsCoreV2

/-! ## The actions of a message stand -/

/-- Every order that the actions name is in the store `t` after the message: each action can be
materialized, and the service drops no update and no write. -/
structure ActionsStand (t : OmsCoreV2) (actions : List OmsActionV2) : Prop where
  present : ∀ a ∈ actions, ∀ id ∈ a.order, id ∈ t.orders.live ∧ id ∈ t.orders.detail
  materializes : ∀ a ∈ actions, ∀ clock, (t.materializeAction clock a).isSome = true
  published : ∀ id trade fee exec inferred,
    .publishOrderUpdate id trade fee exec inferred ∈ actions → ∀ clock, ∃ event,
      t.buildOrderUpdateEvent clock id trade fee exec inferred = some (some event)
  persisted : ∀ id setExpire setClosed, .persistOrder id setExpire setClosed ∈ actions →
    ∃ order, t.buildPersistedOrder id = some (some order)

lemma actionsStand_iff_names {t : OmsCoreV2} (h : t.Legible) (actions : List OmsActionV2) :
    ActionsStand t actions ↔ ∀ id, Names actions id → id ∈ t.orders.live := by
  constructor
  · rintro hstand id ⟨a, ha, hid⟩
    exact (hstand.present a ha id hid).1
  · intro hlive
    have hat : ∀ a ∈ actions, ∀ id ∈ a.order, id ∈ t.orders.live :=
      fun a ha id hid => hlive id ⟨a, ha, hid⟩
    refine ⟨fun a ha id hid => ⟨hat a ha id hid, (h.keys id).mp (hat a ha id hid)⟩,
      fun a ha clock => h.materializes clock a (hat a ha), ?_, ?_⟩
    · intro id trade fee exec inferred ha clock
      exact h.publishes (hat _ ha id rfl) clock trade fee exec inferred
    · intro id setExpire setClosed ha
      exact h.persists (hat _ ha id rfl)

/-- **No message panics, and its actions stand exactly if it keeps the orders they name**, in every
reachable state. -/
theorem actions_stand_iff (u : OmsSetup) (config : Confdata)
    (hu : u.config = config.toConfdataManager) (evs : List OmsEvent)
    (hkeyed : ∀ c, OmsEvent.reload c ∈ evs → c.Keyed) (s : OmsCoreV2)
    (hr : run handle u.start evs = some s) (now : Int) (msg : OmsMessage) :
    (∃ t actions, s.processMessage now msg = some (t, actions) ∧ ActionsStand t actions) ↔
      s.KeepsNamed now msg := by
  have hs : s.Legible := legible_run hu hkeyed hr
  obtain ⟨t, actions, hmsg, ht⟩ := processMessage_total hs now msg
  rw [← named_present_iff hs.keys hmsg, ← actionsStand_iff_names ht, hmsg]
  constructor
  · rintro ⟨t', actions', heq, hstand⟩
    cases heq
    exact hstand
  · intro hstand
    exact ⟨t, actions, rfl, hstand⟩

/-- Two requests that are refused, in a cache with room for both. -/
theorem actions_stand_refusals :
    ∃ t actions, (cached 2).start.processMessage 0
        (.batchPlaceOrders [stray, { stray with orderId := 11 }]) =
          some (t, actions) ∧ ActionsStand t actions :=
  (actions_stand_iff (cached 2) (venue false) rfl [] nofun _ rfl 0
    _).mpr (by decide +kernel)

/-- With room for one, the second refusal pushes out the first order before its update is built:
`materialize_action` panics on it, and the service drops it. -/
theorem refusal_outruns_update :
    ∃ r ∈ (cached 1).start.processMessage 0
        (.batchPlaceOrders [stray, { stray with orderId := 11 }]),
      .publishOrderUpdate 10 false false true false ∈ r.2 ∧ 10 ∉ r.1.orders.live ∧
        (r.1.materializeAction 0 (.publishOrderUpdate 10 false false true false)).isSome = false ∧
        r.1.buildOrderUpdateEvent 0 10 false false true false = some none := by
  decide +kernel

end OmsCoreV2

end Zkbot
