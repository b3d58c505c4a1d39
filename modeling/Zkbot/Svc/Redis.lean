import Zkbot.Oms.Builders
import Zkbot.Oms.Messages
import Zkbot.Svc.Snapshot

/-!
# What is persisted

The records of `redis_writer.rs`, and the functions of `oms_actor.rs` that build them from the core.
A record is what a restart knows; whatever it leaves out is lost.

* `PersistedManagedPosition`, `PersistedBalance`, `PersistedOrder` — the records, each with the
  functions that make it and that turn it back into what `init_state` takes.
* `PersistStore` — the keys of Redis: a position lies under its account, instrument and *side*, a
  balance under its account and asset.  The last write to a key wins; expiry is left out.
* `persistMessage` — a message for the core, with its `PersistPosition` and `PersistBalance` actions
  written from the core as the message left it.

`symbol_exch` is carried along as in the source.
-/

namespace Zkbot

/-! ## Orders -/

/-- The record of an order.  The trades, the requests, the accounting flags, the accumulated trade
quantity and value, the snapshot version and the cancel attempts are not in it. -/
structure PersistedOrder where
  orderId : Int
  accountId : Int
  isFromExternal : Bool
  exchOrderRef : Option String
  instrument : String
  buySellType : BuySellType
  openCloseType : OpenCloseType
  price : ℚ
  qty : ℚ
  filledQty : ℚ
  filledAvgPrice : ℚ
  orderStatus : OrderStatus
  gwKey : String
  sourceId : String
  createdAt : Int
  updatedAt : Int
  errorMsg : String
  instrumentExch : String
  deriving DecidableEq

def PersistedOrder.fromOmsOrder (o : OmsOrder) : PersistedOrder :=
  let s := o.orderState
  { orderId := o.orderId, accountId := o.accountId, isFromExternal := o.isFromExternal,
    exchOrderRef := o.exchOrderRef, instrument := s.instrument, buySellType := s.buySellType,
    openCloseType := s.openCloseType, price := s.price, qty := s.qty, filledQty := s.filledQty,
    filledAvgPrice := s.filledAvgPrice, orderStatus := s.orderStatus, gwKey := s.gwKey,
    sourceId := s.sourceId, createdAt := s.createdAt, updatedAt := s.updatedAt,
    errorMsg := s.errorMsg, instrumentExch := s.instrumentExch }

def PersistedOrder.intoOmsOrder (r : PersistedOrder) : OmsOrder :=
  { isFromExternal := r.isFromExternal, orderId := r.orderId, accountId := r.accountId,
    exchOrderRef := r.exchOrderRef, omsReq := none, gwReq := none, cancelReq := none,
    orderState :=
      { orderId := r.orderId, accountId := r.accountId, exchOrderRef := r.exchOrderRef.getD "",
        instrument := r.instrument, buySellType := r.buySellType,
        openCloseType := r.openCloseType, price := r.price, qty := r.qty,
        filledQty := r.filledQty, filledAvgPrice := r.filledAvgPrice,
        orderStatus := r.orderStatus, gwKey := r.gwKey, sourceId := r.sourceId,
        -- the default of the source
        snapshotVersion := 0, createdAt := r.createdAt, updatedAt := r.updatedAt,
        errorMsg := r.errorMsg, instrumentExch := r.instrumentExch },
    trades := [], accTradesFilledQty := 0, accTradesValue := 0, orderInferredTrades := [],
    execMsgs := [], fees := [], cancelAttempts := 0 }

/-- `build_persisted_order`: nothing is persisted of an order that is not in the store. -/
def OmsCoreV2.buildPersistedOrder (s : OmsCoreV2) (orderId : Int) : Option (Option OmsOrder) :=
  match s.orders.live.lookup orderId with
  | none => some none
  | some live => do
      let detail := s.orders.detail.lookup orderId
      let orderState ← s.buildProtoOrder live
      let exchOrderRef ← match live.exchOrderRefId with
        | none => some none
        | some i => (s.orders.dynStrings.resolve i).map some
      some (some
        { isFromExternal := live.isExternal, orderId := live.orderId, accountId := live.accountId,
          exchOrderRef, omsReq := detail.bind (·.originalReq), gwReq := detail.bind (·.lastGwReq),
          cancelReq := detail.bind (·.cancelReq), orderState,
          trades := (detail.map (·.trades)).getD [],
          accTradesFilledQty := live.accTradesFilledQty, accTradesValue := live.accTradesValue,
          orderInferredTrades := (detail.map (·.inferredTrades)).getD [],
          execMsgs := (detail.map (·.execMsgs)).getD [], fees := (detail.map (·.fees)).getD [],
          cancelAttempts := live.cancelAttempts })

/-! ## Positions -/

structure PersistedManagedPosition where
  accountId : Int
  instrumentCode : String
  symbolExch : Option String
  instrumentType : InstrumentType
  isShort : Bool
  totalQty : ℚ
  frozenQty : ℚ
  availQty : ℚ
  deriving DecidableEq

/-- `From<&OmsManagedPosition>`. -/
def PersistedManagedPosition.from (p : OmsManagedPosition) : PersistedManagedPosition :=
  { accountId := p.accountId, instrumentCode := p.instrumentCode, symbolExch := p.symbolExch,
    instrumentType := p.instrumentType, isShort := p.isShort, totalQty := p.qtyTotal,
    frozenQty := p.qtyFrozen, availQty := p.qtyAvailable }

def PersistedManagedPosition.intoOmsManagedPosition (r : PersistedManagedPosition) :
    OmsManagedPosition :=
  { accountId := r.accountId, instrumentCode := r.instrumentCode, symbolExch := r.symbolExch,
    instrumentType := r.instrumentType, isShort := r.isShort, qtyTotal := r.totalQty,
    qtyFrozen := r.frozenQty, qtyAvailable := r.availQty }

/-! ## Balances -/

structure PersistedBalance where
  accountId : Int
  asset : String
  totalQty : ℚ
  frozenQty : ℚ
  availQty : ℚ
  deriving DecidableEq

/-- `From<&ExchBalanceSnapshot>`. -/
def PersistedBalance.from (b : ExchBalanceSnapshot) : PersistedBalance :=
  { accountId := b.accountId, asset := b.asset, totalQty := b.balanceState.totalQty,
    frozenQty := b.balanceState.frozenQty, availQty := b.balanceState.availQty }

def PersistedBalance.intoExchBalanceSnapshot (r : PersistedBalance) : ExchBalanceSnapshot :=
  { accountId := r.accountId, asset := r.asset, symbolExch := none,
    balanceState :=
      { accountId := r.accountId, asset := r.asset, totalQty := r.totalQty, availQty := r.availQty,
        frozenQty := r.frozenQty } }

/-- `PersistAction::Balance`. -/
structure PersistBalance where
  accountId : Int
  assetName : String
  snap : ExchBalanceSnapshot

def OmsCoreV2.resolveAssetName (s : OmsCoreV2) (assetId : ℕ) : Option String :=
  entryName s.metadata (·.assetSym) (s.metadata.asset assetId)

/-- `build_persist_balance`: nothing is persisted where there is no balance. -/
def OmsCoreV2.buildPersistBalance (s : OmsCoreV2) (accountId : Int) (assetId : ℕ) :
    Option (Option PersistBalance) := do
  let assetName ← s.resolveAssetName assetId
  some ((s.balances.getBalance accountId assetId).map fun snap => { accountId, assetName, snap })

/-! ## The store -/

/-- The position and balance keys of Redis. -/
structure PersistStore where
  /-- account, instrument, side -/
  positions : Dict (Int × String × String) PersistedManagedPosition := ∅
  /-- account, asset -/
  balances : Dict (Int × String) PersistedBalance := ∅

namespace PersistStore

def writePosition (st : PersistStore) (accountId : Int) (instrument side : String)
    (pos : OmsManagedPosition) : PersistStore :=
  { st with positions := st.positions.insert (accountId, instrument, side) (.from pos) }

def writeBalance (st : PersistStore) (accountId : Int) (asset : String)
    (snap : ExchBalanceSnapshot) : PersistStore :=
  { st with balances := st.balances.insert (accountId, asset) (.from snap) }

/-- The two arms of `process_command` that write positions and balances. -/
def persist (core : OmsCoreV2) (st : PersistStore) : OmsActionV2 → Option PersistStore
  | .persistPosition accountId instrumentId => do
      match ← core.buildPersistPosition accountId instrumentId with
      | none => some st
      | some a => some (st.writePosition a.accountId a.instrumentCode a.side a.position)
  | .persistBalance accountId assetId => do
      match ← core.buildPersistBalance accountId assetId with
      | none => some st
      | some a => some (st.writeBalance a.accountId a.assetName a.snap)
  | _ => some st

/-- The records under all position keys.  A scan may return them in any order. -/
def positionRecords (st : PersistStore) : List PersistedManagedPosition :=
  st.positions.entries.map (·.2)

def balanceRecords (st : PersistStore) : List PersistedBalance := st.balances.entries.map (·.2)

end PersistStore

/-- A restart reads the config anew. -/
def OmsSetup.withConfig (u : OmsSetup) (config : ConfdataManager) : OmsSetup := { u with config }

/-- What `init_state` is given after a restart: the records as a scan returned them
(`load_positions`, `load_balances`). -/
def OmsSetup.restart (u : OmsSetup) (orders : List OmsOrder)
    (positions : List PersistedManagedPosition) (balances : List PersistedBalance) : OmsSetup :=
  { u with
    orders
    positions := positions.map (·.intoOmsManagedPosition)
    balances := balances.map (·.intoExchBalanceSnapshot) }

/-- A message for the core, and the writes it leads to. -/
def persistMessage (x : OmsCoreV2 × PersistStore) (m : Int × OmsMessage) :
    Option (OmsCoreV2 × PersistStore) := do
  let (core, actions) ← x.1.processMessage m.1 m.2
  let st ← actions.foldlM (PersistStore.persist core) x.2
  some (core, st)

end Zkbot
