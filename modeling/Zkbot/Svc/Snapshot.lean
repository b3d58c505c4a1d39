import Zkbot.Oms.Reports

/-!
# The published snapshot

`snapshot_v2.rs`, and the functions of `oms_actor.rs` and `oms_core_v2.rs` that fill a snapshot from
the core.  Readers of the service never see the core: they see an `OmsSnapshotV2`, which holds
integer ids and resolves them through the name tables that were copied at the last config load.

* `OmsSnapshotWriterV2` — what the writer keeps of orders between two snapshots; orders come in one
  by one (`applyOrderUpdate`), and `publish` copies them out.
* `buildManagedPositions`, `buildExchPositions`, `buildExchBalances` — positions and balances, each
  rebuilt from the core as a whole.
* `SnapshotOrder.toProtoOrder` and `OmsCoreV2.buildProtoOrder` — an order as a reader and as the
  core itself would answer a query for it.

A function that resolves a symbol can panic and is an `Option` here.
-/

namespace Zkbot

/-! ## Name tables -/

/-- `SnapshotMetadata`: the name tables of a snapshot. -/
structure SnapshotMetadata where
  instrumentNames : List String := []
  instrumentExchNames : List String := []
  assetNames : List String := []
  gwNames : List String := []
  /-- indexed by symbol: the whole intern table -/
  sourceNames : List String := []
  deriving DecidableEq

namespace SnapshotMetadata

/-- A name table answers with the empty string outside its range. -/
def nameAt (names : List String) (id : ℕ) : String := names[id]?.getD ""

section

variable (m : SnapshotMetadata)

def instrumentName (instrumentId : ℕ) : String :=
  nameAt m.instrumentNames instrumentId

def instrumentExchName (instrumentId : ℕ) : String :=
  nameAt m.instrumentExchNames instrumentId

def assetName (assetId : ℕ) : String := nameAt m.assetNames assetId

def gwName (gwId : ℕ) : String := nameAt m.gwNames gwId

def sourceName (sourceSym : ℕ) : String := nameAt m.sourceNames sourceSym

end

end SnapshotMetadata

def OmsCoreV2.buildSnapshotMetadata (s : OmsCoreV2) : Option SnapshotMetadata := do
  let md := s.metadata
  let instrumentNames ← md.instruments.mapM fun i => md.strResolve i.instrumentCodeSym
  let instrumentExchNames ← md.instruments.mapM fun i => md.strResolve i.instrumentExchSym
  let assetNames ← md.assets.mapM fun a => md.strResolve a.assetSym
  let gwNames ← md.gws.mapM fun g => md.strResolve g.gwKeySym
  some { instrumentNames, instrumentExchNames, assetNames, gwNames,
         sourceNames := md.strings.strsById }

/-! ## Orders -/

structure SnapshotOrder where
  orderId : Int
  accountId : Int
  instrumentId : ℕ
  gwId : ℕ
  sourceSym : ℕ
  orderStatus : OrderStatus
  buySellType : BuySellType
  openCloseType : OpenCloseType
  orderType : BasicOrderType
  tifType : TimeInForceType
  price : ℚ
  qty : ℚ
  filledQty : ℚ
  filledAvgPrice : ℚ
  exchOrderRef : Option String
  createdAt : Int
  updatedAt : Int
  snapshotVersion : ℕ
  isExternal : Bool
  deriving DecidableEq

structure SnapshotOrderDetail where
  orderId : Int
  sourceSym : ℕ
  instrumentExchSym : ℕ
  exchOrderRef : Option String
  errorMsg : String
  trades : List Trade
  inferredTrades : List Trade
  execMsgs : List ExecMessage
  fees : List Fee
  deriving DecidableEq

def SnapshotOrder.toProtoOrder (o : SnapshotOrder) (names : SnapshotMetadata)
    (detail : Option SnapshotOrderDetail) : Order :=
  { orderId := o.orderId
    accountId := o.accountId
    instrument := names.instrumentName o.instrumentId
    instrumentExch := names.instrumentExchName o.instrumentId
    gwKey := names.gwName o.gwId
    orderStatus := o.orderStatus
    buySellType := o.buySellType
    openCloseType := o.openCloseType
    price := o.price
    qty := o.qty
    filledQty := o.filledQty
    filledAvgPrice := o.filledAvgPrice
    sourceId := names.sourceName o.sourceSym
    exchOrderRef := o.exchOrderRef.getD ""
    snapshotVersion := o.snapshotVersion
    createdAt := o.createdAt
    updatedAt := o.updatedAt
    errorMsg := (detail.map (·.errorMsg)).getD "" }

def resolveRef (live : LiveOrder) (dynStrings : DynStringTable) : Option (Option String) :=
  match live.exchOrderRefId with
  | none => some none
  | some id => (dynStrings.resolve id).map some

def buildSnapshotOrderFromLive (live : LiveOrder) (dynStrings : DynStringTable) :
    Option SnapshotOrder := do
  let exchOrderRef ← resolveRef live dynStrings
  some { orderId := live.orderId, accountId := live.accountId, instrumentId := live.instrumentId,
         gwId := live.gwId, sourceSym := live.sourceSym, orderStatus := live.orderStatus,
         buySellType := live.buySellType, openCloseType := live.openCloseType,
         orderType := live.orderType, tifType := live.tifType, price := live.price, qty := live.qty,
         filledQty := live.filledQty, filledAvgPrice := live.filledAvgPrice, exchOrderRef,
         createdAt := live.createdAt, updatedAt := live.updatedAt,
         snapshotVersion := live.snapshotVersion, isExternal := live.isExternal }

def buildSnapshotDetailFromCore (orderId : Int) (live : LiveOrder) (detail : OrderDetailLog)
    (md : MetadataTables) (dynStrings : DynStringTable) : Option SnapshotOrderDetail := do
  let exchOrderRef ← resolveRef live dynStrings
  some { orderId, sourceSym := live.sourceSym,
         instrumentExchSym := ((md.instrument live.instrumentId).map (·.instrumentExchSym)).getD 0,
         exchOrderRef, errorMsg := live.errorMsg, trades := detail.trades,
         inferredTrades := detail.inferredTrades, execMsgs := detail.execMsgs,
         fees := detail.fees }

namespace OmsCoreV2

def entryName {α : Type} (md : MetadataTables) (sym : α → ℕ) (entry : Option α) : Option String :=
  match entry with
  | none => some ""
  | some a => md.strResolve (sym a)

def buildProtoOrder (s : OmsCoreV2) (live : LiveOrder) : Option Order := do
  let md := s.metadata
  let instrument ← entryName md (·.instrumentCodeSym) (md.instrument live.instrumentId)
  let instrumentExch ← entryName md (·.instrumentExchSym) (md.instrument live.instrumentId)
  let gwKey ← entryName md (·.gwKeySym) (md.gw live.gwId)
  let exchOrderRef ← s.orders.exchRefString live
  some { orderId := live.orderId, accountId := live.accountId, instrument, instrumentExch, gwKey,
         orderStatus := live.orderStatus, buySellType := live.buySellType,
         openCloseType := live.openCloseType, price := live.price, qty := live.qty,
         filledQty := live.filledQty, filledAvgPrice := live.filledAvgPrice,
         sourceId := (md.strings.resolve live.sourceSym).getD "", exchOrderRef,
         snapshotVersion := live.snapshotVersion, createdAt := live.createdAt,
         updatedAt := live.updatedAt, errorMsg := live.errorMsg }

end OmsCoreV2

/-! ## Positions and balances -/

structure SnapshotManagedPosition where
  accountId : Int
  instrumentId : ℕ
  instrumentType : InstrumentType
  isShort : Bool
  qtyTotal : ℚ
  qtyFrozen : ℚ
  qtyAvailable : ℚ
  lastLocalUpdateTs : Int
  lastExchSyncTs : Int
  reconcileStatus : ReconcileStatus
  deriving DecidableEq

def ManagedPositionV2.snapshot (p : ManagedPositionV2) : SnapshotManagedPosition :=
  { accountId := p.accountId, instrumentId := p.instrumentId, instrumentType := p.instrumentType,
    isShort := p.isShort, qtyTotal := p.qtyTotal, qtyFrozen := p.qtyFrozen,
    qtyAvailable := p.qtyAvailable, lastLocalUpdateTs := p.lastLocalUpdateTs,
    lastExchSyncTs := p.lastExchSyncTs, reconcileStatus := p.reconcileStatus }

def MetadataTables.assetIdOfName (md : MetadataTables) (name : String) : Option ℕ :=
  (md.strings.lookup name).bind md.assetBySymbol.lookup

namespace OmsCoreV2

def buildManagedPositions (s : OmsCoreV2) : Dict (Int × ℕ) SnapshotManagedPosition :=
  s.positions.managed.rekey (fun p => some (p.accountId, p.instrumentId)) (·.snapshot)

def exchPositionKey (s : OmsCoreV2) (snap : ExchPositionSnapshot) : Option (Int × ℕ) :=
  (s.metadata.resolveInstrument snap.instrumentCode).map fun inst =>
    (snap.accountId, inst.instrumentId)

def exchBalanceKey (s : OmsCoreV2) (snap : ExchBalanceSnapshot) : Option (Int × ℕ) :=
  (s.metadata.assetIdOfName snap.asset).map fun assetId => (snap.accountId, assetId)

/-- `build_exch_positions`: the positions with a key, and those without one. -/
def buildExchPositions (s : OmsCoreV2) :
    Dict (Int × ℕ) ExchPositionSnapshot × List ExchPositionSnapshot :=
  (s.positions.exch.rekey s.exchPositionKey id,
   (s.positions.exch.entries.map (·.2)).filter fun snap => (s.exchPositionKey snap).isNone)

/-- `build_exch_balances`: the balances with a key; the unknown ones come before those without. -/
def buildExchBalances (s : OmsCoreV2) :
    Dict (Int × ℕ) ExchBalanceSnapshot × List ExchBalanceSnapshot :=
  (s.balances.exchBalances.rekey s.exchBalanceKey id,
   s.balances.unknownExchBalances.entries.map (·.2) ++
     (s.balances.exchBalances.entries.map (·.2)).filter fun snap =>
       (s.exchBalanceKey snap).isNone)

end OmsCoreV2

/-! ## The snapshot and its writer -/

/-- `OmsSnapshotV2`. -/
structure OmsSnapshotV2 where
  metadata : SnapshotMetadata
  orders : Dict Int SnapshotOrder
  orderDetails : Dict Int SnapshotOrderDetail
  openOrderIdsByAccount : Dict Int (Finset Int)
  panicAccounts : Finset Int
  managedPositions : Dict (Int × ℕ) SnapshotManagedPosition
  exchPositions : Dict (Int × ℕ) ExchPositionSnapshot
  exchBalances : Dict (Int × ℕ) ExchBalanceSnapshot
  unknownExchPositions : List ExchPositionSnapshot
  unknownExchBalances : List ExchBalanceSnapshot
  managedPositionIdsByAccount : Dict Int (List ℕ)
  exchPositionIdsByAccount : Dict Int (List ℕ)
  balanceAssetIdsByAccount : Dict Int (List ℕ)
  orderIdsByExchRef : Dict String (List Int)
  seq : ℕ
  snapshotTsMs : Int

/-- `build_account_index`: the second components of the keys, by account. -/
def buildAccountIndex {V : Type} (m : Dict (Int × ℕ) V) : Dict Int (List ℕ) :=
  m.keys.foldl (fun idx k => idx.insert k.1 (idx.getD k.1 [] ++ [k.2])) ∅

def buildExchRefIndex (orders : Dict Int SnapshotOrder) : Dict String (List Int) :=
  orders.entries.foldl
    (fun idx e =>
      match e.2.exchOrderRef with
      | some ref => idx.insert ref (idx.getD ref [] ++ [e.1])
      | none => idx) ∅

/-- `OmsSnapshotWriterV2`. -/
structure OmsSnapshotWriterV2 where
  orders : Dict Int SnapshotOrder := ∅
  orderDetails : Dict Int SnapshotOrderDetail := ∅
  openByAccount : Dict Int (Finset Int) := ∅
  panicAccounts : Finset Int := ∅
  metadata : SnapshotMetadata
  seq : ℕ := 0

namespace OmsSnapshotWriterV2

variable (w : OmsSnapshotWriterV2)

def updateMetadata (metadata : SnapshotMetadata) : OmsSnapshotWriterV2 :=
  { w with metadata }

/-- `apply_order_update`.  Whether the order counts as open is the caller's word. -/
def applyOrderUpdate (o : SnapshotOrder) (setClosed : Bool) : OmsSnapshotWriterV2 :=
  let openSet := w.openByAccount.getD o.accountId ∅
  { w with
    orders := w.orders.insert o.orderId o
    openByAccount := w.openByAccount.insert o.accountId
      (if setClosed then openSet.erase o.orderId else insert o.orderId openSet) }

def applyOrderDetail (detail : SnapshotOrderDetail) : OmsSnapshotWriterV2 :=
  { w with orderDetails := w.orderDetails.insert detail.orderId detail }

def applyPanic (accountId : Int) : OmsSnapshotWriterV2 :=
  { w with panicAccounts := insert accountId w.panicAccounts }

def applyClearPanic (accountId : Int) : OmsSnapshotWriterV2 :=
  { w with panicAccounts := w.panicAccounts.erase accountId }

/-- `publish`: the next snapshot, and the writer with its sequence number raised. -/
def publish (managedPositions : Dict (Int × ℕ) SnapshotManagedPosition)
    (exchPositions : Dict (Int × ℕ) ExchPositionSnapshot)
    (exchBalances : Dict (Int × ℕ) ExchBalanceSnapshot)
    (unknownExchPositions : List ExchPositionSnapshot)
    (unknownExchBalances : List ExchBalanceSnapshot) (tsMs : Int) :
    OmsSnapshotWriterV2 × OmsSnapshotV2 :=
  ({ w with seq := w.seq + 1 },
   { metadata := w.metadata, orders := w.orders, orderDetails := w.orderDetails,
     openOrderIdsByAccount := w.openByAccount, panicAccounts := w.panicAccounts,
     managedPositions, exchPositions, exchBalances, unknownExchPositions, unknownExchBalances,
     managedPositionIdsByAccount := buildAccountIndex managedPositions,
     exchPositionIdsByAccount := buildAccountIndex exchPositions,
     balanceAssetIdsByAccount := buildAccountIndex exchBalances,
     orderIdsByExchRef := buildExchRefIndex w.orders,
     seq := w.seq + 1, snapshotTsMs := tsMs })

end OmsSnapshotWriterV2

end Zkbot
