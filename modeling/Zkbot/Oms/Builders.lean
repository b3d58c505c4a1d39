import Zkbot.Oms.Reports

/-!
# What is published and persisted of a position

`build_position_update_event` and the `PersistPosition` arm of `materialize_action`
(`oms_core_v2.rs`), and `build_persist_position` of the service (`oms_actor.rs`).  All three turn
the integer in a position back into an instrument code by reading it as an index of the instrument
table.

`str_resolve` panics on an unknown symbol; a function that calls it is an `Option` here.
-/

namespace Zkbot

structure PositionUpdateEvent where
  accountId : Int
  positionSnapshots : List Position
  timestamp : Int
  deriving DecidableEq

/-- `OmsAction::PersistPosition` of the core and `PersistAction::Position` of the service. -/
structure PersistPosition where
  accountId : Int
  instrumentCode : String
  side : String
  position : OmsManagedPosition
  deriving DecidableEq

/-- `OrderUpdateEvent`.  The two gateway time stamps are set by the service. -/
structure OrderUpdateEvent where
  orderId : Int
  accountId : Int
  timestamp : Int
  orderSnapshot : Option Order
  orderSourceId : String
  lastTrade : Option Trade
  lastFee : Option Fee
  execMessage : Option ExecMessage
  orderInferredTrade : Option Trade
  deriving DecidableEq

structure BalanceUpdateEvent where
  accountId : Int
  balanceSnapshots : List Balance
  timestamp : Int
  deriving DecidableEq

/-- `OmsAction`.  The two batch actions are left out: no action of `OmsCoreV2` becomes one, and the
sends of a batch of `OmsCore` are listed one by one. -/
inductive OmsAction where
  | sendOrderToGw (gwKey : String) (request : SendOrderRequest) (orderId orderCreatedAt : Int)
  | sendCancelToGw (gwKey : String) (request : CancelOrderRequest)
  | publishOrderUpdate (event : OrderUpdateEvent)
  | publishBalanceUpdate (event : BalanceUpdateEvent)
  | publishPositionUpdate (event : PositionUpdateEvent)
  | persistOrder (order : OmsOrder) (setExpire setClosed : Bool)
  | persistBalance (accountId : Int) (asset : String) (snapshot : ExchBalanceSnapshot)
  | persistPosition (position : PersistPosition)

/-- The persisted form of a managed position. -/
def ManagedPositionV2.persisted (p : ManagedPositionV2) (instrumentCode : String) :
    OmsManagedPosition :=
  { accountId := p.accountId, instrumentCode, symbolExch := none,
    instrumentType := p.instrumentType, isShort := p.isShort, qtyTotal := p.qtyTotal,
    qtyFrozen := p.qtyFrozen, qtyAvailable := p.qtyAvailable,
    lastLocalUpdateTs := p.lastLocalUpdateTs, lastExchSyncTs := p.lastExchSyncTs,
    reconcileStatus := p.reconcileStatus, lastExchQty := p.lastExchQty,
    firstDivergedTs := p.firstDivergedTs, divergenceCount := p.divergenceCount }

def sideName (isShort : Bool) : String := if isShort then "SHORT" else "LONG"

namespace OmsCoreV2

def resolveInstrumentCode (s : OmsCoreV2) (instrumentId : ℕ) : Option String :=
  instrumentCode s.metadata instrumentId

def positionSnapshot (s : OmsCoreV2) (p : ManagedPositionV2) : Option Position := do
  let instrumentCode ← instrumentCode s.metadata p.instrumentId
  some { accountId := p.accountId, instrumentCode, instrumentType := p.instrumentType,
         longShortType := if p.isShort then .short else .long, totalQty := p.qtyTotal,
         frozenQty := p.qtyFrozen, availQty := p.qtyAvailable,
         updateTimestamp := p.lastLocalUpdateTs, syncTimestamp := p.lastExchSyncTs }

/-- `build_position_update_event`; the source always returns an event. -/
def buildPositionUpdateEvent (s : OmsCoreV2) (now accountId : Int) :
    Option PositionUpdateEvent := do
  let positionSnapshots ← (s.positions.getPositionsForAccount accountId).mapM s.positionSnapshot
  some { accountId, positionSnapshots, timestamp := if s.useTimeEmulation then 0 else now }

/-- `materialize_action` on a `PersistPosition`. -/
def materializePersistPosition (s : OmsCoreV2) (accountId : Int) (instrumentId : ℕ) :
    Option PersistPosition := do
  let instCode ← instrumentCode s.metadata instrumentId
  let managedPos :=
    ((s.positions.getPosition accountId instrumentId).map (·.persisted instCode)).getD
      { accountId := 0, instrumentCode := "", instrumentType := .unspecified, isShort := false }
  some { accountId, instrumentCode := instCode, side := sideName managedPos.isShort,
         position := managedPos }

/-- `build_persist_position`: nothing is persisted where there is no position. -/
def buildPersistPosition (s : OmsCoreV2) (accountId : Int) (instrumentId : ℕ) :
    Option (Option PersistPosition) := do
  let instCode ← s.resolveInstrumentCode instrumentId
  some ((s.positions.getPosition accountId instrumentId).map fun pos =>
    { accountId, instrumentCode := instCode, side := sideName pos.isShort,
      position := pos.persisted instCode })

end OmsCoreV2

end Zkbot
