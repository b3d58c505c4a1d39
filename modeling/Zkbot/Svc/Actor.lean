import Zkbot.Oms.Actions
import Zkbot.Svc.Snapshot

/-!
# The writer of the service

`process_command` of `oms_actor.rs`, and the part of `main.rs` that builds the first snapshot.  One
writer owns the core: it hands a command to the core, carries out the actions that come back, and
publishes a snapshot for the readers.

* `dispatchAction` — one action.  A request that the gateway queue does not take fails at once: the
  core handles the failure between two actions, and the actions that come of it are carried out
  after all others.
* `publishSnapshot` — positions and balances are rebuilt only if an action has raised their flag;
  otherwise they are copied from the snapshot before.
* `processCommand`, `launch` — a command, and the start of the service.

What only goes out (events, Redis writes, gateway requests, replies) is left out: nothing comes back
from it into the state of the writer.  The answer of the gateway queue does, and is part of the
*delivery* of a command, like the readings of the clock.  `OrderReconcile`, `GatewayDiscovered` and
`GatewayRemoved` are not handled by `process_command`.
-/

namespace Zkbot

/-- `OmsCommand`, without reply channels. -/
inductive OmsCommand where
  | placeOrder (req : OrderRequest)
  | batchPlaceOrders (reqs : List OrderRequest)
  | cancelOrder (req : OrderCancelRequest)
  | batchCancelOrders (reqs : List OrderCancelRequest)
  | gatewayOrderReport (report : OrderReport)
  | gatewayBalanceUpdate (update : BalanceUpdate)
  | panic (accountId : Int)
  | dontPanic (accountId : Int)
  | reloadConfig (newConfig : Confdata)
  | cleanup (tsMs : Int)
  | recheckOrder
  | recheckCancel
  | positionRecheck
  | orderReconcile
  | gatewayDiscovered
  | gatewayRemoved
  | gatewaySendFailed (orderId : Int) (gwId : ℕ) (errorMsg : String)
  | gatewayCancelSendFailed (orderId : Int) (gwId : ℕ) (errorMsg : String)

def OmsCommand.message : OmsCommand → Option OmsMessage
  | .placeOrder req => some (.placeOrder req)
  | .batchPlaceOrders reqs => some (.batchPlaceOrders reqs)
  | .cancelOrder req => some (.cancelOrder req)
  | .batchCancelOrders reqs => some (.batchCancelOrders reqs)
  | .gatewayOrderReport report => some (.gatewayOrderReport report)
  | .gatewayBalanceUpdate update => some (.balanceUpdate update)
  | .panic accountId => some (.panic accountId)
  | .dontPanic accountId => some (.dontPanic accountId)
  | .reloadConfig _ => none
  | .cleanup tsMs => some (.cleanup tsMs)
  | .recheckOrder => some .recheckOrder
  | .recheckCancel => some .recheckCancel
  | .positionRecheck => some .positionRecheck
  | .orderReconcile | .gatewayDiscovered | .gatewayRemoved => none
  | .gatewaySendFailed orderId gwId errorMsg => some (.gatewaySendFailed orderId gwId errorMsg)
  | .gatewayCancelSendFailed orderId gwId errorMsg =>
    some (.gatewayCancelSendFailed orderId gwId errorMsg)

/-- A command as it reaches the writer. -/
structure Delivery where
  command : OmsCommand
  /-- the clock when the core handles the command -/
  now : Int := 0
  /-- the queue's answer to the action at this position: `some now` if it is full, with the clock
  when the core handles the failure -/
  queueFull : ℕ → Option Int := fun _ => none
  /-- the clock when the snapshot is published -/
  publishedAt : Int := 0

/-- The state of the writer, and the snapshot that readers see. -/
structure OmsService where
  core : OmsCoreV2
  writer : OmsSnapshotWriterV2
  replica : OmsSnapshotV2

namespace OmsService

/-! ## Actions -/

/-- The snapshot part of a `PersistOrder` action: an order that is gone by now is skipped. -/
def persistOrder (core : OmsCoreV2) (w : OmsSnapshotWriterV2) (orderId : Int) (setClosed : Bool) :
    Option OmsSnapshotWriterV2 :=
  match core.orders.live.lookup orderId with
  | none => some w
  | some live => do
      let snapOrder ← buildSnapshotOrderFromLive live core.orders.dynStrings
      let w := w.applyOrderUpdate snapOrder setClosed
      match core.orders.detail.lookup orderId with
      | none => some w
      | some detail => do
          let snapDetail ← buildSnapshotDetailFromCore orderId live detail core.metadata
            core.orders.dynStrings
          some (w.applyOrderDetail snapDetail)

/-- What the loop over the actions of a command carries along. -/
structure Dispatch where
  core : OmsCoreV2
  writer : OmsSnapshotWriterV2
  failureActions : List OmsActionV2 := []
  balancesDirty : Bool := false
  positionsDirty : Bool := false

/-- The message that a full queue makes of an action that sends something. -/
def failureOp (full : ℕ → Option Int) (a : OmsActionV2 × ℕ) : Option Op :=
  match a.1 with
  | .sendOrderToGw _ orderId _ =>
    (full a.2).map fun now => .sendFailed now orderId "dispatch queue full"
  | .sendCancelToGw _ orderId =>
    (full a.2).map fun now => .cancelSendFailed now orderId "dispatch queue full"
  | _ => none

/-- One turn of the loop over the actions. -/
def dispatchAction (full : ℕ → Option Int) (x : Dispatch) (a : OmsActionV2 × ℕ) : Option Dispatch :=
  match a.1 with
  | .persistOrder orderId _ setClosed => do
      let writer ← persistOrder x.core x.writer orderId setClosed
      some { x with writer }
  | .sendOrderToGw gwId orderId _ =>
    match full a.2 with
    | none => some x
    | some now => do
        let (core, actions) ← x.core.processMessage now
          (.gatewaySendFailed orderId gwId "dispatch queue full")
        some { x with core, failureActions := x.failureActions ++ actions }
  | .sendCancelToGw gwId orderId =>
    match full a.2 with
    | none => some x
    | some now => do
        let (core, actions) ← x.core.processMessage now
          (.gatewayCancelSendFailed orderId gwId "dispatch queue full")
        some { x with core, failureActions := x.failureActions ++ actions }
  | .publishBalanceUpdate _ => some { x with balancesDirty := true }
  | .publishPositionUpdate _ => some { x with positionsDirty := true }
  | .persistBalance _ _ | .persistPosition _ _ | .publishOrderUpdate .. => some x

/-- One turn of the loop over the actions of inline failures. -/
def dispatchFailureAction (x : Dispatch) (a : OmsActionV2) : Option Dispatch :=
  match a with
  | .persistOrder orderId _ setClosed => do
      let writer ← persistOrder x.core x.writer orderId setClosed
      some { x with writer }
  | .publishBalanceUpdate _ => some { x with balancesDirty := true }
  | _ => some x

/-! ## Commands -/

def publishSnapshot (core : OmsCoreV2) (w : OmsSnapshotWriterV2) (prev : OmsSnapshotV2)
    (balancesDirty positionsDirty : Bool) (tsMs : Int) : OmsSnapshotWriterV2 × OmsSnapshotV2 :=
  let managed := if positionsDirty then core.buildManagedPositions else prev.managedPositions
  let exchPos := if positionsDirty then core.buildExchPositions
    else (prev.exchPositions, prev.unknownExchPositions)
  let exchBal := if balancesDirty then core.buildExchBalances
    else (prev.exchBalances, prev.unknownExchBalances)
  w.publish managed exchPos.1 exchBal.1 exchPos.2 exchBal.2 tsMs

/-- The panic set of the writer, which is updated before the core is asked. -/
def panicUpdate (w : OmsSnapshotWriterV2) : OmsCommand → OmsSnapshotWriterV2
  | .panic accountId => w.applyPanic accountId
  | .dontPanic accountId => w.applyClearPanic accountId
  | _ => w

/-- The service after its core has been driven and a snapshot has been published. -/
def published (x : OmsService) (y : Dispatch) (tsMs : Int) : OmsService :=
  let p := publishSnapshot y.core y.writer x.replica y.balancesDirty y.positionsDirty tsMs
  { core := y.core, writer := p.1, replica := p.2 }

def processMessageCommand (x : OmsService) (d : Delivery) (msg : OmsMessage) :
    Option OmsService := do
  let (core, actions) ← x.core.processMessage d.now msg
  let y ← actions.zipIdx.foldlM (dispatchAction d.queueFull)
    { core, writer := panicUpdate x.writer d.command }
  let z ← y.failureActions.foldlM dispatchFailureAction y
  some (x.published z d.publishedAt)

def processCommand (x : OmsService) (d : Delivery) : Option OmsService :=
  match d.command with
  | .reloadConfig newConfig => do
      let core ← x.core.reloadConfig newConfig.toConfdataManager
      let newSnapMeta ← core.buildSnapshotMetadata
      some (x.published
        { core, writer := x.writer.updateMetadata newSnapMeta, balancesDirty := true,
          positionsDirty := true } d.publishedAt)
  | .orderReconcile | .gatewayDiscovered | .gatewayRemoved => some x
  | command => command.message.bind (x.processMessageCommand d)

/-! ## Start -/

def hydrateOrder (core : OmsCoreV2) (w : OmsSnapshotWriterV2) (orderId : Int) :
    Option OmsSnapshotWriterV2 :=
  match core.orders.live.lookup orderId with
  | none => some w
  | some live => persistOrder core w orderId live.isInTerminalState

/-- The first snapshot: every order, all positions and all balances of the core. -/
def launch (core : OmsCoreV2) (tsMs : Int) : Option OmsService := do
  let snapMeta ← core.buildSnapshotMetadata
  let writer ← core.orders.live.keys.foldlM (hydrateOrder core) { metadata := snapMeta }
  let exchPos := core.buildExchPositions
  let exchBal := core.buildExchBalances
  let p := writer.publish core.buildManagedPositions exchPos.1 exchBal.1 exchPos.2 exchBal.2 tsMs
  some { core, writer := p.1, replica := p.2 }

end OmsService

/-- What the service is started with: the arguments of the core, with a configuration as
`ConfdataManager::new` builds it, and what was exchanged with the gateways (balances, positions,
open orders) before the first snapshot. -/
structure ServiceSetup where
  config : Confdata
  core : OmsSetup
  hconfig : core.config = config.toConfdataManager
  reconcile : List (Int × OmsMessage) := []
  launchedAt : Int := 0

def ServiceSetup.start (u : ServiceSetup) : Option OmsService := do
  let core ← run OmsCoreV2.handle u.core.start (u.reconcile.map fun m => OmsEvent.message m.1 m.2)
  OmsService.launch core u.launchedAt

def Sample.service (checked external : Bool) : ServiceSetup where
  config := venue checked
  core := { setup checked external 4 with config := (venue checked).toConfdataManager }
  hconfig := rfl

end Zkbot
