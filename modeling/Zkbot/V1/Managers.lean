import Zkbot.Oms.Builders

/-!
# The managers of the first core

`position_mgr.rs`, `reservation_mgr.rs` and `balance_mgr.rs`, which `OmsCore` is built from.  They
key their records by strings, where the stores of `OmsCoreV2` use interned ids.

A map of maps is one map keyed by pairs.  The tables that the managers copy out of the config
(exchange symbols of an account, accounts of an exchange account) are read off the config instead:
every reload replaces the copies together with the config.
-/

namespace Zkbot

/-- `Reservation`: a hold against cash or inventory. -/
structure Reservation where
  orderId : Int
  accountId : Int
  symbol : String
  reservedQty : ℚ
  isPosition : Bool
  deriving DecidableEq

/-- `PositionDelta`: what a fill does to a position. -/
structure PositionDelta where
  accountId : Int
  instrumentCode : String
  isShort : Bool
  availChange : ℚ
  frozenChange : ℚ
  totalChange : ℚ
  deriving DecidableEq

/-! ## `position_mgr.rs` -/

namespace OmsManagedPosition

def new (accountId : Int) (instrumentCode : String) (instrumentType : InstrumentType)
    (isShort : Bool) : OmsManagedPosition :=
  { accountId, instrumentCode, instrumentType, isShort }

section

variable (p : OmsManagedPosition)

def toProto : Position :=
  { accountId := p.accountId, instrumentCode := p.instrumentCode
    instrumentType := p.instrumentType, longShortType := if p.isShort then .short else .long
    totalQty := p.qtyTotal, frozenQty := p.qtyFrozen, availQty := p.qtyAvailable
    updateTimestamp := p.lastLocalUpdateTs, syncTimestamp := p.lastExchSyncTs }

/-- The body of `check_and_freeze`. -/
def freeze (qty : ℚ) : OmsManagedPosition :=
  { p with qtyAvailable := p.qtyAvailable - qty, qtyFrozen := p.qtyFrozen + qty }

/-- The body of `unfreeze`. -/
def unfreeze (qty : ℚ) : OmsManagedPosition :=
  let release := min qty p.qtyFrozen
  { p with qtyFrozen := p.qtyFrozen - release, qtyAvailable := p.qtyAvailable + release }

/-- The body of `apply_delta`. -/
def applyDelta (delta : PositionDelta) (ts : Int) : OmsManagedPosition :=
  let total := p.qtyTotal + delta.totalChange
  let frozen := max (p.qtyFrozen + delta.frozenChange) 0
  -- clamp available to total
  let newAvail := p.qtyAvailable + delta.availChange
  let avail := if newAvail > total then total else newAvail
  -- handle sign flip: a negative total flips long and short
  if total < 0 then
    { p with qtyTotal := |total|, qtyFrozen := frozen, qtyAvailable := |avail|
             isShort := !p.isShort, lastLocalUpdateTs := ts }
  else
    { p with qtyTotal := total, qtyFrozen := frozen, qtyAvailable := avail
             lastLocalUpdateTs := ts }

def seed (entry : PositionReport) (ts : Int) : OmsManagedPosition :=
  { p with
    qtyTotal := entry.qty
    qtyAvailable := entry.availQty
    qtyFrozen := entry.qty - entry.availQty
    isShort := decide (entry.longShortType = .short)
    symbolExch := some entry.instrumentCode
    lastExchSyncTs := ts }

/-- The body of `update_reconcile_status`. -/
def updateReconcile (exchQty : Option ℚ) (ts : Int) : OmsManagedPosition :=
  let p := { p with lastExchQty := exchQty.getD 0 }
  let diff := |p.qtyTotal - p.lastExchQty|
  if diff < 1 / 10 ^ 9 then
    { p with reconcileStatus := .inSync, firstDivergedTs := 0, divergenceCount := 0 }
  else if p.reconcileStatus = .inSync ∨ p.reconcileStatus = .unknown then
    { p with reconcileStatus := .divergedTransient, firstDivergedTs := ts, divergenceCount := 1 }
  else
    let count := p.divergenceCount + 1
    { p with
      divergenceCount := count
      reconcileStatus :=
        if reconcilePersistentThreshold ≤ count then .divergedPersistent else p.reconcileStatus }

end

end OmsManagedPosition

structure PositionManager where
  managed : Dict (Int × String) OmsManagedPosition := ∅
  exch : Dict (Int × String) ExchPositionSnapshot := ∅

/-- `refdata_by_account_id`: the instrument that an exchange symbol stands for on the gateway of an
account.  Of several the last one entered counts. -/
def ConfdataManager.refdataByAccount (config : ConfdataManager) (accountId : Int)
    (exchSymbol : String) : Option InstrumentRefData := do
  let route ← config.accountRoutes.lookup accountId
  (config.refdata.entries.map fun e => e.2).reverse.find? fun r =>
    decide (r.instrumentIdExchange = exchSymbol) &&
      decide (route.gwKey ∈ config.exchNameToGwKeys.getD r.exchangeName.toUpper [])

namespace PositionManager

variable (m : PositionManager)

def initPositions (positions : List OmsManagedPosition) : PositionManager :=
  { m with
    managed := positions.foldl (fun d p => d.insert (p.accountId, p.instrumentCode) p) m.managed }

def getPosition (accountId : Int) (instrumentCode : String) : Option OmsManagedPosition :=
  m.managed.lookup (accountId, instrumentCode)

def getPositionsForAccount (accountId : Int) : List OmsManagedPosition :=
  (m.managed.entries.filter fun e => e.1.1 = accountId).map fun e => e.2

def checkAndFreeze (accountId : Int) (instrumentCode : String) (qty : ℚ)
    (isShort : Bool) : Except String PositionManager :=
  let avail := ((m.getPosition accountId instrumentCode).map (·.qtyAvailable)).getD 0
  if avail < qty then
    .error s!"Not enough available position for {instrumentCode}: need {qty}, have {avail}"
  else
    let pos := m.managed.getD (accountId, instrumentCode)
      (.new accountId instrumentCode .unspecified isShort)
    .ok { m with managed := m.managed.insert (accountId, instrumentCode) (pos.freeze qty) }

def unfreeze (accountId : Int) (instrumentCode : String) (qty : ℚ) : PositionManager :=
  { m with managed := m.managed.modify (accountId, instrumentCode) (·.unfreeze qty) }

def applyDelta (delta : PositionDelta) (ts : Int) : PositionManager :=
  let pos := m.managed.getD (delta.accountId, delta.instrumentCode)
    (.new delta.accountId delta.instrumentCode .unspecified delta.isShort)
  { m with managed := m.managed.insert (delta.accountId, delta.instrumentCode)
                        (pos.applyDelta delta ts) }

def exchSnapshot (accountId : Int) (symbol : String) (entry : PositionReport)
    (ts : Int) : ExchPositionSnapshot :=
  let old := m.exch.getD (accountId, symbol)
    { accountId, instrumentCode := symbol, symbolExch := some entry.instrumentCode
      positionState := {}, exchDataRaw := "", syncTs := 0 }
  { old with
    symbolExch := some entry.instrumentCode
    positionState :=
      { accountId, instrumentCode := symbol, totalQty := entry.qty, availQty := entry.availQty
        frozenQty := entry.qty - entry.availQty, longShortType := entry.longShortType
        instrumentType := entry.instrumentType, updateTimestamp := entry.updateTimestamp
        syncTimestamp := ts }
    exchDataRaw := entry.messageRaw
    syncTs := ts }

def updateReconcileStatus (accountId : Int) (instrumentCode : String)
    (ts : Int) : PositionManager :=
  let exchQty := (m.exch.lookup (accountId, instrumentCode)).map (·.positionState.totalQty)
  { m with managed := m.managed.modify (accountId, instrumentCode) (·.updateReconcile exchQty ts) }

/-- One entry of `merge_gw_position_entries`.  `noManaged` says that the account had no position
before the first of them. -/
def mergeGwPositionEntry (config : ConfdataManager) (accountId ts : Int) (noManaged : Bool)
    (m : PositionManager) (entry : PositionReport) : PositionManager :=
  match config.refdataByAccount accountId entry.instrumentCode with
  | none => m
  | some refData =>
    let symbol := refData.instrumentId
    let m := { m with
      exch := m.exch.insert (accountId, symbol) (m.exchSnapshot accountId symbol entry ts) }
    let managedSyncTs := (m.getPosition accountId symbol).map (·.lastExchSyncTs)
    let shouldSeed := noManaged || (managedSyncTs.map (decide <| · = 0)).getD true
    let m :=
      if shouldSeed then
        let pos := m.managed.getD (accountId, symbol)
          (.new accountId symbol entry.instrumentType (decide (entry.longShortType = .short)))
        { m with managed := m.managed.insert (accountId, symbol) (pos.seed entry ts) }
      else m
    m.updateReconcileStatus accountId symbol ts

def mergeGwPositionEntries (config : ConfdataManager) (m : PositionManager)
    (entries : List PositionReport) (accountId ts : Int) : PositionManager :=
  let noManaged := (m.getPositionsForAccount accountId).isEmpty
  entries.foldl (mergeGwPositionEntry config accountId ts noManaged) m

def buildPositionSnapshot (accountId ts : Int) : PositionUpdateEvent :=
  { accountId, positionSnapshots := (m.getPositionsForAccount accountId).map (·.toProto)
    timestamp := ts }

end PositionManager

/-! ## `reservation_mgr.rs` -/

structure ReservationManager where
  reservations : Dict Int Reservation := ∅
  accountTotals : Dict (Int × String) ℚ := ∅

namespace ReservationManager

variable (m : ReservationManager)

/-- `reserve`.  A second reservation for the same order is refused. -/
def reserve (orderId accountId : Int) (symbol : String) (qty : ℚ)
    (isPosition : Bool) : Except String ReservationManager :=
  if orderId ∈ m.reservations then .error s!"reservation already exists for order {orderId}"
  else
    .ok { reservations := m.reservations.insert orderId
            { orderId, accountId, symbol, reservedQty := qty, isPosition }
          accountTotals := m.accountTotals.insert (accountId, symbol)
            (m.accountTotals.getD (accountId, symbol) 0 + qty) }

/-- A reservation whose refusal is ignored: `reserve(..).ok()`. -/
def tryReserve (orderId accountId : Int) (symbol : String) (qty : ℚ)
    (isPosition : Bool) : ReservationManager :=
  match m.reserve orderId accountId symbol qty isPosition with
  | .ok m' => m'
  | .error _ => m

/-- A running total after `amount` has been taken out of it. -/
def lowerTotal (totals : Dict (Int × String) ℚ) (key : Int × String) (amount : ℚ) :
    Dict (Int × String) ℚ :=
  match totals.lookup key with
  | none => totals
  | some total =>
    if total - amount ≤ 0 then totals.erase key else totals.insert key (total - amount)

def release (orderId : Int) : ReservationManager :=
  match m.reservations.lookup orderId with
  | none => m
  | some res =>
    { reservations := m.reservations.erase orderId
      accountTotals := lowerTotal m.accountTotals (res.accountId, res.symbol) res.reservedQty }

def releasePartial (orderId : Int) (filledQty : ℚ) : ReservationManager :=
  match m.reservations.lookup orderId with
  | none => m
  | some res =>
    let released := min filledQty res.reservedQty
    let left := res.reservedQty - released
    { reservations :=
        if left ≤ 0 then m.reservations.erase orderId
        else m.reservations.insert orderId { res with reservedQty := left }
      accountTotals := lowerTotal m.accountTotals (res.accountId, res.symbol) released }

def totalReserved (accountId : Int) (symbol : String) : ℚ :=
  m.accountTotals.getD (accountId, symbol) 0

def checkAvailable (accountId : Int) (symbol : String)
    (required available : ℚ) : Except String Unit :=
  let reserved := m.totalReserved accountId symbol
  let effective := available - reserved
  if effective < required then
    .error (s!"Not enough available balance for {symbol}: need {required}, have {effective} "
      ++ s!"(available {available} - reserved {reserved})")
  else .ok ()

end ReservationManager

/-! ## `balance_mgr.rs` -/

structure BalanceManager where
  exchBalances : Dict (Int × String) ExchBalanceSnapshot := ∅

namespace BalanceManager

def initBalances (m : BalanceManager) (balances : List ExchBalanceSnapshot) : BalanceManager :=
  { m with
    exchBalances := balances.foldl (fun d b => d.insert (b.accountId, b.asset) b) m.exchBalances }

def getBalance (m : BalanceManager) (accountId : Int) (asset : String) :
    Option ExchBalanceSnapshot :=
  m.exchBalances.lookup (accountId, asset)

/-- `resolve_account_id`, through the reverse map of the routes. -/
def resolveAccountId (config : ConfdataManager) (exchAccountCode : String) : Option Int :=
  let reverse := Dict.collectBy (·.exchAccountId) (config.accountRoutes.entries.map fun e => e.2)
  (reverse.lookup exchAccountCode).map (·.accountId)

/-- One entry of `merge_gw_balance_entries`. -/
def mergeGwBalanceEntry (accountId ts : Int) (m : BalanceManager) (entry : PositionReport) :
    BalanceManager :=
  let asset := entry.instrumentCode
  let old := m.exchBalances.getD (accountId, asset)
    { accountId, asset, symbolExch := some entry.instrumentCode, balanceState := {} }
  { m with
    exchBalances := m.exchBalances.insert (accountId, asset)
      { old with
        symbolExch := some entry.instrumentCode
        balanceState :=
          { accountId, asset, totalQty := entry.qty, availQty := entry.availQty
            frozenQty := entry.qty - entry.availQty, updateTimestamp := entry.updateTimestamp
            syncTimestamp := ts, isFromExch := true, exchDataRaw := entry.messageRaw }
        exchDataRaw := entry.messageRaw
        syncTs := ts } }

def mergeGwBalanceEntries (m : BalanceManager) (entries : List PositionReport)
    (accountId ts : Int) : BalanceManager :=
  entries.foldl (mergeGwBalanceEntry accountId ts) m

def buildBalanceSnapshot (m : BalanceManager) (accountId ts : Int) : BalanceUpdateEvent :=
  { accountId
    balanceSnapshots :=
      (m.exchBalances.entries.filter fun e => e.1.1 = accountId).map fun e => e.2.balanceState
    timestamp := ts }

end BalanceManager

end Zkbot
