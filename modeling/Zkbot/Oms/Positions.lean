import Zkbot.Oms.Models
import Mathlib.Tactic.Linarith

/-!
# Position store

`position_v2.rs`: managed positions and the exchange's snapshots, both keyed by
`(account, instrument id)`.  A position is stored as a magnitude with a direction flag;
`applyDelta` is handed signed changes and flips the flag when the magnitude turns negative.
-/

namespace Zkbot

open AList ManagedPositionV2

/-- `ManagedPositionV2::new`. -/
def ManagedPositionV2.new (accountId : Int) (instrumentId : ℕ) (instrumentType : InstrumentType)
    (isShort : Bool) : ManagedPositionV2 :=
  { accountId, instrumentId, instrumentType, isShort }

structure PositionStoreV2 where
  managed : Dict (Int × ℕ) ManagedPositionV2 := ∅
  exch : Dict (Int × ℕ) ExchPositionSnapshot := ∅

/-- Consecutive divergences before a position counts as persistently diverged. -/
def reconcilePersistentThreshold : ℕ := 3

/-- The body of `check_and_freeze`, on the position itself: move `qty` from available to frozen. -/
def ManagedPositionV2.freeze (pos : ManagedPositionV2) (qty : ℚ) : ManagedPositionV2 :=
  { pos with qtyAvailable := pos.qtyAvailable - qty, qtyFrozen := pos.qtyFrozen + qty }

/-- The body of `unfreeze`: move back at most what is frozen. -/
def ManagedPositionV2.unfreeze (pos : ManagedPositionV2) (qty : ℚ) : ManagedPositionV2 :=
  let released := min qty pos.qtyFrozen
  { pos with
    qtyFrozen := pos.qtyFrozen - released
    qtyAvailable := pos.qtyAvailable + released }

/-- The body of `apply_delta`. -/
def ManagedPositionV2.applyDelta (pos : ManagedPositionV2) (delta : PositionDeltaV2) (ts : Int) :
    ManagedPositionV2 :=
  let total := pos.qtyTotal + delta.totalChange
  let frozen := max (pos.qtyFrozen + delta.frozenChange) 0
  -- clamp available to total
  let newAvail := pos.qtyAvailable + delta.availChange
  let avail := if newAvail > total then total else newAvail
  -- handle sign flip: a negative total flips long and short
  if total < 0 then
    { pos with qtyTotal := |total|, qtyFrozen := frozen, qtyAvailable := |avail|,
               isShort := !pos.isShort, lastLocalUpdateTs := ts }
  else
    { pos with qtyTotal := total, qtyFrozen := frozen, qtyAvailable := avail,
               lastLocalUpdateTs := ts }

lemma ManagedPositionV2.qtyFrozen_applyDelta (p : ManagedPositionV2) (d : PositionDeltaV2)
    (ts : Int) : (p.applyDelta d ts).qtyFrozen = max (p.qtyFrozen + d.frozenChange) 0 := by
  simp only [applyDelta]
  split_ifs <;> rfl

/-- The body of `update_reconcile_status`. -/
def ManagedPositionV2.updateReconcile (pos : ManagedPositionV2) (exchQty : Option ℚ) (ts : Int) :
    ManagedPositionV2 :=
  let pos := { pos with lastExchQty := exchQty.getD 0 }
  let diff := |pos.qtyTotal - pos.lastExchQty|
  if diff < 1 / 10 ^ 9 then
    { pos with reconcileStatus := .inSync, firstDivergedTs := 0, divergenceCount := 0 }
  else if pos.reconcileStatus = .inSync ∨ pos.reconcileStatus = .unknown then
    { pos with reconcileStatus := .divergedTransient, firstDivergedTs := ts, divergenceCount := 1 }
  else
    let count := pos.divergenceCount + 1
    { pos with
      divergenceCount := count
      reconcileStatus :=
        if reconcilePersistentThreshold ≤ count then .divergedPersistent else pos.reconcileStatus }

namespace PositionStoreV2

variable {s : PositionStoreV2}

section

variable (s : PositionStoreV2)

def getPosition (accountId : Int) (instrumentId : ℕ) : Option ManagedPositionV2 :=
  s.managed.lookup (accountId, instrumentId)

/-- The position at a key, or the default that `entry(..).or_insert_with(..)` would insert. -/
def positionOr (accountId : Int) (instrumentId : ℕ)
    (instrumentType : InstrumentType) (isShort : Bool) : ManagedPositionV2 :=
  s.managed.getD (accountId, instrumentId) (new accountId instrumentId instrumentType isShort)

def getPositionsForAccount (accountId : Int) : List ManagedPositionV2 :=
  (s.managed.entries.filter fun e => e.1.1 = accountId).map fun e => e.2

/-- `check_and_freeze`: reserve inventory for a sell. -/
def checkAndFreeze (accountId : Int) (instrumentId : ℕ) (qty : ℚ)
    (isShort : Bool) : Except String PositionStoreV2 :=
  let avail := ((s.getPosition accountId instrumentId).map (·.qtyAvailable)).getD 0
  if avail < qty then
    .error (s!"Not enough available position for instrument {instrumentId}: "
      ++ s!"need {qty}, have {avail}")
  else
    let pos := s.positionOr accountId instrumentId .unspecified isShort
    .ok { s with managed := s.managed.insert (accountId, instrumentId) (pos.freeze qty) }

/-- `unfreeze`: give inventory back.  Without a position there is nothing to do. -/
def unfreeze (accountId : Int) (instrumentId : ℕ) (qty : ℚ) : PositionStoreV2 :=
  { s with managed := s.managed.modify (accountId, instrumentId) (·.unfreeze qty) }

/-- `apply_delta`.  A missing position is created with the direction the delta names. -/
def applyDelta (delta : PositionDeltaV2) (ts : Int) : PositionStoreV2 :=
  let pos := s.positionOr delta.accountId delta.instrumentId .unspecified delta.isShort
  { s with managed := s.managed.insert (delta.accountId, delta.instrumentId)
                        (pos.applyDelta delta ts) }

def updateReconcileStatus (accountId : Int) (instrumentId : ℕ) (ts : Int) : PositionStoreV2 :=
  let exchQty := (s.exch.lookup (accountId, instrumentId)).map (·.positionState.totalQty)
  { s with managed := s.managed.modify (accountId, instrumentId) (·.updateReconcile exchQty ts) }

/-! ## Frozen quantity -/

def frozenAt (accountId : Int) (instrumentId : ℕ) : ℚ :=
  ((s.getPosition accountId instrumentId).map (·.qtyFrozen)).getD 0

end

lemma frozenAt_of_lookup {a : Int} {k : ℕ} {p : ManagedPositionV2}
    (h : s.managed.lookup (a, k) = some p) : s.frozenAt a k = p.qtyFrozen := by
  simp [frozenAt, getPosition, h]

lemma qtyFrozen_positionOr (s : PositionStoreV2) (a : Int) (k : ℕ) (t : InstrumentType)
    (b : Bool) : (s.positionOr a k t b).qtyFrozen = s.frozenAt a k := by
  cases h : s.managed.lookup (a, k) with
  | none => simp [positionOr, Dict.getD, frozenAt, getPosition, h, new]
  | some p => simp [positionOr, Dict.getD, frozenAt, getPosition, h]

lemma frozenAt_applyDelta (s : PositionStoreV2) (d : PositionDeltaV2) (ts : Int) (a : Int)
    (k : ℕ) :
    (s.applyDelta d ts).frozenAt a k =
      if (a, k) = (d.accountId, d.instrumentId) then max (s.frozenAt a k + d.frozenChange) 0
      else s.frozenAt a k := by
  split_ifs with h
  · obtain ⟨rfl, rfl⟩ := Prod.mk.inj h
    rw [frozenAt_of_lookup (s := s.applyDelta d ts) (lookup_insert _),
      qtyFrozen_applyDelta, qtyFrozen_positionOr]
  · simp [frozenAt, getPosition, applyDelta, lookup_insert_ne h]

lemma frozenAt_unfreeze (s : PositionStoreV2) {q : ℚ} (hq : 0 ≤ q) (b : Int) (j : ℕ) (a : Int)
    (k : ℕ) :
    (s.unfreeze b j q).frozenAt a k =
      if (a, k) = (b, j) then s.frozenAt a k - min q (s.frozenAt a k) else s.frozenAt a k := by
  split_ifs with h
  · obtain ⟨rfl, rfl⟩ := Prod.mk.inj h
    simp only [frozenAt, getPosition, unfreeze, Dict.lookup_modify_self]
    cases s.managed.lookup (a, k) with
    | none => simp [hq]
    | some p => simp [ManagedPositionV2.unfreeze]
  · simp [frozenAt, getPosition, unfreeze, Dict.lookup_modify_ne h]

lemma frozenAt_checkAndFreeze {s' : PositionStoreV2} {b : Int} {j : ℕ} {q : ℚ} {sh : Bool}
    (h : s.checkAndFreeze b j q sh = .ok s') (a : Int) (k : ℕ) :
    s'.frozenAt a k = if (a, k) = (b, j) then s.frozenAt a k + q else s.frozenAt a k := by
  simp only [checkAndFreeze] at h
  split_ifs at h with hav
  cases h
  split_ifs with hk
  · obtain ⟨rfl, rfl⟩ := Prod.mk.inj hk
    rw [frozenAt_of_lookup (lookup_insert _)]
    simp [freeze, qtyFrozen_positionOr]
  · simp [frozenAt, getPosition, lookup_insert_ne hk]

end PositionStoreV2

end Zkbot
