import Zkbot.Core.Run
import Zkbot.Oms.Reports

/-!
# Positions that are backed

A position has a total, an available and a frozen quantity, and what is available or frozen should
be part of the total.  Buys and the fills of a frozen sell keep this, also when they flip the
position.  The fill of a sell that froze nothing lowers the total alone: it keeps it only if nothing
is frozen, or if the total has that much to spare.

* `Backed` — the invariant; `InventoryCall` — the calls on the store.
* `Spares` — the calls that keep it.  `backed_iff_spares` says that these are exactly those that do.
-/

namespace Zkbot

open ManagedPositionV2

/-- A sell for which nothing was frozen, as far as the fill loop can tell. -/
def LiveOrder.sellsUnfrozen (live : LiveOrder) : Bool :=
  live.buySellType ≠ .buy && !live.accountingFlags.balanceCheck

namespace ManagedPositionV2

/-- No quantity is negative, and available and frozen are part of the total. -/
structure Backed (p : ManagedPositionV2) : Prop where
  available : 0 ≤ p.qtyAvailable
  frozen : 0 ≤ p.qtyFrozen
  total : 0 ≤ p.qtyTotal
  parts : p.qtyAvailable + p.qtyFrozen ≤ p.qtyTotal

lemma backed_iff {p : ManagedPositionV2} : p.Backed ↔ 0 ≤ p.qtyAvailable ∧ 0 ≤ p.qtyFrozen ∧
    0 ≤ p.qtyTotal ∧ p.qtyAvailable + p.qtyFrozen ≤ p.qtyTotal :=
  ⟨fun h => ⟨h.available, h.frozen, h.total, h.parts⟩, fun ⟨ha, hf, ht, hp⟩ => ⟨ha, hf, ht, hp⟩⟩

variable {p : ManagedPositionV2}

lemma backed_freeze_iff (h : p.Backed) {q : ℚ} (hq : q ≤ p.qtyAvailable) :
    (p.freeze q).Backed ↔ 0 ≤ p.qtyFrozen + q := by
  obtain ⟨ha, hf, ht, hp⟩ := h
  simp only [backed_iff, freeze]
  constructor
  · exact fun h => h.2.1
  · exact fun h => ⟨by linarith, h, ht, by linarith⟩

lemma backed_unfreeze_iff (h : p.Backed) (q : ℚ) :
    (p.unfreeze q).Backed ↔ 0 ≤ p.qtyAvailable + min q p.qtyFrozen := by
  obtain ⟨ha, hf, ht, hp⟩ := h
  have hle := min_le_right q p.qtyFrozen
  simp only [backed_iff, unfreeze]
  constructor
  · exact fun h => h.1
  · exact fun h => ⟨h, by linarith, ht, by linarith⟩

lemma backed_fill_iff (h : p.Backed) {q : ℚ} (hq : 0 < q) (live : LiveOrder) (posId : ℕ)
    (ts : Int) : (p.applyDelta (OmsCoreV2.fillDelta live posId q) ts).Backed ↔
      (live.sellsUnfrozen → p.qtyFrozen = 0 ∨ p.qtyAvailable + p.qtyFrozen + q ≤ p.qtyTotal) := by
  obtain ⟨ha, hf, ht, hp⟩ := h
  by_cases hbuy : live.buySellType = .buy
  · simp [backed_iff, applyDelta, OmsCoreV2.fillDelta, LiveOrder.sellsUnfrozen, hbuy]
    split_ifs <;> grind
  · -- the total drops, and with it the frozen part if the sell had frozen it
    cases hfroze : live.accountingFlags.balanceCheck <;>
      simp [backed_iff, applyDelta, OmsCoreV2.fillDelta, LiveOrder.sellsUnfrozen, hbuy, hfroze] <;>
      split_ifs <;> grind

end ManagedPositionV2

/-- The calls of `check_and_freeze`, `unfreeze` and, for a fill, `apply_delta`. -/
inductive InventoryCall where
  | freeze (accountId : Int) (instrumentId : ℕ) (qty : ℚ) (isShort : Bool)
  | unfreeze (accountId : Int) (instrumentId : ℕ) (qty : ℚ)
  | fill (live : LiveOrder) (posId : ℕ) (fillQty : ℚ) (ts : Int)

namespace PositionStoreV2

open OmsCoreV2 (fillDelta)

/-- One call.  The fill loop passes over a quantity that is not positive. -/
def call (ps : PositionStoreV2) : InventoryCall → PositionStoreV2
  | .freeze accountId instrumentId qty isShort =>
    match ps.checkAndFreeze accountId instrumentId qty isShort with
    | .ok ps' => ps'
    | .error _ => ps
  | .unfreeze accountId instrumentId qty => ps.unfreeze accountId instrumentId qty
  | .fill live posId fillQty ts =>
    if fillQty ≤ 0 then ps else ps.applyDelta (fillDelta live posId fillQty) ts

/-- Every managed position is backed. -/
def Backed (ps : PositionStoreV2) : Prop := ∀ key p, ps.managed.lookup key = some p → p.Backed

/-- The calls that keep positions backed. -/
def Spares (ps : PositionStoreV2) : InventoryCall → Prop
  | .freeze accountId instrumentId qty isShort =>
    let p := ps.positionOr accountId instrumentId .unspecified isShort
    qty ≤ p.qtyAvailable → 0 ≤ p.qtyFrozen + qty
  | .unfreeze accountId instrumentId qty =>
    ∀ p ∈ ps.managed.lookup (accountId, instrumentId), 0 ≤ p.qtyAvailable + min qty p.qtyFrozen
  | .fill live posId fillQty _ =>
    let p := ps.positionOr live.accountId posId .unspecified (live.buySellType ≠ .buy)
    0 < fillQty → live.sellsUnfrozen →
      p.qtyFrozen = 0 ∨ p.qtyAvailable + p.qtyFrozen + fillQty ≤ p.qtyTotal

instance (ps : PositionStoreV2) (c : InventoryCall) : Decidable (ps.Spares c) := by
  cases c <;> dsimp only [Spares] <;> infer_instance

variable {ps : PositionStoreV2}

lemma Backed.positionOr (h : ps.Backed) (a : Int) (k : ℕ) (t : InstrumentType) (b : Bool) :
    (ps.positionOr a k t b).Backed := by
  simp only [PositionStoreV2.positionOr, Dict.getD]
  cases hp : ps.managed.lookup (a, k) with
  | none => exact ⟨le_rfl, le_rfl, le_rfl, by simp [new]⟩
  | some p => exact h _ p hp

/-- Only the position that is written matters. -/
lemma backed_insert_iff (h : ps.Backed) (key : Int × ℕ) (p : ManagedPositionV2) :
    Backed { ps with managed := ps.managed.insert key p } ↔ p.Backed := by
  constructor
  · exact fun h' => h' key p (AList.lookup_insert _)
  · intro hp key' p' hp'
    simp only [Dict.lookup_insert_if] at hp'
    split_ifs at hp'
    · exact Option.some.inj hp' ▸ hp
    · exact h key' p' hp'

lemma backed_call_iff (h : ps.Backed) (c : InventoryCall) : (ps.call c).Backed ↔ ps.Spares c := by
  cases c with
  | freeze a k q b =>
    have havail : ((ps.getPosition a k).map (·.qtyAvailable)).getD 0 =
        (ps.positionOr a k .unspecified b).qtyAvailable := by
      simp only [PositionStoreV2.positionOr, getPosition, Dict.getD]
      cases ps.managed.lookup (a, k) <;> rfl
    simp only [call, checkAndFreeze, Spares, havail]
    split_ifs with hlow
    · simp [h, hlow]
    · rw [not_lt] at hlow
      simp only [backed_insert_iff h, hlow, true_imp_iff]
      exact backed_freeze_iff (h.positionOr ..) hlow
  | unfreeze a k q =>
    cases hp : ps.managed.lookup (a, k) with
    | none => simpa [call, unfreeze, Spares, Dict.modify, hp] using h
    | some p =>
      simp only [call, unfreeze, Spares, hp, Option.mem_some_iff, forall_eq',
        Dict.modify_of_lookup hp, backed_insert_iff h]
      exact backed_unfreeze_iff (h _ p hp) q
  | fill live posId q ts =>
    simp only [call, Spares]
    split_ifs with hq
    · simp [h, not_lt.mpr hq]
    · rw [not_le] at hq
      simp only [applyDelta, backed_insert_iff h, hq, true_imp_iff]
      have hshort : (fillDelta live posId q).isShort = decide (live.buySellType ≠ .buy) := by
        simp [fillDelta]
      rw [hshort]
      exact backed_fill_iff (h.positionOr ..) hq live posId ts

/-- **Positions stay backed exactly along sparing calls.** -/
theorem backed_iff_spares (h : ps.Backed) (calls : List InventoryCall) :
    Guarded (fun ps c => some (call ps c)) (fun ps c => (ps.call c).Backed) ps calls ↔
      Guarded (fun ps c => some (call ps c)) Spares ps calls :=
  guarded_after_iff (fun _ c h => backed_call_iff h c) h

end PositionStoreV2

namespace Sample

/-- A long position of 10, all of it available. -/
def longTen : PositionStoreV2 :=
  { managed := (∅ : Dict _ _).insert (1, 0)
      { new 1 0 .spot false with qtyTotal := 10, qtyAvailable := 10 } }

/-- A sell that was not checked when it was placed. -/
def uncheckedSell : LiveOrder :=
  { orderId := 2, accountId := 1, instrumentId := 0, gwId := 0, routeExchAccountSym := 0
    sourceSym := 0, orderStatus := .booked, buySellType := .sell, openCloseType := .unspecified
    orderType := .unspecified, tifType := .unspecified, price := 1, qty := 6, filledQty := 0
    filledAvgPrice := 0, accTradesFilledQty := 0, accTradesValue := 0, exchOrderRefId := none
    snapshotVersion := 0, createdAt := 0, updatedAt := 0, isExternal := false, cancelAttempts := 0
    accountingFlags := { balanceCheck := false, posInstrumentId := some 0 }, errorMsg := ""
    terminalAt := none }

lemma backed_longTen : longTen.Backed := by
  intro key p hp
  simp only [longTen, Dict.lookup_insert_if] at hp
  split_ifs at hp
  · cases hp
    constructor <;> simp [new]
  · cases hp

end Sample

open Sample

/-- Half of the position is frozen for one sell, and another one that froze nothing is filled: the
five that are frozen are still there, and the total is four. -/
theorem PositionStoreV2.unfrozen_fill_leaves_phantom :
    longTen.Backed ∧ ∃ p ∈ ([InventoryCall.freeze 1 0 5 false,
      .fill uncheckedSell 0 6 0].foldl call longTen).managed.lookup (1, 0),
        p.qtyTotal = 4 ∧ p.qtyFrozen = 5 ∧ p.qtyAvailable = 4 :=
  ⟨backed_longTen, _, rfl, by decide +kernel, by decide +kernel, by decide +kernel⟩

/-- The other sell is filled after the first has let go of its half. -/
theorem PositionStoreV2.backed_fill_after_unfreeze :
    Guarded (fun ps c => some (call ps c)) (fun ps c => (ps.call c).Backed) longTen
      [.freeze 1 0 5 false, .unfreeze 1 0 5, .fill uncheckedSell 0 6 0] :=
  (backed_iff_spares backed_longTen _).mpr (by decide +kernel)

end Zkbot
