import Zkbot.Core.Run
import Zkbot.Oms.Config
import Zkbot.Oms.Reservations

/-!
# The running totals of the reservations

`account_totals` is kept beside the reservations, and an entry of it is removed when it drops to
zero or below.  Amounts are quantities times prices, and the price of a request may be negative: a
total can then drop below zero while reservations are left, and be lost.

* `Agrees` — each total is the sum of the live reservations.
* `Covered` — a release finds its total, and does not take it below zero.  `agrees_iff_covered` says
  that the totals agree after every call exactly if every release is covered.
-/

namespace Zkbot

open Option AList Dict

inductive ReservationCall where
  | reserve (orderId accountId : Int) (kind : ReserveKind) (targetId : ℕ) (qty : ℚ)
  | release (orderId : Int)
  | releasePartial (orderId : Int) (filledQty : ℚ)

namespace ReservationStoreV2

section

variable (s : ReservationStoreV2)

/-- One call; `process_order` ignores a `reserve` that is refused. -/
def call : ReservationCall → ReservationStoreV2
  | .reserve orderId accountId kind targetId qty => s.tryReserve orderId accountId kind targetId qty
  | .release orderId => s.release orderId
  | .releasePartial orderId filledQty => s.releasePartial orderId filledQty

def holds (key : Int × ℕ) (_ : Int) (res : ReservationRecordV2) : ℚ :=
  if key = (res.accountId, res.targetId) then res.reservedQty else 0

def reserved (accountId : Int) (targetId : ℕ) : ℚ :=
  sumBy (holds (accountId, targetId)) s.reservations

/-- The totals are the sums, and a check fails exactly when what is left is not enough. -/
structure Agrees : Prop where
  total : ∀ accountId targetId, s.totalReserved accountId targetId = s.reserved accountId targetId
  check : ∀ accountId targetId required available,
    (∃ e, s.checkAvailable accountId targetId required available = .error e) ↔
      available - s.reserved accountId targetId < required

/-- The total that a reservation counts in is there for an amount to be taken out of it. -/
def Bears (res : ReservationRecordV2) (amount : ℚ) : Prop :=
  (s.accountTotals.lookup (res.accountId, res.targetId)).elim (amount = 0) (amount ≤ ·)

def Covered : ReservationCall → Prop
  | .reserve .. => True
  | .release orderId => ∀ res ∈ s.reservations.lookup orderId, s.Bears res res.reservedQty
  | .releasePartial orderId filledQty =>
    ∀ res ∈ s.reservations.lookup orderId, s.Bears res (min filledQty res.reservedQty)

end

variable {s s' : ReservationStoreV2}

/-- A check goes by the total alone. -/
lemma agrees_iff_total : s.Agrees ↔ ∀ key : Int × ℕ,
    s.accountTotals.getD key 0 = sumBy (holds key) s.reservations := by
  refine ⟨fun h key => h.total key.1 key.2, fun h => ⟨fun a t => h (a, t), fun a t req avail => ?_⟩⟩
  have htotal : s.totalReserved a t = s.reserved a t := h (a, t)
  simp only [checkAvailable, htotal]
  split_ifs with hlow <;> simp [hlow]

lemma getD_lowerTotal_iff (totals : Dict (Int × ℕ) ℚ) (key : Int × ℕ) (amount : ℚ) :
    (∀ k, (lowerTotal totals key amount).getD k 0 =
      totals.getD k 0 - if k = key then amount else 0) ↔
      (totals.lookup key).elim (amount = 0) (amount ≤ ·) := by
  have hself : (lowerTotal totals key amount).getD key 0 = totals.getD key 0 - amount ↔
      (totals.lookup key).elim (amount = 0) (amount ≤ ·) := by
    cases hkey : totals.lookup key with
    | none => simp [lowerTotal, Dict.getD, hkey]
    | some total =>
      simp only [lowerTotal, Dict.getD, hkey, elim_some, getD_some]
      split_ifs with hlow
      · rw [lookup_erase, getD_none]
        constructor <;> intro h <;> linarith
      · rw [lookup_insert, getD_some]
        exact iff_of_true rfl (by linarith)
  rw [← hself]
  refine ⟨fun h => by simpa using h key, fun h k => ?_⟩
  split_ifs with hk
  · rw [hk, h]
  · simp only [lowerTotal, Dict.getD, sub_zero]
    cases totals.lookup key with
    | none => rfl
    | some total =>
      dsimp only
      split_ifs <;> simp [hk]

/-- Taking an amount out of a reservation and out of its total. -/
lemma agrees_release_iff (h : s.Agrees) {res : ReservationRecordV2} {amount : ℚ}
    (htotals : s'.accountTotals = lowerTotal s.accountTotals (res.accountId, res.targetId) amount)
    (hsum : ∀ key, sumBy (holds key) s'.reservations = sumBy (holds key) s.reservations -
      if key = (res.accountId, res.targetId) then amount else 0) :
    s'.Agrees ↔ s.Bears res amount := by
  rw [agrees_iff_total, Bears, ← getD_lowerTotal_iff, htotals]
  refine forall_congr' fun key => ?_
  rw [hsum, agrees_iff_total.mp h key]

lemma agrees_call_iff (h : s.Agrees) (c : ReservationCall) : (s.call c).Agrees ↔ s.Covered c := by
  have hweight : ∀ (id : Int) (res : ReservationRecordV2) (key : Int × ℕ),
      s.reservations.lookup id = some res →
        sumBy (holds key) s.reservations =
          holds key id res + sumBy (holds key) (s.reservations.erase id) := by
    intro id res key hres
    rw [sumBy_erase (holds key) s.reservations id, weightAt, hres, elim_some]
  cases c with
  | reserve id a kind t qty =>
    simp only [call, Covered, iff_true]
    by_cases hmem : id ∈ s.reservations
    · simpa [tryReserve, reserve, hmem] using h
    · rw [agrees_iff_total]
      intro key
      simp only [tryReserve, reserve, if_neg hmem]
      rw [Dict.sumBy_insert _ (lookup_eq_none.mpr hmem), Dict.getD, Dict.lookup_insert_if,
        ← agrees_iff_total.mp h key, holds]
      split_ifs with hkey
      · simp [hkey, add_comm]
      · simp [Dict.getD]
  | release id =>
    cases hres : s.reservations.lookup id with
    | none => simpa [call, release, Covered, hres] using h
    | some res =>
      simp only [Covered, hres, mem_some_iff, forall_eq']
      refine agrees_release_iff h (by simp [call, release, hres]) fun key => ?_
      simp only [call, release, hres]
      rw [hweight id res key hres, holds]
      ring
  | releasePartial id filled =>
    cases hres : s.reservations.lookup id with
    | none => simpa [call, releasePartial, Covered, hres] using h
    | some res =>
      simp only [Covered, hres, mem_some_iff, forall_eq']
      refine agrees_release_iff h (by simp [call, releasePartial, hres]) fun key => ?_
      have hle := min_le_right filled res.reservedQty
      simp only [call, releasePartial, hres]
      rw [hweight id res key hres]
      split_ifs with hempty hkey hkey
      · -- nothing is left, so all of it was taken
        simp only [holds, if_pos hkey]
        linarith
      · simp [holds, hkey]
      · rw [sumBy_insert_erase]
        simp only [holds, if_pos hkey]
        ring
      · rw [sumBy_insert_erase]
        simp [holds, hkey]

/-- **The totals agree with the reservations exactly along covered releases.** -/
theorem agrees_iff_covered (calls : List ReservationCall) :
    Guarded (fun s c => some (call s c)) (fun s c => (s.call c).Agrees) {} calls ↔
      Guarded (fun s c => some (call s c)) Covered {} calls :=
  guarded_after_iff (fun _ c h => agrees_call_iff h c) (agrees_iff_total.mpr fun _ => rfl)

end ReservationStoreV2

/-- A buy that validation admits. -/
def Sample.buyAt (orderId : Int) (price : ℚ) : OrderRequest :=
  { orderId, accountId := 1, instrumentCode := "B-Q", buySellType := .buy, price, qty := 5 }

/-- A buy at a price below zero and another buy, which is then released: the total is gone, and the
first reservation is still there. -/
theorem ReservationStoreV2.negative_price_loses_total :
    validateOrderRequest (Sample.buyAt 1 (-1)) = .ok () ∧
      ∃ s, s = [ReservationCall.reserve 1 1 .cashAsset 0 (5 * -1),
        .reserve 2 1 .cashAsset 0 (5 * 2), .release 2].foldl call {} ∧
        s.totalReserved 1 0 = 0 ∧ s.reserved 1 0 = -5 :=
  ⟨by decide +kernel, _, rfl, by decide +kernel, by decide +kernel⟩

end Zkbot
