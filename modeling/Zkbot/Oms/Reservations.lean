import Zkbot.Oms.Models
import Mathlib.Algebra.Order.Ring.Unbundled.Rat

/-!
# Reservation store

`reservation_v2.rs`: per-order holds on cash or inventory, with a running total for each
`(account, target)`.
-/

namespace Zkbot

structure ReservationStoreV2 where
  reservations : Dict Int ReservationRecordV2 := ∅
  accountTotals : Dict (Int × ℕ) ℚ := ∅

namespace ReservationStoreV2

variable {id j : Int}

/-- The running total of one target after `amount` has been taken out of it: an entry that drops
to zero or below is removed. -/
def lowerTotal (totals : Dict (Int × ℕ) ℚ) (key : Int × ℕ) (amount : ℚ) : Dict (Int × ℕ) ℚ :=
  match totals.lookup key with
  | none => totals
  | some total =>
    if total - amount ≤ 0 then totals.erase key else totals.insert key (total - amount)

section

variable (s : ReservationStoreV2)

/-- `reserve`.  A second reservation for the same order is refused. -/
def reserve (orderId accountId : Int) (kind : ReserveKind) (targetId : ℕ)
    (qty : ℚ) : Except String ReservationStoreV2 :=
  if orderId ∈ s.reservations then
    .error s!"reservation already exists for order {orderId}"
  else
    .ok { reservations := s.reservations.insert orderId
            { orderId, accountId, kind, targetId, reservedQty := qty }
          accountTotals := s.accountTotals.insert (accountId, targetId)
            (s.accountTotals.getD (accountId, targetId) 0 + qty) }

/-- A reservation whose refusal is ignored: `let _ = self.reservations.reserve(..)`. -/
def tryReserve (orderId accountId : Int) (kind : ReserveKind)
    (targetId : ℕ) (qty : ℚ) : ReservationStoreV2 :=
  match s.reserve orderId accountId kind targetId qty with
  | .ok s' => s'
  | .error _ => s

/-- `release`: drop the whole reservation of an order. -/
def release (orderId : Int) : ReservationStoreV2 :=
  match s.reservations.lookup orderId with
  | none => s
  | some res =>
    { reservations := s.reservations.erase orderId
      accountTotals := lowerTotal s.accountTotals (res.accountId, res.targetId)
        res.reservedQty }

/-- `release_partial`: at most what is reserved; an emptied reservation is removed. -/
def releasePartial (orderId : Int) (filledQty : ℚ) : ReservationStoreV2 :=
  match s.reservations.lookup orderId with
  | none => s
  | some res =>
    let released := min filledQty res.reservedQty
    let left := res.reservedQty - released
    { reservations :=
        if left ≤ 0 then s.reservations.erase orderId
        else s.reservations.insert orderId { res with reservedQty := left }
      accountTotals := lowerTotal s.accountTotals (res.accountId, res.targetId) released }

def totalReserved (accountId : Int) (targetId : ℕ) : ℚ :=
  s.accountTotals.getD (accountId, targetId) 0

def checkAvailable (accountId : Int) (targetId : ℕ) (required available : ℚ) : Except String Unit :=
  let reserved := s.totalReserved accountId targetId
  let effective := available - reserved
  if effective < required then
    .error (s!"Not enough available for target {targetId}: need {required}, have {effective} "
      ++ s!"(available {available} - reserved {reserved})")
  else .ok ()

end

/-! ## What each operation does to the reservation of one order -/

lemma tryReserve_reservations {s : ReservationStoreV2} (h : id ∉ s.reservations) (acct : Int)
    (kind : ReserveKind) (target : ℕ) (qty : ℚ) :
    (s.tryReserve id acct kind target qty).reservations = s.reservations.insert id
      { orderId := id, accountId := acct, kind, targetId := target, reservedQty := qty } := by
  simp [tryReserve, reserve, if_neg h]

variable (s : ReservationStoreV2)

lemma lookup_tryReserve_ne (h : j ≠ id) (acct : Int) (kind : ReserveKind) (target : ℕ) (qty : ℚ) :
    (s.tryReserve id acct kind target qty).reservations.lookup j = s.reservations.lookup j := by
  by_cases hmem : id ∈ s.reservations
  · simp [tryReserve, reserve, if_pos hmem]
  · rw [tryReserve_reservations hmem, AList.lookup_insert_ne h]

@[simp] lemma lookup_release_self (id : Int) : (s.release id).reservations.lookup id = none := by
  simp only [release]
  split
  · assumption
  · simp

lemma lookup_release_ne (h : j ≠ id) :
    (s.release id).reservations.lookup j = s.reservations.lookup j := by
  simp only [release]
  split
  · rfl
  · exact AList.lookup_erase_ne h

lemma lookup_releasePartial_ne (q : ℚ) (h : j ≠ id) :
    (s.releasePartial id q).reservations.lookup j = s.reservations.lookup j := by
  simp only [releasePartial]
  split
  · rfl
  · show (if _ then _ else _ : Dict Int ReservationRecordV2).lookup j = _
    split_ifs
    · exact AList.lookup_erase_ne h
    · exact AList.lookup_insert_ne h

lemma lookup_releasePartial_self (id : Int) (q : ℚ) :
    (s.releasePartial id q).reservations.lookup id =
      (s.reservations.lookup id).bind fun res =>
        if res.reservedQty - min q res.reservedQty ≤ 0 then none
        else some { res with reservedQty := res.reservedQty - min q res.reservedQty } := by
  simp only [releasePartial]
  cases h : s.reservations.lookup id with
  | none => simpa using h
  | some res =>
    show (if _ then _ else _ : Dict Int ReservationRecordV2).lookup id = _
    simp only [Option.bind_some]
    split_ifs <;> simp

end ReservationStoreV2

end Zkbot
