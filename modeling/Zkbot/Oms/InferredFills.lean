import Mathlib.Tactic.Linarith
import Zkbot.Core.Run
import Zkbot.Oms.OrderStore

/-!
# What inferred trades account for

A state entry announces the cumulative fill and its average price.  When the fill has grown by more
than the tolerance, `applyStateReport` infers a trade for the difference.  Over a whole run the
quantities telescope up to one tolerance for each entry, and the values telescope as long as every
entry that changes something is big enough to be seen.

* `Priced` — the condition on an entry; `Accounts` — the law of the values.
-/

namespace Zkbot

/-- The arguments of one call of `apply_state_report`. -/
structure StateEntry where
  filledQty : Option ℚ
  avgPrice : ℚ
  status : ExchangeOrderStatus
  ts : Int

/-- The two records of an order. -/
abbrev OrderRecords := LiveOrder × OrderDetailLog

namespace OrderRecords

/-- An order that has no fill yet. -/
def fresh (live : LiveOrder) (detail : OrderDetailLog) : OrderRecords :=
  ({ live with filledQty := 0, filledAvgPrice := 0 }, { detail with inferredTrades := [] })

def apply (x : OrderRecords) (e : StateEntry) : OrderRecords :=
  applyStateReport x.1 x.2 e.filledQty e.avgPrice e.status e.ts

def inferredQty (x : OrderRecords) : ℚ := (x.2.inferredTrades.map (·.filledQty)).sum

def inferredValue (x : OrderRecords) : ℚ :=
  (x.2.inferredTrades.map fun t => t.filledQty * t.filledPrice).sum

/-- The entry carries a price, and raises the fill by more than the tolerance or repeats what is
known. -/
def Priced (x : OrderRecords) (e : StateEntry) : Prop :=
  e.avgPrice ≠ 0 ∧ ∃ qty, e.filledQty = some qty ∧
    (fillTolerance < qty - x.1.filledQty ∨ qty = x.1.filledQty ∧ e.avgPrice = x.1.filledAvgPrice)

/-- The inferred trades are worth the fill; a fill has a price. -/
structure Accounts (x : OrderRecords) : Prop where
  value : x.inferredValue = x.1.filledQty * x.1.filledAvgPrice
  filled : 0 ≤ x.1.filledQty
  price : x.1.filledAvgPrice = 0 → x.1.filledQty = 0

variable {x : OrderRecords}

section

variable (x)

lemma filledQty_le_apply (e : StateEntry) : x.1.filledQty ≤ (x.apply e).1.filledQty := by
  simp only [apply, applyStateReport]
  cases e.filledQty.filter (· ≠ 0) with
  | none => exact le_rfl
  | some qty => exact le_max_right _ _

lemma filledQty_le_foldl (entries : List StateEntry) :
    x.1.filledQty ≤ (entries.foldl apply x).1.filledQty := by
  induction entries generalizing x with
  | nil => exact le_rfl
  | cons e entries ih => exact (x.filledQty_le_apply e).trans (ih _)

lemma inferred_apply (e : StateEntry) : let y := x.apply e
    let growth := y.1.filledQty - x.1.filledQty
    let price := (inferTradePrice x.1.filledQty x.1.filledAvgPrice y.1.filledQty
      y.1.filledAvgPrice).getD 0
    y.inferredQty = x.inferredQty + (if fillTolerance < growth then growth else 0) ∧
    y.inferredValue = x.inferredValue + if fillTolerance < growth then growth * price else 0 := by
  simp only [inferredQty, inferredValue, apply, applyStateReport, gt_iff_lt]
  split_ifs <;> simp

/-- One entry keeps back at most the tolerance. -/
lemma inferredQty_foldl (entries : List StateEntry) : let y := entries.foldl apply x
    x.1.filledQty - x.inferredQty ≤ y.1.filledQty - y.inferredQty ∧
      y.1.filledQty - y.inferredQty ≤
        x.1.filledQty - x.inferredQty + entries.length * fillTolerance := by
  induction entries generalizing x with
  | nil => simp
  | cons e entries ih =>
    have hle := x.filledQty_le_apply e
    have hinf := (x.inferred_apply e).1
    have htol : 0 < fillTolerance := by simp [fillTolerance]
    obtain ⟨hlow, hhigh⟩ := ih (x.apply e)
    simp only [List.foldl_cons, List.length_cons, Nat.cast_add, Nat.cast_one]
    split_ifs at hinf <;> constructor <;> linarith

end

lemma apply_filled {e : StateEntry} {qty : ℚ} (hqty : e.filledQty = some qty)
    (hprice : e.avgPrice ≠ 0) (h0 : 0 ≤ x.1.filledQty) (hle : x.1.filledQty ≤ qty) :
    (x.apply e).1.filledQty = qty ∧ (x.apply e).1.filledAvgPrice = e.avgPrice := by
  refine ⟨?_, if_pos hprice⟩
  by_cases hzero : qty = 0
  · have hnone : x.1.filledQty = 0 := (hzero ▸ hle).antisymm h0
    simp [apply, applyStateReport, hqty, Option.filter, hzero, hnone]
  · simp [apply, applyStateReport, hqty, Option.filter, hzero, hle]

/-- What is inferred between two priced fills makes up for the difference. -/
lemma Accounts.inferTradePrice (h : x.Accounts) {qty avgPrice : ℚ} (hqty : x.1.filledQty < qty)
    (hprice : avgPrice ≠ 0) : x.1.filledQty * x.1.filledAvgPrice + (qty - x.1.filledQty) *
      (Zkbot.inferTradePrice x.1.filledQty x.1.filledAvgPrice qty avgPrice).getD 0 =
        qty * avgPrice := by
  have hpos : qty ≠ 0 := (h.filled.trans_lt hqty).ne'
  have hne : qty - x.1.filledQty ≠ 0 := sub_ne_zero.mpr hqty.ne'
  by_cases h0 : x.1.filledAvgPrice = 0
  · -- the first price: nothing was filled before
    simp [Zkbot.inferTradePrice, hpos, h0, h.price h0]
  · simp only [Zkbot.inferTradePrice, hpos, h0, hprice, hne, if_false, Option.getD_some]
    rw [mul_div_cancel₀ _ hne]
    linarith

lemma Accounts.apply (h : x.Accounts) {e : StateEntry} (he : x.Priced e) :
    (x.apply e).Accounts := by
  obtain ⟨hprice, qty, hqty, hkind⟩ := he
  have htol : 0 < fillTolerance := by simp [fillTolerance]
  have hle : x.1.filledQty ≤ qty := by
    obtain hraise | ⟨rfl, -⟩ := hkind
    · linarith
    · exact le_rfl
  obtain ⟨hfilled, havg⟩ := apply_filled hqty hprice h.filled hle
  refine ⟨?_, h.filled.trans (x.filledQty_le_apply e), fun h0 => absurd (havg ▸ h0) hprice⟩
  rw [(x.inferred_apply e).2, hfilled, havg, h.value]
  obtain hraise | ⟨rfl, hsame⟩ := hkind
  · rw [if_pos hraise, h.inferTradePrice (by linarith) hprice]
  · rw [sub_self, if_neg htol.not_gt, hsame, add_zero]

lemma Accounts.foldl (h : x.Accounts) {entries : List StateEntry}
    (hg : Guarded (fun x e => some (x.apply e)) Priced x entries) :
    (entries.foldl OrderRecords.apply x).Accounts := by
  induction entries generalizing x with
  | nil => exact h
  | cons e entries ih => exact ih (h.apply hg.1) (hg.2 _ rfl)

/-- **Inferred trades account for the fill.** -/
theorem inferred_trades_account (live : LiveOrder) (detail : OrderDetailLog)
    (entries : List StateEntry) :
    let x := fresh live detail
    let y := entries.foldl OrderRecords.apply x
    (∀ past rest, entries = past ++ rest →
      (past.foldl OrderRecords.apply x).1.filledQty ≤ y.1.filledQty) ∧
    y.inferredQty ≤ y.1.filledQty ∧
    y.1.filledQty ≤ y.inferredQty + entries.length * fillTolerance ∧
    (Guarded (fun x e => some (x.apply e)) Priced x entries →
      y.inferredValue = y.1.filledQty * y.1.filledAvgPrice) := by
  obtain ⟨hlow, hhigh⟩ := inferredQty_foldl (fresh live detail) entries
  have hzero : (fresh live detail).1.filledQty - (fresh live detail).inferredQty = 0 := by
    simp [fresh, inferredQty]
  refine ⟨?_, by linarith, by linarith, fun hg => ?_⟩
  · rintro past rest rfl
    rw [List.foldl_append]
    exact filledQty_le_foldl _ rest
  · have h0 : (fresh live detail).Accounts := by
      constructor <;> simp [fresh, inferredValue]
    exact (h0.foldl hg).value

end OrderRecords

end Zkbot
