import Zkbot.Sim.Orders

/-!
# The liquidity of a tick

`FirstComeFirstServedMatchPolicy` matches every order on its own with the levels of the last tick,
when the tick comes and when an order is placed after it, and takes nothing off the levels.  So an
order takes from a level what it still asks for when it comes to it, or the whole level, whatever
others have taken there.

* `period` — a tick, and the orders that are placed before the next one; `matchedWith` are the
  orders that are matched with it.
* `SimOrder.asksAt` — what an order still asks for at a price: what the levels before it, as far as
  the order meets them, leave of it.
* `soldAt_period` — what is sold at a level is the sum, over these orders, of what each asks for
  there, cut off at the quantity of the level.
* `sold_le_iff` — so a level is not sold twice exactly if it has enough for all of them together, or
  if at most one of them asks for anything there (`Suffices`).
-/

namespace Zkbot

open List MatchPolicy SimOrder TickData

/-! ## Shares of a quantity -/

/-- The quantity is enough for all that is asked of it, or it is empty, or nobody has to share. -/
def Suffices (qty : ℚ) (asked : List ℚ) : Prop :=
  asked.sum ≤ qty ∨ qty = 0 ∨ (asked.filter (0 < ·)).length ≤ 1
deriving Decidable

/-- A sum over what is not negative is one over what is positive. -/
lemma sum_map_filter_pos {f : ℚ → ℚ} (hf : f 0 = 0) {xs : List ℚ} (h : ∀ x ∈ xs, 0 ≤ x) :
    (xs.map f).sum = ((xs.filter (0 < ·)).map f).sum := by
  induction xs with
  | nil => rfl
  | cons x xs ih =>
    obtain ⟨hx, hxs⟩ := forall_mem_cons.mp h
    rcases hx.eq_or_lt with rfl | hpos
    · simp [ih hxs, hf]
    · simp [ih hxs, hpos]

/-- If everyone takes what they ask for, up to the whole quantity, they take no more than there is
exactly if the quantity suffices. -/
lemma sum_min_le_iff {qty : ℚ} (hqty : 0 ≤ qty) {asked : List ℚ} (h : ∀ x ∈ asked, 0 ≤ x) :
    (asked.map (min · qty)).sum ≤ qty ↔ Suffices qty asked := by
  have hsum : asked.sum = (asked.filter (0 < ·)).sum := by
    simpa using sum_map_filter_pos (f := id) rfl h
  rw [Suffices, hsum, sum_map_filter_pos (f := (min · qty)) (min_eq_left hqty) h]
  have hpos : ∀ x ∈ asked.filter (0 < ·), 0 < x := fun x hx => by simpa using (mem_filter.mp hx).2
  generalize asked.filter (0 < ·) = xs at hpos
  constructor
  · intro hle
    by_contra! hnot
    obtain ⟨hmore, hne, hshared⟩ := hnot
    have hq : 0 < qty := hqty.lt_of_ne' hne
    by_cases hall : ∀ x ∈ xs, x ≤ qty
    · -- nobody is cut off
      have hsame : xs.map (min · qty) = xs := by
        rw [map_congr_left fun x hx => min_eq_left (hall x hx), map_id']
      exact (hsame ▸ hle).not_gt hmore
    · -- one takes all there is, and another one something
      push Not at hall
      obtain ⟨x, hx, hlt⟩ := hall
      rw [← sum_map_erase _ hx, min_eq_right hlt.le] at hle
      have hothers : 0 < ((xs.erase x).map (min · qty)).sum := by
        refine sum_pos _ (fun y hy => ?_) fun hnil => ?_
        · obtain ⟨z, hz, rfl⟩ := mem_map.mp hy
          exact lt_min (hpos z (mem_of_mem_erase hz)) hq
        · have hlen := length_erase_of_mem hx
          rw [map_eq_nil_iff.mp hnil, length_nil] at hlen
          omega
      linarith
  · rintro (hsum | rfl | hone)
    · calc (xs.map (min · qty)).sum ≤ (xs.map id).sum :=
            sum_le_sum fun x _ => min_le_left x qty
        _ ≤ qty := by simpa using hsum
    · rw [map_congr_left fun x hx => min_eq_right (hpos x hx).le]
      simp
    · match xs, hone with
      | [], _ => simpa using hqty
      | [x], _ => simp

/-! ## A tick and the orders after it -/

/-- New orders: the request, its time, and whether it is only booked. -/
abbrev NewOrders := List (SendOrderRequest × Int × Bool)

/-- The order is matched with the tick when it is placed. -/
def TickData.isFor (tick : TickData) (new : SendOrderRequest × Int × Bool) : Bool :=
  new.1.instrument = tick.instrumentCode ∧ !new.2.2 ∧ 0 < new.1.scaledQty ∧ 0 ≤ new.1.scaledPrice

namespace SimulatorCore

variable (orderRef : SendOrderRequest → String) (nextId : SimOrder → String)

/-- One more order, with the reports so far. -/
def place (acc : SimulatorCore × List SimResult) (new : SendOrderRequest × Int × Bool) :
    SimulatorCore × List SimResult :=
  let placed := acc.1.onNewOrder .firstComeFirstServed orderRef nextId new.1 new.2.1 new.2.2
  (placed.1, acc.2 ++ placed.2)

/-- The reports of a tick and of the orders that are placed before the next one. -/
def period (s : SimulatorCore) (tick : TickData) (ids : List Int) (orders : NewOrders) :
    List SimResult :=
  (orders.foldl (place orderRef nextId) (s.onTick .firstComeFirstServed nextId tick ids)).2

/-- The orders that are matched with the tick: those that are open when it comes, and the new
ones. -/
def matchedWith (s : SimulatorCore) (tick : TickData) (ids : List Int) (orders : NewOrders) :
    List SimOrder :=
  (ids.filter (s.isActive tick)).filterMap (s.orderCache.lookup ·) ++
    (orders.filter tick.isFor).map fun new => .new new.1 (orderRef new.1) new.2.1

end SimulatorCore

open SimulatorCore

/-- What a report says was traded at a price, by orders of an instrument and a side. -/
def SimResult.soldAt (info : String × BuySellType) (price : ℚ) (r : SimResult) : ℚ :=
  if r.orderInfo = some info then
    (r.orderReport.orderReportEntries.map fun e =>
      match e.report with
      | some (.tradeReport t) => if t.filledPrice = price then t.filledQty else 0
      | _ => 0).sum
  else 0

def soldAt (info : String × BuySellType) (price : ℚ) (log : List SimResult) : ℚ :=
  (log.map (·.soldAt info price)).sum

/-- The levels that orders of a side are matched with. -/
def TickData.levelsFor (tick : TickData) (side : BuySellType) : List PriceLevel :=
  if side = .buy then tick.sellPriceLevels else tick.buyPriceLevels

/-- A book: no quantity is negative, and a price has one level on each side. -/
structure TickData.IsBook (tick : TickData) : Prop where
  nonneg : tick.Nonneg
  prices : ∀ side, ((tick.levelsFor side).map (·.price)).Nodup

/-- What is left of an order, of which `remaining` is open, when it comes to a price. -/
def asks (meets : ℚ → Bool) (remaining : ℚ) (levels : List PriceLevel) (price : ℚ) : ℚ :=
  if meets price then
    max 0 (remaining -
      (((levels.takeWhile (·.price ≠ price)).filter fun l => meets l.price).map (·.qty)).sum)
  else 0

namespace SimOrder

/-- The order can be matched at the price. -/
def meets (o : SimOrder) (price : ℚ) : Bool :=
  if o.req.buysellType = .buy then price ≤ o.req.scaledPrice else o.req.scaledPrice ≤ price

/-- What an order of a side still asks for at a price. -/
def asksAt (tick : TickData) (side : BuySellType) (price : ℚ) (o : SimOrder) : ℚ :=
  if o.req.buysellType = side then asks o.meets o.remainingQty (tick.levelsFor side) price else 0

end SimOrder

/-! ## What one order takes -/

section Steps

variable {info : String × BuySellType} {price : ℚ} {nextId : SimOrder → String}
  {orderRef : SendOrderRequest → String} {tick : TickData} (acc : SimulatorCore × List SimResult)

lemma soldAt_cons (r : SimResult) (log : List SimResult) :
    soldAt info price (r :: log) = r.soldAt info price + soldAt info price log := by
  simp [soldAt]

lemma soldAt_append (log out : List SimResult) :
    soldAt info price (log ++ out) = soldAt info price log + soldAt info price out := by
  simp [soldAt]

lemma soldAt_trade (o : SimOrder) (id : String) (m : MatchResult) (link : Bool) :
    (o.trade id m link).soldAt info price =
      if m.price = price ∧ (o.req.instrument, o.req.buysellType) = info then m.qty else 0 := by
  cases link <;> simp [SimResult.soldAt, trade, result, stateEntry,
    linkageEntry, ← ite_and, and_comm]

/-- Matches that are all at other prices, or of an order of another side, sell nothing here. -/
lemma soldAt_applyMatches_eq_zero {o : SimOrder} (link : Bool) {ms : List MatchResult}
    (h : (o.req.instrument, o.req.buysellType) ≠ info ∨ ∀ m ∈ ms, m.price ≠ price) :
    soldAt info price (o.applyMatches nextId link ms).2 = 0 := by
  induction ms generalizing o with
  | nil => rfl
  | cons m ms ih =>
    have hm : ∀ id, ((o.matched m).trade id m link).soldAt info price = 0 := by
      intro id
      rw [soldAt_trade]
      refine if_neg fun hm => ?_
      rcases h with h | h
      · exact h hm.2
      · exact h m mem_cons_self hm.1
    have hrest := ih (o := o.matched m) (h.imp_right fun h => (forall_mem_cons.mp h).2)
    simp only [applyMatches]
    split_ifs
    · rw [soldAt_cons, hm, zero_add]
      rfl
    · rw [soldAt_cons, hm, hrest, add_zero]

lemma price_of_mem_walk {ts : Int} {meets : ℚ → Bool} {remaining : ℚ} {delay : Int}
    {levels : List PriceLevel} {m : MatchResult} (h : m ∈ walk ts meets remaining delay levels) :
    m.price ∈ levels.map (·.price) := by
  induction levels generalizing remaining delay with
  | nil => cases h
  | cons level levels ih =>
    simp only [walk] at h
    split_ifs at h
    · cases h
    · rcases mem_cons.mp h with rfl | h
      · exact mem_cons_self
      · exact mem_cons_of_mem _ (ih h)
    · exact mem_cons_of_mem _ (ih h)

lemma asks_nonneg (meets : ℚ → Bool) (remaining : ℚ) (levels : List PriceLevel) (price : ℚ) :
    0 ≤ asks meets remaining levels price := by
  rw [asks]
  split_ifs
  · exact le_max_left _ _
  · exact le_rfl

/-- A level that the order meets takes its quantity off what is asked for at the later ones. -/
lemma asks_cons {meets : ℚ → Bool} {remaining : ℚ} {first : PriceLevel} {levels : List PriceLevel}
    (hne : first.price ≠ price) : asks meets remaining (first :: levels) price =
      asks meets (if meets first.price then remaining - first.qty else remaining) levels price := by
  simp only [asks, takeWhile_cons, ne_eq, hne, not_false_eq_true, decide_true, if_true, filter_cons]
  split_ifs <;> simp [sub_sub]

/-- An order with nothing left asks for nothing. -/
lemma asks_of_nonpos {meets : ℚ → Bool} {remaining : ℚ} (hdone : remaining ≤ 0)
    {levels : List PriceLevel} (h : ∀ l ∈ levels, 0 ≤ l.qty) :
    asks meets remaining levels price = 0 := by
  rw [asks]
  split_ifs
  · have hsum : 0 ≤ (((levels.takeWhile (·.price ≠ price)).filter fun l => meets l.price).map
        (·.qty)).sum := by
      refine sum_nonneg fun q hq => ?_
      obtain ⟨l, hl, rfl⟩ := mem_map.mp hq
      exact h l (( takeWhile_prefix _).subset (mem_of_mem_filter hl))
    exact max_eq_left (by linarith)
  · rfl

/-- **An order takes from a level what it asks for there, or the whole of it.** -/
lemma soldAt_walk {ts : Int} {meets : ℚ → Bool} {levels : List PriceLevel} (link : Bool)
    (hnonneg : ∀ l ∈ levels, 0 ≤ l.qty) (hprices : (levels.map (·.price)).Nodup)
    {level : PriceLevel} (hlevel : level ∈ levels) {o : SimOrder}
    (hinfo : (o.req.instrument, o.req.buysellType) = info) (delay : Int) :
    soldAt info level.price
        (o.applyMatches nextId link (walk ts meets o.remainingQty delay levels)).2 =
      min (asks meets o.remainingQty levels level.price) level.qty := by
  induction levels generalizing o delay with
  | nil => cases hlevel
  | cons first levels ih =>
    obtain ⟨hfirst, hlevels⟩ := forall_mem_cons.mp hnonneg
    rw [map_cons, nodup_cons] at hprices
    obtain ⟨hnew, hprices⟩ := hprices
    have hqty := hnonneg level hlevel
    simp only [walk]
    split_ifs with hdone hmeets
    · rw [asks_of_nonpos hdone hnonneg, min_eq_left hqty]
      rfl
    · rcases mem_cons.mp hlevel with rfl | hlater
      · -- this is the level, and no later one has its price
        have hasks : asks meets o.remainingQty (level :: levels) level.price = o.remainingQty := by
          simp [asks, hmeets, (not_le.mp hdone).le]
        have hrest : ∀ o' : SimOrder, ∀ d, soldAt info level.price (o'.applyMatches nextId link
            (walk ts meets d (delay + 10) levels)).2 = 0 := fun o' d =>
          soldAt_applyMatches_eq_zero link (.inr fun m hm heq => hnew (heq ▸ price_of_mem_walk hm))
        simp only [applyMatches]
        split_ifs
        · simp [soldAt_trade, matched, hinfo, hasks, soldAt]
        · simp [soldAt_cons, soldAt_trade, matched, hinfo, hasks, hrest]
      · have hne : first.price ≠ level.price :=
          fun heq => hnew (heq ▸ mem_map_of_mem hlater)
        rw [asks_cons hne, if_pos hmeets]
        simp only [applyMatches]
        split_ifs with hfull
        · -- the order ends here
          have hall : o.remainingQty - first.qty ≤ 0 := by
            have := min_le_right o.remainingQty first.qty
            simp only [matched] at hfull
            linarith
          rw [asks_of_nonpos hall hlevels, min_eq_left hqty, soldAt_cons, soldAt_trade,
            if_neg fun h => hne h.1, zero_add]
          rfl
        · have hleft : (o.matched
              ⟨ts, min o.remainingQty first.qty, first.price, delay⟩).remainingQty =
                o.remainingQty - first.qty := by
            simp only [matched] at hfull ⊢
            rw [min_eq_right]
            by_contra hlt
            rw [min_eq_left (not_le.mp hlt).le, sub_self] at hfull
            exact hfull le_rfl
          have hnext := ih hlevels hprices hlater (o := o.matched
            ⟨ts, min o.remainingQty first.qty, first.price, delay⟩) hinfo (delay + 10)
          rw [soldAt_cons, soldAt_trade, if_neg fun h => hne h.1, zero_add, ← hleft]
          exact hnext
    · rcases mem_cons.mp hlevel with rfl | hlater
      · have hasks : asks meets o.remainingQty (level :: levels) level.price = 0 := by
          simp [asks, hmeets]
        rw [hasks, min_eq_left hqty]
        exact soldAt_applyMatches_eq_zero link
          (.inr fun m hm heq => hnew (heq ▸ price_of_mem_walk hm))
      · have hne : first.price ≠ level.price :=
          fun heq => hnew (heq ▸ mem_map_of_mem hlater)
        rw [asks_cons hne, if_neg hmeets]
        exact ih hlevels hprices hlater hinfo delay

lemma firstComeFirstServed_eq (o : SimOrder) (tick : TickData) :
    firstComeFirstServed o (some tick) = walk tick.originalTimestamp o.meets o.remainingQty 10
      (tick.levelsFor o.req.buysellType) := by
  by_cases hside : o.req.buysellType = .buy
  · have hmeets : o.meets = (· ≤ o.req.scaledPrice) := by
      funext price
      simp [SimOrder.meets, hside]
    simp [firstComeFirstServed, levelsFor, hmeets, hside]
  · have hmeets : o.meets = (o.req.scaledPrice ≤ ·) := by
      funext price
      simp [SimOrder.meets, hside]
    simp [firstComeFirstServed, levelsFor, hmeets, hside]

lemma nonneg_levelsFor (htick : tick.Nonneg) (side : BuySellType) :
    ∀ level ∈ tick.levelsFor side, 0 ≤ level.qty := by
  intro level hlevel
  rw [levelsFor] at hlevel
  split_ifs at hlevel
  · exact htick level (mem_append_right _ hlevel)
  · exact htick level (mem_append_left _ hlevel)

/-! ## What all orders take -/

variable {side : BuySellType} {level : PriceLevel} (hbook : tick.IsBook)
  (hlevel : level ∈ tick.levelsFor side)
include hbook hlevel

lemma soldAt_match (link : Bool) {o : SimOrder} (hinst : o.req.instrument = tick.instrumentCode) :
    soldAt (tick.instrumentCode, side) level.price
        (o.applyMatches nextId link (firstComeFirstServed o (some tick))).2 =
      min (o.asksAt tick side level.price) level.qty := by
  rw [asksAt]
  split_ifs with hside
  · subst hside
    rw [firstComeFirstServed_eq]
    exact soldAt_walk link (nonneg_levelsFor hbook.nonneg _) (hbook.prices _) hlevel
      (by rw [hinst]) 10
  · rw [min_eq_left (nonneg_levelsFor hbook.nonneg side level hlevel)]
    exact soldAt_applyMatches_eq_zero link (.inl fun h => hside (congrArg (·.2) h))

/-- The loop of `on_tick`: every order is matched as it stands when the tick comes. -/
lemma soldAt_ticks {s : SimulatorCore} {ids : List Int} (hids : ids.Nodup)
    (hactive : ∀ id ∈ ids, s.isActive tick id)
    (hsame : ∀ id ∈ ids, acc.1.orderCache.lookup id = s.orderCache.lookup id) :
    soldAt (tick.instrumentCode, side) level.price
        (ids.foldl (matchOne .firstComeFirstServed nextId tick) acc).2 =
      soldAt (tick.instrumentCode, side) level.price acc.2 +
        ((ids.filterMap (s.orderCache.lookup ·)).map
          fun o => min (o.asksAt tick side level.price) level.qty).sum := by
  induction ids generalizing acc with
  | nil => simp
  | cons id ids ih =>
    obtain ⟨hnew, hids⟩ := nodup_cons.mp hids
    obtain ⟨hopen, hactive⟩ := forall_mem_cons.mp hactive
    obtain ⟨hlook, hsame⟩ := forall_mem_cons.mp hsame
    obtain ⟨o, ho, hinst⟩ : ∃ o, s.orderCache.lookup id = some o ∧
        o.req.instrument = tick.instrumentCode := by
      obtain ⟨o, ho, hopen⟩ := Option.any_eq_true _ _ |>.mp hopen
      exact ⟨o, ho, (of_decide_eq_true hopen).1⟩
    rw [ho] at hlook
    rw [foldl_cons, filterMap_cons, ho, map_cons, sum_cons, ← add_assoc]
    simp only [matchOne, hlook]
    rw [ih _ hids hactive, soldAt_append, soldAt_match hbook hlevel false hinst]
    intro j hj
    rw [AList.lookup_insert_ne (by rintro rfl; exact hnew hj)]
    exact hsame j hj

/-- A new order is matched once, when it is placed. -/
lemma soldAt_places (orders : NewOrders)
    (htick : acc.1.orderbookCache.lookup tick.instrumentCode = some tick) :
    soldAt (tick.instrumentCode, side) level.price
        (orders.foldl (place orderRef nextId) acc).2 =
      soldAt (tick.instrumentCode, side) level.price acc.2 +
        (((orders.filter tick.isFor).map fun new => SimOrder.new new.1 (orderRef new.1) new.2.1).map
          fun o => min (o.asksAt tick side level.price) level.qty).sum := by
  induction orders generalizing acc with
  | nil => simp
  | cons new orders ih =>
    obtain ⟨req, ts, bookOnly⟩ := new
    have hkept : (place orderRef nextId acc (req, ts, bookOnly)).1.orderbookCache =
        acc.1.orderbookCache := by
      simp only [place, onNewOrder]
      split_ifs <;> rfl
    have hbooked : ∀ o : SimOrder,
        (o.booked ts).soldAt (tick.instrumentCode, side) level.price = 0 := fun _ => rfl
    rw [foldl_cons, ih _ (hkept ▸ htick), filter_cons]
    by_cases hvalid : 0 < req.scaledQty ∧ 0 ≤ req.scaledPrice
    · simp only [place, onNewOrder, if_pos hvalid, soldAt_append, soldAt_cons, hbooked, zero_add]
      cases bookOnly with
      | true =>
        have hfor : tick.isFor (req, ts, true) = false := by simp [isFor]
        simp [hfor, applyMatches, soldAt]
      | false =>
        by_cases hinst : req.instrument = tick.instrumentCode
        · have hlook : acc.1.orderbookCache.lookup req.instrument = some tick := hinst ▸ htick
          have hfor : tick.isFor (req, ts, false) := by simp [isFor, hinst, hvalid]
          simp only [Bool.false_eq_true, if_false, hlook, hfor, if_true]
          rw [soldAt_match hbook hlevel true (by exact hinst), map_cons, map_cons, sum_cons,
            add_assoc]
        · have hfor : tick.isFor (req, ts, false) = false := by simp [isFor, hinst]
          rw [soldAt_applyMatches_eq_zero true (.inl fun h => hinst (congrArg (·.1) h)), add_zero,
            hfor]
          rfl
    · have hfor : tick.isFor (req, ts, bookOnly) = false :=
        decide_eq_false fun h => hvalid h.2.2
      simp [hfor, place, onNewOrder, hvalid, soldAt, SimResult.soldAt, result]

end Steps

/-- **What is sold at a level** is what each order asks for there, cut off at the quantity of the
level. -/
theorem soldAt_period (orderRef : SendOrderRequest → String) (nextId : SimOrder → String)
    (s : SimulatorCore) {tick : TickData} (hbook : tick.IsBook) {ids : List Int}
    (hids : ids.Perm s.orderCache.keys) (orders : NewOrders) {side : BuySellType}
    {level : PriceLevel} (hlevel : level ∈ tick.levelsFor side) :
    soldAt (tick.instrumentCode, side) level.price (s.period orderRef nextId tick ids orders) =
      ((s.matchedWith orderRef tick ids orders).map
        fun o => min (o.asksAt tick side level.price) level.qty).sum := by
  have hnodup : ids.Nodup := hids.nodup_iff.mpr s.orderCache.keys_nodup
  have hone : ∀ (acc : SimulatorCore × List SimResult) (id : Int),
      (matchOne .firstComeFirstServed nextId tick acc id).1.orderbookCache =
        acc.1.orderbookCache := by
    intro acc id
    cases ho : acc.1.orderCache.lookup id <;> simp [matchOne, ho]
  have htick : (s.onTick .firstComeFirstServed nextId tick ids).1.orderbookCache.lookup
      tick.instrumentCode = some tick := by
    have hkept : (s.onTick .firstComeFirstServed nextId tick ids).1.orderbookCache =
        (s.updateOrderbook tick).orderbookCache :=
      foldl_preserves (g := fun acc : SimulatorCore × List SimResult => acc.1.orderbookCache)
        hone _ _
    rw [hkept]
    exact AList.lookup_insert _
  rw [period, soldAt_places _ hbook hlevel orders htick, onTick,
    soldAt_ticks (s := s) _ hbook hlevel (hnodup.filter _) (fun id hid => (mem_filter.mp hid).2)
      fun _ _ => rfl,
    matchedWith, map_append, sum_append]
  simp [soldAt]

open Sample

end Zkbot
