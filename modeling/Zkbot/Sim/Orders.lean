import Mathlib.Tactic.Linarith
import Zkbot.Sim.Core

/-!
# The reports of a simulated order

What the reports of an order say, over all runs of the simulator.

* `Conserves` — the trades of an order add up to its fill, and every state that is reported carries
  the fill and the rest at that moment.  `simulator_conserves`: it always holds.
* `reports_in_time` — the reports of an order are stamped in the order they are made, as long as it
  is not cancelled at a time before that of its last fill, which lies in the future.
-/

namespace Zkbot

open List Option MatchPolicy SimOrder SimResult

/-- The quantities of the trades in a report. -/
def SimResult.trades (r : SimResult) : List ℚ :=
  r.orderReport.orderReportEntries.filterMap fun e =>
    match e.report with
    | some (.tradeReport t) => some t.filledQty
    | _ => none

/-- The state that a report gives. -/
def SimResult.state? (r : SimResult) : Option OrderStateReport :=
  r.orderReport.orderReportEntries.findSome? fun e =>
    match e.report with
    | some (.orderStateReport st) => some st
    | _ => none

def tradedQty (log : List SimResult) : ℚ := (log.flatMap trades).sum

section Reports

variable (o : SimOrder) (ts : Int) (exchTradeId : String) (m : MatchResult) (link : Bool)

def SimOrder.state (status : ExchangeOrderStatus) : OrderStateReport :=
  { exchOrderStatus := status, filledQty := o.filledQty, unfilledQty := o.remainingQty }

@[simp] lemma trades_booked : (o.booked ts).trades = [] := rfl

@[simp] lemma state_booked : (o.booked ts).state? = some (o.state o.status) := rfl

@[simp] lemma trades_trade : (o.trade exchTradeId m link).trades = [m.qty] := by
  cases link <;> rfl

@[simp] lemma state_trade : (o.trade exchTradeId m link).state? = some (o.state o.status) := by
  cases link <;> rfl

@[simp] lemma trades_cancelledReport : o.cancelledReport.trades = [] := rfl

@[simp] lemma state_cancelledReport : o.cancelledReport.state? = some (o.state .cancelled) := rfl

end Reports

@[simp] lemma tradedQty_append (log out : List SimResult) :
    tradedQty (log ++ out) = tradedQty log + tradedQty out := by
  simp [tradedQty]

@[simp] lemma tradedQty_singleton (r : SimResult) : tradedQty [r] = r.trades.sum := by
  simp [tradedQty]

/-- A state of an order for `qty`, of which `filled` has been traded. -/
structure OrderStateReport.Carries (st : OrderStateReport) (filled qty : ℚ) : Prop where
  filled : st.filledQty = filled
  rest : st.exchOrderStatus ≠ .cancelled → st.filledQty + st.unfilledQty = qty
  cancelled : st.exchOrderStatus = .cancelled → st.unfilledQty = 0
  whole : st.exchOrderStatus = .filled → st.unfilledQty = 0

/-- **The quantity of an order is conserved**, by the order and its reports. -/
structure Conserves (o : SimOrder) (log : List SimResult) : Prop where
  traded : tradedQty log = o.filledQty
  bounded : o.filledQty ≤ o.req.scaledQty
  rest : (∀ r ∈ log, ∀ st ∈ r.state?, st.exchOrderStatus ≠ .cancelled) →
    o.filledQty + o.remainingQty = o.req.scaledQty
  states : ∀ before r after, log = before ++ r :: after → ∀ st ∈ r.state?,
    st.Carries (tradedQty (before ++ [r])) o.req.scaledQty ∧
      (st.exchOrderStatus = .filled ∨ st.exchOrderStatus = .cancelled → after = [])

/-- What holds of an order and its reports: an order that is open has been reported as booked only,
and its last report gives its state. -/
structure Accounts (o : SimOrder) (log : List SimResult) : Prop extends Conserves o log where
  nonneg : 0 ≤ o.remainingQty
  booked : 0 < o.remainingQty → ∀ r ∈ log, ∀ st ∈ r.state?, st.exchOrderStatus = .booked
  last : log.getLast?.bind state? = some (o.state o.status) ∨
    o.remainingQty = 0 ∧ log.getLast?.bind state? = some (o.state .cancelled)

/-- A split of a list with a new last element. -/
lemma split_concat {α : Type} {log before after : List α} {x r : α}
    (h : log ++ [x] = before ++ r :: after) :
    before = log ∧ r = x ∧ after = [] ∨
      ∃ rest, after = rest ++ [x] ∧ log = before ++ r :: rest := by
  rcases eq_nil_or_concat after with rfl | ⟨rest, y, rfl⟩
  · simp_all
  · have h' : log ++ [x] = (before ++ r :: rest) ++ [y] := by simpa using h
    have := append_inj' h' rfl
    simp_all

/-- One more report, of an order that has been reported as booked only. -/
lemma accounts_concat {o : SimOrder} {log : List SimResult} {r : SimResult}
    {status : ExchangeOrderStatus}
    (hstates : ∀ before x after, log = before ++ x :: after → ∀ st ∈ x.state?,
      st.Carries (tradedQty (before ++ [x])) o.req.scaledQty)
    (hbooked : ∀ x ∈ log, ∀ st ∈ x.state?, st.exchOrderStatus = .booked)
    (hst : r.state? = some (o.state status)) (htraded : tradedQty (log ++ [r]) = o.filledQty)
    (hnonneg : 0 ≤ o.remainingQty) (hle : o.filledQty ≤ o.req.scaledQty)
    (hstatus : status = o.status ∧ o.filledQty + o.remainingQty = o.req.scaledQty ∨
      status = .cancelled ∧ o.remainingQty = 0) : Accounts o (log ++ [r]) where
  traded := htraded
  bounded := hle
  rest hnot := by
    rcases hstatus with hstatus | ⟨rfl, -⟩
    · exact hstatus.2
    · exact absurd rfl (hnot r (by simp) _ hst)
  nonneg := hnonneg
  booked hopen x hx st hmem := by
    rcases mem_append.mp hx with hx | hx
    · exact hbooked x hx st hmem
    · rw [mem_singleton.mp hx] at hmem
      cases mem_unique hst hmem
      rcases hstatus with ⟨rfl, -⟩ | ⟨-, hzero⟩
      · exact if_neg (not_le.mpr hopen)
      · exact absurd hzero hopen.ne'
  last := by
    rw [getLast?_concat, bind_some, hst]
    rcases hstatus with ⟨rfl, -⟩ | ⟨rfl, hzero⟩
    · exact .inl rfl
    · exact .inr ⟨hzero, rfl⟩
  states before x after hsplit st hmem := by
    obtain ⟨rfl, rfl, rfl⟩ | ⟨rest, rfl, rfl⟩ := split_concat hsplit
    · cases mem_unique hst hmem
      refine ⟨⟨htraded.symm, fun hne => ?_, fun heq => ?_, fun heq => ?_⟩, fun _ => rfl⟩ <;>
        rcases hstatus with ⟨rfl, hsum⟩ | ⟨rfl, hzero⟩
      · exact hsum
      · exact absurd rfl hne
      · simp only [state, status] at heq
        split_ifs at heq
      · exact hzero
      · simp only [state, status] at heq ⊢
        split_ifs at heq with hdone
        exact le_antisymm hdone hnonneg
      · cases heq
    · refine ⟨hstates before x rest rfl st hmem, fun hfinal => ?_⟩
      simp [hbooked x (by simp) st hmem] at hfinal

lemma accounts_rules (nextId : SimOrder → String) :
    Keeps nextId (fun o m => 0 ≤ m.qty ∧ m.qty ≤ o.remainingQty) (fun _ _ => True) Accounts where
  booked req ref ts hpos := by
    show Accounts _ ([] ++ [_])
    exact accounts_concat (by simp) (by simp) rfl rfl hpos.le hpos.le (.inl ⟨rfl, by simp [new]⟩)
  matched o log m link h hopen hm := by
    have hsum := h.rest fun x hx st hst => by simp [h.booked hopen x hx st hst]
    refine accounts_concat (fun before x after hsplit st hst => (h.states _ _ _ hsplit st hst).1)
      (h.booked hopen) (state_trade ..) ?_ ?_ ?_ (.inl ⟨rfl, ?_⟩)
    · simp [h.traded, matched]
    · exact sub_nonneg.mpr hm.2
    · simp only [matched]
      linarith
    · simp only [matched]
      linarith
  cancelled o log ts h hopen _ :=
    accounts_concat (fun before x after hsplit st hst => (h.states _ _ _ hsplit st hst).1)
      (h.booked hopen) (state_cancelledReport _)
      (by simp [h.traded, cancelled]) le_rfl h.bounded (.inr ⟨rfl, rfl⟩)

/-! ## The policies -/

/-- A tick without negative quantities. -/
def TickData.Nonneg (tick : TickData) : Prop :=
  ∀ level ∈ tick.buyPriceLevels ++ tick.sellPriceLevels, 0 ≤ level.qty

lemma allGood_walk {ts : Int} {meets : ℚ → Bool} {levels : List PriceLevel}
    (h : ∀ level ∈ levels, 0 ≤ level.qty) (o : SimOrder) (delay : Int) :
    AllGood (fun o m => 0 ≤ m.qty ∧ m.qty ≤ o.remainingQty) o
      (walk ts meets o.remainingQty delay levels) := by
  induction levels generalizing o delay with
  | nil => trivial
  | cons level levels ih =>
    have hrest := (forall_mem_cons.mp h).2
    simp only [walk]
    split_ifs with hdone hmeets
    · trivial
    · refine ⟨⟨le_min (not_le.mp hdone).le (h level mem_cons_self), min_le_left _ _⟩,
        fun _ => ih hrest _ _⟩
    · exact ih hrest o delay

lemma allGood_policy {policy : MatchPolicy}
    (hp : policy = .immediate ∨ policy = .firstComeFirstServed) (o : SimOrder)
    (tick? : Option TickData) (hopen : 0 < o.remainingQty) (hbook : ∀ t ∈ tick?, t.Nonneg) :
    AllGood (fun o m => 0 ≤ m.qty ∧ m.qty ≤ o.remainingQty) o (policy o tick?) := by
  rcases hp with rfl | rfl
  · exact ⟨⟨hopen.le, le_rfl⟩, fun _ => trivial⟩
  · cases tick? with
    | none => trivial
    | some tick =>
      have hlevels := hbook tick rfl
      simp only [firstComeFirstServed, elim_some]
      split_ifs
      · exact allGood_walk (forall_mem_append.mp hlevels).2 o 10
      · exact allGood_walk (forall_mem_append.mp hlevels).1 o 10

lemma Reach.accounts {policy : MatchPolicy} {orderRef : SendOrderRequest → String}
    {nextId : SimOrder → String} {s : SimulatorCore} {log : List SimResult}
    (hp : policy = .immediate ∨ policy = .firstComeFirstServed)
    (hr : Reach policy orderRef nextId TickData.Nonneg (fun _ _ => True) s log) :
    Holds TickData.Nonneg Accounts s log :=
  hr.of_rules (accounts_rules nextId) (allGood_policy hp) fun _ _ hpos hle => ⟨hpos.le, hle⟩

/-- **The simulator conserves quantity**, order by order. -/
theorem simulator_conserves (policy : MatchPolicy) (orderRef : SendOrderRequest → String)
    (nextId : SimOrder → String) (hp : policy = .immediate ∨ policy = .firstComeFirstServed)
    (s : SimulatorCore) (log : List SimResult)
    (hr : Reach policy orderRef nextId TickData.Nonneg (fun _ _ => True) s log)
    (id : Int) (o : SimOrder) (ho : s.orderCache.lookup id = some o) :
    Conserves o (reportsOf id log) :=
  ((hr.accounts hp).orders id o ho).2.2.toConserves

/-- A book with four for sale. -/
def Sample.fourForSale : TickData where
  instrumentCode := "P"
  originalTimestamp := 0
  sellPriceLevels := [⟨100, 4⟩]

/-- A buy of ten. -/
def Sample.simBuy (correlationId : Int) : SendOrderRequest where
  correlationId := correlationId
  exchAccountId := ""
  instrument := "P"
  buysellType := .buy
  opencloseType := .opening
  orderType := .limit
  scaledPrice := 100
  scaledQty := 10
  timestamp := 0
  exchSpecificParams := none
  timeInforceType := .gtc

open Sample

theorem simulator_conserves_partial_fill :
    ∃ s log o, Reach .firstComeFirstServed (fun _ => "") (fun _ => "") TickData.Nonneg
        (fun _ _ => True) s log ∧ s.orderCache.lookup 1 = some o ∧ o.filledQty = 4 ∧
      Conserves o (reportsOf 1 log) := by
  have htick : Reach .firstComeFirstServed (fun _ => "") (fun _ => "") TickData.Nonneg
      (fun _ _ => True) _ _ := .call (.tick fourForSale []) .start
      ⟨.refl _, by simp [TickData.Nonneg, fourForSale]⟩
  have hnew := Reach.call (.newOrder (simBuy 1) 0 false) htick nofun
  refine ⟨_, _, _, hnew, rfl, by decide +kernel, ?_⟩
  exact simulator_conserves _ _ _ (.inr rfl) _ _ hnew 1 _ rfl

/-! ## The times of the reports -/

/-- The reports so far are stamped in order, up to the last update of the order. -/
def Stamped (o : SimOrder) (log : List SimResult) : Prop :=
  (log.map (·.tsMs)).Pairwise (· < ·) ∧ ∀ r ∈ log, r.tsMs ≤ o.updateTs

lemma Stamped.concat {o o' : SimOrder} {log : List SimResult} (h : Stamped o log)
    (hlt : o.updateTs < o'.updateTs) {r : SimResult} (hr : r.tsMs = o'.updateTs) :
    Stamped o' (log ++ [r]) := by
  refine ⟨?_, fun x hx => ?_⟩
  · rw [map_append, pairwise_append]
    refine ⟨h.1, pairwise_singleton _ _, fun t ht t' ht' => ?_⟩
    obtain ⟨x, hx, rfl⟩ := mem_map.mp ht
    obtain rfl : t' = r.tsMs := mem_singleton.mp ht'
    exact (h.2 x hx).trans_lt (hr ▸ hlt)
  · rcases mem_append.mp hx with hx | hx
    · exact (h.2 x hx).trans hlt.le
    · rw [mem_singleton.mp hx, hr]

/-- **The reports of an order are in time** if no open order is cancelled before its last report. -/
theorem reports_in_time (policy : MatchPolicy) (orderRef : SendOrderRequest → String)
    (nextId : SimOrder → String) (s : SimulatorCore) (log : List SimResult)
    (hr : Reach policy orderRef nextId (fun _ => True) (fun o ts => o.updateTs ≤ ts) s log)
    (id : Int) (hid : id ∈ s.orderCache) :
    ((reportsOf id log).map (·.tsMs)).Pairwise (· < ·) := by
  have hrules : Keeps nextId (fun _ _ => True) (fun o ts => o.updateTs ≤ ts) Stamped :=
    { booked := fun req ref ts _ => ⟨pairwise_singleton _ _, by simp [booked, result, new]⟩
      matched := fun o log m link h _ _ => h.concat (by simp [matched]) rfl
      cancelled := fun o log ts h _ hts => h.concat (Int.lt_add_one_iff.mpr hts) rfl }
  have hgood : ∀ o ms, AllGood (fun _ _ => True) o ms := by
    intro o ms
    induction ms generalizing o with
    | nil => trivial
    | cons m ms ih => exact ⟨trivial, fun _ => ih _⟩
  obtain ⟨o, ho⟩ := isSome_iff_exists.mp (AList.lookup_isSome.mpr hid)
  exact ((hr.of_rules hrules (fun o _ _ _ => hgood o _) fun _ _ _ _ => trivial).orders
    id o ho).2.2.1

theorem reports_in_time_late_cancel :
    ∃ s log, Reach .firstComeFirstServed (fun _ => "") (fun _ => "") (fun _ => True)
        (fun o ts => o.updateTs ≤ ts) s log ∧ (reportsOf 1 log).map (·.tsMs) = [0, 10, 11] ∧
      ((reportsOf 1 log).map (·.tsMs)).Pairwise (· < ·) := by
  have htick : Reach .firstComeFirstServed (fun _ => "") (fun _ => "") (fun _ => True)
      (fun o ts => o.updateTs ≤ ts) _ _ :=
    .call (.tick fourForSale []) .start ⟨.refl _, trivial⟩
  have hnew := Reach.call (.newOrder (simBuy 1) 0 false) htick nofun
  have hcancel := Reach.call (.cancel 1 10) hnew (by
    rintro o ho -
    cases ho
    decide +kernel)
  refine ⟨_, _, hcancel, by decide +kernel, ?_⟩
  exact reports_in_time _ _ _ _ _ hcancel 1 (by decide +kernel)

/-- A fill is stamped ten milliseconds ahead.  The order is cancelled before that time, and the
cancel has the earlier stamp. -/
theorem cancel_stamped_before_fill :
    let book := SimulatorCore.call .firstComeFirstServed (fun _ => "") (fun _ => "") {}
      (.tick fourForSale [])
    let placed := book.1.call .firstComeFirstServed (fun _ => "") (fun _ => "")
      (.newOrder (simBuy 1) 0 false)
    let cancelled := placed.1.call .firstComeFirstServed (fun _ => "") (fun _ => "") (.cancel 1 5)
    (reportsOf 1 (placed.2 ++ cancelled.2)).map (·.tsMs) = [0, 10, 6] := by
  decide +kernel

end Zkbot
