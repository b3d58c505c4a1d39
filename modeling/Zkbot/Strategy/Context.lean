import Zkbot.Core.Run
import Zkbot.Oms.Builders

/-!
# What a strategy sees

`context.rs`: the orders, balances and positions of each account, as the strategy's own actions and
the events of the OMS leave them.  An order is to be in one of three maps of one account: pending
when it is booked, open when the OMS shows it working, terminal when it is closed.  Each handler
moves the id with no look at the other maps.

* `Tidy` — every known order is in exactly one map, and cancels are awaited of live orders only.
* `Orderly` — the calls that keep this: an order is booked before its first update, an update finds
  an account, none shows an order working again after it was closed, and no cancel is sent for a
  closed order.  `tidy_iff_orderly` says that these are exactly the calls that do.
-/

namespace Zkbot

open Option Dict

/-- `StrategyOrder`; its terms are only copied. -/
structure StrategyOrder where
  orderId : Int
  accountId : Int
  deriving DecidableEq

structure AccountState where
  pendingOrders : Dict Int StrategyOrder := ∅
  openOrders : Dict Int Order := ∅
  terminalOrders : Dict Int Order := ∅
  pendingCancels : Finset Int := ∅
  balances : Dict String Balance := ∅
  positions : Dict String Position := ∅

structure StrategyContext where
  accountStates : Dict Int AccountState := ∅
  orderIdToAccount : Dict Int Int := ∅
  currentTsMs : Int := 0
  balanceGeneration : ℕ := 0
  positionGeneration : ℕ := 0

open StrategyContext

/-- The maps after an update with a snapshot. -/
def AccountState.update (acc : AccountState) (orderId : Int) (snapshot : Order) : AccountState :=
  if snapshot.orderStatus.isTerminal then
    { acc with
      terminalOrders := acc.terminalOrders.insert orderId snapshot
      openOrders := acc.openOrders.erase orderId
      pendingOrders := acc.pendingOrders.erase orderId
      pendingCancels := acc.pendingCancels.erase orderId }
  else
    { acc with
      openOrders := acc.openOrders.insert orderId snapshot
      pendingOrders := acc.pendingOrders.erase orderId }

namespace StrategyContext

variable {a : Int}

def new (accountIds : List Int) : StrategyContext :=
  { accountStates := accountIds.foldl (fun states id => states.insert id {}) ∅ }

def bookOrder (ctx : StrategyContext) (order : StrategyOrder) : StrategyContext :=
  let acc := ctx.accountStates.getD order.accountId {}
  { ctx with
    accountStates := ctx.accountStates.insert order.accountId
      { acc with pendingOrders := acc.pendingOrders.insert order.orderId order }
    orderIdToAccount := ctx.orderIdToAccount.insert order.orderId order.accountId }

def bookCancel (ctx : StrategyContext) (orderId : Int) : StrategyContext :=
  match ctx.orderIdToAccount.lookup orderId with
  | some accId =>
    { ctx with
      accountStates := ctx.accountStates.modify accId fun acc =>
        { acc with pendingCancels := insert orderId acc.pendingCancels } }
  | none => ctx

/-- `on_order_update`.  An order that is not known is taken for one of the event's account. -/
def onOrderUpdate (ctx : StrategyContext) (oue : OrderUpdateEvent) : StrategyContext :=
  match oue.orderSnapshot with
  | none => ctx
  | some snapshot =>
    let accId := ctx.orderIdToAccount.getD oue.orderId oue.accountId
    { ctx with
      currentTsMs := if oue.timestamp > ctx.currentTsMs then oue.timestamp else ctx.currentTsMs
      orderIdToAccount :=
        match ctx.orderIdToAccount.lookup oue.orderId with
        | some _ => ctx.orderIdToAccount
        | none => ctx.orderIdToAccount.insert oue.orderId oue.accountId
      accountStates := ctx.accountStates.modify accId (·.update oue.orderId snapshot) }

/-- The calls that are about orders. -/
inductive OrderCall where
  | bookOrder (order : StrategyOrder)
  | bookCancel (orderId : Int)
  | onOrderUpdate (oue : OrderUpdateEvent)

section

variable (ctx : StrategyContext)

def apply : OrderCall → StrategyContext
  | .bookOrder order => ctx.bookOrder order
  | .bookCancel orderId => ctx.bookCancel orderId
  | .onOrderUpdate oue => ctx.onOrderUpdate oue

def step (call : OrderCall) : Option StrategyContext :=
  some (ctx.apply call)

/-! ## Orders and maps -/

/-- Where an order is in an account, and whether a cancel is awaited. -/
structure Place where
  pending : Bool := false
  opened : Bool := false
  terminal : Bool := false
  cancelling : Bool := false

/-- In how many of the three maps. -/
def Place.count (p : Place) : ℕ := p.pending.toNat + p.opened.toNat + p.terminal.toNat

def place (a id : Int) : Place :=
  (ctx.accountStates.lookup a).elim {} fun acc =>
    { pending := (acc.pendingOrders.lookup id).isSome
      opened := (acc.openOrders.lookup id).isSome
      terminal := (acc.terminalOrders.lookup id).isSome
      cancelling := decide (id ∈ acc.pendingCancels) }

/-- Every known order is in exactly one map of exactly one account, and the cancels that an account
waits for are of its pending and open orders. -/
structure Tidy : Prop where
  one : ∀ id, (ctx.orderIdToAccount.lookup id).isSome →
    ∃ a, (ctx.place a id).count = 1 ∧ ∀ a', a' ≠ a → (ctx.place a' id).count = 0
  cancels : ∀ a id, (ctx.place a id).cancelling → (ctx.place a id).pending ∨ (ctx.place a id).opened

/-- The account that an order is handled for. -/
def accountOf (oue : OrderUpdateEvent) : Int :=
  ctx.orderIdToAccount.getD oue.orderId oue.accountId

/-- What a call finds: a new order is not known (or it is booked again for the same account), a
cancel is not for a closed order, and an update finds an account and, if it shows the order working,
not a closed order. -/
def Orderly : OrderCall → Prop
  | .bookOrder order =>
    ctx.orderIdToAccount.lookup order.orderId = none ∨
      (ctx.place order.accountId order.orderId).pending
  | .bookCancel orderId =>
    ∀ a, ctx.orderIdToAccount.lookup orderId = some a → ¬ (ctx.place a orderId).terminal
  | .onOrderUpdate oue =>
    ∀ snapshot, oue.orderSnapshot = some snapshot →
      (ctx.accountStates.lookup (ctx.accountOf oue)).isSome ∧
      (snapshot.orderStatus.isTerminal = false →
        ¬ (ctx.place (ctx.accountOf oue) oue.orderId).terminal)

end

variable {ctx : StrategyContext}

lemma place_of_none (h : ctx.accountStates.lookup a = none) (id : Int) : ctx.place a id = {} := by
  simp [place, h]

lemma place_bookOrder (order : StrategyOrder) (a id : Int) :
    (ctx.bookOrder order).place a id =
      if a = order.accountId ∧ id = order.orderId then { ctx.place a id with pending := true }
      else ctx.place a id := by
  by_cases ha : a = order.accountId
  · subst ha
    cases hacc : ctx.accountStates.lookup order.accountId <;>
      simp only [place, bookOrder, Dict.lookup_insert_if, Dict.getD, hacc, getD_none, getD_some] <;>
      split_ifs <;> simp_all [lookup_insert_if, -AList.insert_empty]
  · simp [place, bookOrder, ha]

lemma place_bookCancel {orderId : Int} (h : ctx.orderIdToAccount.lookup orderId = some a)
    (hacc : (ctx.accountStates.lookup a).isSome) (a' id : Int) :
    (ctx.bookCancel orderId).place a' id =
      if a' = a ∧ id = orderId then { ctx.place a' id with cancelling := true }
      else ctx.place a' id := by
  obtain ⟨acc, hacc⟩ := isSome_iff_exists.mp hacc
  by_cases ha : a' = a
  · subst ha
    simp [place, bookCancel, h, hacc]
    split_ifs <;> simp_all
  · simp [place, bookCancel, h, lookup_modify_ne ha, ha]

/-- An update takes the order out of every map but one. -/
lemma place_onOrderUpdate {oue : OrderUpdateEvent} {snapshot : Order}
    (h : oue.orderSnapshot = some snapshot)
    (hacc : (ctx.accountStates.lookup (ctx.accountOf oue)).isSome) (a id : Int) :
    (ctx.onOrderUpdate oue).place a id =
      if a = ctx.accountOf oue ∧ id = oue.orderId then
        if snapshot.orderStatus.isTerminal then { terminal := true }
        else { ctx.place a id with opened := true, pending := false }
      else ctx.place a id := by
  obtain ⟨acc, hacc⟩ := isSome_iff_exists.mp hacc
  by_cases ha : a = ctx.accountOf oue
  · subst ha
    simp only [accountOf] at hacc
    simp [place, onOrderUpdate, h, accountOf, hacc, AccountState.update]
    split_ifs <;> simp_all [lookup_insert_if, lookup_erase_if]
  · have ha' : a ≠ ctx.orderIdToAccount.getD oue.orderId oue.accountId := ha
    simp [place, onOrderUpdate, h, lookup_modify_ne ha', ha]

/-- Every known order is in one map of the account it is known under, and no other order is in
any. -/
structure Good (ctx : StrategyContext) : Prop where
  placed : ∀ a id, (ctx.place a id).count = if ctx.orderIdToAccount.lookup id = some a then 1 else 0
  cancels : ∀ a id, (ctx.place a id).cancelling → (ctx.place a id).pending ∨ (ctx.place a id).opened

lemma Good.tidy (h : ctx.Good) : ctx.Tidy := by
  refine ⟨fun id hid => ?_, h.cancels⟩
  obtain ⟨a, ha⟩ := isSome_iff_exists.mp hid
  refine ⟨a, by simp [h.placed, ha], fun a' ha' => ?_⟩
  simp [h.placed, ha, ha'.symm]

lemma Good.account (h : ctx.Good) {id : Int} (hid : ctx.orderIdToAccount.lookup id = some a) :
    (ctx.accountStates.lookup a).isSome := by
  by_contra hnone
  have hcount := h.placed a id
  rw [place_of_none (by simpa using hnone), if_pos hid] at hcount
  cases hcount

variable {call : OrderCall}

lemma Good.apply (h : ctx.Good) (hok : ctx.Orderly call) : (ctx.apply call).Good := by
  have placed := h.placed
  have cancels := h.cancels
  cases call with
  | bookOrder order =>
    refine ⟨fun a id => ?_, fun a id => ?_⟩ <;>
      simp [apply, place_bookOrder]
    · grind [bookOrder, lookup_insert_if, Place.count, Orderly]
    · grind
  | bookCancel orderId =>
    cases hid : ctx.orderIdToAccount.lookup orderId with
    | none => simpa [apply, bookCancel, hid] using h
    | some a =>
      have hplace := place_bookCancel hid (h.account hid)
      have hknown : (ctx.bookCancel orderId).orderIdToAccount = ctx.orderIdToAccount := by
        simp [bookCancel, hid]
      refine ⟨fun a' id => ?_, fun a' id => ?_⟩ <;> simp only [apply, hplace]
      · grind [Place.count]
      · grind [Place.count, Orderly]
  | onOrderUpdate oue =>
    cases hs : oue.orderSnapshot with
    | none => simpa [apply, onOrderUpdate, hs] using h
    | some snapshot =>
      obtain ⟨hacc, hopen⟩ := hok snapshot hs
      have hplace := place_onOrderUpdate hs hacc
      refine ⟨fun a id => ?_, fun a id => ?_⟩ <;> simp only [apply, hplace]
      · cases hid : ctx.orderIdToAccount.lookup oue.orderId <;>
          grind [onOrderUpdate, accountOf, Dict.getD, Dict.lookup_insert_if, Place.count]
      · grind

/-- Only an orderly call leaves the maps tidy. -/
lemma Good.orderly_of_tidy (h : ctx.Good) (htidy : (ctx.apply call).Tidy) : ctx.Orderly call := by
  have placed := h.placed
  have one := htidy.one
  have cancels := htidy.cancels
  cases call with
  | bookOrder order =>
    simp only [StrategyContext.apply, place_bookOrder] at one
    cases hid : ctx.orderIdToAccount.lookup order.orderId with
    | none => exact .inl hid
    | some a =>
      obtain ⟨a₀, hone, hzero⟩ := one order.orderId (by simp [bookOrder])
      have := placed a order.orderId
      grind [Place.count, Orderly]
  | bookCancel orderId =>
    intro a hid hterm
    simp only [StrategyContext.apply, place_bookCancel hid (h.account hid)] at *
    grind [Place.count]
  | onOrderUpdate oue =>
    intro snapshot hs
    obtain ⟨a₀, hone, hzero⟩ := one oue.orderId (by
      cases hid : ctx.orderIdToAccount.lookup oue.orderId <;>
        simp [StrategyContext.apply, onOrderUpdate, hs, hid])
    by_cases hacc : (ctx.accountStates.lookup (ctx.accountOf oue)).isSome
    · have := placed (ctx.accountOf oue) oue.orderId
      simp only [StrategyContext.apply, place_onOrderUpdate hs hacc] at *
      grind [Place.count]
    · -- nothing is written, so the order was known, and its account is there
      have hnone : ctx.accountStates.lookup (ctx.orderIdToAccount.getD oue.orderId oue.accountId) =
          none := by simpa [accountOf] using hacc
      have hsame : (ctx.onOrderUpdate oue).accountStates = ctx.accountStates := by
        simp [onOrderUpdate, hs, Dict.modify, hnone]
      have hcount := placed a₀ oue.orderId
      simp only [StrategyContext.apply, place, hsame] at hone hcount
      rw [hone] at hcount
      split_ifs at hcount with hid
      have hsome := h.account hid
      rw [Dict.getD, hid, getD_some] at hnone
      rw [hnone] at hsome
      cases hsome

lemma good_new (accountIds : List Int) : (new accountIds).Good := by
  have hempty : ∀ (states : Dict Int AccountState) a,
      (∀ acc, states.lookup a = some acc → acc = {}) → ∀ acc,
        (accountIds.foldl (fun m id => m.insert id {}) states).lookup a = some acc → acc = {} := by
    induction accountIds with
    | nil => exact fun _ _ h => h
    | cons id ids ih =>
      intro states a h
      refine ih _ a fun acc hacc => ?_
      rw [lookup_insert_if] at hacc
      split_ifs at hacc
      · exact (some.inj hacc).symm
      · exact h acc hacc
  have hplace : ∀ a id, (new accountIds).place a id = {} := by
    intro a id
    cases hacc : (new accountIds).accountStates.lookup a with
    | none => exact place_of_none hacc id
    | some acc =>
      obtain rfl := hempty ∅ a nofun acc hacc
      simp [place, hacc]
  exact ⟨fun a id => by rw [hplace]; rfl, fun a id h => by rw [hplace] at h; cases h⟩

/-- **The maps stay tidy exactly along orderly calls.** -/
theorem tidy_iff_orderly (accountIds : List Int) (calls : List OrderCall) :
    Guarded step (fun ctx call => (ctx.apply call).Tidy) (new accountIds) calls ↔
      Guarded step Orderly (new accountIds) calls := by
  obtain ⟨ctx, hr, -⟩ : ∃ ctx, run step (new accountIds) calls = some ctx ∧ True :=
    run_total (fun ctx call _ _ => ⟨_, rfl, trivial⟩) trivial
  refine guarded_congr (I := Good) (fun ctx call _ h _ => ?_) ?_ (good_new accountIds) hr
  · exact ⟨h.orderly_of_tidy, fun hok => (h.apply hok).tidy⟩
  · rintro ctx call _ h hok ⟨⟩
    exact h.apply hok

end StrategyContext

/-- The OMS shows order 1 of account 7. -/
def Sample.shown (orderStatus : OrderStatus) : OrderUpdateEvent :=
  { orderId := 1, accountId := 7, timestamp := 0, orderSourceId := "", lastTrade := none
    lastFee := none, execMessage := none, orderInferredTrade := none
    orderSnapshot := some
      { orderId := 1, exchOrderRef := "", snapshotVersion := 0, instrument := "B-Q"
        buySellType := .buy, openCloseType := .unspecified, price := 1, qty := 1, filledQty := 0
        filledAvgPrice := 0, errorMsg := "", sourceId := "", createdAt := 0, updatedAt := 0
        orderStatus, gwKey := "", instrumentExch := "BQ", accountId := 7 } }

/-- The OMS shows an order working after it was rejected: it is both open and terminal. -/
theorem StrategyContext.working_after_rejected_untidy :
    ∃ ctx ∈ run step (new [7]) [.bookOrder ⟨1, 7⟩, .onOrderUpdate (Sample.shown .rejected),
        .onOrderUpdate (Sample.shown .booked)],
      (ctx.place 7 1).opened ∧ (ctx.place 7 1).terminal ∧ ¬ ctx.Tidy := by
  refine ⟨_, rfl, rfl, rfl, fun htidy => ?_⟩
  obtain ⟨a, hone, hzero⟩ := htidy.one 1 rfl
  by_cases ha : 7 = a
  · subst ha
    exact absurd hone (by decide)
  · exact absurd (hzero 7 ha) (by decide)

end Zkbot
