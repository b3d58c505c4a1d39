import Zkbot.Strategy.Context

/-!
# What reaches a strategy

The way of the balance and position updates of the OMS to the strategy: the SDK's subscription, the
engine's queue with its batches, and the context.  The engine subscribes with `"*"` for the asset
and for the instrument.  For balances the argument is not used; for positions the SDK keeps the
snapshots whose instrument code is that text.

* `Mirrors` — the context holds the last published snapshot of every asset and instrument.
* `mirrors_iff_wildcard` — it does for all balances, and for positions only as long as none is
  published of an instrument with another code than `"*"`.
-/

namespace Zkbot

open List Option Dict

/-- `EngineEvent`; `δ` is what ticks, bars and signals carry for the strategy alone. -/
inductive EngineEvent (δ : Type) where
  | tick (instrumentCode exchange : String) (originalTimestamp : Int) (data : δ)
  | bar (data : δ)
  | orderUpdate (oue : OrderUpdateEvent)
  | balanceUpdate (bue : BalanceUpdateEvent)
  | positionUpdate (pue : PositionUpdateEvent)
  | signal (data : δ)
  | timer (nowMs : Int)
  | pause
  | resume
  | stop

open EngineEvent

/-- `SAction`, as far as it changes the context. -/
inductive SAction where
  | placeOrder (order : StrategyOrder)
  | cancel (orderId : Int)
  | log
  | subscribeTimer

namespace StrategyContext

/-- `on_balance_update`: all snapshots go to the account of the event. -/
def onBalanceUpdate (ctx : StrategyContext) (bue : BalanceUpdateEvent) : StrategyContext :=
  { ctx with
    accountStates := ctx.accountStates.modify bue.accountId fun acc =>
      { acc with
        balances := bue.balanceSnapshots.foldl (fun m bal => m.insert bal.asset bal) acc.balances }
    balanceGeneration := ctx.balanceGeneration + 1 }

/-- `on_position_update`: each snapshot goes to the account it names. -/
def onPositionUpdate (ctx : StrategyContext) (pue : PositionUpdateEvent) : StrategyContext :=
  { ctx with
    accountStates := pue.positionSnapshots.foldl
      (fun states pos => states.modify pos.accountId fun acc =>
        { acc with positions := acc.positions.insert pos.instrumentCode pos }) ctx.accountStates
    positionGeneration := ctx.positionGeneration + 1 }

/-- `dispatch_actions`, the part that books. -/
def book (ctx : StrategyContext) : SAction → StrategyContext
  | .placeOrder order => ctx.bookOrder order
  | .cancel orderId => ctx.bookCancel orderId
  | .log | .subscribeTimer => ctx

/-- What the runner writes before it calls the strategy. -/
def observe {δ : Type} (ctx : StrategyContext) : EngineEvent δ → StrategyContext
  | .tick _ _ originalTimestamp _ => { ctx with currentTsMs := originalTimestamp }
  | .timer nowMs => { ctx with currentTsMs := nowMs }
  | .orderUpdate oue => ctx.onOrderUpdate oue
  | .balanceUpdate bue => ctx.onBalanceUpdate bue
  | .positionUpdate pue => ctx.onPositionUpdate pue
  | .bar _ | .signal _ | .pause | .resume | .stop => ctx

end StrategyContext

open StrategyContext

/-- `coalesce_ticks`: of the ticks of one instrument and exchange the last one stays. -/
def EngineEvent.coalesceTicks {δ : Type} : List (EngineEvent δ) → List (EngineEvent δ)
  | [] => []
  | .tick code exchange ts data :: events =>
    if events.any fun
        | .tick code' exchange' _ _ => decide ((code', exchange') = (code, exchange))
        | _ => false
    then coalesceTicks events
    else .tick code exchange ts data :: coalesceTicks events
  | event :: events => event :: coalesceTicks events

/-- `LiveEngine`; `σ` is the state of the strategy and of the runner's timers. -/
structure LiveEngine (σ : Type) where
  ctx : StrategyContext
  strategy : σ
  paused : Bool := false
  stopped : Bool := false

namespace LiveEngine

variable {σ δ : Type} (answer : σ → EngineEvent δ → StrategyContext → List SAction × σ)

/-- `process_event` and `dispatch_actions`; a pause or resume calls the strategy as well. -/
def dispatch (eng : LiveEngine σ) (event : EngineEvent δ) : LiveEngine σ :=
  let ctx := eng.ctx.observe event
  let (actions, strategy) := answer eng.strategy event ctx
  { eng with ctx := actions.foldl .book ctx, strategy }

/-- One event of a batch.  A paused engine drops what is not of the OMS, and the events behind a
stop are never looked at. -/
def handle (eng : LiveEngine σ) (event : EngineEvent δ) : LiveEngine σ :=
  if eng.stopped then eng
  else
    match event with
    | .stop => { eng with stopped := true }
    | .pause => if eng.paused then eng else { eng.dispatch answer .pause with paused := true }
    | .resume => if eng.paused then { eng.dispatch answer .resume with paused := false } else eng
    | .orderUpdate oue => eng.dispatch answer (.orderUpdate oue)
    | .balanceUpdate bue => eng.dispatch answer (.balanceUpdate bue)
    | .positionUpdate pue => eng.dispatch answer (.positionUpdate pue)
    | event => if eng.paused then eng else eng.dispatch answer event

/-- `run`, over the batches that the receiver happens to find. -/
def run (eng : LiveEngine σ) (batches : List (List (EngineEvent δ))) : LiveEngine σ :=
  batches.foldl (fun eng batch => (coalesceTicks batch).foldl (handle answer) eng) eng

/-- `startup`: the actions of `on_create`, `on_init` and `on_reinit` on a new context. -/
def startup (strategy : σ) (accountIds : List Int) (actions : List SAction) : LiveEngine σ :=
  { ctx := actions.foldl .book (.new accountIds), strategy }

end LiveEngine

namespace EngineEvent

variable {δ : Type}

/-- The closure of `subscribe_position_updates`. -/
def retainInstrument (filter : String) (pue : PositionUpdateEvent) : PositionUpdateEvent :=
  if filter = "" then pue
  else
    { pue with
      positionSnapshots := pue.positionSnapshots.filter fun pos => pos.instrumentCode = filter }

/-- What `subscribe_oms_updates` queues of a published event. -/
def received : EngineEvent δ → EngineEvent δ
  | .positionUpdate pue => .positionUpdate (retainInstrument "*" pue)
  | event => event

def balances (a : Int) (events : List (EngineEvent δ)) : List Balance :=
  events.flatMap fun
    | .balanceUpdate bue => if bue.accountId = a then bue.balanceSnapshots else []
    | _ => []

def positions (a : Int) (events : List (EngineEvent δ)) : List Position :=
  events.flatMap fun
    | .positionUpdate pue => pue.positionSnapshots.filter fun pos => pos.accountId = a
    | _ => []

/-- The ticks that are dropped are all that is lost. -/
lemma flatMap_coalesceTicks {α : Type} {f : EngineEvent δ → List α}
    (h : ∀ code exchange ts data, f (.tick code exchange ts data) = [])
    (events : List (EngineEvent δ)) : (coalesceTicks events).flatMap f = events.flatMap f := by
  fun_induction coalesceTicks events <;> simp_all

lemma stop_mem_coalesceTicks {events : List (EngineEvent δ)} (h : .stop ∈ coalesceTicks events) :
    .stop ∈ events := by
  fun_induction coalesceTicks events <;> simp_all
  all_goals grind

variable (a : Int) (events : List (EngineEvent δ))

lemma balances_received : balances a (events.map received) = balances a events := by
  simp only [balances, flatMap_map]
  exact flatMap_congr fun event _ => by cases event <;> rfl

lemma positions_received :
    positions a (events.map received) =
      (positions a events).filter fun pos => pos.instrumentCode = "*" := by
  simp only [positions, flatMap_map, filter_flatMap]
  refine flatMap_congr fun event _ => ?_
  cases event <;> simp [received, retainInstrument, Bool.and_comm]

end EngineEvent

namespace StrategyContext

variable {δ : Type} {ctx : StrategyContext} {a : Int} {past : List (EngineEvent δ)}

/-- The balances and positions of an account. -/
def held (ctx : StrategyContext) (a : Int) : Option (Dict String Balance × Dict String Position) :=
  (ctx.accountStates.lookup a).map fun acc => (acc.balances, acc.positions)

/-- The context holds, for an account, what was published so far. -/
def Shows (ctx : StrategyContext) (a : Int) (past : List (EngineEvent δ)) : Prop :=
  ctx.held a = some ((balances a past).foldl (fun m bal => m.insert bal.asset bal) ∅,
      (positions a past).foldl (fun m pos => m.insert pos.instrumentCode pos) ∅)

lemma held_onOrderUpdate (oue : OrderUpdateEvent) :
    (ctx.onOrderUpdate oue).held a = ctx.held a := by
  cases hs : oue.orderSnapshot with
  | none => simp [onOrderUpdate, hs]
  | some snapshot =>
    simp only [held, onOrderUpdate, hs]
    refine map_lookup_modify (fun acc => ?_) ..
    simp only [AccountState.update]
    split_ifs <;> rfl

lemma Shows.book (h : ctx.Shows a past) (action : SAction) : (ctx.book action).Shows a past := by
  refine Eq.trans ?_ h
  cases action with
  | placeOrder order =>
    obtain ⟨acc, hacc, -⟩ := map_eq_some_iff.mp h
    by_cases ha : a = order.accountId
    · subst ha
      simp [held, book, bookOrder, Dict.getD, hacc]
    · simp [held, StrategyContext.book, bookOrder, ha]
  | cancel orderId =>
    cases hid : ctx.orderIdToAccount.lookup orderId with
    | none => simp [StrategyContext.book, bookCancel, hid]
    | some accId =>
      simp only [held, StrategyContext.book, bookCancel, hid]
      exact map_lookup_modify (by exact fun _ => rfl) ..
  | log => rfl
  | subscribeTimer => rfl

lemma Shows.foldl_book (h : ctx.Shows a past) (actions : List SAction) :
    (actions.foldl StrategyContext.book ctx).Shows a past := by
  induction actions generalizing ctx with
  | nil => exact h
  | cons action actions ih => exact ih (h.book action)

/-- The snapshots of one position event, whichever accounts they name. -/
lemma lookup_foldl_positions (snapshots : List Position) {states : Dict Int AccountState}
    {acc : AccountState} (h : states.lookup a = some acc) :
    (snapshots.foldl (fun states pos => states.modify pos.accountId fun acc =>
        { acc with positions := acc.positions.insert pos.instrumentCode pos }) states).lookup a =
      some { acc with
        positions := (snapshots.filter fun pos => pos.accountId = a).foldl
          (fun m pos => m.insert pos.instrumentCode pos) acc.positions } := by
  induction snapshots generalizing states acc with
  | nil => exact h
  | cons pos snapshots ih =>
    by_cases ha : a = pos.accountId
    · subst ha
      rw [foldl_cons, ih (by rw [lookup_modify_self, h]; rfl)]
      simp
    · rw [foldl_cons, ih (by rw [lookup_modify_ne ha]; exact h)]
      simp [Ne.symm ha]

lemma Shows.observe (h : ctx.Shows a past) (event : EngineEvent δ) :
    (ctx.observe event).Shows a (past ++ [event]) := by
  cases event with
  | orderUpdate oue =>
    simpa [Shows, StrategyContext.observe, held_onOrderUpdate, balances, positions] using h
  | balanceUpdate bue =>
    obtain ⟨acc, hacc, hd⟩ := map_eq_some_iff.mp h
    by_cases ha : a = bue.accountId
    · subst ha
      simp_all [Shows, held, StrategyContext.observe, onBalanceUpdate, balances, positions]
    · simp_all [Shows, held, StrategyContext.observe, onBalanceUpdate, balances,
        positions, lookup_modify_ne, Ne.symm ha]
  | positionUpdate pue =>
    obtain ⟨acc, hacc, hd⟩ := map_eq_some_iff.mp h
    simp_all [Shows, held, StrategyContext.observe, onPositionUpdate, balances,
      positions, lookup_foldl_positions pue.positionSnapshots hacc]
  | _ =>
    simpa [Shows, held, StrategyContext.observe, balances, positions] using h

/-- The context holds, for the accounts of the engine, the last published snapshots. -/
structure Mirrors (accountIds : List Int) (events : List (EngineEvent δ)) (ctx : StrategyContext) :
    Prop where
  balances : ∀ a ∈ accountIds, ∀ asset,
    (ctx.held a).bind (·.1.lookup asset) =
      (balances a events).reverse.find? fun bal => bal.asset = asset
  positions : ∀ a ∈ accountIds, ∀ instrumentCode,
    (ctx.held a).bind (·.2.lookup instrumentCode) =
      (positions a events).reverse.find? fun pos => pos.instrumentCode = instrumentCode

end StrategyContext

namespace LiveEngine

open StrategyContext

variable {σ δ : Type} (answer : σ → EngineEvent δ → StrategyContext → List SAction × σ)
  {eng : LiveEngine σ} {a : Int} {past events : List (EngineEvent δ)}

section

variable (h : eng.ctx.Shows a past) (hrun : eng.stopped = false)
include h hrun

/-- **One event of a batch**: it publishes nothing, or it is handled. -/
lemma shows_handle {event : EngineEvent δ} (hstop : event ≠ .stop) :
    (eng.handle answer event).ctx.Shows a (past ++ [event]) ∧
      (eng.handle answer event).stopped = false := by
  have hsent : (eng.dispatch answer event).ctx.Shows a (past ++ [event]) :=
    (h.observe event).foldl_book _
  cases hp : eng.paused <;> cases event <;>
    simp_all [handle, dispatch, Shows, balances, positions]

lemma shows_batch (hstop : .stop ∉ events) :
    (events.foldl (handle answer) eng).ctx.Shows a (past ++ events) ∧
      (events.foldl (handle answer) eng).stopped = false := by
  induction events generalizing eng past with
  | nil => simpa using ⟨h, hrun⟩
  | cons event events ih =>
    rw [mem_cons, not_or] at hstop
    obtain ⟨h', hrun'⟩ := shows_handle answer h hrun (Ne.symm hstop.1)
    simpa using ih h' hrun' hstop.2

/-- However the events fall into batches, all they publish is held in the end. -/
lemma shows_run {batches : List (List (EngineEvent δ))} (hstop : ∀ batch ∈ batches, .stop ∉ batch) :
    (eng.run answer batches).ctx.Shows a (past ++ batches.flatten) := by
  induction batches generalizing eng past with
  | nil => simpa [run] using h
  | cons batch batches ih =>
    obtain ⟨h', hrun'⟩ := shows_batch answer h hrun fun hmem =>
      hstop batch (by simp) (stop_mem_coalesceTicks hmem)
    have hdone : Shows ((coalesceTicks batch).foldl (handle answer) eng).ctx a (past ++ batch) := by
      simpa [Shows, balances, positions, flatMap_coalesceTicks] using h'
    simpa [run] using ih hdone hrun' fun b hb => hstop b (by simp [hb])

end

lemma shows_startup (strategy : σ) {accountIds : List Int} (actions : List SAction)
    (ha : a ∈ accountIds) :
    (startup strategy accountIds actions).ctx.Shows a ([] : List (EngineEvent δ)) := by
  refine Shows.foldl_book ?_ actions
  have hnew := lookup_foldl_insert (fun id : Int => id) (fun _ => ({} : AccountState))
    accountIds ∅ a
  have hfound : (accountIds.reverse.find? fun id => decide (id = a)).isSome := by
    simpa [find?_isSome] using ha
  obtain ⟨id, hid⟩ := isSome_iff_exists.mp hfound
  simp only [Shows, held, new, hnew, hid]
  rfl

/-- **Balances are mirrored, positions are not.**  For every strategy and every way the events fall
into batches, the context holds the last published snapshots exactly if no position was published of
an instrument with another code than the wildcard. -/
theorem mirrors_iff_wildcard (answer : σ → EngineEvent δ → StrategyContext → List SAction × σ)
    (strategy : σ) (accountIds : List Int) (actions : List SAction)
    (batches : List (List (EngineEvent δ))) (hstop : ∀ batch ∈ batches, .stop ∉ batch) :
    Mirrors accountIds batches.flatten
        ((startup strategy accountIds actions).run answer (batches.map (·.map .received))).ctx ↔
      ∀ a ∈ accountIds, ∀ pos ∈ positions a batches.flatten, pos.instrumentCode = "*" := by
  set ctx := ((startup strategy accountIds actions).run answer (batches.map (·.map .received))).ctx
  have hshows : ∀ a ∈ accountIds, ctx.held a = some
      ((balances a batches.flatten).foldl (fun m bal => m.insert bal.asset bal) ∅,
        ((positions a batches.flatten).filter fun pos =>
          pos.instrumentCode = "*").foldl (fun m pos => m.insert pos.instrumentCode pos) ∅) := by
    intro a ha
    have h := shows_run answer (shows_startup strategy actions ha) rfl
      (fun batch (hbatch : batch ∈ batches.map (·.map .received)) => by
        obtain ⟨published, hpub, rfl⟩ := mem_map.mp hbatch
        rintro hmem
        obtain ⟨event, hevent, hstopped⟩ := mem_map.mp hmem
        cases event <;> cases hstopped
        exact hstop published hpub hevent)
    rwa [nil_append, ← map_flatten, Shows, balances_received, positions_received] at h
  constructor
  · intro h a ha pos hpos
    by_contra hcode
    have hlost := h.positions a ha pos.instrumentCode
    rw [hshows a ha, bind_some, lookup_foldl_insert] at hlost
    have hnone : ∀ p ∈ positions a batches.flatten, p.instrumentCode = "*" →
        p.instrumentCode ≠ pos.instrumentCode := by grind
    have hgone : (positions a batches.flatten).reverse.find? (fun p =>
        p.instrumentCode = pos.instrumentCode) = none := by
      rw [← hlost]
      simpa using hnone
    simpa using find?_eq_none.mp hgone pos (by simpa using hpos)
  · intro hall
    refine ⟨fun a ha asset => ?_, fun a ha code => ?_⟩
    · rw [hshows a ha, bind_some, lookup_foldl_insert]
      simp
    · rw [hshows a ha, bind_some, lookup_foldl_insert,
        filter_eq_self.mpr (by simpa using hall a ha)]
      simp

end LiveEngine

namespace Sample

/-- The OMS publishes a position of account 7. -/
def published (instrumentCode : String) : EngineEvent Unit :=
  .positionUpdate
    { accountId := 7, timestamp := 0
      positionSnapshots := [{ accountId := 7, instrumentCode, totalQty := 1 }] }

def idle : Unit → EngineEvent Unit → StrategyContext → List SAction × Unit := fun _ _ _ => ([], ())

end Sample

open Sample

/-- A position is published, and the context has none. -/
theorem LiveEngine.position_never_seen :
    ∃ ctx, ctx = ((startup () [7] []).run idle [[(published "P").received]]).ctx ∧
      (ctx.held 7).bind (·.2.lookup "P") = none ∧
      ¬ ctx.Mirrors [7] [published "P"] := by
  refine ⟨_, rfl, by decide, fun h => ?_⟩
  exact absurd (h.positions 7 (by simp) "P") (by decide)

theorem LiveEngine.mirrors_wildcard_position :
    ((startup () [7] []).run idle [[(published "*").received]]).ctx.Mirrors [7] [published "*"] :=
  (mirrors_iff_wildcard idle () [7] [] [[published "*"]] (by simp [published])).mpr (by decide)

end Zkbot
