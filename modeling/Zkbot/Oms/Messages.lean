import Zkbot.Core.Run
import Zkbot.Oms.Reports
import Zkbot.Oms.BalanceSync

/-!
# Messages and runs

`process_message`, and what a run of the core is.  A message or a reload is an *event*; the two
batch messages handle their requests one after another, so an event is taken apart into
*operations*, each of which touches at most one order.  `handle_eq_run` says that nothing is lost
by that: handling an event is running its operations.  The modules on single properties reason
about operations, and state their results for events.
-/

namespace Zkbot

/-- What can happen to a core: a message, with the clock reading it is handled at, or a reload of
the config. -/
inductive OmsEvent where
  | message (now : Int) (msg : OmsMessage)
  | reload (newConfig : ConfdataManager)

open OmsEvent

/-- One operation of the core. -/
inductive Op where
  | place (now : Int) (req : OrderRequest)
  | cancel (now : Int) (req : OrderCancelRequest)
  | report (report : OrderReport)
  | balanceUpdate (now : Int) (update : BalanceUpdate)
  | panic (accountId : Int)
  | dontPanic (accountId : Int)
  | sendFailed (now : Int) (orderId : Int) (errorMsg : String)
  | cancelSendFailed (now : Int) (orderId : Int) (errorMsg : String)
  | reload (newConfig : ConfdataManager)

/-- The operations of an event, in order.  The messages the core ignores have none. -/
def OmsEvent.ops : OmsEvent → List Op
  | .message now msg =>
    match msg with
    | .placeOrder req => [.place now req]
    | .batchPlaceOrders reqs => reqs.map (.place now)
    | .cancelOrder req => [.cancel now req]
    | .batchCancelOrders reqs => reqs.map (.cancel now)
    | .gatewayOrderReport report => [.report report]
    | .balanceUpdate update => [.balanceUpdate now update]
    | .recheckOrder | .recheckCancel | .cleanup _ | .reloadConfig | .positionRecheck => []
    | .panic accountId => [.panic accountId]
    | .dontPanic accountId => [.dontPanic accountId]
    | .gatewaySendFailed orderId _ errorMsg => [.sendFailed now orderId errorMsg]
    | .gatewayCancelSendFailed orderId _ errorMsg => [.cancelSendFailed now orderId errorMsg]
  | .reload newConfig => [.reload newConfig]

/-- The one operation that is not part of a message. -/
def Op.isReload : Op → Bool
  | .reload _ => true
  | _ => false

lemma isReload_of_message {now : Int} {msg : OmsMessage} :
    ∀ op ∈ (message now msg).ops, op.isReload = false := by
  cases msg <;> simp [ops, Op.isReload]

namespace OmsCoreV2

/-- Handle a batch: one request after another, with the actions of all. -/
def processBatch {α : Type} (f : OmsCoreV2 → α → Option (OmsCoreV2 × List OmsActionV2))
    (s : OmsCoreV2) (reqs : List α) : Option (OmsCoreV2 × List OmsActionV2) :=
  reqs.foldlM (fun acc req => (f acc.1 req).map fun r => (r.1, acc.2 ++ r.2)) (s, [])

/-- `process_message`.  `Cleanup`, `ReloadConfig`, `PositionRecheck` and the two rechecks are stubs
in the source. -/
def processMessage (s : OmsCoreV2) (now : Int) : OmsMessage → Option (OmsCoreV2 × List OmsActionV2)
  | .placeOrder req => s.processOrder now req
  | .batchPlaceOrders reqs => s.processBatch (fun s req => s.processOrder now req) reqs
  | .cancelOrder req => s.processCancel now req
  | .batchCancelOrders reqs => s.processBatch (fun s req => s.processCancel now req) reqs
  | .gatewayOrderReport report => s.processOrderReport report
  | .balanceUpdate update => s.processBalanceUpdate now update
  | .panic accountId => some ({ s with panicAccounts := insert accountId s.panicAccounts }, [])
  | .dontPanic accountId =>
    some ({ s with panicAccounts := s.panicAccounts.erase accountId }, [])
  | .cleanup _ | .reloadConfig | .positionRecheck | .recheckOrder | .recheckCancel => some (s, [])
  | .gatewaySendFailed orderId _ errorMsg => s.processGatewaySendFailed now orderId errorMsg
  | .gatewayCancelSendFailed orderId _ errorMsg =>
    s.processGatewayCancelSendFailed now orderId errorMsg

def handle (s : OmsCoreV2) : OmsEvent → Option OmsCoreV2
  | .message now msg => (s.processMessage now msg).map (·.1)
  | .reload newConfig => s.reloadConfig newConfig

def step (s : OmsCoreV2) : Op → Option OmsCoreV2
  | .place now req => (s.processOrder now req).map (·.1)
  | .cancel now req => (s.processCancel now req).map (·.1)
  | .report report => (s.processOrderReport report).map (·.1)
  | .balanceUpdate now update => (s.processBalanceUpdate now update).map (·.1)
  | .panic accountId => some { s with panicAccounts := insert accountId s.panicAccounts }
  | .dontPanic accountId => some { s with panicAccounts := s.panicAccounts.erase accountId }
  | .sendFailed now orderId errorMsg =>
    (s.processGatewaySendFailed now orderId errorMsg).map (·.1)
  | .cancelSendFailed now orderId errorMsg =>
    (s.processGatewayCancelSendFailed now orderId errorMsg).map (·.1)
  | .reload newConfig => s.reloadConfig newConfig

def reportStep (s : OmsCoreV2) (r : OrderReport) : Option OmsCoreV2 := s.step (.report r)

lemma processBatch_fst {α : Type} (f : OmsCoreV2 → α → Option (OmsCoreV2 × List OmsActionV2))
    (op : α → Op) (hop : ∀ s a, step s (op a) = (f s a).map (·.1)) (s : OmsCoreV2)
    (reqs : List α) : (processBatch f s reqs).map (·.1) = run step s (reqs.map op) := by
  -- the actions collected so far play no part: generalise them
  suffices h : ∀ (acc : OmsCoreV2 × List OmsActionV2),
      (reqs.foldlM (fun acc req => (f acc.1 req).map fun r => (r.1, acc.2 ++ r.2)) acc).map (·.1)
        = run step acc.1 (reqs.map op) from h (s, [])
  induction reqs with
  | nil =>
    intro acc
    rfl
  | cons req reqs ih =>
    intro acc
    rw [List.foldlM_cons, List.map_cons, run_cons, hop]
    cases hf : f acc.1 req with
    | none => rfl
    | some r => simpa using ih (r.1, acc.2 ++ r.2)

/-- Handling an event is running its operations. -/
theorem handle_eq_run (s : OmsCoreV2) (ev : OmsEvent) : s.handle ev = run step s ev.ops := by
  cases ev with
  | reload newConfig => simp [handle, ops, run_cons, step]
  | message now msg =>
    cases msg with
    | batchPlaceOrders reqs =>
      exact processBatch_fst (fun s req => s.processOrder now req) (.place now)
        (fun _ _ => rfl) s reqs
    | batchCancelOrders reqs =>
      exact processBatch_fst (fun s req => s.processCancel now req) (.cancel now)
        (fun _ _ => rfl) s reqs
    | _ => simp [handle, ops, run_cons, step, processMessage]

/-- A run of events is a run of their operations. -/
theorem run_handle (s : OmsCoreV2) (evs : List OmsEvent) :
    run handle s evs = run step s (evs.flatMap ops) := by
  induction evs generalizing s with
  | nil => rfl
  | cons ev evs ih =>
    rw [run_cons, handle_eq_run, List.flatMap_cons, run_append]
    exact congrArg _ (funext fun s' => ih s')

/-- The invariant rule for events: what every operation preserves holds after every event. -/
theorem events_invariant {I : OmsCoreV2 → Prop} {ok : OmsCoreV2 → Op → Prop}
    (hstep : ∀ s op s', I s → ok s op → s.step op = some s' → I s') {s t : OmsCoreV2}
    {evs : List OmsEvent} (h0 : I s) (hg : Guarded step ok s (evs.flatMap ops))
    (hr : run handle s evs = some t) : I t :=
  run_invariant hstep h0 hg (by rw [← run_handle]; exact hr)

end OmsCoreV2

/-! ## Starting a core -/

/-- What a core is started with: the arguments of `new` and of `init_state`. -/
structure OmsSetup where
  config : ConfdataManager
  useTimeEmulation : Bool := false
  riskCheckEnabled : Bool := false
  handleExternalOrders : Bool := false
  maxCachedOrders : ℕ
  subsecMicros : ℕ := 0
  orders : List OmsOrder := []
  positions : List OmsManagedPosition := []
  balances : List ExchBalanceSnapshot := []

/-- The core before anything persisted is entered. -/
def OmsSetup.blank (u : OmsSetup) : OmsCoreV2 :=
  OmsCoreV2.new u.config u.useTimeEmulation u.riskCheckEnabled u.handleExternalOrders
    u.maxCachedOrders u.subsecMicros

def OmsSetup.start (u : OmsSetup) : OmsCoreV2 :=
  u.blank.initState u.orders u.positions u.balances

/-! ### A small venue

Inputs for concrete runs: one gateway, one account, one perpetual contract. -/

namespace Sample

/-- A config with one instrument `P`, whose two balance flags are both `checked`. -/
def config (checked : Bool) : ConfdataManager where
  accountRoutes := (∅ : Dict Int OmsRouteEntry).insert 1
    { accountId := 1, exchAccountId := "main", gwKey := "gw" }
  gwConfigs := (∅ : Dict String GwConfigEntry).insert "gw" { exchName := "X", gwKey := "gw" }
  exchNameToGwKeys := (∅ : Dict String (List String)).insert "X" ["gw"]
  refdata := (∅ : Dict String InstrumentRefData).insert "P"
    { instrumentId := "P", instrumentIdExchange := "PX", exchangeName := "X",
      instrumentType := .perp, baseAsset := "B", quoteAsset := "Q", settlementAsset := "Q",
      pricePrecision := 0, qtyPrecision := 0 }
  tradingConfigs := (∅ : Dict String InstrumentTradingConfig).insert "P"
    { instrumentCode := "P", bookkeepingBalance := checked, balanceCheck := checked }

/-- The small venue as a configuration of the service. -/
def venue (checked : Bool) : Confdata where
  toConfdataManager := .new [1] [{ accountId := 1, exchAccountId := "main", gwKey := "gw" }]
    [{ exchName := "X", gwKey := "gw" }]
    [{ instrumentId := "P", instrumentIdExchange := "PX", exchangeName := "X",
       instrumentType := .perp, baseAsset := "B", quoteAsset := "Q", settlementAsset := "Q",
       pricePrecision := 0, qtyPrecision := 0 }]
    [{ instrumentCode := "P", bookkeepingBalance := checked, balanceCheck := checked }]
  keyed := ConfdataManager.keyed_new _ _ _ _ _

/-- A core on that config that caches `cap` closed orders. -/
def setup (checked external : Bool) (cap : ℕ) : OmsSetup :=
  { config := config checked, handleExternalOrders := external, maxCachedOrders := cap,
    subsecMicros := 1 }

/-- A core with both balance flags on and some cash. -/
def funded (cash : ℚ) : OmsSetup :=
  { setup true false 4 with
    balances := [{ accountId := 1, asset := "Q", balanceState := { availQty := cash } }] }

/-- A core whose gateway bears the code of the only instrument.  Gateway keys are interned first, so
the symbol of the code is the index of the instrument. -/
def namesake : OmsSetup :=
  { setup true false 4 with
    config := { config true with
      accountRoutes := (∅ : Dict Int OmsRouteEntry).insert 1
        { accountId := 1, exchAccountId := "main", gwKey := "P" }
      gwConfigs := (∅ : Dict String GwConfigEntry).insert "P" { exchName := "X", gwKey := "P" }
      exchNameToGwKeys := (∅ : Dict String (List String)).insert "X" ["P"] } }

def request (id : Int) (side : BuySellType) (qty : ℚ) : OrderRequest :=
  { orderId := id, accountId := 1, instrumentCode := "P", buySellType := side, price := 1, qty }

/-- A request for an account that has no route. -/
def stray : OrderRequest :=
  { orderId := 10, accountId := 2, instrumentCode := "P", buySellType := .buy, price := 1,
    qty := 1 }

def place (id : Int) (side : BuySellType) (qty : ℚ) : OmsEvent :=
  .message 0 (.placeOrder (request id side qty))

/-- A report that names its order by id, by exchange reference, or by both. -/
def orderReport (id : Int) (ref : String) (entries : List OrderReportEntry) : OrderReport :=
  { exchOrderRef := ref, orderId := id, exchange := "gw", orderReportEntries := entries,
    updateTimestamp := 1 }

def report (id : Int) (entries : List OrderReportEntry) : OmsEvent :=
  .message 0 (.gatewayOrderReport (orderReport id "" entries))

def reportByRef (ref : String) (entries : List OrderReportEntry) : OmsEvent :=
  .message 0 (.gatewayOrderReport (orderReport 0 ref entries))

def state (status : ExchangeOrderStatus) (filledQty : ℚ) : OrderReportEntry :=
  ⟨.state, some (.orderStateReport { exchOrderStatus := status, filledQty })⟩

def trade (filledQty : ℚ) : OrderReportEntry :=
  ⟨.trade, some (.tradeReport { filledQty, filledPrice := 1 })⟩

def linkage (ref : String) : OrderReportEntry :=
  ⟨.linkage, some (.orderIdLinkageReport { exchOrderRef := ref })⟩

def rejection : OrderReportEntry := ⟨.exec, some (.execReport { execType := .rejected })⟩

/-- The report that links order 10 to the reference `a`. -/
def linkReport : OrderReport := orderReport 10 "a" [linkage "a"]

/-- Reports that carry this reference only. -/
def bookedReport : OrderReport := orderReport 0 "a" [state .booked 0]

def fillReport : OrderReport := orderReport 0 "a" [trade 2, state .partialFilled 2]

/-- A gateway says how much an account has of an asset. -/
def balance (asset : String) (qty : ℚ) : BalanceUpdate :=
  { balances := [{ instrumentCode := asset, instrumentType := .spot, longShortType := .long,
                   exchAccountCode := "main", qty, availQty := qty, updateTimestamp := 0 }] }

end Sample

end Zkbot
