import Zkbot.Core.Shards
import Zkbot.Oms.Requests
import Zkbot.Svc.Actor

/-!
# The path to the venue

`gw_executor.rs` of the OMS and of the gateway, and the gRPC handler between them.  The writer of
the OMS hands each action that is for a gateway to a pool of workers; a worker calls the gateway and
waits for the answer; the gateway validates the requests of a call one by one and hands each to a
pool of its own, whose workers call the venue adapter.  Both pools are sharded by order id.

* `GwTask`, `GwAction` — an action of the core, and what the writer makes of it: a batch is split by
  shard (`GwTask.split`), and the requests are read from the order store (`materialize`).
* `GwRequest.validate` — the checks of the gateway.
* `GatewayPath` — the OMS, its workers, and the gateways `G` they are connected to.  Every queue is
  bounded.  A full queue of the OMS pool fails the action at once; a full queue of a gateway drops
  the request; feedback that the command channel does not take is lost.
* `GatewayPath.step` — one step of one party.  A run is a list of steps, so every interleaving is a
  run.  `StepCase` lists what a step can do.

A command is paired with its position among those the core has issued.  The histories `issued`,
`calls`, `sent` and `failed`, and these positions, are not part of the source.

The core puts out single actions only.  The writer carries out batches too, so a run may group the
actions of a command into batches.  A call that breaks off ends its handler.
-/

namespace Zkbot

open Function

/-! ## Requests -/

/-- `order_id as u64`. -/
def asU64 (orderId : Int) : ℕ := (orderId % 2 ^ 64).toNat

def shardOf (shardCount : ℕ) (orderId : Int) : ℕ := asU64 orderId % shardCount

/-- A request to a gateway.  `VenuePlaceOrder` and `VenueCancelOrder` copy its fields, so the
request also stands for the `GwExecAction` that is made of it. -/
inductive GwRequest where
  | place (req : SendOrderRequest)
  | cancel (req : CancelOrderRequest)
  deriving DecidableEq

/-- What the request asks for, under the id by which the gateway shards it. -/
def GwRequest.command : GwRequest → GwCommand
  | .place req => ⟨.place, req.correlationId⟩
  | .cancel req => ⟨.cancel, req.orderId⟩

/-- The request that `unwrap_or_default` puts in the place of a missing one. -/
def GwRequest.missing : CommandKind → GwRequest
  | .place => .place .empty
  | .cancel => .cancel .empty

/-- `validate_send_order_request`.  Rationals are finite, so the two `is_finite` tests always
pass. -/
def validateSendOrderRequest (req : SendOrderRequest) : Except String Unit :=
  if req.correlationId ≤ 0 then .error "place_order: correlation_id must be > 0"
  else if trimIsEmpty req.exchAccountId then .error "place_order: exch_account_id is required"
  else if trimIsEmpty req.instrument then .error "place_order: instrument is required"
  else if req.scaledQty ≤ 0 then .error "place_order: scaled_qty must be finite and > 0"
  else .ok ()

def validateCancelOrderRequest (req : CancelOrderRequest) : Except String Unit :=
  if req.orderId ≤ 0 then .error "cancel_order: order_id must be > 0" else .ok ()

def GwRequest.validate : GwRequest → Except String Unit
  | .place req => validateSendOrderRequest req
  | .cancel req => validateCancelOrderRequest req

lemma GwRequest.pos_of_validate {r : GwRequest} (h : r.validate = .ok ()) :
    0 < r.command.orderId := by
  cases r with
  | place req =>
    simp only [validate, validateSendOrderRequest] at h
    split_ifs at h with hid
    exact not_le.mp hid
  | cancel req =>
    simp only [validate, validateCancelOrderRequest] at h
    split_ifs at h with hid
    exact not_le.mp hid

/-! ## Actions -/

/-- An action for a gateway: `SendOrderToGw` or `SendCancelToGw`, and their batch forms. -/
inductive GwTask where
  | single (gwId : ℕ) (command : GwCommand × ℕ)
  | batch (kind : CommandKind) (gwId : ℕ) (orders : List (Int × ℕ))
  deriving DecidableEq

open GwTask

namespace GwTask

def commands : GwTask → List (GwCommand × ℕ)
  | .single _ c => [c]
  | .batch kind _ orders => orders.map fun o => (⟨kind, o.1⟩, o.2)

/-- The single actions that do the same. -/
def singles : GwTask → List GwTask
  | .single gwId c => [.single gwId c]
  | .batch kind gwId orders => orders.map fun o => .single gwId (⟨kind, o.1⟩, o.2)

/-- The orders of a batch, partitioned by shard.  A pool without shards panics on an order; here it
does so when the order is dispatched. -/
def parts (shardCount : ℕ) (orders : List (Int × ℕ)) : List (List (Int × ℕ)) :=
  if shardCount = 0 then [orders]
  else (List.range shardCount).map fun i => orders.filter fun o => shardOf shardCount o.1 = i

/-- What is dispatched for an action: a batch becomes one batch for each shard. -/
def split (shardCount : ℕ) : GwTask → List GwTask
  | .single gwId c => [.single gwId c]
  | .batch kind gwId orders =>
    (parts shardCount orders).filterMap fun part =>
      if part = [] then none else some (.batch kind gwId part)

/-- The id by which an action is routed: of a batch, that of its first order. -/
def routeId : GwTask → Option Int
  | .single _ c => some c.1.orderId
  | .batch _ _ orders => orders.head?.map (·.1)

end GwTask

/-- The gateway and the command of an action. -/
def OmsActionV2.gwCommand : OmsActionV2 → Option (ℕ × GwCommand)
  | .sendOrderToGw gwId orderId _ => some (gwId, ⟨.place, orderId⟩)
  | .sendCancelToGw gwId orderId => some (gwId, ⟨.cancel, orderId⟩)
  | _ => none

/-- The actions of the core that are for a gateway; `k` commands have been issued before. -/
def gwTasks (k : ℕ) (actions : List OmsActionV2) : List GwTask :=
  ((actions.filterMap OmsActionV2.gwCommand).zipIdx k).map fun a => .single a.1.1 (a.1.2, a.2)

/-- An action as it is queued.  The four forms of the source differ in these fields alone. -/
structure GwAction where
  kind : CommandKind
  gwId : ℕ
  /-- the orders for which a failure is reported -/
  orderIds : List (Int × ℕ)
  /-- what the call carries -/
  requests : List (GwRequest × ℕ)
  deriving DecidableEq

/-- The request that is stored for a command. -/
def OrderStoreV2.storedRequest (os : OrderStoreV2) (c : GwCommand) : Option GwRequest :=
  (os.detail.lookup c.orderId).bind fun d =>
    match c.kind with
    | .place => d.lastGwReq.map .place
    | .cancel => d.cancelReq.map .cancel

/-- The writer reads the requests.  An order of a batch that has none is skipped. -/
def OrderStoreV2.materialize (os : OrderStoreV2) : GwTask → GwAction
  | .single gwId c =>
    { kind := c.1.kind, gwId, orderIds := [(c.1.orderId, c.2)]
      requests := [((os.storedRequest c.1).getD (.missing c.1.kind), c.2)] }
  | .batch kind gwId orders =>
    { kind, gwId, orderIds := orders
      requests := orders.filterMap fun o =>
        (os.storedRequest ⟨kind, o.1⟩).map fun r => (r, o.2) }

/-! ## The state -/

/-- The capacities of the queues and the sizes of the pools. -/
structure PathConfig (G : Type) where
  shardCount : ℕ
  queueCapacity : ℕ
  cmdCapacity : ℕ
  execShards : G → ℕ
  execCapacity : G → ℕ
  /-- how the gRPC library prints the status of an error -/
  statusText : String → String

/-- What a worker of the OMS pool is doing.  A call goes through its requests; `rest` are those that
the gateway has not looked at. -/
inductive GwWorker (G : Type) where
  | idle
  | calling (gateway : G) (action : GwAction) (rest : List (GwRequest × ℕ))
  | reporting (kind : CommandKind) (gwId : ℕ) (orderIds : List (Int × ℕ)) (errorMsg : String)

/-- The OMS and the gateways. -/
structure GatewayPath (G : Type) where
  core : OmsCoreV2
  /-- the command channel; feedback comes with the command it is about -/
  inbox : List (OmsCommand × Option ℕ) := []
  /-- what the writer still has to dispatch -/
  todo : List GwTask := []
  clients : Dict ℕ G := ∅
  shards : ℕ → List GwAction := fun _ => []
  workers : ℕ → GwWorker G := fun _ => .idle
  exec : G → ℕ → List (GwRequest × ℕ) := fun _ _ => []
  /-- the commands the core has issued -/
  issued : List GwCommand := []
  /-- the calls of the adapters -/
  calls : List (G × GwRequest × ℕ) := []
  /-- the requests of calls that returned success -/
  sent : List (GwRequest × ℕ) := []
  /-- the commands whose failure the core has handled -/
  failed : List ℕ := []

inductive PathEvent (G : Type) where
  /-- a command comes in from outside -/
  | submit (command : OmsCommand)
  /-- the writer takes a command; `tasks` are the actions for the gateways -/
  | command (now : Int) (tasks : List GwTask)
  /-- the writer hands the answer to a query of its own to the core -/
  | query (now : Int) (answer : OmsMessage)
  | connect (gwId : ℕ) (gateway : G)
  | disconnect (gwId : ℕ)
  /-- the writer dispatches the next action -/
  | dispatch (now : Int)
  /-- a worker takes an action -/
  | take (i : ℕ)
  /-- the gateway looks at the next request of a worker's call -/
  | handle (i : ℕ)
  /-- the gateway answers with success -/
  | reply (i : ℕ)
  /-- the call breaks off -/
  | cut (i : ℕ) (errorMsg : String)
  /-- a worker reports the next failure -/
  | report (i : ℕ)
  /-- a worker of a gateway calls the adapter -/
  | call (gateway : G) (j : ℕ)

/-- One of two forms, by what has failed. -/
def CommandKind.failure {α : Type} (sendFailed cancelSendFailed : α) : CommandKind → α
  | .place => sendFailed
  | .cancel => cancelSendFailed

/-- The command by which a worker reports a failure. -/
def feedback (kind : CommandKind) : Int → ℕ → String → OmsCommand :=
  kind.failure .gatewaySendFailed .gatewayCancelSendFailed

/-- The message by which the writer fails a command itself. -/
def failureMessage (kind : CommandKind) : Int → ℕ → String → OmsMessage :=
  kind.failure .gatewaySendFailed .gatewayCancelSendFailed

/-- Feedback comes from the workers alone. -/
def OmsCommand.isFeedback : OmsCommand → Bool
  | .gatewaySendFailed .. | .gatewayCancelSendFailed .. => true
  | _ => false

/-- `run_order_reconcile` and `run_gateway_resync` hand reports and balances to the core. -/
def OmsMessage.isAnswer : OmsMessage → Bool
  | .gatewayOrderReport _ | .balanceUpdate _ => true
  | _ => false

/-! ## Steps -/

namespace GatewayPath

variable {G : Type} [DecidableEq G]

def start (u : OmsSetup) : GatewayPath G := { core := u.start }

/-- The writer fails the orders of an action that the queue does not take. -/
def failInline (core : OmsCoreV2) (now : Int) (a : GwAction) : Option OmsCoreV2 :=
  a.orderIds.foldlM (fun core o =>
    (core.processMessage now (failureMessage a.kind o.1 a.gwId "dispatch queue full")).map (·.1))
    core

/-- `process_command`, up to the dispatch of the actions. -/
def takeCommand (cfg : PathConfig G) (x : GatewayPath G) (now : Int) (tasks : List GwTask)
    (command : OmsCommand) (source : Option ℕ) : Option (GatewayPath G) :=
  match command with
  | .reloadConfig newConfig => do
      let core ← x.core.reloadConfig newConfig.toConfdataManager
      some { x with core }
  | command =>
    match command.message with
    | none => some x
    | some msg => do
        let (core, actions) ← x.core.processMessage now msg
        if tasks.flatMap singles = gwTasks x.issued.length actions then
          some { x with
            core
            todo := tasks.flatMap (split cfg.shardCount)
            issued := x.issued ++ commands actions
            failed := x.failed ++ source.toList }
        else none

/-- `GwExecutorPool::dispatch`, and what the writer does if the queue is full. -/
def dispatch (cfg : PathConfig G) (x : GatewayPath G) (now : Int) (a : GwAction) (id : Int) :
    Option (GatewayPath G) :=
  -- the remainder by zero panics
  if cfg.shardCount = 0 then none
  else
    let i := shardOf cfg.shardCount id
    if (x.shards i).length < cfg.queueCapacity then
      some { x with shards := Shards.push x.shards i a }
    else do
      let core ← failInline x.core now a
      some { x with core, failed := x.failed ++ a.orderIds.map (·.2) }

/-- One request of a call: `dispatch_or_reject`, unless the request is invalid. -/
def handleRequest (cfg : PathConfig G) (x : GatewayPath G) (i : ℕ) (g : G) (a : GwAction)
    (r : GwRequest × ℕ) (rest : List (GwRequest × ℕ)) : Option (GatewayPath G) :=
  match r.1.validate with
  | .error msg =>
    some { x with
      workers := update x.workers i (.reporting a.kind a.gwId a.orderIds (cfg.statusText msg)) }
  | .ok _ =>
    if cfg.execShards g = 0 then none
    else
      let j := shardOf (cfg.execShards g) r.1.command.orderId
      some { x with
        workers := update x.workers i (.calling g a rest)
        exec := if (x.exec g j).length < cfg.execCapacity g
          then update x.exec g (Shards.push (x.exec g) j r) else x.exec }

/-- One step of one party. -/
def step (cfg : PathConfig G) (x : GatewayPath G) : PathEvent G → Option (GatewayPath G)
  | .submit command =>
    if command.isFeedback = false ∧ x.inbox.length < cfg.cmdCapacity then
      some { x with inbox := x.inbox ++ [(command, none)] }
    else none
  | .command now tasks =>
    match x.todo, x.inbox with
    | [], (command, source) :: inbox => { x with inbox }.takeCommand cfg now tasks command source
    | _, _ => none
  | .query now answer =>
    if x.todo = [] ∧ answer.isAnswer then
      (x.core.processMessage now answer).map fun r => { x with core := r.1 }
    else none
  | .connect gwId g => some { x with clients := x.clients.insert gwId g }
  | .disconnect gwId => some { x with clients := x.clients.erase gwId }
  | .dispatch now =>
    match x.todo with
    | [] => none
    | t :: todo => t.routeId.bind ({ x with todo }.dispatch cfg now (x.core.orders.materialize t))
  | .take i =>
    match x.shards i, x.workers i with
    | a :: rest, .idle =>
      some { x with
        shards := update x.shards i rest
        workers := update x.workers i (match x.clients.lookup a.gwId with
          | none => .reporting a.kind a.gwId a.orderIds
              ("no gateway client for gw_id=" ++ toString a.gwId)
          | some g => .calling g a a.requests) }
    | _, _ => none
  | .handle i =>
    match x.workers i with
    | .calling g a (r :: rest) => x.handleRequest cfg i g a r rest
    | _ => none
  | .reply i =>
    match x.workers i with
    | .calling _ a [] =>
      some { x with workers := update x.workers i .idle, sent := x.sent ++ a.requests }
    | _ => none
  | .cut i errorMsg =>
    match x.workers i with
    | .calling _ a _ =>
      some { x with
        workers := update x.workers i (.reporting a.kind a.gwId a.orderIds errorMsg) }
    | _ => none
  | .report i =>
    match x.workers i with
    | .reporting kind gwId (o :: rest) errorMsg =>
      some { x with
        workers := update x.workers i (.reporting kind gwId rest errorMsg)
        -- the result of `try_send` is not looked at
        inbox := if x.inbox.length < cfg.cmdCapacity
          then x.inbox ++ [(feedback kind o.1 gwId errorMsg, some o.2)] else x.inbox }
    | .reporting _ _ [] _ => some { x with workers := update x.workers i .idle }
    | _ => none
  | .call g j =>
    match x.exec g j with
    | r :: rest =>
      some { x with
        exec := update x.exec g (update (x.exec g) j rest)
        calls := x.calls ++ [(g, r)] }
    | [] => none

/-- What a step can do. -/
inductive StepCase (cfg : PathConfig G) (x : GatewayPath G) :
    PathEvent G → GatewayPath G → Prop where
  | submitted {c : OmsCommand} (hc : c.isFeedback = false)
      (hroom : x.inbox.length < cfg.cmdCapacity) :
      StepCase cfg x (.submit c) { x with inbox := x.inbox ++ [(c, none)] }
  | reloaded {now : Int} {tasks : List GwTask} {config : Confdata} {source : Option ℕ}
      {inbox : List (OmsCommand × Option ℕ)} {core : OmsCoreV2} (htodo : x.todo = [])
      (hinbox : x.inbox = (.reloadConfig config, source) :: inbox)
      (hcore : x.core.reloadConfig config.toConfdataManager = some core) :
      StepCase cfg x (.command now tasks) { x with inbox, core }
  | skipped {now : Int} {tasks : List GwTask} {c : OmsCommand} {source : Option ℕ}
      {inbox : List (OmsCommand × Option ℕ)} (htodo : x.todo = [])
      (hinbox : x.inbox = (c, source) :: inbox) (hmsg : c.message = none) :
      StepCase cfg x (.command now tasks) { x with inbox }
  | commanded {now : Int} {tasks : List GwTask} {c : OmsCommand} {source : Option ℕ}
      {inbox : List (OmsCommand × Option ℕ)} {msg : OmsMessage} {core : OmsCoreV2}
      {actions : List OmsActionV2} (htodo : x.todo = []) (hinbox : x.inbox = (c, source) :: inbox)
      (hmsg : c.message = some msg) (hcore : x.core.processMessage now msg = some (core, actions))
      (htasks : tasks.flatMap singles = gwTasks x.issued.length actions) :
      StepCase cfg x (.command now tasks) { x with
        inbox, core
        todo := tasks.flatMap (split cfg.shardCount)
        issued := x.issued ++ commands actions
        failed := x.failed ++ source.toList }
  | answered {now : Int} {answer : OmsMessage} {core : OmsCoreV2} {actions : List OmsActionV2}
      (htodo : x.todo = []) (hans : answer.isAnswer)
      (hcore : x.core.processMessage now answer = some (core, actions)) :
      StepCase cfg x (.query now answer) { x with core }
  | connected (gwId : ℕ) (g : G) :
      StepCase cfg x (.connect gwId g) { x with clients := x.clients.insert gwId g }
  | disconnected (gwId : ℕ) :
      StepCase cfg x (.disconnect gwId) { x with clients := x.clients.erase gwId }
  | enqueued {now : Int} {t : GwTask} {todo : List GwTask} {id : Int} (htodo : x.todo = t :: todo)
      (hid : t.routeId = some id) (hn : cfg.shardCount ≠ 0)
      (hroom : (x.shards (shardOf cfg.shardCount id)).length < cfg.queueCapacity) :
      StepCase cfg x (.dispatch now) { x with
        todo
        shards := Shards.push x.shards (shardOf cfg.shardCount id) (x.core.orders.materialize t) }
  | refused {now : Int} {t : GwTask} {todo : List GwTask} {core : OmsCoreV2}
      (htodo : x.todo = t :: todo)
      (hcore : failInline x.core now (x.core.orders.materialize t) = some core) :
      StepCase cfg x (.dispatch now) { x with
        todo, core
        failed := x.failed ++ (x.core.orders.materialize t).orderIds.map (·.2) }
  | unconnected {i : ℕ} {a : GwAction} {rest : List GwAction} {msg : String}
      (hshard : x.shards i = a :: rest) (hidle : x.workers i = .idle) :
      StepCase cfg x (.take i) { x with
        shards := update x.shards i rest
        workers := update x.workers i (.reporting a.kind a.gwId a.orderIds msg) }
  | opened {i : ℕ} {a : GwAction} {rest : List GwAction} (g : G)
      (hshard : x.shards i = a :: rest) (hidle : x.workers i = .idle) :
      StepCase cfg x (.take i) { x with
        shards := update x.shards i rest
        workers := update x.workers i (.calling g a a.requests) }
  | invalid {i : ℕ} {g : G} {a : GwAction} {r : GwRequest × ℕ} {rest : List (GwRequest × ℕ)}
      {msg : String} (hw : x.workers i = .calling g a (r :: rest))
      (hval : r.1.validate = .error msg) :
      StepCase cfg x (.handle i) { x with
        workers := update x.workers i (.reporting a.kind a.gwId a.orderIds (cfg.statusText msg)) }
  | passed {i : ℕ} {g : G} {a : GwAction} {r : GwRequest × ℕ} {rest : List (GwRequest × ℕ)}
      (hw : x.workers i = .calling g a (r :: rest)) (hval : r.1.validate = .ok ()) :
      StepCase cfg x (.handle i) { x with
        workers := update x.workers i (.calling g a rest)
        exec := update x.exec g
          (Shards.push (x.exec g) (shardOf (cfg.execShards g) r.1.command.orderId) r) }
  | dropped {i : ℕ} {g : G} {a : GwAction} {r : GwRequest × ℕ} {rest : List (GwRequest × ℕ)}
      (hw : x.workers i = .calling g a (r :: rest)) (hval : r.1.validate = .ok ()) :
      StepCase cfg x (.handle i) { x with workers := update x.workers i (.calling g a rest) }
  | replied {i : ℕ} {g : G} {a : GwAction} (hw : x.workers i = .calling g a []) :
      StepCase cfg x (.reply i)
        { x with workers := update x.workers i .idle, sent := x.sent ++ a.requests }
  | broke {i : ℕ} {g : G} {a : GwAction} {rest : List (GwRequest × ℕ)} {msg : String}
      (hw : x.workers i = .calling g a rest) :
      StepCase cfg x (.cut i msg) { x with
        workers := update x.workers i (.reporting a.kind a.gwId a.orderIds msg) }
  | reported {i : ℕ} {kind : CommandKind} {gwId : ℕ} {o : Int × ℕ} {rest : List (Int × ℕ)}
      {msg : String} (hw : x.workers i = .reporting kind gwId (o :: rest) msg) :
      StepCase cfg x (.report i) { x with
        workers := update x.workers i (.reporting kind gwId rest msg)
        inbox := if x.inbox.length < cfg.cmdCapacity
          then x.inbox ++ [(feedback kind o.1 gwId msg, some o.2)] else x.inbox }
  | rested {i : ℕ} {kind : CommandKind} {gwId : ℕ} {msg : String}
      (hw : x.workers i = .reporting kind gwId [] msg) :
      StepCase cfg x (.report i) { x with workers := update x.workers i .idle }
  | called {g : G} {j : ℕ} {r : GwRequest × ℕ} {rest : List (GwRequest × ℕ)}
      (hexec : x.exec g j = r :: rest) :
      StepCase cfg x (.call g j) { x with
        exec := update x.exec g (update (x.exec g) j rest)
        calls := x.calls ++ [(g, r)] }

variable {cfg : PathConfig G} {x y : GatewayPath G}

omit [DecidableEq G] in
lemma takeCommand_cases {now : Int} {tasks : List GwTask} {c : OmsCommand} {source : Option ℕ}
    (h : x.takeCommand cfg now tasks c source = some y) :
    (∃ config core, c = .reloadConfig config ∧
      x.core.reloadConfig config.toConfdataManager = some core ∧ y = { x with core }) ∨
    (c.message = none ∧ y = x) ∨
    ∃ msg core actions, c.message = some msg ∧
      x.core.processMessage now msg = some (core, actions) ∧
      tasks.flatMap singles = gwTasks x.issued.length actions ∧
      y = { x with
        core
        todo := tasks.flatMap (split cfg.shardCount)
        issued := x.issued ++ commands actions
        failed := x.failed ++ source.toList } := by
  simp only [takeCommand] at h
  split at h
  · obtain ⟨core, hcore, h⟩ := bind_eq_some.mp h
    exact .inl ⟨_, core, rfl, hcore, (Option.some.inj h).symm⟩
  · split at h
    · rename_i hmsg
      exact .inr (.inl ⟨hmsg, (Option.some.inj h).symm⟩)
    · rename_i msg hmsg
      obtain ⟨⟨core, actions⟩, hcore, h⟩ := bind_eq_some.mp h
      split_ifs at h with htasks
      exact .inr (.inr ⟨msg, core, actions, hmsg, hcore, htasks, (Option.some.inj h).symm⟩)

/-- **Every step is one of these.** -/
theorem step_cases {e : PathEvent G} (h : x.step cfg e = some y) : StepCase cfg x e y := by
  cases e with
  | submit c =>
    simp only [step] at h
    split_ifs at h with hc
    cases h
    exact .submitted hc.1 hc.2
  | command now tasks =>
    simp only [step] at h
    split at h
    · rename_i c source inbox htodo hinbox
      rcases takeCommand_cases h with ⟨config, core, rfl, hcore, rfl⟩ | ⟨hmsg, rfl⟩ |
        ⟨msg, core, actions, hmsg, hcore, htasks, rfl⟩
      · exact .reloaded htodo hinbox hcore
      · exact .skipped htodo hinbox hmsg
      · exact .commanded htodo hinbox hmsg hcore htasks
    · cases h
  | query now answer =>
    simp only [step] at h
    split_ifs at h with hc
    obtain ⟨⟨core, actions⟩, hcore, rfl⟩ := Option.map_eq_some_iff.mp h
    exact .answered hc.1 hc.2 hcore
  | connect gwId g =>
    cases h
    exact .connected gwId g
  | disconnect gwId =>
    cases h
    exact .disconnected gwId
  | dispatch now =>
    simp only [step] at h
    split at h
    · cases h
    · rename_i t todo htodo
      obtain ⟨id, hid, h⟩ := Option.bind_eq_some_iff.mp h
      simp only [dispatch] at h
      split_ifs at h with hn hroom
      · cases h
        exact .enqueued htodo hid hn hroom
      · obtain ⟨core, hcore, h⟩ := bind_eq_some.mp h
        cases h
        exact .refused htodo hcore
  | take i =>
    simp only [step] at h
    split at h
    · rename_i a rest hshard hidle
      cases h
      cases x.clients.lookup a.gwId with
      | none => exact .unconnected hshard hidle
      | some g => exact .opened g hshard hidle
    · cases h
  | handle i =>
    simp only [step] at h
    split at h
    · rename_i g a r rest hw
      simp only [handleRequest] at h
      split at h
      · rename_i msg hval
        cases h
        exact .invalid hw hval
      · rename_i hval
        split_ifs at h with hn hroom
        · cases h
          exact .passed hw hval
        · cases h
          exact .dropped hw hval
    · cases h
  | reply i =>
    simp only [step] at h
    split at h
    · rename_i g a hw
      cases h
      exact .replied hw
    · cases h
  | cut i msg =>
    simp only [step] at h
    split at h
    · rename_i g a rest hw
      cases h
      exact .broke hw
    · cases h
  | report i =>
    simp only [step] at h
    split at h
    · rename_i kind gwId o rest msg hw
      cases h
      exact .reported hw
    · rename_i kind gwId msg hw
      cases h
      exact .rested hw
    · cases h
  | call g j =>
    simp only [step] at h
    split at h
    · rename_i r rest hexec
      cases h
      exact .called hexec
    · cases h

end GatewayPath

end Zkbot
