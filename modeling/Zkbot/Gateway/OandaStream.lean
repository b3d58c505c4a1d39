import Zkbot.Core.Fifo
import Zkbot.Core.Run

/-!
# The OANDA transaction stream and its watermark

The OANDA adaptor hears about fills and cancels over a stream of transactions, and over a reconcile
cycle that asks for everything after the last transaction the stream has heard of.  What the stream
misses while it is down is meant to be found by the cycle.  But every line moves the watermark, that
of a heartbeat too, and a heartbeat carries the last transaction of the account.  After a gap the
first line therefore moves the watermark past everything that was missed.

* `OandaAdaptor`, `step` — the stream, the reconcile cycle with its suspension points, the commands,
  and the bounded queue on which a put may have to wait.
* `CaughtUp` — everything up to an id has been reported; `heard` asks it of each line before the
  line moves the watermark.
* `Safe` — the invariant: what the watermark, an answer under way and every cycle that has finished
  cover has been reported.
-/

namespace Zkbot

open List Option

/-! ## Transactions and events -/

/-- The transaction types that `_handle_transaction` tells apart. -/
inductive TxnKind where
  | create | fill | cancel | reject | other
  deriving DecidableEq

namespace TxnKind

/-- A fill or a cancel. -/
def settles : TxnKind → Bool
  | .fill | .cancel => true
  | .create | .reject | .other => false

/-- The types that become an order report. -/
def reports : TxnKind → Bool
  | .other => false
  | .create | .fill | .cancel | .reject => true

lemma reports_of_settles {k : TxnKind} (h : k.settles) : k.reports := by
  cases k <;> first | rfl | cases h

end TxnKind

structure OandaTxn where
  id : ℕ
  kind : TxnKind
  deriving DecidableEq

/-- An event of the adaptor.  An order report is named by the transaction it is about. -/
inductive AdaptorEvent where
  | orderReport (txn : ℕ)
  | system | balance | position
  deriving DecidableEq

/-- The coroutines that put events. -/
inductive PutTask where
  | stream | reconcile | command
  deriving DecidableEq

/-- The answer of `get_account_changes`. -/
structure ChangesAnswer where
  ordersFilled : List ℕ
  ordersCancelled : List ℕ
  hasBalance : Bool
  /-- the last transaction of the account when the venue answered -/
  upTo : ℕ
  /-- whether the answer names it -/
  named : Bool

namespace ChangesAnswer

def lastTransactionID (a : ChangesAnswer) : Option ℕ := if a.named then some a.upTo else none

/-- The events that the cycle puts before it asks for the positions. -/
def events (a : ChangesAnswer) : List AdaptorEvent :=
  a.ordersFilled.map .orderReport ++ a.ordersCancelled.map .orderReport ++
    (if a.hasBalance then [.balance] else [])

end ChangesAnswer

/-- `get_account_changes`: everything after a transaction, at the time of the answer. -/
def getAccountChanges (txns : List OandaTxn) (since upTo : ℕ) (hasBalance named : Bool) :
    ChangesAnswer :=
  let after := txns.filter fun t => since < t.id ∧ t.id ≤ upTo
  { ordersFilled := (after.filter (·.kind = .fill)).map (·.id)
    ordersCancelled := (after.filter (·.kind = .cancel)).map (·.id)
    hasBalance, upTo, named }

/-- Where `_periodic_reconcile` is suspended. -/
inductive ReconcileCycle where
  | sleeping
  | asked (since : ℕ)
  | emitting (todo : List AdaptorEvent) (a : ChangesAnswer)
  | positions (a : ChangesAnswer)
  | closing (a : ChangesAnswer)

/-! ## The adaptor -/

def queueCapacity : ℕ := 4096

def maxSeenTxns : ℕ := 10000

structure OandaAdaptor where
  /-- the last transaction before the first connect -/
  connectedAt : ℕ
  /-- what has happened in the account since, the oldest first -/
  txns : List OandaTxn := []
  lastTransactionID : ℕ := connectedAt
  streamUp : Bool := true
  /-- `_last_transaction_id` of the stream object -/
  watermark : Option ℕ := none
  seenTxnIds : List ℕ := []
  queue : List AdaptorEvent := [.system]
  /-- what the host has taken from the queue -/
  taken : List AdaptorEvent := []
  /-- puts that wait for the queue to have room -/
  waiting : List (PutTask × AdaptorEvent) := []
  cycle : ReconcileCycle := .sleeping
  /-- ghost: the last transaction that a finished cycle was told of -/
  covered : ℕ := 0

open OandaAdaptor

inductive OandaEvent where
  | transact (t : OandaTxn)
  | streamConnected
  | streamLost
  | heartbeat (lastTransactionID : ℕ)
  | line (t : OandaTxn)
  | restartStream
  | response (t : OandaTxn)
  | queried (t : OandaTxn)
  | snapshot (balance : Bool)
  | wake
  | answer (upTo : ℕ) (hasBalance named : Bool)
  | requestFailed
  | proceed
  | gotPositions (held : Bool)
  | finishPut (k : ℕ)
  | nextEvent

namespace OandaAdaptor

/-- `_event_queue.put`: a put on a full queue waits. -/
def put (task : PutTask) (e : AdaptorEvent) (s : OandaAdaptor) : OandaAdaptor :=
  { s with
    queue := if s.queue.length < queueCapacity then s.queue ++ [e] else s.queue
    waiting := if s.queue.length < queueCapacity then s.waiting else s.waiting ++ [(task, e)] }

def emitOrderEvent (task : PutTask) (t : OandaTxn) (s : OandaAdaptor) : OandaAdaptor :=
  if t.id ∈ s.seenTxnIds then s
  else put task (.orderReport t.id) { s with seenTxnIds := Fifo.push maxSeenTxns s.seenTxnIds t.id }

/-- `_handle_transaction`, for a transaction. -/
def handleTransaction (t : OandaTxn) (s : OandaAdaptor) : OandaAdaptor :=
  let s := { s with watermark := some t.id }
  if t.kind.reports then s.emitOrderEvent .stream t else s

section

variable (s : OandaAdaptor)

/-- Whether a coroutine is suspended in a put. -/
def putting (task : PutTask) : Bool := s.waiting.any (·.1 = task)

def listening : Bool := s.streamUp && !s.putting .stream

/-- `_periodic_reconcile` from its sleep to the request. -/
def wake : Option OandaAdaptor :=
  match s.cycle, s.watermark with
  | .sleeping, some w => some { s with cycle := .asked w }
  | .sleeping, none => some s
  | _, _ => none

/-- From the answer to the first put. -/
def answer (upTo : ℕ) (hasBalance named : Bool) (s : OandaAdaptor) : Option OandaAdaptor :=
  match s.cycle with
  | .asked since =>
    if since ≤ upTo ∧ upTo ≤ s.lastTransactionID then
      let a := getAccountChanges s.txns since upTo hasBalance named
      some { s with cycle := .emitting a.events a }
    else none
  | _ => none

/-- From one put to the next, to the request for the positions, or to the end of the cycle. -/
def proceed : Option OandaAdaptor :=
  if s.putting .reconcile then none
  else match s.cycle with
    | .emitting (e :: todo) a => some (put .reconcile e { s with cycle := .emitting todo a })
    | .emitting [] a => some { s with cycle := .positions a }
    | .closing a => some { s with
        cycle := .sleeping
        -- the stream may be another one than the one whose watermark was asked for
        watermark := a.lastTransactionID.or s.watermark
        covered := max s.covered a.upTo }
    | _ => none

/-- The positions have come. -/
def gotPositions (held : Bool) (s : OandaAdaptor) : Option OandaAdaptor :=
  match s.cycle with
  | .positions a =>
    let s := { s with cycle := .closing a }
    some (if held then s.put .reconcile .position else s)
  | _ => none

/-- A request of the cycle raises: the cycle ends, and leaves the watermark. -/
def requestFailed : Option OandaAdaptor :=
  match s.cycle with
  | .asked _ | .positions _ => some { s with cycle := .sleeping }
  | _ => none

/-- One of the waiting puts finds room. -/
def finishPut (k : ℕ) (s : OandaAdaptor) : Option OandaAdaptor :=
  match s.waiting[k]? with
  | some p =>
    if s.queue.length < queueCapacity then
      some { s with queue := s.queue ++ [p.2], waiting := s.waiting.eraseIdx k }
    else none
  | none => none

def nextEvent : Option OandaAdaptor :=
  match s.queue with
  | e :: rest => some { s with queue := rest, taken := s.taken ++ [e] }
  | [] => none

/-- `_restart_stream`: the coroutine of the old stream is cancelled, and with it a put that
waits. -/
def restartStream : OandaAdaptor :=
  { s with
    watermark := none, streamUp := false, waiting := s.waiting.filter (·.1 ≠ .stream) }

def transact (t : OandaTxn) (s : OandaAdaptor) : OandaAdaptor :=
  { s with txns := s.txns ++ [t], lastTransactionID := t.id }

def start (n : ℕ) : OandaAdaptor := { connectedAt := n }

/-- One step of the account, the connection or a coroutine; `none` if it cannot be taken. -/
def step : OandaEvent → Option OandaAdaptor
  | .transact t => if s.lastTransactionID < t.id then some (s.transact t) else none
  | .streamConnected =>
    if s.streamUp then none else some (put .stream .system { s with streamUp := true })
  | .streamLost => if s.listening then some { s with streamUp := false } else none
  | .heartbeat j =>
    if s.listening ∧ s.connectedAt ≤ j ∧ j ≤ s.lastTransactionID then
      some { s with watermark := some j }
    else none
  | .line t => if s.listening ∧ t ∈ s.txns then some (s.handleTransaction t) else none
  | .restartStream => some s.restartStream
  | .response t =>
    if t ∈ s.txns ∧ t.kind.reports then some (s.emitOrderEvent .command t) else none
  | .queried t =>
    if t ∈ s.txns ∧ t.kind.settles then some (s.put .command (.orderReport t.id)) else none
  | .snapshot balance => some (s.put .command (if balance then .balance else .position))
  | .wake => s.wake
  | .answer upTo hasBalance named => s.answer upTo hasBalance named
  | .requestFailed => s.requestFailed
  | .proceed => s.proceed
  | .gotPositions held => s.gotPositions held
  | .finishPut k => s.finishPut k
  | .nextEvent => s.nextEvent

/-! ## Reported transactions -/

/-- Everything that has been put on the queue. -/
def onQueue : List AdaptorEvent := s.taken ++ s.queue

/-- The same, with what waits to be put. -/
def events : List AdaptorEvent := s.onQueue ++ s.waiting.map (·.2)

def Reported (i : ℕ) : Prop := .orderReport i ∈ s.events
deriving Decidable

/-- Every fill and cancel between the watermark and an id has been reported.  A new stream has no
watermark, and counts from the first connect. -/
def CaughtUp (j : ℕ) : Prop :=
  ∀ t ∈ s.txns, t.kind.settles → s.watermark.getD s.connectedAt < t.id → t.id < j → s.Reported t.id
deriving Decidable

/-- The condition: a line comes when nothing before it is unreported, and a stream is not
restarted while it waits to put an event. -/
def heard : OandaEvent → Prop
  | .heartbeat j => s.CaughtUp (j + 1)
  | .line t => s.CaughtUp t.id
  | .restartStream => s.putting .stream = false
  | _ => True

instance (e : OandaEvent) : Decidable (s.heard e) := by
  cases e <;> dsimp only [heard] <;> infer_instance

/-! ## The invariant -/

/-- Every fill and cancel up to a transaction of the account has been reported. -/
def Settled (j : ℕ) : Prop :=
  j ≤ s.lastTransactionID ∧ ∀ t ∈ s.txns, t.kind.settles → t.id ≤ j → s.Reported t.id

/-- What the cycle has read, and been told, is reported or still to be put. -/
def CycleSafe : ReconcileCycle → Prop
  | .sleeping => True
  | .asked since => s.Settled since
  | .emitting todo a => a.upTo ≤ s.lastTransactionID ∧
      ∀ t ∈ s.txns, t.kind.settles → t.id ≤ a.upTo → s.Reported t.id ∨ .orderReport t.id ∈ todo
  | .positions a | .closing a => s.Settled a.upTo

structure Safe : Prop where
  unique : ∀ t ∈ s.txns, ∀ t' ∈ s.txns, t.id = t'.id → t = t'
  connected : s.connectedAt ≤ s.lastTransactionID
  recent : ∀ t ∈ s.txns, s.connectedAt < t.id ∧ t.id ≤ s.lastTransactionID
  watermark : ∀ w ∈ s.watermark, s.Settled w
  seen : ∀ i ∈ s.seenTxnIds, s.Reported i
  cycle : s.CycleSafe s.cycle
  covered : s.Settled s.covered

end

/-- The account is as it was, and no event is gone. -/
structure Grows (s s' : OandaAdaptor) : Prop where
  connectedAt : s'.connectedAt = s.connectedAt
  txns : s'.txns = s.txns
  last : s'.lastTransactionID = s.lastTransactionID
  events : ∀ x ∈ s.events, x ∈ s'.events

section

variable {s s' : OandaAdaptor} {t : OandaTxn} {j : ℕ} {task : PutTask} {c : ReconcileCycle}
  {hasBalance : Bool}

lemma Grows.settled (g : Grows s s') (h : s.Settled j) : s'.Settled j := by
  refine ⟨g.last ▸ h.1, fun t ht hk hj => ?_⟩
  rw [g.txns] at ht
  exact g.events _ (h.2 t ht hk hj)

lemma Grows.cycleSafe (g : Grows s s') : ∀ {c : ReconcileCycle}, s.CycleSafe c → s'.CycleSafe c
  | .sleeping, _ => trivial
  | .asked _, h => g.settled h
  | .emitting _ _, h => by
      refine ⟨g.last ▸ h.1, fun t ht hk hj => ?_⟩
      rw [g.txns] at ht
      exact (h.2 t ht hk hj).imp_left (g.events _)
  | .positions _, h => g.settled h
  | .closing _, h => g.settled h

/-- A step that leaves the account alone keeps the invariant if what it writes is safe. -/
lemma Safe.of_grows (h : Safe s) (g : Grows s s')
    (hwatermark : ∀ w ∈ s'.watermark, w ∈ s.watermark ∨ s'.Settled w)
    (hseen : ∀ i ∈ s'.seenTxnIds, i ∈ s.seenTxnIds ∨ s'.Reported i)
    (hcycle : s'.cycle = s.cycle ∨ s'.CycleSafe s'.cycle)
    (hcovered : s'.covered = s.covered ∨ s'.Settled s'.covered) : Safe s' where
  unique := by rw [g.txns]; exact h.unique
  connected := by rw [g.connectedAt, g.last]; exact h.connected
  recent := by rw [g.txns, g.connectedAt, g.last]; exact h.recent
  watermark := fun w hw => (hwatermark w hw).elim (fun hw => g.settled (h.watermark w hw)) id
  seen := fun i hi => (hseen i hi).elim (fun hi => g.events _ (h.seen i hi)) id
  cycle := hcycle.elim (fun hc => hc ▸ g.cycleSafe h.cycle) id
  covered := hcovered.elim (fun hc => hc ▸ g.settled h.covered) id

/-! ## Puts -/

lemma mem_events_put {e x : AdaptorEvent} : x ∈ (s.put task e).events ↔ x ∈ s.events ∨ x = e := by
  simp only [events, onQueue, put]
  split_ifs <;> simp only [mem_append, map_append, mem_singleton, map_cons, map_nil] <;> tauto

lemma grows_put (s : OandaAdaptor) (task : PutTask) (e : AdaptorEvent) : Grows s (s.put task e) :=
  ⟨rfl, rfl, rfl, fun _ hx => mem_events_put.mpr (.inl hx)⟩

lemma Safe.put (h : Safe s) (task : PutTask) (e : AdaptorEvent) : Safe (s.put task e) :=
  h.of_grows (grows_put s task e) (fun _ => .inl) (fun _ => .inl) (.inl rfl) (.inl rfl)

lemma grows_emitOrderEvent (s : OandaAdaptor) (task : PutTask) (t : OandaTxn) :
    Grows s (s.emitOrderEvent task t) := by
  simp only [emitOrderEvent]
  split_ifs
  · exact ⟨rfl, rfl, rfl, fun _ => id⟩
  · exact ⟨rfl, rfl, rfl, fun _ hx => mem_events_put.mpr (.inl hx)⟩

/-- A transaction that is emitted is reported: now, or when it was first seen. -/
lemma reported_emitOrderEvent (h : ∀ i ∈ s.seenTxnIds, s.Reported i) (task : PutTask)
    (t : OandaTxn) : (s.emitOrderEvent task t).Reported t.id := by
  simp only [emitOrderEvent]
  split_ifs with hseen
  · exact h _ hseen
  · exact mem_events_put.mpr (.inr rfl)

lemma seen_emitOrderEvent {i : ℕ} (h : i ∈ (s.emitOrderEvent task t).seenTxnIds) :
    i ∈ s.seenTxnIds ∨ i = t.id := by
  simp only [emitOrderEvent] at h
  split_ifs at h
  · exact .inl h
  · -- the oldest may have been dropped
    have hmem := (Fifo.push_suffix maxSeenTxns s.seenTxnIds t.id).mem h
    simpa using hmem

lemma emitOrderEvent_frame (s : OandaAdaptor) (task : PutTask) (t : OandaTxn) :
    (s.emitOrderEvent task t).watermark = s.watermark ∧
      (s.emitOrderEvent task t).cycle = s.cycle ∧
      (s.emitOrderEvent task t).covered = s.covered := by
  simp only [emitOrderEvent]
  split_ifs <;> exact ⟨rfl, rfl, rfl⟩

lemma Safe.emitOrderEvent (h : Safe s) (task : PutTask) (t : OandaTxn) :
    Safe (s.emitOrderEvent task t) := by
  obtain ⟨hwatermark, hcycle, hcovered⟩ := emitOrderEvent_frame s task t
  refine h.of_grows (grows_emitOrderEvent s task t) ?_ ?_ (.inl hcycle) (.inl hcovered)
  · intro w hw
    rw [hwatermark] at hw
    exact .inl hw
  · intro i hi
    rcases seen_emitOrderEvent hi with hi | rfl
    · exact .inl hi
    · exact .inr (reported_emitOrderEvent h.seen task t)

/-! ## The stream -/

lemma Safe.moveStream (h : Safe s) (up : Bool) : Safe { s with streamUp := up } :=
  h.of_grows ⟨rfl, rfl, rfl, fun _ => id⟩ (fun _ => .inl) (fun _ => .inl) (.inl rfl) (.inl rfl)

/-- What lies before a line is reported: up to the watermark by the invariant, and after it because
the stream has caught up. -/
lemma Safe.reported_of_caughtUp (h : Safe s) (hup : s.CaughtUp j) (ht : t ∈ s.txns)
    (hk : t.kind.settles) (hj : t.id < j) : s.Reported t.id := by
  rcases Nat.lt_or_ge (s.watermark.getD s.connectedAt) t.id with hlt | hge
  · exact hup t ht hk hlt hj
  · rcases hw : s.watermark with _ | w
    · -- a new stream counts from the first connect, and all transactions are later
      have hrecent := (h.recent t ht).1
      rw [hw, getD_none] at hge
      omega
    · rw [hw, getD_some] at hge
      exact (h.watermark w hw).2 t ht hk hge

/-- A heartbeat of a stream that has caught up moves the watermark over nothing unreported. -/
lemma Safe.heartbeat (h : Safe s) (hlast : j ≤ s.lastTransactionID) (hup : s.CaughtUp (j + 1)) :
    Safe { s with watermark := some j } := by
  refine h.of_grows ⟨rfl, rfl, rfl, fun _ => id⟩ ?_ (fun _ => .inl) (.inl rfl) (.inl rfl)
  rintro w ⟨⟩
  exact .inr ⟨hlast, fun t ht hk hj => h.reported_of_caughtUp hup ht hk (by omega)⟩

lemma Safe.handleTransaction (h : Safe s) (ht : t ∈ s.txns) (hup : s.CaughtUp t.id) :
    Safe (s.handleTransaction t) := by
  have hrep := reported_emitOrderEvent (s := { s with watermark := some t.id }) h.seen .stream t
  simp only [OandaAdaptor.handleTransaction]
  split_ifs with hreports
  · have hgrows := grows_emitOrderEvent { s with watermark := some t.id } .stream t
    have g : Grows s (OandaAdaptor.emitOrderEvent .stream t { s with watermark := some t.id }) :=
      { hgrows with }
    obtain ⟨hwatermark, hcycle, hcovered⟩ :=
      emitOrderEvent_frame { s with watermark := some t.id } .stream t
    refine h.of_grows g ?_ ?_ (.inl hcycle) (.inl hcovered)
    · intro w hw
      rw [hwatermark] at hw
      obtain rfl : t.id = w := some.inj hw
      refine .inr ⟨g.last.symm ▸ (h.recent t ht).2, fun t' ht' hk hj => ?_⟩
      rw [g.txns] at ht'
      rcases Nat.lt_or_eq_of_le hj with hlt | heq
      · exact g.events _ (h.reported_of_caughtUp hup ht' hk hlt)
      · rw [heq]
        exact hrep
    · intro i hi
      rcases seen_emitOrderEvent hi with hi | rfl
      · exact .inl hi
      · exact .inr hrep
  · -- nothing to report, and no other transaction has this id
    refine h.of_grows ⟨rfl, rfl, rfl, fun _ => id⟩ ?_ (fun _ => .inl) (.inl rfl) (.inl rfl)
    intro w hw
    obtain rfl : t.id = w := some.inj hw
    refine .inr ⟨(h.recent t ht).2, fun t' ht' hk hj => ?_⟩
    rcases Nat.lt_or_eq_of_le hj with hlt | heq
    · exact h.reported_of_caughtUp hup ht' hk hlt
    · obtain rfl := h.unique t' ht' t ht heq
      exact absurd (TxnKind.reports_of_settles hk) hreports

/-! ## The reconcile cycle -/

lemma Safe.moveCycle (h : Safe s) (hc : s.CycleSafe c) : Safe { s with cycle := c } :=
  h.of_grows ⟨rfl, rfl, rfl, fun _ => id⟩ (fun _ => .inl) (fun _ => .inl) (.inr hc) (.inl rfl)

/-- The answer has an event for every fill and cancel that it covers. -/
lemma mem_events_getAccountChanges {txns : List OandaTxn} {since upTo : ℕ} {named : Bool}
    (ht : t ∈ txns) (hk : t.kind.settles) (hsince : since < t.id) (hupTo : t.id ≤ upTo) :
    .orderReport t.id ∈ (getAccountChanges txns since upTo hasBalance named).events := by
  simp only [ChangesAnswer.events, getAccountChanges, mem_append, List.mem_map, mem_filter]
  cases hkind : t.kind <;> grind [TxnKind.settles]

lemma Safe.wake (h : Safe s) (hs : s.wake = some s') : Safe s' := by
  simp only [OandaAdaptor.wake] at hs
  split at hs <;> cases hs
  · exact h.moveCycle (h.watermark _ ‹_›)
  · exact h

lemma Safe.answer (h : Safe s) {upTo : ℕ} {named : Bool}
    (hs : s.answer upTo hasBalance named = some s') : Safe s' := by
  simp only [OandaAdaptor.answer] at hs
  split at hs
  · rename_i since hc
    split_ifs at hs with hupTo
    cases hs
    have hsince : s.Settled since := by
      have hsafe := h.cycle
      rwa [hc] at hsafe
    refine h.moveCycle ⟨hupTo.2, fun t ht hk hj => ?_⟩
    -- what was behind the watermark has been reported, and the answer has the rest
    rcases Nat.lt_or_ge since t.id with hlt | hge
    · exact .inr (mem_events_getAccountChanges ht hk hlt hj)
    · exact .inl (hsince.2 t ht hk hge)
  · cases hs

lemma Safe.proceed (h : Safe s) (hs : s.proceed = some s') : Safe s' := by
  have hsafe := h.cycle
  simp only [OandaAdaptor.proceed] at hs
  split_ifs at hs
  split at hs <;> cases hs <;> rw [‹s.cycle = _›] at hsafe
  · refine h.of_grows ⟨rfl, rfl, rfl, fun _ hx => mem_events_put.mpr (.inl hx)⟩ (fun _ => .inl)
      (fun _ => .inl) (.inr ⟨hsafe.1, ?_⟩) (.inl rfl)
    grind [CycleSafe, Reported, events, onQueue, OandaAdaptor.put]
  · refine h.moveCycle ⟨hsafe.1, ?_⟩
    grind [CycleSafe]
  · refine h.of_grows ⟨rfl, rfl, rfl, fun _ => id⟩ ?_ (fun _ => .inl) (.inr trivial) (.inr ?_)
    · grind [ChangesAnswer.lastTransactionID, Settled, CycleSafe, Reported, events, onQueue]
    · have hcovered := h.covered
      grind [Settled, CycleSafe, Reported, events, onQueue]

lemma Safe.gotPositions (h : Safe s) {held : Bool} (hs : s.gotPositions held = some s') :
    Safe s' := by
  have hsafe := h.cycle
  simp only [OandaAdaptor.gotPositions] at hs
  split at hs <;> cases hs
  next a hc =>
  rw [hc] at hsafe
  have hclosing : Safe { s with cycle := .closing a } := h.moveCycle hsafe
  split_ifs
  · exact hclosing.put _ _
  · exact hclosing

lemma Safe.requestFailed (h : Safe s) (hs : s.requestFailed = some s') : Safe s' := by
  simp only [OandaAdaptor.requestFailed] at hs
  split at hs <;> cases hs <;> exact h.moveCycle trivial

/-! ## The queue -/

lemma Safe.finishPut (h : Safe s) {k : ℕ} (hs : s.finishPut k = some s') : Safe s' := by
  simp only [OandaAdaptor.finishPut] at hs
  split at hs
  · next p hp =>
    split_ifs at hs
    cases hs
    refine h.of_grows ⟨rfl, rfl, rfl, fun x hx => ?_⟩ (fun _ => .inl) (fun _ => .inl) (.inl rfl)
      (.inl rfl)
    -- it is the put that goes through, or it goes on waiting
    grind [events, onQueue, mem_iff_getElem?, mem_eraseIdx_iff_getElem?]
  · cases hs

lemma Safe.nextEvent (h : Safe s) (hs : s.nextEvent = some s') : Safe s' := by
  simp only [OandaAdaptor.nextEvent] at hs
  split at hs <;> cases hs
  next e rest hq =>
  refine h.of_grows ⟨rfl, rfl, rfl, fun x hx => ?_⟩ (fun _ => .inl) (fun _ => .inl) (.inl rfl)
    (.inl rfl)
  simpa [events, onQueue, hq] using hx

lemma grows_restartStream (h : s.putting .stream = false) : Grows s s.restartStream := by
  have hkeep : s.waiting.filter (·.1 ≠ .stream) = s.waiting := by
    refine filter_eq_self.mpr fun p hp => ?_
    simpa using any_eq_false.mp h p hp
  refine ⟨rfl, rfl, rfl, fun x hx => ?_⟩
  simp only [events, onQueue, restartStream, hkeep]
  exact hx

/-! ## Runs -/

lemma Settled.transact (h : s.Settled j) (hlt : s.lastTransactionID < t.id) :
    (s.transact t).Settled j := by
  have hlast := h.1
  have hrep := h.2
  constructor <;> grind [transact, Reported, events, onQueue]

lemma CycleSafe.transact (hlt : s.lastTransactionID < t.id) (h : s.CycleSafe c) :
    (s.transact t).CycleSafe c := by
  cases c <;> grind [CycleSafe, Settled, transact, Reported, events, onQueue]

lemma Safe.transact (h : Safe s) (hlt : s.lastTransactionID < t.id) : Safe (s.transact t) := by
  obtain ⟨unique, connected, recent, watermark, seen, cycle, covered⟩ := h
  refine ⟨?_, ?_, ?_, fun w hw => (watermark w hw).transact hlt, seen, CycleSafe.transact hlt cycle,
    covered.transact hlt⟩ <;> grind [transact]

lemma safe_start (n : ℕ) : Safe (start n) where
  unique := nofun
  connected := Nat.le_refl n
  recent := nofun
  watermark := nofun
  seen := nofun
  cycle := trivial
  covered := ⟨Nat.zero_le _, nofun⟩

lemma safe_step {e : OandaEvent} (h : Safe s) (hok : s.heard e) (hs : s.step e = some s') :
    Safe s' := by
  cases e with
  | transact t =>
    simp only [step] at hs
    split_ifs at hs with hlt
    cases hs
    exact h.transact hlt
  | streamConnected =>
    simp only [step] at hs
    split_ifs at hs
    cases hs
    exact (h.moveStream true).put _ _
  | streamLost =>
    simp only [step] at hs
    split_ifs at hs
    cases hs
    exact h.moveStream false
  | heartbeat j =>
    simp only [step] at hs
    split_ifs at hs with hj
    cases hs
    exact h.heartbeat hj.2.2 hok
  | line t =>
    simp only [step] at hs
    split_ifs at hs with ht
    cases hs
    exact h.handleTransaction ht.2 hok
  | restartStream =>
    cases hs
    refine h.of_grows (grows_restartStream hok) ?_ (fun _ => .inl) (.inl rfl) (.inl rfl)
    intro w hw
    cases hw
  | response t =>
    simp only [step] at hs
    split_ifs at hs
    cases hs
    exact h.emitOrderEvent _ _
  | queried t =>
    simp only [step] at hs
    split_ifs at hs
    cases hs
    exact h.put _ _
  | snapshot balance =>
    cases hs
    exact h.put _ _
  | wake => exact h.wake hs
  | answer => exact h.answer hs
  | requestFailed => exact h.requestFailed hs
  | proceed => exact h.proceed hs
  | gotPositions held => exact h.gotPositions hs
  | finishPut k => exact h.finishPut hs
  | nextEvent => exact h.nextEvent hs

lemma safe_run {n : ℕ} {es : List OandaEvent} (hg : Guarded step heard (start n) es)
    (hr : run step (start n) es = some s) : Safe s :=
  run_invariant (fun _ _ _ h hok hs => safe_step h hok hs) (safe_start n) hg hr

/-- The host can take all that is on the queue. -/
lemma run_nextEvent (s : OandaAdaptor) :
    run step s (List.replicate s.queue.length .nextEvent) =
      some { s with queue := [], taken := s.taken ++ s.queue } := by
  induction hq : s.queue generalizing s with
  | nil =>
    rw [length_nil, append_nil, replicate_zero, run_nil, ← hq]
  | cons e rest ih =>
    have hstep : s.step .nextEvent = some { s with queue := rest, taken := s.taken ++ [e] } := by
      simp [step, nextEvent, hq]
    rw [length_cons, replicate_succ, run_cons, hstep, bind_some]
    rw [ih { s with queue := rest, taken := s.taken ++ [e] } rfl]
    simp

/-- As long as the host takes events, every put that waits goes through. -/
lemma exists_run_drained (s : OandaAdaptor) :
    ∃ es s', (∀ e ∈ es, e = .nextEvent ∨ e = .finishPut 0) ∧ run step s es = some s' ∧
      ∀ x ∈ s.events, x ∈ s'.onQueue := by
  induction hw : s.waiting generalizing s with
  | nil =>
    refine ⟨[], s, nofun, rfl, fun x hx => ?_⟩
    simpa [events, hw] using hx
  | cons p rest ih =>
    -- the host takes everything, and the first put finds room
    let s₁ : OandaAdaptor := { s with
      queue := [p.2], taken := s.taken ++ s.queue, waiting := rest }
    have hround : run step s (List.replicate s.queue.length .nextEvent ++ [.finishPut 0]) =
        some s₁ := by
      rw [run_append, run_nextEvent, bind_some, run_cons]
      simp only [step, finishPut, hw]
      rfl
    obtain ⟨es, s', hes, hrun, hon⟩ := ih s₁ rfl
    refine ⟨List.replicate s.queue.length .nextEvent ++ [.finishPut 0] ++ es, s', ?_, ?_, ?_⟩
    · intro e he
      rcases mem_append.mp he with he | he
      · rcases mem_append.mp he with he | he
        · exact .inl (eq_of_mem_replicate he)
        · exact .inr (mem_singleton.mp he)
      · exact hes e he
    · rw [run_append, hround]
      exact hrun
    · intro x hx
      refine hon x ?_
      simpa [events, onQueue, s₁, hw] using hx

/-- **No fill or cancel is lost** in a run in which each line of the stream comes when everything
before it has been reported: once a cycle has finished that was told of a transaction, the
transaction has been reported, and the report gets onto the queue if the host goes on taking
events. -/
theorem settled_reported {n : ℕ} {es : List OandaEvent} {s : OandaAdaptor}
    (hg : Guarded step heard (start n) es) (hr : run step (start n) es = some s) {t : OandaTxn}
    (ht : t ∈ s.txns) (hk : t.kind.settles) (hc : t.id ≤ s.covered) :
    s.Reported t.id ∧
      ∃ ds s', (∀ d ∈ ds, d = .nextEvent ∨ d = .finishPut 0) ∧ run step s ds = some s' ∧
        .orderReport t.id ∈ s'.onQueue := by
  have hrep : s.Reported t.id := (safe_run hg hr).covered.2 t ht hk hc
  obtain ⟨ds, s', hds, hrun, honto⟩ := exists_run_drained s
  exact ⟨hrep, ds, s', hds, hrun, honto _ hrep⟩

end

end OandaAdaptor

/-- A fill that the stream misses, since the connection is lost before it. -/
def Sample.missedFill : List OandaEvent :=
  [.streamLost, .transact ⟨11, .fill⟩]

/-- A cycle from its wake to its end; the account answers with its last transaction. -/
def Sample.wholeCycle (last : ℕ) (events : ℕ) : List OandaEvent :=
  [.wake, .answer last false true] ++ List.replicate (events + 1) .proceed ++
    [.gotPositions false, .proceed]

open Sample

/-- A fill is missed, and the cycle reports it before the stream is back. -/
theorem settled_reported_missed :
    ∃ s ∈ run step (start 10)
        ([.heartbeat 10] ++ missedFill ++ wholeCycle 11 1 ++ [.streamConnected, .heartbeat 11]),
      s.txns = [⟨11, .fill⟩] ∧ s.covered = 11 ∧ s.Reported 11 := by
  refine exists_mem_imp (P := fun s => s.txns = [⟨11, .fill⟩] ∧ s.covered = 11)
    (by decide +kernel) ?_
  rintro s hs ⟨htxns, hcov⟩
  have ht : (⟨11, .fill⟩ : OandaTxn) ∈ s.txns := by simp [htxns]
  exact ⟨htxns, hcov, (settled_reported (by decide +kernel) hs ht rfl (by simp [hcov])).1⟩

/-- A fill happens while the stream is down.  When the stream is back, or a new one has been
started, its first heartbeat carries the id of the fill, and the cycle asks for what comes after
it.  The cycle finishes, nothing waits, and no report of the fill has been put on the queue. -/
theorem heartbeat_hides_missed_fill :
    (∃ s ∈ run step (start 10)
        ([.heartbeat 10] ++ missedFill ++ [.streamConnected, .heartbeat 11] ++ wholeCycle 11 0),
      s.txns = [⟨11, .fill⟩] ∧ s.covered = 11 ∧ s.watermark = some 11 ∧ s.waiting = [] ∧
        s.onQueue = [.system, .system]) ∧
    ∃ s ∈ run step (start 10)
        ([.heartbeat 10] ++ missedFill ++
          [.restartStream, .streamConnected, .heartbeat 11] ++ wholeCycle 11 0),
      s.txns = [⟨11, .fill⟩] ∧ s.covered = 11 ∧ s.watermark = some 11 ∧ s.waiting = [] ∧
        s.onQueue = [.system, .system] := by
  decide +kernel

end Zkbot
