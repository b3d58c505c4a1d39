import Zkbot.Svc.Actor
import Zkbot.Svc.Redis

/-!
# Persistence under load

`persist_executor.rs`, and what `process_command` hands to it.  Every account has a bounded queue
and one worker, which writes to Redis what it takes from the queue.  The pool has two ways in: one
that waits for room, and `try_dispatch`, which drops the action if there is none.  The module of the
pool says that the first is used; the writer uses the second everywhere.

The workers run beside the writer, so what a command built is handed over action by action
(`PersistEvent`), with any amount of work in between.  `built` and `written` are ghosts.

* `persistActions` — what `process_command` builds.
* `inLine_step` — an event that finds room keeps what was built in line.
* `writes_follow_builds` — the writes are what was built as long as no queue is full.
-/

namespace Zkbot

open List Option OmsService

variable {α : Type}

/-! ## What a command builds -/

inductive PersistAction where
  | order (order : OmsOrder) (setExpire setClosed : Bool)
  | balance (balance : PersistBalance)
  | position (position : PersistPosition)

/-- The keys of Redis; a write to a key replaces what was there. -/
inductive RedisKey where
  | order (orderId : Int)
  | balance (accountId : Int) (asset : String)
  | position (accountId : Int) (instrument side : String)
  deriving DecidableEq

namespace PersistAction

def accountId : PersistAction → Int
  | .order o _ _ => o.accountId
  | .balance b => b.accountId
  | .position p => p.accountId

def key : PersistAction → RedisKey
  | .order o _ _ => .order o.orderId
  | .balance b => .balance b.accountId b.assetName
  | .position p => .position p.accountId p.instrumentCode p.side

end PersistAction

/-- `is_hot_path`: an order is persisted when a report or a failure comes, not when it is placed or
cancelled. -/
def OmsCommand.isHotPath : OmsCommand → Bool
  | .placeOrder _ | .batchPlaceOrders _ | .cancelOrder _ | .batchCancelOrders _ => true
  | _ => false

def OmsCoreV2.buildPersistAction (core : OmsCoreV2) (isHotPath : Bool) :
    OmsActionV2 → Option (Option PersistAction)
  | .persistOrder orderId setExpire setClosed =>
    if isHotPath then some none
    else (core.buildPersistedOrder orderId).map (·.map (.order · setExpire setClosed))
  | .persistBalance accountId assetId =>
    (core.buildPersistBalance accountId assetId).map (·.map .balance)
  | .persistPosition accountId instrumentId =>
    (core.buildPersistPosition accountId instrumentId).map (·.map .position)
  | _ => some none

/-- The actions of inline failures are persisted in any case, except for positions. -/
def OmsCoreV2.buildFailurePersistAction (core : OmsCoreV2) :
    OmsActionV2 → Option (Option PersistAction)
  | .persistPosition .. => some none
  | a => core.buildPersistAction false a

namespace OmsService

/-- A turn of a loop over actions, with what it builds. -/
def building (turn : Dispatch → α → Option Dispatch)
    (build : OmsCoreV2 → α → Option (Option PersistAction)) (x : Dispatch × List PersistAction)
    (a : α) : Option (Dispatch × List PersistAction) := do
  let y ← turn x.1 a
  let built ← build x.1.core a
  some (y, x.2 ++ built.toList)

/-- What a command builds while `processCommand` handles it. -/
def persistActions (x : OmsService) (d : Delivery) : Option (List PersistAction) :=
  match d.command.message with
  | none => some []
  | some msg => do
      let (core, actions) ← x.core.processMessage d.now msg
      let y ← actions.zipIdx.foldlM (building (dispatchAction d.queueFull)
          fun core a => core.buildPersistAction d.command.isHotPath a.1)
        ({ core, writer := panicUpdate x.writer d.command }, [])
      let z ← y.1.failureActions.foldlM
        (building dispatchFailureAction OmsCoreV2.buildFailurePersistAction) y
      some z.2

end OmsService

/-! ## The queues -/

/-- The queues of the pool: that of an account holds actions of the account. -/
abbrev PersistQueues := (a : Int) → List { p : PersistAction // p.accountId = a }

namespace PersistQueues

/-- There is room for an action.  A channel of capacity zero cannot be made. -/
def HasRoom (capacity : ℕ+) (q : PersistQueues) (p : PersistAction) : Prop :=
  (q p.accountId).length < capacity
deriving Decidable

def tryDispatch (capacity : ℕ+) (q : PersistQueues) (p : PersistAction) : PersistQueues :=
  if HasRoom capacity q p then Function.update q p.accountId (q p.accountId ++ [⟨p, rfl⟩]) else q

end PersistQueues

open PersistQueues

/-- The writer and the pool. -/
structure PersistPath where
  service : OmsService
  /-- what the command at hand has built and not handed over yet -/
  pending : List PersistAction := []
  queues : PersistQueues := fun _ => []
  built : List PersistAction := []
  written : List PersistAction := []

inductive PersistEvent where
  /-- the next command, when the one before is through -/
  | command (d : Delivery)
  | dispatch
  /-- the worker of an account writes what is next in its queue -/
  | work (accountId : Int)

namespace PersistPath

variable {capacity : ℕ+} {x y : PersistPath}

def step (capacity : ℕ+) (x : PersistPath) : PersistEvent → Option PersistPath
  | .command d =>
    match x.pending with
    | _ :: _ => none
    | [] => do
        let pending ← x.service.persistActions d
        let service ← x.service.processCommand d
        some { x with service, pending, built := x.built ++ pending }
  | .dispatch =>
    match x.pending with
    | [] => none
    | p :: pending => some { x with pending, queues := tryDispatch capacity x.queues p }
  | .work accountId =>
    match x.queues accountId with
    | [] => none
    | p :: rest => some
        { x with queues := Function.update x.queues accountId rest, written := x.written ++ [p.1] }

/-- The events that drop nothing. -/
def KeepsAll (capacity : ℕ+) (x : PersistPath) : PersistEvent → Prop
  | .dispatch => ∀ p ∈ x.pending.head?, HasRoom capacity x.queues p
  | _ => True

instance (capacity : ℕ+) (x : PersistPath) : (e : PersistEvent) → Decidable (x.KeepsAll capacity e)
  | .command _ | .work _ => .isTrue trivial
  | .dispatch => inferInstanceAs (Decidable (∀ p ∈ x.pending.head?, _))

def ofAccount (a : Int) (ps : List PersistAction) : List PersistAction :=
  ps.filter (·.accountId = a)

/-- What the writes of an account left under a key. -/
def stored (ps : List PersistAction) (a : Int) (k : RedisKey) : Option PersistAction :=
  ((ofAccount a ps).filter (·.key = k)).getLast?

/-- Everything that was built is written, in its queue or still with the writer, in this order. -/
def InLine (x : PersistPath) : Prop :=
  ∀ a, ofAccount a x.written ++ (x.queues a).map (·.1) ++ ofAccount a x.pending =
    ofAccount a x.built

/-- **An event that drops nothing keeps the line.** -/
lemma inLine_step {e : PersistEvent} (h : x.InLine) (hok : x.KeepsAll capacity e)
    (hstep : x.step capacity e = some y) : y.InLine := by
  intro a
  have hline := h a
  cases e with
  | command d =>
    simp only [step] at hstep
    split at hstep
    · cases hstep
    · obtain ⟨pending, -, hstep⟩ := bind_eq_some.mp hstep
      obtain ⟨service, -, hstep⟩ := bind_eq_some.mp hstep
      cases hstep
      simp only [ofAccount, ‹x.pending = []›, filter_nil, append_nil] at hline
      simp [ofAccount, ← hline]
  | dispatch =>
    simp only [step] at hstep
    split at hstep
    · cases hstep
    · rename_i p pending hpending
      cases hstep
      rw [← hline, tryDispatch, if_pos (hok p (by rw [hpending]; rfl)), hpending]
      by_cases ha : p.accountId = a
      · subst ha
        simp [ofAccount]
      · simp [ofAccount, ha, Function.update_of_ne (Ne.symm ha)]
  | work b =>
    simp only [step] at hstep
    split at hstep
    · cases hstep
    · rename_i p rest hq
      cases hstep
      rw [← hline]
      by_cases ha : a = b
      · subst ha
        simp [ofAccount, hq, p.2]
      · simp [ofAccount, p.2, Ne.symm ha, Function.update_of_ne ha]

/-- **The writes are what was built.**  In every run in which every dispatch finds room, the writes
of an account are a first part of what was built for it; once its queue is empty and nothing is
pending they are all of it, and the last write to every key is the last that was built. -/
theorem writes_follow_builds (capacity : ℕ+) (service : OmsService) (evs : List PersistEvent)
    (hok : Guarded (step capacity) (KeepsAll capacity) { service } evs) (x : PersistPath)
    (hrun : run (step capacity) { service } evs = some x) (a : Int) :
    ofAccount a x.written <+: ofAccount a x.built ∧
      (x.queues a = [] → x.pending = [] → ofAccount a x.written = ofAccount a x.built ∧
        ∀ k, stored x.written a k = stored x.built a k) := by
  have hline := run_invariant (fun _ _ _ => inLine_step) (fun _ => rfl) hok hrun a
  refine ⟨⟨(x.queues a).map (·.1) ++ ofAccount a x.pending, by rw [← hline, append_assoc]⟩, ?_⟩
  intro hq hp
  have heq : ofAccount a x.written = ofAccount a x.built := by
    simpa [hq, hp, ofAccount] using hline
  exact ⟨heq, fun k => by rw [stored, heq, stored]⟩

end PersistPath

open Sample PersistPath

/-- An order is placed and filled; `rest` is what happens to the two actions that this builds. -/
def Sample.filledUnder (rest : List PersistEvent) : List PersistEvent :=
  .command { command := .placeOrder (request 10 .buy 10) } ::
    .command { command := .gatewayOrderReport (orderReport 10 "R" [state .filled 10]) } :: rest

/-- With room for one action, and a worker that is always in time. -/
theorem writes_follow_builds_filled : ∃ s ∈ (service true false).start,
    ∃ x ∈ run (step 1) { service := s } (filledUnder [.dispatch, .work 1, .dispatch, .work 1]),
      (ofAccount 1 x.built).length = 2 ∧ ofAccount 1 x.written = ofAccount 1 x.built := by
  obtain ⟨s, hs, hok, x, hx, hq, hp, hlen⟩ : ∃ s ∈ (service true false).start,
      Guarded (step 1) (KeepsAll 1) { service := s }
        (filledUnder [.dispatch, .work 1, .dispatch, .work 1]) ∧
      ∃ x ∈ run (step 1) { service := s } (filledUnder [.dispatch, .work 1, .dispatch, .work 1]),
        (x.queues 1).isEmpty ∧ x.pending.isEmpty ∧ (ofAccount 1 x.built).length = 2 := by
    decide +kernel
  exact ⟨s, hs, x, hx, hlen, ((writes_follow_builds 1 s _ hok x hx 1).2 (isEmpty_iff.mp hq)
    (isEmpty_iff.mp hp)).1⟩

/-- With room for one action, and a worker that comes after both: the filled order is dropped, and
nothing is left to be written. -/
theorem filled_order_dropped : ∃ s ∈ (service true false).start,
    ∃ x ∈ run (step 1) { service := s } (filledUnder [.dispatch, .dispatch, .work 1]),
      (x.queues 1).isEmpty ∧ x.pending.isEmpty ∧ (ofAccount 1 x.built).length = 2 ∧
      (ofAccount 1 x.written).length = 1 ∧ (stored x.built 1 (.order 10)).isSome ∧
      (stored x.written 1 (.order 10)).isNone := by
  decide +kernel

end Zkbot
