import Zkbot.Core.Dict
import Zkbot.Pilot.Bootstrap

/-!
# Pilot's threads

`KvReconciler.java` and `BootstrapService.java`, one statement at a time.  Three threads share the
set of live keys and the database:

* the callbacks of the watch on the registry bucket, which follow it some way behind,
* the loop that looks for keys that have expired, as that makes no watch event,
* the dispatcher of the bootstrap requests.

All of them act on a session by looking up a row and changing it in a later statement.
`Threads.step` is one statement of one thread, or a change in the bucket; `Lost.run` and
`dispatch_alone` say that the statements of a thread that is left alone add up to `onKvLost` and
`handleRegister`.
-/

namespace Zkbot.Pilot

/-! ## The bucket -/

/-- The last message of a key: its entry, with the session whose instance wrote it if Pilot knows
one, or the marker of a deletion. -/
inductive Message where
  | entry (writer : Option String)
  | tombstone
  deriving DecidableEq

/-- The last message of every key that has one; the one that was written last comes first. -/
abbrev Bucket := Dict String Message

/-- What the watch delivers. -/
inductive WatchEvent where
  | put (key : String)
  /-- a deletion or a purge -/
  | delete (key : String)
  deriving DecidableEq

/-- The messages of the bucket as the watch delivers them. -/
def initialEvents (b : Bucket) : List WatchEvent :=
  b.entries.reverse.map fun m =>
    match m.2 with
    | .entry _ => .put m.1
    | .tombstone => .delete m.1

/-! ## Positions -/

/-- Where a thread stands in `onKvLost`. -/
inductive Lost where
  /-- before `findActiveSessionByKvKey` -/
  | lookup (key : String)
  /-- before `fenceSession` -/
  | fence (row : Session)
  /-- before `releaseInstanceId` -/
  | release (row : Session)
  deriving DecidableEq

/-- One statement of `onKvLost`; the position is `none` at its end. -/
def Lost.step (σ : Setting) (db : Db) : Lost → Db × Option Lost
  | .lookup key => (db, (db.findActiveSessionByKvKey key).map .fence)
  | .fence row =>
    (db.fenceSession row.ownerSessionId,
      if σ.isEngine row.instanceType then some (.release row) else none)
  | .release row => (releaseFor σ db row, none)

/-- Where the watch callbacks stand. -/
inductive WatchPc where
  | idle
  /-- in `onKvLost`, with more lost keys to come -/
  | lost (l : Lost) (rest : List String)
  /-- `endOfData`: before `live.clear()` -/
  | copied (oldLive : List String)
  /-- before `live.addAll(nextLive)` -/
  | cleared (oldLive : List String)
  /-- before `snapshotDone[0] = true` -/
  | filled (oldLive : List String)
  deriving DecidableEq

/-- The keys that are lost are handled one after another. -/
def WatchPc.next : List String → WatchPc
  | [] => .idle
  | key :: rest => .lost (.lookup key) rest

/-- After a statement of `onKvLost`. -/
def WatchPc.after (rest : List String) : Option Lost → WatchPc
  | some l => .lost l rest
  | none => .next rest

/-- A watch: what it has not delivered yet, and how much of that are initial values. -/
structure Watcher where
  queue : List WatchEvent := []
  initialLeft : ℕ := 0
  subscribed : Bool := false
  snapshotDone : Bool := false
  nextLive : List String := []
  pc : WatchPc := .idle
  deriving DecidableEq

/-- Where the sweep stands. -/
inductive SweepPc where
  | idle
  /-- the keys still to be checked -/
  | checking (rest : List String)
  /-- `get` has returned `null`: before `live.remove` -/
  | gone (key : String) (rest : List String)
  | lost (l : Lost) (rest : List String)
  deriving DecidableEq

def SweepPc.after (rest : List String) : Option Lost → SweepPc
  | some l => .lost l rest
  | none => .checking rest

/-- A register request with the session id and the configuration it will get. -/
structure Registering where
  req : RegisterRequest
  uuid : String
  config : Option String

/-- Where the dispatcher stands. -/
inductive DispatchPc where
  | idle
  /-- before `findSessionForLogical` -/
  | find (r : Registering)
  /-- before `isKvLive` -/
  | check (r : Registering) (session : Session)
  | fence (r : Registering) (session : Session)
  | release (r : Registering) (session : Session)
  | acquire (r : Registering)
  | record (r : Registering) (instanceId : ℕ)
  /-- `handleDeregister`: before `deregisterSession` -/
  | deregister (ownerSessionId : String) (session : Option Session)
  | giveBack (session : Session)

/-- The threads and what they share. -/
structure Threads where
  db : Db := {}
  now : ℕ := 0
  bucket : Bucket := ∅
  /-- the sessions whose instances have written their entries -/
  written : List String := []
  live : List String := []
  ready : Bool := false
  watcher : Watcher := {}
  sweep : SweepPc := .idle
  dispatch : DispatchPc := .idle

/-! ## Statements -/

inductive Act where
  /-- the watch is set up, or set up again after a disconnection -/
  | subscribe
  /-- the watch delivers the next event -/
  | deliver
  | endOfData
  /-- the next statement of a watch callback -/
  | watch
  | sweepStart
  | sweep
  /-- a register request arrives -/
  | register (r : Registering)
  | deregister (ownerSessionId : String)
  | dispatch
  | advance (ms : ℕ)
  /-- the instance of a session writes its entry -/
  | put (ownerSessionId : String)
  /-- somebody else writes the key -/
  | foreignPut (key : String)
  /-- whoever has written the entry writes it again -/
  | heartbeat (key : String)
  | delete (key : String)
  | expire (key : String)

namespace Threads

variable {s : Threads} {r : Registering}

/-- The bucket changes, and the watch will tell. -/
def message (s : Threads) (key : String) (m : Message) (e : WatchEvent) : Threads :=
  { s with
    bucket := s.bucket.insert key m
    watcher := { s.watcher with queue := s.watcher.queue ++ [e] } }

/-- `watch(entry)`, up to `onKvLost`. -/
def deliver (s : Threads) (e : WatchEvent) (queue : List WatchEvent) : Threads :=
  let w := { s.watcher with queue, initialLeft := s.watcher.initialLeft - 1 }
  match e with
  | .put key =>
    if w.snapshotDone then { s with live := s.live.insert key, watcher := w }
    else { s with watcher := { w with nextLive := w.nextLive.insert key } }
  | .delete key =>
    if w.snapshotDone then
      { s with
        live := s.live.filter (· != key)
        watcher := { w with pc := .lost (.lookup key) [] } }
    else { s with watcher := { w with nextLive := w.nextLive.filter (· != key) } }

/-- The next statement of a watch callback. -/
def watch (σ : Setting) (s : Threads) : WatchPc → Option Threads
  | .idle => none
  | .copied oldLive =>
    some { s with live := [], watcher := { s.watcher with pc := .cleared oldLive } }
  | .cleared oldLive =>
    some { s with
      live := s.live ∪ s.watcher.nextLive
      watcher := { s.watcher with pc := .filled oldLive } }
  | .filled oldLive =>
    let lost := oldLive.filter fun key => !s.watcher.nextLive.contains key
    some { s with
      ready := true
      watcher := { s.watcher with snapshotDone := true, pc := .next lost } }
  | .lost l rest =>
    some { s with
      db := (l.step σ s.db).1
      watcher := { s.watcher with pc := .after rest (l.step σ s.db).2 } }

/-- The next statement of the sweep. -/
def sweepStep (σ : Setting) (s : Threads) : SweepPc → Option Threads
  | .idle => none
  | .checking [] => some { s with sweep := .idle }
  | .checking (key :: rest) =>
    match s.bucket.lookup key with
    | some (.entry _) => some { s with sweep := .checking rest }
    | _ => some { s with sweep := .gone key rest }
  | .gone key rest =>
    some { s with live := s.live.filter (· != key), sweep := .lost (.lookup key) rest }
  | .lost l rest =>
    some { s with db := (l.step σ s.db).1, sweep := .after rest (l.step σ s.db).2 }

/-- Step 3 of `handleRegister` comes next. -/
def toAssign (σ : Setting) (r : Registering) : DispatchPc :=
  if σ.isEngine r.req.instanceType then .acquire r else .record r 0

def dispatchStep (σ : Setting) (s : Threads) : DispatchPc → Option Threads
  | .idle => none
  | .find r =>
    match s.db.findSessionForLogical r.req.logicalId r.req.instanceType with
    | none => some { s with dispatch := toAssign σ r }
    | some session => some { s with dispatch := .check r session }
  | .check r session =>
    if s.live.contains session.kvKey then some { s with dispatch := .idle }
    else some { s with dispatch := .fence r session }
  | .fence r session =>
    some { s with
      db := s.db.fenceSession session.ownerSessionId
      dispatch := if σ.isEngine session.instanceType then .release r session else toAssign σ r }
  | .release r session =>
    some { s with db := releaseFor σ s.db session, dispatch := toAssign σ r }
  | .acquire r =>
    let acquired := s.db.acquireInstanceId s.now σ.leaseTtl r.req.env r.req.logicalId
    some { s with db := acquired.1, dispatch := acquired.2.elim .idle (.record r ·) }
  | .record r instanceId =>
    some { s with
      db := (recordAndReply σ s.db r.uuid r.config r.req instanceId).1
      dispatch := .idle }
  | .deregister ownerSessionId session =>
    let engine := session.filter fun x => σ.isEngine x.instanceType
    some { s with
      db := s.db.deregisterSession ownerSessionId
      dispatch := engine.elim .idle .giveBack }
  | .giveBack session => some { s with db := releaseFor σ s.db session, dispatch := .idle }

/-- One statement of one thread, or one change in the bucket; `none` where it cannot happen. -/
def step (σ : Setting) (s : Threads) : Act → Option Threads
  | .subscribe =>
    -- the thread that subscribes is the one that sweeps
    if s.watcher.pc = .idle ∧ s.sweep = .idle then
      some { s with
        watcher :=
          { queue := initialEvents s.bucket, initialLeft := (initialEvents s.bucket).length,
            subscribed := true } }
    else none
  | .deliver =>
    match s.watcher.pc, s.watcher.queue with
    | .idle, e :: queue => some (s.deliver e queue)
    | _, _ => none
  | .endOfData =>
    let w := s.watcher
    if w.pc = .idle ∧ w.subscribed ∧ ¬ w.snapshotDone ∧ w.initialLeft = 0 then
      some { s with watcher := { w with pc := .copied s.live } }
    else none
  | .watch => s.watch σ s.watcher.pc
  | .sweepStart =>
    if s.sweep = .idle ∧ s.watcher.snapshotDone then some { s with sweep := .checking s.live }
    else none
  | .sweep => s.sweepStep σ s.sweep
  | .register r =>
    match s.dispatch with
    | .idle =>
      let req := r.req
      if !s.ready || (s.db.getSession r.uuid).isSome then none
      else
        match σ.validateToken s.now req.token req.logicalId req.instanceType req.env with
        | none => some s
        | some _ => some { s with dispatch := .find r }
    | _ => none
  | .deregister id =>
    match s.dispatch with
    | .idle =>
      if !s.ready then none
      else some { s with dispatch := .deregister id (s.db.getSession id) }
    | _ => none
  | .dispatch => s.dispatchStep σ s.dispatch
  | .advance ms => some { s with now := s.now + ms }
  | .put id =>
    if s.written.contains id then none
    else (s.db.getSession id).map fun row =>
      { s.message row.kvKey (.entry (some id)) (.put row.kvKey) with written := id :: s.written }
  | .foreignPut key => some (s.message key (.entry none) (.put key))
  | .heartbeat key =>
    match s.bucket.lookup key with
    | some (.entry writer) => some (s.message key (.entry writer) (.put key))
    | _ => none
  | .delete key => some (s.message key .tombstone (.delete key))
  | .expire key => some { s with bucket := s.bucket.erase key }

/-! ## A thread that is left alone -/

/-- The statements of `onKvLost` add up to it. -/
lemma onKvLost_eq (σ : Setting) (db : Db) (key : String) :
    onKvLost σ db key =
      match (Lost.lookup key).step σ db with
      | (db, none) => db
      | (db, some l) =>
        match l.step σ db with
        | (db, none) => db
        | (db, some l) => (l.step σ db).1 := by
  simp only [onKvLost, Lost.step]
  cases db.findActiveSessionByKvKey key with
  | none => rfl
  | some row =>
    by_cases h : σ.isEngine row.instanceType
    · simp [h]
    · simp [h, releaseFor]

variable {σ : Setting}

/-- The dispatcher is done with a request, and the database is `db`. -/
def Finishes (σ : Setting) (s : Threads) (db : Db) : Prop :=
  ∃ n, ∃ t ∈ run (step σ) s (List.replicate n .dispatch), t.dispatch = .idle ∧ t.db = db

lemma Finishes.next {t : Threads} {db : Db} (hs : s.step σ .dispatch = some t)
    (h : Finishes σ t db) : Finishes σ s db := by
  obtain ⟨n, u, hu, hidle, hdb⟩ := h
  exact ⟨n + 1, u, run_cons_eq_some.mpr ⟨t, hs, hu⟩, hidle, hdb⟩

lemma Finishes.done (h : s.dispatch = .idle) : Finishes σ s s.db :=
  ⟨0, s, rfl, h, rfl⟩

/-- Steps 3 to 8 of `handleRegister`. -/
lemma assign_alone (hs : s.dispatch = toAssign σ r) :
    Finishes σ s (assign σ s.db s.now r.uuid r.config r.req).1 := by
  have hrecord : ∀ {s : Threads} {i : ℕ}, s.dispatch = .record r i →
      Finishes σ s (recordAndReply σ s.db r.uuid r.config r.req i).1 := by
    intro s i hs
    refine Finishes.next (t := { s with db := _, dispatch := .idle }) ?_ (.done rfl)
    simp [step, hs, dispatchStep]
  simp only [assign, assignThrowing, attempt_none]
  by_cases hengine : σ.isEngine r.req.instanceType
  · simp only [toAssign, hengine, if_true] at hs ⊢
    cases hacq : s.db.acquireInstanceId s.now σ.leaseTtl r.req.env r.req.logicalId with
    | mk db free =>
      cases free with
      | none =>
        refine Finishes.next (t := { s with db := db, dispatch := .idle }) ?_ (.done rfl)
        simp [step, hs, dispatchStep, hacq]
      | some i =>
        refine Finishes.next (t := { s with db, dispatch := .record r i }) ?_ (hrecord rfl)
        simp [step, hs, dispatchStep, hacq]
  · simp only [toAssign, hengine] at hs ⊢
    exact hrecord hs

/-- **The statements of the dispatcher add up to `handleRegister`.** -/
theorem dispatch_alone {jti : String} (hs : s.dispatch = .find r)
    (hvalid : σ.validateToken s.now r.req.token r.req.logicalId r.req.instanceType r.req.env =
      some jti) :
    Finishes σ s
      (handleRegister σ s.db s.now (fun key => s.live.contains key) r.uuid r.config r.req).1 := by
  simp only [handleRegister, handleRegisterThrowing, attempt_none, fenceThrowing_none, hvalid]
  cases hfind : s.db.findSessionForLogical r.req.logicalId r.req.instanceType with
  | none =>
    refine Finishes.next (t := { s with dispatch := toAssign σ r }) ?_ (assign_alone rfl)
    simp [step, hs, dispatchStep, hfind]
  | some session =>
    refine Finishes.next (t := { s with dispatch := .check r session }) ?_ ?_
    · simp [step, hs, dispatchStep, hfind]
    by_cases hlive : s.live.contains session.kvKey
    · simp only [hlive, if_true]
      refine Finishes.next (t := { s with dispatch := .idle }) ?_ (.done rfl)
      simp only [step, dispatchStep, hlive, if_true]
    · simp only [hlive]
      refine Finishes.next (t := { s with dispatch := .fence r session }) ?_ ?_
      · simp only [step, dispatchStep, hlive]
        rfl
      by_cases hengine : σ.isEngine session.instanceType
      · refine Finishes.next (t := { s with
          db := s.db.fenceSession session.ownerSessionId, dispatch := .release r session }) ?_ ?_
        · simp [step, dispatchStep, hengine]
        refine Finishes.next (t := { s with
          db := releaseFor σ (s.db.fenceSession session.ownerSessionId) session
          dispatch := toAssign σ r }) rfl (assign_alone rfl)
      · refine Finishes.next (t := { s with
          db := releaseFor σ (s.db.fenceSession session.ownerSessionId) session
          dispatch := toAssign σ r }) ?_ (assign_alone rfl)
        simp only [step, dispatchStep, releaseFor, hengine]
        rfl

end Threads

end Zkbot.Pilot
