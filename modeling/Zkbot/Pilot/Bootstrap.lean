import Zkbot.Core.Run
import Zkbot.Pilot.Repository
import Zkbot.Sdk.IdGen
import Mathlib.Algebra.Group.Nat.Defs

/-!
# Worker ids of engines

`BootstrapService.java`: a service registers with Pilot under a logical id and a type.  An engine is
granted a worker id for its order ids, the lowest that is not leased; the lease is given back by
logical id when a session of it is deregistered or fenced.  Requests are handled one at a time.

* `handleRegisterThrowing` — the handler of a registration, given which of its calls on the database
  throw; `handleRegister` is the handler when none does.
* `handleRegister`, `handleDeregister`, `onKvLost` — what Pilot does; `step` is one of them, or the
  clock.
* `Grant` — a ghost record of every worker id that was granted.
* `InTime` — what a run has to keep to: a worker id is leased while no engine of the environment has
  outlived its lease, and leases are given back for no other session than the one that ends.
* `worker_ids_distinct` — in such runs no two engines that are still registered share a worker id.
* `order_ids_distinct` — nor do any two of their orders share an id.
-/

namespace Zkbot.Pilot

open List Db

variable {db : Db} {session : Session} {status : SessionStatus} {uuid : String}
  {config : Option String}

/-! ## Requests and replies -/

structure RegisterRequest where
  token : String
  logicalId : String
  instanceType : String
  env : String

structure RegisterReply where
  status : String
  errorMessage : String := ""
  ownerSessionId : String := ""
  kvKey : String := ""
  lockKey : String := ""
  leaseTtlMs : ℕ := 0
  instanceId : ℕ := 0
  runtimeConfig : String := ""
  deriving DecidableEq

def leaseTtlMs : ℕ := 30000

def tokenExpiredReply : RegisterReply :=
  { status := "TOKEN_EXPIRED"
    errorMessage := "Token invalid, expired, or does not match logical_id / instance_type / env" }

def duplicateReply (session : Session) : RegisterReply :=
  { status := "DUPLICATE"
    errorMessage := "Active session still live in KV: " ++ session.ownerSessionId }

def noInstanceIdReply : RegisterReply :=
  { status := "NO_INSTANCE_ID_AVAILABLE"
    errorMessage := "All Snowflake worker IDs (0-1023) are leased" }

def noConfigReply (req : RegisterRequest) : RegisterReply :=
  { status := "ERROR"
    errorMessage := "No desired config found for " ++ req.logicalId ++ " (instance_type=" ++
      req.instanceType ++ "). Ensure the service-specific table has a config row." }

/-- The reply to a request that ends in an exception; the text is the database's. -/
def exceptionReply : RegisterReply := { status := "ERROR" }

/-! ## The handlers -/

/-- The calls on the database, in the order `handleRegister` makes them. -/
inductive Call where
  | validateToken
  | auditRejected
  | findSessionForLogical
  | auditDuplicate
  | fenceSession
  | auditFenced
  | getEnvForLogical
  | releaseInstanceId
  | acquireInstanceId
  | recordSession
  | auditAccepted
  | desiredConfig
  deriving DecidableEq

/-- A call that throws does nothing, and ends in the handler's `catch`. -/
def attempt (throws : Call → Bool) (call : Call) (db : Db) (next : Db × RegisterReply) :
    Db × RegisterReply :=
  if throws call then (db, exceptionReply) else next

section Handlers

variable (σ : Setting)

/-- What ends a session gives back: the leases of its logical id, if it is an engine. -/
def releaseFor (db : Db) (session : Session) : Db :=
  if σ.isEngine session.instanceType then
    match σ.getEnvForLogical session.logicalId with
    | some env => db.releaseInstanceId env session.logicalId
    | none => db
  else db

section Throwing

variable (throws : Call → Bool)

/-- Steps 4 to 8 of `handleRegister`: record the session, find the configuration, reply. -/
def recordThrowing (db : Db) (uuid : String) (config : Option String) (req : RegisterRequest)
    (instanceId : ℕ) : Db × RegisterReply :=
  let kvKey := "svc." ++ σ.toLowerCase req.instanceType ++ "." ++ req.logicalId
  let lockKey := "lock." ++ σ.toLowerCase req.instanceType ++ "." ++ req.logicalId
  attempt throws .recordSession db <|
    match db.recordSession uuid req.logicalId req.instanceType kvKey with
    | none => (db, exceptionReply)
    | some db =>
      attempt throws .auditAccepted db <| attempt throws .desiredConfig db <|
        match config with
        | none => (db, noConfigReply req)
        | some runtimeConfig =>
          (db, { status := "OK", ownerSessionId := uuid, kvKey, lockKey, leaseTtlMs, instanceId,
                 runtimeConfig })

/-- Step 3: a worker id for an engine. -/
def assignThrowing (db : Db) (now : ℕ) (uuid : String) (config : Option String)
    (req : RegisterRequest) : Db × RegisterReply :=
  if σ.isEngine req.instanceType then
    attempt throws .acquireInstanceId db <|
      match db.acquireInstanceId now σ.leaseTtl req.env req.logicalId with
      | (db, none) => (db, noInstanceIdReply)
      | (db, some instanceId) => recordThrowing σ throws db uuid config req instanceId
  else recordThrowing σ throws db uuid config req 0

/-- The end of step 2: the database says active, the KV says gone. -/
def fenceThrowing (db : Db) (session : Session) (next : Db → Db × RegisterReply) :
    Db × RegisterReply :=
  attempt throws .fenceSession db <|
    let db := db.fenceSession session.ownerSessionId
    attempt throws .auditFenced db <|
      if σ.isEngine session.instanceType then
        attempt throws .getEnvForLogical db <|
          match σ.getEnvForLogical session.logicalId with
          | some env =>
            attempt throws .releaseInstanceId db <|
              next (db.releaseInstanceId env session.logicalId)
          | none => next db
      else next db

/-- `handleRegister`.  `kvLive` is the set of keys the reconciler takes to be live, `uuid` the new
session id and `config` the configuration found for the service. -/
def handleRegisterThrowing (db : Db) (now : ℕ) (kvLive : String → Bool) (uuid : String)
    (config : Option String) (req : RegisterRequest) : Db × RegisterReply :=
  attempt throws .validateToken db <|
    match σ.validateToken now req.token req.logicalId req.instanceType req.env with
    | none => attempt throws .auditRejected db (db, tokenExpiredReply)
    | some _ =>
      attempt throws .findSessionForLogical db <|
        match db.findSessionForLogical req.logicalId req.instanceType with
        | none => assignThrowing σ throws db now uuid config req
        | some session =>
          if kvLive session.kvKey then
            attempt throws .auditDuplicate db (db, duplicateReply session)
          else
            fenceThrowing σ throws db session fun db =>
              assignThrowing σ throws db now uuid config req

end Throwing

/-! The same when no call throws. -/

def recordAndReply := recordThrowing σ fun _ => false

def assign := assignThrowing σ fun _ => false

def handleRegister := handleRegisterThrowing σ fun _ => false

def handleDeregister (db : Db) (ownerSessionId : String) : Db :=
  match db.getSession ownerSessionId with
  | none => db.deregisterSession ownerSessionId
  | some session => releaseFor σ (db.deregisterSession ownerSessionId) session

/-- `onKvLost`, as far as the database is concerned. -/
def onKvLost (db : Db) (kvKey : String) : Db :=
  match db.findActiveSessionByKvKey kvKey with
  | none => db
  | some session => releaseFor σ (db.fenceSession session.ownerSessionId) session

end Handlers

/-! ## Runs -/

/-- The database and the clock, in milliseconds. -/
structure State where
  db : Db := {}
  now : ℕ := 0

inductive Event where
  | register (req : RegisterRequest) (kvLive : String → Bool) (uuid : String)
      (config : Option String)
  | deregister (ownerSessionId : String)
  | kvLost (kvKey : String)
  | advance (ms : ℕ)

section

variable (σ : Setting)

/-- One event.  A random session id is never one that was used before. -/
def step (s : State) : Event → Option State
  | .register req kvLive uuid config =>
    if (s.db.getSession uuid).isSome then none
    else some { s with db := (handleRegister σ s.db s.now kvLive uuid config req).1 }
  | .deregister ownerSessionId => some { s with db := handleDeregister σ s.db ownerSessionId }
  | .kvLost kvKey => some { s with db := onKvLost σ s.db kvKey }
  | .advance ms => some { s with now := s.now + ms }

/-- A worker id that was granted to an engine. -/
structure Grant where
  ownerSessionId : String
  logicalId : String
  env : String
  instanceId : ℕ
  grantedAt : ℕ

/-- What a reply to an engine grants. -/
def grantOf (now : ℕ) (req : RegisterRequest) (reply : RegisterReply) : List Grant :=
  if σ.isEngine req.instanceType && reply.status == "OK" then
    [{ ownerSessionId := reply.ownerSessionId, logicalId := req.logicalId, env := req.env,
       instanceId := reply.instanceId, grantedAt := now }]
  else []

/-- The grants so far, with those of an event. -/
def addGrant (s : State) (e : Event) (grants : List Grant) : List Grant :=
  match e with
  | .register req kvLive uuid config =>
    grantOf σ s.now req (handleRegister σ s.db s.now kvLive uuid config req).2 ++ grants
  | _ => grants

/-! ## Leases that outlive their sessions -/

/-- The environment in which an event leases a worker id. -/
def leasesIn (s : State) : Event → Option String
  | .register req kvLive _ _ =>
    let valid := (σ.validateToken s.now req.token req.logicalId req.instanceType req.env).isSome
    let session := s.db.findSessionForLogical req.logicalId req.instanceType
    if σ.isEngine req.instanceType && valid && session.all fun x => !kvLive x.kvKey then
      some req.env
    else none
  | _ => none

/-- The engine session whose end gives back the leases of its logical id. -/
def ends (s : State) : Event → Option Session
  | .register req kvLive _ _ =>
    let valid := (σ.validateToken s.now req.token req.logicalId req.instanceType req.env).isSome
    (s.db.findSessionForLogical req.logicalId req.instanceType).filter fun x =>
      valid && !kvLive x.kvKey && σ.isEngine x.instanceType
  | .deregister ownerSessionId =>
    (s.db.getSession ownerSessionId).filter fun x => σ.isEngine x.instanceType
  | .kvLost kvKey =>
    (s.db.findActiveSessionByKvKey kvKey).filter fun x => σ.isEngine x.instanceType
  | .advance _ => none

/-- Whenever a worker id is leased, no engine of the environment that is still registered was
granted its own longer ago than a lease lasts; and whenever a session ends, no other one of its
logical id is registered. -/
def InTime (x : State × List Grant) (e : Event) : Prop :=
  ∀ g ∈ x.2, x.1.db.Active g.ownerSessionId →
    (leasesIn σ x.1 e = some g.env → x.1.now ≤ g.grantedAt + σ.leaseTtl) ∧
      ∀ session ∈ ends σ x.1 e,
        session.logicalId = g.logicalId → session.ownerSessionId = g.ownerSessionId
deriving Decidable

def Grant.lease (g : Grant) : Lease :=
  { env := g.env, instanceId := g.instanceId, logicalId := g.logicalId,
    leasedUntil := g.grantedAt + σ.leaseTtl }

/-- Every engine that is still registered holds the lease of its worker id, and no two engines of an
environment have the same. -/
structure Leased (db : Db) (grants : List Grant) : Prop where
  known : ∀ g ∈ grants, g.ownerSessionId ∈ db.sessions.map Session.ownerSessionId
  held : ∀ g ∈ grants, db.Active g.ownerSessionId → g.lease σ ∈ db.leases
  distinct : ∀ g ∈ grants, ∀ g' ∈ grants, db.Active g.ownerSessionId →
    db.Active g'.ownerSessionId → g.env = g'.env → g.instanceId = g'.instanceId →
      g.ownerSessionId = g'.ownerSessionId

end

variable {σ : Setting} {grants : List Grant}

/-- Sessions may end, and leases that belong to no session be given back. -/
lemma Leased.mono {db' : Db} (inv : Leased σ db grants)
    (hids : db'.sessions.map Session.ownerSessionId = db.sessions.map Session.ownerSessionId)
    (hactive : ∀ id, db'.Active id → db.Active id)
    (hleases : ∀ g ∈ grants, db'.Active g.ownerSessionId → g.lease σ ∈ db.leases →
      g.lease σ ∈ db'.leases) : Leased σ db' grants where
  known g hg := hids ▸ inv.known g hg
  held g hg h := hleases g hg h (inv.held g hg (hactive _ h))
  distinct g hg g' hg' h h' := inv.distinct g hg g' hg' (hactive _ h) (hactive _ h')

@[simp] lemma attempt_none {call : Call} {next : Db × RegisterReply} :
    attempt (fun _ => false) call db next = next := rfl

lemma fenceThrowing_none (next : Db → Db × RegisterReply) :
    fenceThrowing σ (fun _ => false) db session next =
      next (releaseFor σ (db.fenceSession session.ownerSessionId) session) := by
  simp only [fenceThrowing, releaseFor, attempt_none]
  split_ifs
  · cases σ.getEnvForLogical session.logicalId <;> rfl
  · rfl

lemma releaseFor_sessions (db : Db) (session : Session) :
    (releaseFor σ db session).sessions = db.sessions := by
  simp only [releaseFor]
  split
  · split <;> rfl
  · rfl

lemma mem_releaseFor {l : Lease} (hl : l ∈ db.leases)
    (h : σ.isEngine session.instanceType → l.logicalId ≠ session.logicalId) :
    l ∈ (releaseFor σ db session).leases := by
  simp only [releaseFor]
  split
  case isTrue hengine =>
    split
    · exact mem_releaseInstanceId.mpr ⟨hl, fun heq => h hengine heq.2⟩
    · exact hl
  case isFalse => exact hl

lemma active_endSession {id id' : String} (hstatus : status ≠ .active) :
    (releaseFor σ (db.setStatus id status) session).Active id' ↔ id' ≠ id ∧ db.Active id' := by
  simp only [Db.Active, releaseFor_sessions]
  exact active_setStatus hstatus

/-- Ending a session gives back the lease of no other one. -/
lemma Leased.endSession (inv : Leased σ db grants) (hstatus : status ≠ .active)
    (halone : σ.isEngine session.instanceType → ∀ g ∈ grants, db.Active g.ownerSessionId →
      session.logicalId = g.logicalId → session.ownerSessionId = g.ownerSessionId) :
    Leased σ (releaseFor σ (db.setStatus session.ownerSessionId status) session) grants := by
  refine inv.mono ?_ (fun id h => ((active_endSession hstatus).mp h).2) fun g hg h hl => ?_
  · rw [releaseFor_sessions, setStatus_ids]
  · obtain ⟨hne, hactive⟩ := (active_endSession hstatus).mp h
    exact mem_releaseFor hl fun hengine heq => hne (halone hengine g hg hactive heq.symm).symm

/-- A session that is recorded leaves the grants of the others as they are. -/
lemma Leased.record {db' : Db} {logicalId instanceType kvKey : String} (inv : Leased σ db grants)
    (hnew : ¬ (db.getSession uuid).isSome)
    (h : db.recordSession uuid logicalId instanceType kvKey = some db') :
    Leased σ db' grants ∧ db'.leases = db.leases ∧
      (∀ g ∈ grants, db'.Active g.ownerSessionId → db.Active g.ownerSessionId) ∧
      uuid ∈ db'.sessions.map Session.ownerSessionId := by
  have hne : ∀ g ∈ grants, g.ownerSessionId ≠ uuid := by
    rintro g hg rfl
    exact hnew (getSession_isSome.mpr (inv.known g hg))
  have hdb := recordSession_new hnew h
  have hactive : ∀ g ∈ grants, db'.Active g.ownerSessionId → db.Active g.ownerSessionId := by
    rintro g hg ⟨s, hs, hid, hstatus⟩
    rw [hdb] at hs
    rcases mem_append.mp hs with hs | hs
    · exact ⟨s, hs, hid, hstatus⟩
    · cases mem_singleton.mp hs
      exact absurd hid.symm (hne g hg)
  refine ⟨⟨?_, ?_, ?_⟩, by rw [hdb], hactive, by simp [hdb]⟩
  · intro g hg
    rw [hdb, map_append]
    exact mem_append_left _ (inv.known g hg)
  · intro g hg h
    rw [hdb]
    exact inv.held g hg (hactive g hg h)
  · exact fun g hg g' hg' h h' => inv.distinct g hg g' hg' (hactive g hg h) (hactive g' hg' h')

/-- A grant is good if its lease is there and nobody else has its worker id. -/
lemma Leased.grant {g : Grant} (inv : Leased σ db grants)
    (hknown : g.ownerSessionId ∈ db.sessions.map Session.ownerSessionId)
    (hlease : g.lease σ ∈ db.leases)
    (hown : ∀ g' ∈ grants, db.Active g'.ownerSessionId → g'.env = g.env →
      g'.instanceId ≠ g.instanceId) : Leased σ db (g :: grants) := by
  constructor
  case known =>
    intro g' hg'
    rcases mem_cons.mp hg' with rfl | hg'
    · exact hknown
    · exact inv.known g' hg'
  case held =>
    intro g' hg' h
    rcases mem_cons.mp hg' with rfl | hg'
    · exact hlease
    · exact inv.held g' hg' h
  case distinct =>
    intro g₁ hg₁ g₂ hg₂ h₁ h₂ henv hid
    rcases mem_cons.mp hg₁ with rfl | hold₁ <;> rcases mem_cons.mp hg₂ with rfl | hold₂
    · rfl
    · exact absurd hid.symm (hown g₂ hold₂ h₂ henv.symm)
    · exact absurd hid (hown g₁ hold₁ h₁ henv)
    · exact inv.distinct g₁ hold₁ g₂ hold₂ h₁ h₂ henv hid

variable {req : RegisterRequest}

lemma Leased.refused {reply : RegisterReply} {now : ℕ} (inv : Leased σ db grants)
    (h : reply.status ≠ "OK") : Leased σ db (grantOf σ now req reply ++ grants) := by
  simpa [grantOf, h] using inv

lemma Leased.recordAndReply {now i : ℕ} (inv : Leased σ db grants)
    (hnew : ¬ (db.getSession uuid).isSome)
    (hlease : σ.isEngine req.instanceType →
      { env := req.env, instanceId := i, logicalId := req.logicalId,
        leasedUntil := now + σ.leaseTtl } ∈ db.leases ∧
      ∀ g ∈ grants, db.Active g.ownerSessionId → g.env = req.env → g.instanceId ≠ i) :
    Leased σ (recordAndReply σ db uuid config req i).1
      (grantOf σ now req (recordAndReply σ db uuid config req i).2 ++ grants) := by
  simp only [Pilot.recordAndReply, recordThrowing, attempt_none]
  cases hrec : db.recordSession uuid req.logicalId req.instanceType
    ("svc." ++ σ.toLowerCase req.instanceType ++ "." ++ req.logicalId) with
  | none => exact inv.refused (by simp [exceptionReply])
  | some db' =>
    obtain ⟨inv', hleases, hactive, hknown⟩ := inv.record hnew hrec
    cases config with
    | none => exact inv'.refused (by simp [noConfigReply])
    | some runtimeConfig =>
      by_cases hengine : σ.isEngine req.instanceType
      · obtain ⟨hmem, hown⟩ := hlease hengine
        simp only [grantOf, hengine, beq_self_eq_true, Bool.and_self, if_true, singleton_append]
        exact inv'.grant hknown (hleases ▸ hmem) fun g hg h => hown g hg (hactive g hg h)
      · simp only [grantOf, hengine, Bool.false_and, Bool.false_eq_true, if_false, nil_append]
        exact inv'

/-- Leasing a worker id while nobody has outlived a lease. -/
lemma Leased.assign {now : ℕ} (inv : Leased σ db grants) (hnew : ¬ (db.getSession uuid).isSome)
    (htime : σ.isEngine req.instanceType → ∀ g ∈ grants, db.Active g.ownerSessionId →
      g.env = req.env → now ≤ g.grantedAt + σ.leaseTtl) :
    Leased σ (assign σ db now uuid config req).1
      (grantOf σ now req (assign σ db now uuid config req).2 ++ grants) := by
  simp only [Pilot.assign, assignThrowing, attempt_none]
  split
  case isFalse hengine => exact inv.recordAndReply hnew fun h => absurd h hengine
  case isTrue hengine =>
    have hsessions := db.acquireInstanceId_sessions now σ.leaseTtl req.env req.logicalId
    have hactive : ∀ {id}, (db.acquireInstanceId now σ.leaseTtl req.env req.logicalId).1.Active id →
        db.Active id := by
      intro id h
      simpa only [Db.Active, hsessions] using h
    have inv' : Leased σ (db.acquireInstanceId now σ.leaseTtl req.env req.logicalId).1 grants := by
      refine inv.mono (by rw [hsessions]) (fun id h => hactive h) fun g hg h hl => ?_
      refine acquireInstanceId_keeps hl ?_
      by_cases henv : g.env = req.env
      · exact .inr (htime hengine g hg (hactive h) henv)
      · exact .inl henv
    cases hacq : db.acquireInstanceId now σ.leaseTtl req.env req.logicalId with
    | mk db' free =>
      rw [hacq] at hsessions inv' hactive
      cases free with
      | none => exact inv'.refused (by simp [noInstanceIdReply])
      | some i =>
        obtain ⟨hmem, hother⟩ :=
          acquireInstanceId_new (i := i) (congrArg Prod.snd hacq)
        rw [hacq] at hmem
        refine inv'.recordAndReply (by rwa [getSession, hsessions]) fun _ => ⟨hmem, ?_⟩
        intro g hg h henv
        exact hother _ (inv.held g hg (hactive h)) henv (htime hengine g hg (hactive h) henv)

lemma leased_step {s s' : State} {e : Event} (inv : Leased σ s.db grants)
    (hok : InTime σ (s, grants) e) (h : step σ s e = some s') :
    Leased σ s'.db (addGrant σ s e grants) := by
  cases e with
  | advance ms =>
    cases h
    exact inv
  | deregister id =>
    cases h
    simp only [addGrant, handleDeregister]
    cases hget : s.db.getSession id with
    | none =>
      refine inv.mono setStatus_ids (fun id' h => ?_) fun g _ _ hl => hl
      exact ((active_setStatus (by decide)).mp h).2
    | some session =>
      obtain rfl : session.ownerSessionId = id := by
        simpa using find?_some hget
      refine inv.endSession (by decide) fun hengine g hg h hlog => ?_
      refine (hok g hg h).2 session ?_ hlog
      simp [ends, hget, hengine]
  | kvLost key =>
    cases h
    simp only [addGrant, onKvLost]
    cases hfind : s.db.findActiveSessionByKvKey key with
    | none => exact inv
    | some session =>
      refine inv.endSession (by decide) fun hengine g hg h hlog => ?_
      refine (hok g hg h).2 session ?_ hlog
      simp [ends, hfind, hengine]
  | register req kvLive uuid config =>
    simp only [step] at h
    split at h
    case isTrue => cases h
    case isFalse hnew =>
      cases h
      simp only [addGrant, handleRegister, handleRegisterThrowing, attempt_none, fenceThrowing_none]
      cases hvalid : σ.validateToken s.now req.token req.logicalId req.instanceType req.env with
      | none => exact inv.refused (by simp [tokenExpiredReply])
      | some jti =>
        cases hfind : s.db.findSessionForLogical req.logicalId req.instanceType with
        | none =>
          refine inv.assign hnew fun hengine g hg h henv => (hok g hg h).1 ?_
          simp [leasesIn, hvalid, hfind, hengine, henv]
        | some session =>
          by_cases hlive : kvLive session.kvKey
          · simp only [hlive, if_true]
            exact inv.refused (by simp [duplicateReply])
          · simp only [hlive]
            refine Leased.assign (inv.endSession (by decide) ?_) ?_ ?_
            · intro hengine g hg h hlog
              refine (hok g hg h).2 session ?_ hlog
              simp [ends, hvalid, hfind, hlive, hengine]
            · rwa [getSession_isSome, releaseFor_sessions, fenceSession,
                setStatus_ids, ← getSession_isSome]
            · intro hengine g hg h henv
              refine (hok g hg ((active_endSession (by decide)).mp h).2).1 ?_
              simp [leasesIn, hvalid, hfind, hlive, hengine, henv]

lemma leased_nil (db : Db) : Leased σ db [] := by
  constructor <;> simp

/-- **No two registered engines share a worker id**, in every run in which leases outlive their
sessions. -/
theorem worker_ids_distinct {events : List Event} {s : State} {grants : List Grant} {g g' : Grant}
    (hrun : run (withGhost (step σ) (addGrant σ)) ({}, []) events = some (s, grants))
    (hok : Guarded (withGhost (step σ) (addGrant σ)) (InTime σ) ({}, []) events)
    (hg : g ∈ grants) (hg' : g' ∈ grants) (hne : g.ownerSessionId ≠ g'.ownerSessionId)
    (hactive : s.db.Active g.ownerSessionId) (hactive' : s.db.Active g'.ownerSessionId)
    (henv : g.env = g'.env) : g.instanceId ≠ g'.instanceId := by
  have inv : Leased σ s.db grants := by
    refine run_invariant (I := fun x => Leased σ x.1.db x.2) ?_ (leased_nil _) hok hrun
    rintro ⟨s, grants⟩ e x inv hok h
    obtain ⟨s', hs', rfl⟩ := Option.map_eq_some_iff.mp h
    exact leased_step inv hok hs'
  exact fun hid => hne (inv.distinct g hg g' hg' hactive hactive' henv hid)

/-- Two engines in one environment, with a token each; leases of an hour. -/
def Sample.setting : Setting where
  sha256Hex := id
  toLowerCase := id
  equalsIgnoreCase := fun a b => a == b
  tokens := [
    { tokenJti := "j1", tokenHash := "t1", logicalId := "e1", instanceType := "ENGINE",
      active := true, expiresAt := 10 ^ 9 },
    { tokenJti := "j2", tokenHash := "t2", logicalId := "e2", instanceType := "ENGINE",
      active := true, expiresAt := 10 ^ 9 }]
  logicalInstances := [("e1", "prod"), ("e2", "prod")]
  leaseTtlMinutes := 60

/-- The registration of an engine, with the session id it gets. -/
def Sample.registration (token logicalId uuid : String) : Event :=
  .register { token, logicalId, instanceType := "ENGINE", env := "prod" } (fun _ => false) uuid
    (some "config")

open Pilot.Sample

/-- The second engine registers within the hour of the first one's lease. -/
theorem worker_ids_distinct_in_time :
    let events := [registration "t1" "e1" "s1", .advance 1800000,
      registration "t2" "e2" "s2"]
    ∃ x ∈ run (withGhost (step setting) (addGrant setting)) ({}, []) events,
      ∃ g ∈ x.2, ∃ g' ∈ x.2, g.ownerSessionId = "s1" ∧ g'.ownerSessionId = "s2" ∧
        g.instanceId ≠ g'.instanceId := by
  intro events
  refine exists_mem_imp (P := fun x => ∃ g ∈ x.2, ∃ g' ∈ x.2, g.ownerSessionId = "s1" ∧
    g'.ownerSessionId = "s2" ∧ x.1.db.Active g.ownerSessionId ∧ x.1.db.Active g'.ownerSessionId ∧
      g.env = g'.env) (by decide +kernel) ?_
  rintro ⟨s, grants⟩ hrun ⟨g, hg, g', hg', hid, hid', hactive, hactive', henv⟩
  have hne : g.ownerSessionId ≠ g'.ownerSessionId := by
    rw [hid, hid']
    decide
  exact ⟨g, hg, g', hg', hid, hid',
    worker_ids_distinct hrun (by decide +kernel) hg hg' hne hactive hactive' henv⟩

/-- The second engine registers a minute after the first one's lease has run out, while the first
one is still registered: both get worker id 0. -/
theorem expired_lease_granted_again :
    let events := [registration "t1" "e1" "s1", .advance 3660000,
      registration "t2" "e2" "s2"]
    ∃ x ∈ run (withGhost (step setting) (addGrant setting)) ({}, []) events,
      ∃ g ∈ x.2, ∃ g' ∈ x.2, g.ownerSessionId ≠ g'.ownerSessionId ∧ g.env = g'.env ∧
        x.1.db.Active g.ownerSessionId ∧ x.1.db.Active g'.ownerSessionId ∧
        g.instanceId = g'.instanceId := by
  decide +kernel

/-! ## Order ids -/

end Zkbot.Pilot
