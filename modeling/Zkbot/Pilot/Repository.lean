import Mathlib.Data.List.Basic

/-!
# Pilot's tables

`BootstrapRepository.java`: the statements Pilot's bootstrap runs on its database.  A statement, and
the transaction that leases a worker id, is one function on the tables.

* `mon.active_session` — who is registered.  A row is never deleted; its `status` says whether the
  session is still there.
* `cfg.instance_id_lease` — worker ids of engines, leased for a time.  A lease belongs to a logical
  id, not to a session.
-/

namespace Zkbot.Pilot

open List

/-! ## The tables -/

/-- A row of `cfg.instance_token`. -/
structure InstanceToken where
  tokenJti : String
  tokenHash : String
  logicalId : String
  instanceType : String
  /-- `status = 'active'` -/
  active : Bool
  expiresAt : ℕ

/-- What bootstrap reads and never writes, and the library functions it calls. -/
structure Setting where
  sha256Hex : String → String
  toLowerCase : String → String
  equalsIgnoreCase : String → String → Bool
  tokens : List InstanceToken
  /-- `cfg.logical_instance`: the environment of a logical id -/
  logicalInstances : List (String × String)
  /-- `PilotProperties.leaseTtlMinutes` -/
  leaseTtlMinutes : ℕ

inductive SessionStatus where
  | active
  | deregistered
  | fenced
  deriving DecidableEq

/-- A row of `mon.active_session`. -/
structure Session where
  ownerSessionId : String
  logicalId : String
  instanceType : String
  kvKey : String
  status : SessionStatus
  deriving DecidableEq

/-- A row of `cfg.instance_id_lease`. -/
structure Lease where
  env : String
  instanceId : ℕ
  logicalId : String
  leasedUntil : ℕ
  deriving DecidableEq

structure Db where
  sessions : List Session := []
  leases : List Lease := []
  deriving DecidableEq

/-! ## Tokens and environments -/

namespace Setting

variable (σ : Setting)

/-- `"ENGINE".equalsIgnoreCase(instanceType)` -/
def isEngine (instanceType : String) : Bool :=
  σ.equalsIgnoreCase "ENGINE" instanceType

def getEnvForLogical (logicalId : String) : Option String :=
  σ.logicalInstances.lookup logicalId

/-- The token has to be for the logical id and the type, and the logical id in the environment. -/
def validateToken (now : ℕ) (token logicalId instanceType env : String) : Option String :=
  (σ.tokens.find? fun t =>
    t.tokenHash == σ.sha256Hex token && t.active && t.expiresAt > now && t.logicalId == logicalId &&
      t.instanceType == instanceType && σ.getEnvForLogical t.logicalId == some env).map
    InstanceToken.tokenJti

/-- The length of a lease, in milliseconds. -/
def leaseTtl : ℕ := σ.leaseTtlMinutes * 60000

end Setting

namespace Db

variable {db : Db} {id logicalId env : String} {status : SessionStatus} {l : Lease} {now : ℕ}

/-! ## Sessions -/

section

variable (db : Db)

def findSessionForLogical (logicalId instanceType : String) : Option Session :=
  db.sessions.find? fun s =>
    s.logicalId == logicalId && s.instanceType == instanceType && s.status == .active

def getSession (ownerSessionId : String) : Option Session :=
  db.sessions.find? fun s => s.ownerSessionId == ownerSessionId

def findActiveSessionByKvKey (kvKey : String) : Option Session :=
  db.sessions.find? fun s => s.kvKey == kvKey && s.status == .active

/-- `recordSession`; `none` is the exception that a second active session for the logical id and the
type raises. -/
def recordSession (sessionId logicalId instanceType kvKey : String) : Option Db :=
  if (db.getSession sessionId).isSome then some db
  else if (db.findSessionForLogical logicalId instanceType).isSome then none
  else some { db with
    sessions := db.sessions ++
      [{ ownerSessionId := sessionId, logicalId, instanceType, kvKey, status := .active }] }

def setStatus (ownerSessionId : String) (status : SessionStatus) : Db :=
  { db with
    sessions := db.sessions.map fun s =>
      if s.ownerSessionId == ownerSessionId then { s with status } else s }

def deregisterSession (ownerSessionId : String) : Db :=
  db.setStatus ownerSessionId .deregistered

def fenceSession (ownerSessionId : String) : Db :=
  db.setStatus ownerSessionId .fenced

/-! ## Leases -/

def leased (now : ℕ) (env : String) (instanceId : ℕ) : Bool :=
  db.leases.any fun l => l.env == env && l.instanceId == instanceId && l.leasedUntil ≥ now

/-- `DELETE … WHERE env = ? AND logical_id = ? AND leased_until < now()` -/
def deleteExpired (now : ℕ) (env logicalId : String) : Db :=
  { db with
    leases := db.leases.filter fun l =>
      !(l.env == env && l.logicalId == logicalId && l.leasedUntil < now) }

/-- `INSERT … ON CONFLICT (env, instance_id) DO UPDATE` -/
def upsertLease (lease : Lease) : Db :=
  let others := db.leases.filter fun l =>
    !(l.env == lease.env && l.instanceId == lease.instanceId)
  { db with leases := others ++ [lease] }

/-- `generate_series(0, 1023)` -/
@[irreducible] def workerIds : List ℕ := range 1024

def lowestFree (now : ℕ) (env : String) : Option ℕ :=
  workerIds.find? fun i => !db.leased now env i

/-- `acquireInstanceId`: the transaction.  No id is available when all 1024 are leased. -/
def acquireInstanceId (now ttl : ℕ) (env logicalId : String) : Db × Option ℕ :=
  let db := db.deleteExpired now env logicalId
  match db.lowestFree now env with
  | none => (db, none)
  | some instanceId =>
    (db.upsertLease { env, instanceId, logicalId, leasedUntil := now + ttl }, some instanceId)

def releaseInstanceId (env logicalId : String) : Db :=
  { db with leases := db.leases.filter fun l => !(l.env == env && l.logicalId == logicalId) }

/-! ## What the statements do -/

def Active (ownerSessionId : String) : Prop :=
  ∃ s ∈ db.sessions, s.ownerSessionId = ownerSessionId ∧ s.status = .active
deriving Decidable

end

/-- Ending one session leaves the others as they are. -/
lemma active_setStatus {id' : String} (hstatus : status ≠ .active) :
    (db.setStatus id status).Active id' ↔ id' ≠ id ∧ db.Active id' := by
  simp only [Active, setStatus, mem_map]
  constructor
  · rintro ⟨_, ⟨s, hs, rfl⟩, hid, hactive⟩
    by_cases h : s.ownerSessionId = id
    · simp [h] at hactive
      exact absurd hactive hstatus
    · simp only [beq_iff_eq, h, if_false] at hid hactive
      exact ⟨hid ▸ h, s, hs, hid, hactive⟩
  · rintro ⟨hne, s, hs, rfl, hactive⟩
    exact ⟨_, ⟨s, hs, rfl⟩, by simp [hne], by simp [hne, hactive]⟩

lemma setStatus_ids :
    (db.setStatus id status).sessions.map Session.ownerSessionId =
      db.sessions.map Session.ownerSessionId := by
  simp only [setStatus, map_map]
  refine map_congr_left fun s _ => ?_
  by_cases h : s.ownerSessionId = id <;> simp [h]

lemma getSession_isSome :
    (db.getSession id).isSome ↔ id ∈ db.sessions.map Session.ownerSessionId := by
  simp [getSession, find?_isSome]

lemma recordSession_new {db' : Db} {instanceType kvKey : String}
    (hnew : ¬ (db.getSession id).isSome)
    (h : db.recordSession id logicalId instanceType kvKey = some db') :
    db' = { db with
      sessions := db.sessions ++
        [{ ownerSessionId := id, logicalId, instanceType, kvKey, status := .active }] } := by
  rw [recordSession, if_neg hnew] at h
  split at h
  · cases h
  · exact (Option.some.inj h).symm

lemma mem_releaseInstanceId :
    l ∈ (db.releaseInstanceId env logicalId).leases ↔
      l ∈ db.leases ∧ ¬ (l.env = env ∧ l.logicalId = logicalId) := by
  simp only [releaseInstanceId, mem_filter, Bool.not_eq_true', Bool.and_eq_false_iff,
    beq_eq_false_iff_ne, not_and_or, ne_eq]

lemma acquireInstanceId_sessions (db : Db) (now ttl : ℕ) (env logicalId : String) :
    (db.acquireInstanceId now ttl env logicalId).1.sessions = db.sessions := by
  rw [acquireInstanceId]
  cases (db.deleteExpired now env logicalId).lowestFree now env <;> rfl

/-- A lease of another environment, or one that has not expired, is not deleted. -/
lemma mem_deleteExpired (hl : l ∈ db.leases) (hkeep : l.env ≠ env ∨ now ≤ l.leasedUntil) :
    l ∈ (db.deleteExpired now env logicalId).leases := by
  simp only [deleteExpired, mem_filter, Bool.not_eq_true', Bool.and_eq_false_iff,
    beq_eq_false_iff_ne, decide_eq_false_iff_not]
  refine ⟨hl, ?_⟩
  rcases hkeep with henv | huntil
  · exact .inl (.inl henv)
  · exact .inr (by omega)

/-- The id that is taken is not leased in the environment. -/
lemma ne_lowestFree {i : ℕ} (h : db.lowestFree now env = some i) (hl : l ∈ db.leases)
    (henv : l.env = env) (huntil : now ≤ l.leasedUntil) : l.instanceId ≠ i := by
  have hfree := find?_some h
  simp only [leased, Bool.not_eq_true', any_eq_false, Bool.and_eq_true, beq_iff_eq,
    decide_eq_true_eq, not_and] at hfree
  exact fun heq => hfree l hl ⟨henv, heq⟩ huntil

/-- Nor is such a lease overwritten. -/
lemma acquireInstanceId_keeps {ttl : ℕ} (hl : l ∈ db.leases)
    (hkeep : l.env ≠ env ∨ now ≤ l.leasedUntil) :
    l ∈ (db.acquireInstanceId now ttl env logicalId).1.leases := by
  have hmem : l ∈ (db.deleteExpired now env logicalId).leases := mem_deleteExpired hl hkeep
  rw [acquireInstanceId]
  cases hfree : (db.deleteExpired now env logicalId).lowestFree now env with
  | none => exact hmem
  | some i =>
    simp only [upsertLease, mem_append, mem_filter, Bool.not_eq_true',
      Bool.and_eq_false_iff, beq_eq_false_iff_ne]
    refine .inl ⟨hmem, ?_⟩
    by_cases henv : l.env = env
    · exact .inr (ne_lowestFree hfree hmem henv (hkeep.resolve_left (· henv)))
    · exact .inl henv

/-- A worker id that is handed out is leased from now on, and nobody else's in the environment. -/
lemma acquireInstanceId_new {ttl i : ℕ}
    (h : (db.acquireInstanceId now ttl env logicalId).2 = some i) :
    { env, instanceId := i, logicalId, leasedUntil := now + ttl } ∈
        (db.acquireInstanceId now ttl env logicalId).1.leases ∧
      ∀ l ∈ db.leases, l.env = env → now ≤ l.leasedUntil → l.instanceId ≠ i := by
  rw [acquireInstanceId] at h ⊢
  cases hfree : (db.deleteExpired now env logicalId).lowestFree now env with
  | none =>
    rw [hfree] at h
    cases h
  | some i' =>
    rw [hfree] at h
    obtain rfl : i' = i := Option.some.inj h
    refine ⟨mem_append_right _ mem_cons_self, fun l hl henv huntil => ?_⟩
    exact ne_lowestFree hfree (mem_deleteExpired hl (.inr huntil)) henv huntil

end Db

end Zkbot.Pilot
