import Mathlib.Data.List.Nodup
import Mathlib.Data.Set.Insert
import Zkbot.Pilot.Bootstrap

/-!
# What a refused registration leaves behind

`handleRegister` answers a request that ends in an exception like any other refusal, and every call
on the database can raise one.  Nothing is rolled back: each statement is a transaction of its own.

* `LeavesNothing` — what a refusal may leave: the tables as they were, or with one stale session
  fenced and its leases given back.
* `refused_leaves_nothing_iff` — a refusal is clean unless it comes after a worker id was leased or
  the session was recorded.
-/

namespace Zkbot.Pilot

variable {next : Db × RegisterReply}

open Db List

variable {σ : Setting} {throws : Call → Bool}

lemma attempt_of_throws {call : Call} {db : Db} (h : throws call) :
    attempt throws call db next = (db, exceptionReply) := if_pos h

lemma attempt_of_not {call : Call} {db : Db} (h : ¬ throws call) :
    attempt throws call db next = next := if_neg h

/-! ## What may be left behind -/

def Db.activeSessions (db : Db) : Set Session := {s | s ∈ db.sessions ∧ s.status = .active}

/-- The leases that have not run out. -/
def Db.unexpired (db : Db) (now : ℕ) : Set Lease := {l | l ∈ db.leases ∧ now ≤ l.leasedUntil}

/-- The keys of `mon.active_session`: its primary key, and the index on active sessions. -/
structure Db.Keyed (db : Db) : Prop where
  ids : (db.sessions.map Session.ownerSessionId).Nodup
  active : ∀ s ∈ db.activeSessions, ∀ s' ∈ db.activeSessions, s.logicalId = s'.logicalId →
    s.instanceType = s'.instanceType → s = s'

def leasesOf (σ : Setting) (logicalId : String) : Set Lease :=
  {l | σ.getEnvForLogical logicalId = some l.env ∧ l.logicalId = logicalId}

/-- The active sessions and the leases that have not run out are those of before; or one session of
the logical id, active and not live in the KV, was fenced, and its leases may be gone. -/
def LeavesNothing (σ : Setting) (before after : Db) (now : ℕ) (kvLive : String → Bool)
    (req : RegisterRequest) : Prop :=
  (after.activeSessions = before.activeSessions ∧ after.unexpired now = before.unexpired now) ∨
    ∃ stale ∈ before.activeSessions, stale.logicalId = req.logicalId ∧
      kvLive stale.kvKey = false ∧ { stale with status := .fenced } ∈ after.sessions ∧
      after.activeSessions = before.activeSessions \ {stale} ∧
      (after.unexpired now = before.unexpired now ∨
        after.unexpired now = before.unexpired now \ leasesOf σ stale.logicalId)

/-! ### Statements, on these sets -/

namespace Db

variable {db : Db} {logicalId instanceType : String} {s : Session}

lemma mem_activeSessions_of_find (h : db.findSessionForLogical logicalId instanceType = some s) :
    s ∈ db.activeSessions ∧ s.logicalId = logicalId ∧ s.instanceType = instanceType := by
  have hkeys := find?_some h
  simp only [Bool.and_eq_true, beq_iff_eq] at hkeys
  exact ⟨⟨mem_of_find?_eq_some h, hkeys.2⟩, hkeys.1⟩

lemma find_eq_none :
    db.findSessionForLogical logicalId instanceType = none ↔
      ∀ s ∈ db.activeSessions, s.logicalId = logicalId → s.instanceType ≠ instanceType := by
  simp only [findSessionForLogical, find?_eq_none, Bool.and_eq_true, beq_iff_eq, not_and,
    activeSessions, Set.mem_ofPred_eq, and_imp]
  exact ⟨fun h s hs hactive hlog htype => h s hs hlog htype hactive,
    fun h s hs hlog htype hactive => h s hs hactive hlog htype⟩

lemma activeSessions_fenceSession (hkeyed : db.Keyed) (hs : s ∈ db.activeSessions) :
    (db.fenceSession s.ownerSessionId).activeSessions = db.activeSessions \ {s} := by
  have hsame : ∀ x ∈ db.sessions, x.ownerSessionId = s.ownerSessionId → x = s :=
    fun x hx => inj_on_of_nodup_map hkeyed.ids hx hs.1
  ext x
  simp only [activeSessions, fenceSession, setStatus, mem_map, Set.mem_ofPred_eq,
    Set.mem_sdiff, Set.mem_singleton_iff]
  constructor
  · rintro ⟨⟨y, hy, rfl⟩, hactive⟩
    by_cases hid : y.ownerSessionId = s.ownerSessionId
    · simp [hid] at hactive
    · simp only [beq_iff_eq, hid, if_false] at hactive ⊢
      exact ⟨⟨hy, hactive⟩, fun heq => hid (heq ▸ rfl)⟩
  · rintro ⟨⟨hx, hactive⟩, hne⟩
    have hid : x.ownerSessionId ≠ s.ownerSessionId := fun h => hne (hsame x hx h)
    exact ⟨⟨x, hx, by simp [hid]⟩, hactive⟩

lemma mem_fenceSession (hs : s ∈ db.sessions) :
    { s with status := .fenced } ∈ (db.fenceSession s.ownerSessionId).sessions :=
  mem_map.mpr ⟨s, hs, by simp⟩

/-- Leases that have run out do not stand in the way of an id. -/
lemma lowestFree_deleteExpired (db : Db) (now : ℕ) (env env' logicalId : String) :
    (db.deleteExpired now env' logicalId).lowestFree now env = db.lowestFree now env := by
  have hleased : ∀ i, (db.deleteExpired now env' logicalId).leased now env i =
      db.leased now env i := by
    intro i
    rw [Bool.eq_iff_iff]
    simp only [leased, any_eq_true, Bool.and_eq_true, beq_iff_eq, decide_eq_true_eq]
    constructor
    · rintro ⟨l, hl, h⟩
      exact ⟨l, (mem_filter.mp hl).1, h⟩
    · rintro ⟨l, hl, h⟩
      exact ⟨l, mem_deleteExpired hl (.inr h.2), h⟩
  simp [lowestFree, hleased]

lemma unexpired_deleteExpired (db : Db) (now : ℕ) (env logicalId : String) :
    (db.deleteExpired now env logicalId).unexpired now = db.unexpired now := by
  ext l
  constructor
  · rintro ⟨hl, h⟩
    exact ⟨(mem_filter.mp hl).1, h⟩
  · rintro ⟨hl, h⟩
    exact ⟨mem_deleteExpired hl (.inr h), h⟩

lemma acquireInstanceId_of_none {now ttl : ℕ} {env : String} (h : db.lowestFree now env = none) :
    db.acquireInstanceId now ttl env logicalId = (db.deleteExpired now env logicalId, none) := by
  simp [acquireInstanceId, lowestFree_deleteExpired, h]

lemma acquireInstanceId_of_some {now i : ℕ} {env : String} (ttl : ℕ) (logicalId : String)
    (h : db.lowestFree now env = some i) :
    (db.acquireInstanceId now ttl env logicalId).2 = some i ∧
      (db.acquireInstanceId now ttl env logicalId).1.unexpired now =
        insert { env, instanceId := i, logicalId, leasedUntil := now + ttl }
          (db.unexpired now) := by
  have hacq : db.acquireInstanceId now ttl env logicalId =
      ((db.deleteExpired now env logicalId).upsertLease
        { env, instanceId := i, logicalId, leasedUntil := now + ttl }, some i) := by
    simp [acquireInstanceId, lowestFree_deleteExpired, h]
  refine ⟨by rw [hacq], ?_⟩
  ext l
  constructor
  · rw [hacq]
    rintro ⟨hl, huntil⟩
    rcases mem_append.mp hl with hl | hl
    · have hold := (mem_filter.mp (mem_filter.mp hl).1).1
      exact .inr ⟨hold, huntil⟩
    · exact .inl (mem_singleton.mp hl)
  · rintro (rfl | ⟨hl, huntil⟩)
    · exact ⟨(acquireInstanceId_new (by rw [hacq])).1, Nat.le_add_right _ _⟩
    · exact ⟨acquireInstanceId_keeps hl (.inr huntil), huntil⟩

end Db

/-! ## Once the stale session is gone -/

/-- A valid token is for a logical id of the environment. -/
lemma Setting.env_of_validateToken {now : ℕ} {token logicalId instanceType env jti : String}
    (h : σ.validateToken now token logicalId instanceType env = some jti) :
    σ.getEnvForLogical logicalId = some env := by
  obtain ⟨t, ht, -⟩ := Option.map_eq_some_iff.mp h
  have hkeys := find?_some ht
  simp only [Bool.and_eq_true, beq_iff_eq, decide_eq_true_eq] at hkeys
  rw [← hkeys.1.1.2]
  exact hkeys.2

/-- The tables when step 3 begins: a session of the logical id is fenced, and its leases
released. -/
def prepared (σ : Setting) (db : Db) (req : RegisterRequest) : Db :=
  match db.findSessionForLogical req.logicalId req.instanceType with
  | none => db
  | some session => releaseFor σ (db.fenceSession session.ownerSessionId) session

section Prepared

variable {db : Db} {now : ℕ} {req : RegisterRequest} {kvLive : String → Bool}

lemma activeSessions_prepared (hkeyed : db.Keyed) :
    (prepared σ db req).activeSessions =
      db.activeSessions \
        {s | db.findSessionForLogical req.logicalId req.instanceType = some s} := by
  simp only [prepared]
  cases hfind : db.findSessionForLogical req.logicalId req.instanceType with
  | none =>
    ext x
    simp
  | some s =>
    have hs := mem_activeSessions_of_find hfind
    simp only [Option.some.injEq, Set.ofPred_eq_eq_singleton']
    rw [← activeSessions_fenceSession hkeyed hs.1]
    simp [activeSessions, releaseFor_sessions]

lemma find_prepared (hkeyed : db.Keyed) :
    (prepared σ db req).findSessionForLogical req.logicalId req.instanceType = none := by
  rw [find_eq_none, activeSessions_prepared hkeyed]
  rintro s ⟨hs, hne⟩ hlog htype
  cases hfind : db.findSessionForLogical req.logicalId req.instanceType with
  | none => exact find_eq_none.mp hfind s hs hlog htype
  | some s' =>
    obtain ⟨hs', hlog', htype'⟩ := mem_activeSessions_of_find hfind
    obtain rfl : s' = s := hkeyed.active s' hs' s hs (hlog' ▸ hlog.symm) (htype' ▸ htype.symm)
    exact hne hfind

lemma getSession_prepared {uuid : String} :
    ((prepared σ db req).getSession uuid).isSome = (db.getSession uuid).isSome := by
  rw [Bool.eq_iff_iff, getSession_isSome, getSession_isSome]
  simp only [prepared]
  cases db.findSessionForLogical req.logicalId req.instanceType with
  | none => rfl
  | some s => rw [releaseFor_sessions, fenceSession, setStatus_ids]

/-- An engine's leases are given back. -/
lemma unexpired_prepared (henv : σ.getEnvForLogical req.logicalId = some req.env)
    (hengine : σ.isEngine req.instanceType) :
    (prepared σ db req).unexpired now = db.unexpired now \
      {l | (db.findSessionForLogical req.logicalId req.instanceType).isSome ∧
        l ∈ leasesOf σ req.logicalId} := by
  simp only [prepared]
  cases hfind : db.findSessionForLogical req.logicalId req.instanceType with
  | none =>
    ext x
    simp
  | some s =>
    obtain ⟨-, hlog, htype⟩ := mem_activeSessions_of_find hfind
    ext l
    simp only [releaseFor, hlog, htype, hengine, henv, if_true, unexpired, leasesOf,
      mem_releaseInstanceId, Set.mem_ofPred_eq, Set.mem_sdiff, Option.isSome_some, true_and,
      Option.some.injEq, eq_comm (a := req.env)]
    exact and_right_comm

/-- Fencing a stale session, with or without giving back its leases, is all that may happen. -/
lemma leavesNothing_fenced (hkeyed : db.Keyed) {s : Session}
    (hfind : db.findSessionForLogical req.logicalId req.instanceType = some s)
    (hlive : ¬ kvLive s.kvKey) {after : Db}
    (hsessions : after.sessions = (db.fenceSession s.ownerSessionId).sessions)
    (hleases : after.unexpired now = db.unexpired now ∨
      after.unexpired now = db.unexpired now \ leasesOf σ s.logicalId) :
    LeavesNothing σ db after now kvLive req := by
  obtain ⟨hs, hlog, -⟩ := mem_activeSessions_of_find hfind
  refine .inr ⟨s, hs, hlog, by simpa using hlive, ?_, ?_, hleases⟩
  · rw [hsessions]
    exact mem_fenceSession hs.1
  · rw [← activeSessions_fenceSession hkeyed hs]
    simp [activeSessions, hsessions]

lemma leavesNothing_self : LeavesNothing σ db db now kvLive req :=
  .inl ⟨rfl, rfl⟩

/-- No lease is given back for a session that is not an engine's. -/
lemma leavesNothing_prepared (hkeyed : db.Keyed)
    (hlive : ∀ s ∈ db.findSessionForLogical req.logicalId req.instanceType, ¬ kvLive s.kvKey)
    (hengine : ¬ σ.isEngine req.instanceType) :
    LeavesNothing σ db (prepared σ db req) now kvLive req := by
  simp only [prepared]
  cases hfind : db.findSessionForLogical req.logicalId req.instanceType with
  | none => exact leavesNothing_self
  | some s =>
    obtain ⟨-, -, htype⟩ := mem_activeSessions_of_find hfind
    simp only [releaseFor, htype, if_neg hengine]
    exact leavesNothing_fenced hkeyed hfind (hlive s hfind) rfl (.inl rfl)

end Prepared

/-! ## When a refusal is clean -/

/-- A worker id the request can be given: no lease of the environment that has not run out is in the
way, those of a stale session of the logical id apart. -/
def Free (db : Db) (now : ℕ) (req : RegisterRequest) (instanceId : ℕ) : Prop :=
  ∀ l ∈ db.leases, l.env = req.env → l.instanceId = instanceId → now ≤ l.leasedUntil →
    (db.findSessionForLogical req.logicalId req.instanceType).isSome ∧ l.logicalId = req.logicalId
deriving Decidable

/-- The request is turned away before it has been given anything. -/
def TurnedAway (σ : Setting) (throws : Call → Bool) (db : Db) (now : ℕ) (kvLive : String → Bool)
    (req : RegisterRequest) : Prop :=
  throws .validateToken ∨
    σ.validateToken now req.token req.logicalId req.instanceType req.env = none ∨
    throws .findSessionForLogical ∨
    (∃ session ∈ db.findSessionForLogical req.logicalId req.instanceType,
      kvLive session.kvKey ∨ throws .fenceSession ∨ throws .auditFenced ∨
        σ.isEngine req.instanceType ∧ (throws .getEnvForLogical ∨ throws .releaseInstanceId)) ∨
    σ.isEngine req.instanceType ∧
      (throws .acquireInstanceId ∨ ∀ i ∈ Db.workerIds, ¬ Free db now req i)

/-- Every call from `recordSession` on succeeds, and there is a configuration. -/
def GoesThrough (throws : Call → Bool) (config : Option String) : Prop :=
  ¬ throws .recordSession ∧ ¬ throws .auditAccepted ∧ ¬ throws .desiredConfig ∧ config.isSome

def newLease (σ : Setting) (now : ℕ) (req : RegisterRequest) (instanceId : ℕ) : Lease :=
  { env := req.env, instanceId, logicalId := req.logicalId, leasedUntil := now + σ.leaseTtl }

/-- The one lease of the logical id that has not run out is the very row that leasing it the first
free worker id again would write. -/
def SameLease (σ : Setting) (db : Db) (now : ℕ) (req : RegisterRequest) : Prop :=
  ∃ i ∈ Db.workerIds.find? fun i => Free db now req i,
    db.unexpired now ∩ leasesOf σ req.logicalId = {newLease σ now req i}

section Clean

variable {db : Db} {now : ℕ} {req : RegisterRequest} {kvLive : String → Bool} {uuid : String}
  {config : Option String}

/-- What is free once the stale session is gone. -/
lemma lowestFree_prepared (henv : σ.getEnvForLogical req.logicalId = some req.env)
    (hengine : σ.isEngine req.instanceType) :
    (prepared σ db req).lowestFree now req.env = Db.workerIds.find? fun i => Free db now req i := by
  have hfree : ∀ i, (!(prepared σ db req).leased now req.env i) = decide (Free db now req i) := by
    intro i
    rw [Bool.eq_iff_iff]
    simp only [leased, Bool.not_eq_true', any_eq_false, Bool.and_eq_true, beq_iff_eq,
      decide_eq_true_eq, not_and]
    have hmem : ∀ l, l ∈ (prepared σ db req).unexpired now ↔ _ :=
      fun l => Set.ext_iff.mp (unexpired_prepared henv hengine) l
    constructor
    · intro h l hl henv' hid huntil
      by_contra hkept
      refine h l ((hmem l).mpr ⟨⟨hl, huntil⟩, ?_⟩).1 ⟨henv', hid⟩ huntil
      exact fun hgone => hkept ⟨hgone.1, hgone.2.2⟩
    · rintro h l hl ⟨henv', hid⟩ huntil
      obtain ⟨⟨hl', -⟩, hkept⟩ := (hmem l).mp ⟨hl, huntil⟩
      obtain ⟨hsome, hlog⟩ := h l hl' henv' hid huntil
      exact hkept ⟨hsome, by rw [henv, henv'], hlog⟩
  simp [lowestFree, hfree]

/-- A request that is not turned away has a token for the environment, and no live session. -/
lemma env_of_not_turnedAway (h : ¬ TurnedAway σ throws db now kvLive req) :
    σ.getEnvForLogical req.logicalId = some req.env ∧
      ∀ s ∈ db.findSessionForLogical req.logicalId req.instanceType, ¬ kvLive s.kvKey := by
  simp only [TurnedAway, not_or] at h
  obtain ⟨-, htoken, -, hsession, -⟩ := h
  obtain ⟨jti, hjti⟩ := Option.ne_none_iff_exists'.mp htoken
  exact ⟨Setting.env_of_validateToken hjti, fun s hs hlive => hsession ⟨s, hs, .inl hlive⟩⟩

/-- A request that is not turned away gets to `recordSession`, an engine's with a worker id. -/
lemma exists_recordThrowing (uuid : String) (config : Option String)
    (h : ¬ TurnedAway σ throws db now kvLive req) :
    ∃ db' i, handleRegisterThrowing σ throws db now kvLive uuid config req =
        recordThrowing σ throws db' uuid config req i ∧
      db'.sessions = (prepared σ db req).sessions ∧
      (σ.isEngine req.instanceType → Db.workerIds.find? (fun i => Free db now req i) = some i ∧
        db'.unexpired now = insert (newLease σ now req i) ((prepared σ db req).unexpired now)) ∧
      (¬ σ.isEngine req.instanceType → db' = prepared σ db req) := by
  have henv := (env_of_not_turnedAway h).1
  simp only [TurnedAway, not_or] at h
  obtain ⟨hvalidate, htoken, hfindThrows, hsession, hassign⟩ := h
  obtain ⟨jti, hjti⟩ := Option.ne_none_iff_exists'.mp htoken
  have hprep : handleRegisterThrowing σ throws db now kvLive uuid config req =
      assignThrowing σ throws (prepared σ db req) now uuid config req := by
    rw [handleRegisterThrowing, attempt_of_not hvalidate, hjti]
    simp only [attempt_of_not hfindThrows, prepared]
    cases hfind : db.findSessionForLogical req.logicalId req.instanceType with
    | none => rfl
    | some s =>
      obtain ⟨-, hlog, htype⟩ := mem_activeSessions_of_find hfind
      simp only [Option.mem_def, not_exists, not_and, not_or] at hsession
      obtain ⟨hlive, hfence, haudit, hrelease⟩ := hsession s hfind
      simp only [if_neg hlive, fenceThrowing, attempt_of_not hfence, attempt_of_not haudit,
        releaseFor, hlog, htype, henv]
      split_ifs with hengine
      · rw [attempt_of_not (hrelease hengine).1, attempt_of_not (hrelease hengine).2]
      · rfl
  by_cases hengine : σ.isEngine req.instanceType
  · simp only [not_and, not_or, not_forall, not_not, exists_prop] at hassign
    obtain ⟨hacquire, hi⟩ := hassign hengine
    obtain ⟨i, hfirst⟩ : ∃ i, workerIds.find? (fun i => Free db now req i) = some i := by
      refine Option.isSome_iff_exists.mp ?_
      simpa [find?_isSome] using hi
    obtain ⟨hsome, hunexpired⟩ := acquireInstanceId_of_some σ.leaseTtl req.logicalId
      ((lowestFree_prepared henv hengine).trans hfirst)
    refine ⟨((prepared σ db req).acquireInstanceId now σ.leaseTtl req.env req.logicalId).1, i, ?_,
      acquireInstanceId_sessions _ _ _ _ _, fun _ => ⟨hfirst, hunexpired⟩,
      fun h => absurd hengine h⟩
    rw [hprep, assignThrowing, if_pos hengine, attempt_of_not hacquire]
    rcases hacq : (prepared σ db req).acquireInstanceId now σ.leaseTtl req.env req.logicalId
      with ⟨db', free⟩
    rw [hacq] at hsome
    obtain rfl : free = some i := hsome
    rfl
  · refine ⟨prepared σ db req, 0, ?_, rfl, fun h => absurd h hengine, fun _ => rfl⟩
    rw [hprep, assignThrowing, if_neg hengine]

/-- No worker id: the transaction has only deleted leases that had run out. -/
lemma assignThrowing_of_refused (uuid : String) (config : Option String)
    (hengine : σ.isEngine req.instanceType)
    (h : throws .acquireInstanceId ∨ db.lowestFree now req.env = none) :
    (assignThrowing σ throws db now uuid config req).1.sessions = db.sessions ∧
      (assignThrowing σ throws db now uuid config req).1.unexpired now = db.unexpired now := by
  rw [assignThrowing, if_pos hengine]
  by_cases hacquire : throws .acquireInstanceId
  · rw [attempt_of_throws hacquire]
    exact ⟨rfl, rfl⟩
  · rw [attempt_of_not hacquire, acquireInstanceId_of_none (h.resolve_left hacquire)]
    exact ⟨rfl, unexpired_deleteExpired _ _ _ _⟩

/-- A stale session was found and fenced, and the request is turned away after that. -/
lemma leavesNothing_fenceThrowing (hkeyed : db.Keyed)
    (henv : σ.getEnvForLogical req.logicalId = some req.env) {s : Session}
    (hfind : db.findSessionForLogical req.logicalId req.instanceType = some s)
    (hlive : ¬ kvLive s.kvKey)
    (h : throws .fenceSession ∨ throws .auditFenced ∨ σ.isEngine req.instanceType ∧
      (throws .getEnvForLogical ∨ throws .releaseInstanceId ∨ throws .acquireInstanceId ∨
        (prepared σ db req).lowestFree now req.env = none)) :
    LeavesNothing σ db
      (fenceThrowing σ throws db s fun db => assignThrowing σ throws db now uuid config req).1 now
      kvLive req := by
  obtain ⟨-, hlog, htype⟩ := mem_activeSessions_of_find hfind
  have hfenced : LeavesNothing σ db (db.fenceSession s.ownerSessionId) now kvLive req :=
    leavesNothing_fenced hkeyed hfind hlive rfl (.inl rfl)
  rw [fenceThrowing]
  by_cases hfence : throws .fenceSession
  · rw [attempt_of_throws hfence]
    exact leavesNothing_self
  rw [attempt_of_not hfence]
  by_cases haudit : throws .auditFenced
  · simp only [attempt_of_throws haudit]
    exact hfenced
  obtain ⟨hengine, h⟩ := (h.resolve_left hfence).resolve_left haudit
  simp only [attempt_of_not haudit, htype, hengine, if_true, hlog, henv]
  by_cases hget : throws .getEnvForLogical
  · rw [attempt_of_throws hget]
    exact hfenced
  by_cases hrelease : throws .releaseInstanceId
  · rw [attempt_of_not hget, attempt_of_throws hrelease]
    exact hfenced
  rw [attempt_of_not hget, attempt_of_not hrelease]
  have hprepared : (db.fenceSession s.ownerSessionId).releaseInstanceId req.env req.logicalId =
      prepared σ db req := by
    simp [prepared, hfind, releaseFor, htype, hengine, hlog, henv]
  rw [hprepared]
  obtain ⟨hsessions, hunexpired⟩ := assignThrowing_of_refused uuid config hengine
    ((h.resolve_left hget).resolve_left hrelease)
  refine leavesNothing_fenced hkeyed hfind hlive (hsessions.trans ?_) (.inr (hunexpired.trans ?_))
  · rw [← hprepared]
    rfl
  · rw [unexpired_prepared henv hengine, hlog]
    simp [hfind]

lemma leavesNothing_of_turnedAway (hkeyed : db.Keyed)
    (h : TurnedAway σ throws db now kvLive req) :
    LeavesNothing σ db (handleRegisterThrowing σ throws db now kvLive uuid config req).1 now kvLive
      req := by
  rw [handleRegisterThrowing]
  by_cases hvalidate : throws .validateToken
  · rw [attempt_of_throws hvalidate]
    exact leavesNothing_self
  rw [attempt_of_not hvalidate]
  cases hjti : σ.validateToken now req.token req.logicalId req.instanceType req.env with
  | none =>
    simp only [attempt]
    split <;> exact leavesNothing_self
  | some jti =>
    have henv := Setting.env_of_validateToken hjti
    by_cases hfindThrows : throws .findSessionForLogical
    · simp only [attempt_of_throws hfindThrows]
      exact leavesNothing_self
    simp only [attempt_of_not hfindThrows]
    -- the token is good and the session was looked up: it is the session, or the worker id
    replace h := ((h.resolve_left hvalidate).resolve_left (by simp [hjti])).resolve_left
      hfindThrows
    have hnone : ∀ hengine : σ.isEngine req.instanceType,
        (∀ i ∈ workerIds, ¬ Free db now req i) →
          (prepared σ db req).lowestFree now req.env = none := by
      intro hengine hall
      rw [lowestFree_prepared henv hengine]
      simpa using hall
    cases hfind : db.findSessionForLogical req.logicalId req.instanceType with
    | none =>
      obtain ⟨hengine, h⟩ := h.resolve_left (by simp [hfind])
      have hprepared : prepared σ db req = db := by simp only [prepared, hfind]
      obtain ⟨hsessions, hunexpired⟩ := assignThrowing_of_refused uuid config hengine
        (h.imp_right (hnone hengine))
      rw [hprepared] at hsessions hunexpired
      exact .inl ⟨by simp [activeSessions, hsessions], hunexpired⟩
    | some s =>
      by_cases hlive : kvLive s.kvKey
      · simp only [hlive, if_true, attempt]
        split <;> exact leavesNothing_self
      · simp only [if_neg hlive]
        refine leavesNothing_fenceThrowing hkeyed henv hfind hlive ?_
        simp only [hfind, Option.mem_def, Option.some.injEq, exists_eq_left', hlive,
          Bool.false_eq_true, false_or] at h
        rcases h with (hfence | haudit | ⟨hengine, hthrows⟩) | ⟨hengine, hacquire⟩
        · exact .inl hfence
        · exact .inr (.inl haudit)
        · exact .inr (.inr ⟨hengine, hthrows.imp_right .inl⟩)
        · exact .inr (.inr ⟨hengine, .inr (.inr (hacquire.imp_right (hnone hengine)))⟩)

def newSession (σ : Setting) (uuid : String) (req : RegisterRequest) : Session where
  ownerSessionId := uuid
  logicalId := req.logicalId
  instanceType := req.instanceType
  kvKey := "svc." ++ σ.toLowerCase req.instanceType ++ "." ++ req.logicalId
  status := .active

/-- A session that is recorded stays, whatever the reply. -/
lemma recordThrowing_recorded (config : Option String) (i : ℕ)
    (hnew : ¬ (db.getSession uuid).isSome)
    (hfind : db.findSessionForLogical req.logicalId req.instanceType = none)
    (hrecord : ¬ throws .recordSession) :
    (recordThrowing σ throws db uuid config req i).1.activeSessions =
        insert (newSession σ uuid req) db.activeSessions ∧
      ((recordThrowing σ throws db uuid config req i).2.status = "OK" ↔
        ¬ throws .auditAccepted ∧ ¬ throws .desiredConfig ∧ config.isSome) := by
  have hrec : db.recordSession uuid req.logicalId req.instanceType
      ("svc." ++ σ.toLowerCase req.instanceType ++ "." ++ req.logicalId) =
        some { db with sessions := db.sessions ++ [newSession σ uuid req] } := by
    rw [recordSession, if_neg hnew, hfind]
    rfl
  have hactive : activeSessions { db with sessions := db.sessions ++ [newSession σ uuid req] } =
      insert (newSession σ uuid req) db.activeSessions := by
    ext s
    simp only [activeSessions, mem_append, mem_singleton, Set.mem_ofPred_eq, Set.mem_insert_iff]
    constructor
    · rintro ⟨hs | hs, hstatus⟩
      · exact .inr ⟨hs, hstatus⟩
      · exact .inl hs
    · rintro (rfl | ⟨hs, hstatus⟩)
      · exact ⟨.inr rfl, rfl⟩
      · exact ⟨.inl hs, hstatus⟩
  simp only [recordThrowing, attempt_of_not hrecord, hrec]
  by_cases haudit : throws .auditAccepted
  · simp [attempt_of_throws haudit, hactive, haudit, exceptionReply]
  by_cases hconfig : throws .desiredConfig
  · simp [attempt_of_not haudit, attempt_of_throws hconfig, hactive, haudit, hconfig,
      exceptionReply]
  cases config with
  | none => simp [attempt_of_not haudit, attempt_of_not hconfig, hactive, noConfigReply]
  | some c => simp [attempt_of_not haudit, attempt_of_not hconfig, hactive, haudit, hconfig]

/-- The session that was recorded is not one of before. -/
lemma not_leavesNothing_recorded (hnew : ¬ (db.getSession uuid).isSome) {after : Db}
    {sessions : Set Session}
    (hafter : after.activeSessions = insert (newSession σ uuid req) sessions) :
    ¬ LeavesNothing σ db after now kvLive req := by
  have hfresh : newSession σ uuid req ∉ db.activeSessions := by
    intro hmem
    exact hnew (getSession_isSome.mpr (mem_map.mpr ⟨_, hmem.1, rfl⟩))
  have hthere : newSession σ uuid req ∈ after.activeSessions := by
    rw [hafter]
    exact Set.mem_insert _ _
  rintro (⟨hactive, -⟩ | ⟨stale, -, -, -, -, hactive, -⟩)
  · exact hfresh (hactive ▸ hthere)
  · rw [hactive] at hthere
    exact hfresh hthere.1

/-- A set that loses a part and gains one element of it is the same if that element was all it
had of the part. -/
lemma insert_diff_eq_iff {α : Type} {a : α} {u w : Set α} (ha : a ∈ w) :
    insert a (u \ w) = u ↔ u ∩ w = {a} := by
  constructor
  · intro hsame
    ext x
    constructor
    · rintro ⟨hu, hw⟩
      rw [← hsame] at hu
      exact hu.resolve_right fun h => h.2 hw
    · rintro rfl
      exact ⟨hsame ▸ Set.mem_insert _ _, ha⟩
  · intro heq
    have hmem : a ∈ u ∩ w := by
      rw [heq]
      rfl
    ext x
    constructor
    · rintro (rfl | hx)
      · exact hmem.1
      · exact hx.1
    · intro hx
      by_cases hw : x ∈ w
      · have hxmem : x ∈ u ∩ w := ⟨hx, hw⟩
        rw [heq] at hxmem
        exact .inl hxmem
      · exact .inr ⟨hx, hw⟩

/-- A worker id was leased and no session recorded: the lease is left behind, unless the row was
there before. -/
lemma leavesNothing_leased_iff (hkeyed : db.Keyed) {i : ℕ} (hfree : Free db now req i)
    (henv : σ.getEnvForLogical req.logicalId = some req.env)
    (hlive : ∀ s ∈ db.findSessionForLogical req.logicalId req.instanceType, ¬ kvLive s.kvKey)
    {after : Db} (hsessions : after.sessions = (prepared σ db req).sessions)
    (hunexpired : after.unexpired now = insert (newLease σ now req i) (db.unexpired now \
      {l | (db.findSessionForLogical req.logicalId req.instanceType).isSome ∧
        l ∈ leasesOf σ req.logicalId})) :
    LeavesNothing σ db after now kvLive req ↔
      db.unexpired now ∩ leasesOf σ req.logicalId = {newLease σ now req i} := by
  have hown : newLease σ now req i ∈ leasesOf σ req.logicalId := ⟨henv, rfl⟩
  have hthere : newLease σ now req i ∈ after.unexpired now := by
    rw [hunexpired]
    exact Set.mem_insert _ _
  -- a row of the same worker id that has not run out is a stale session's
  have hstale : newLease σ now req i ∈ db.unexpired now →
      (db.findSessionForLogical req.logicalId req.instanceType).isSome :=
    fun h => (hfree _ h.1 rfl rfl h.2).1
  cases hfind : db.findSessionForLogical req.logicalId req.instanceType with
  | none =>
    have hgone : newLease σ now req i ∉ db.unexpired now := by
      intro hmem
      simpa [hfind] using hstale hmem
    have hprepared : prepared σ db req = db := by simp only [prepared, hfind]
    constructor
    · rintro (⟨-, hleases⟩ | ⟨stale, hmem, -, -, -, hactive, -⟩)
      · exact absurd (hleases ▸ hthere) hgone
      · have hkept : stale ∈ after.activeSessions := by
          simp only [activeSessions, hsessions, hprepared]
          exact hmem
        rw [hactive] at hkept
        exact absurd rfl hkept.2
    · intro heq
      have hmem : newLease σ now req i ∈ db.unexpired now ∩ leasesOf σ req.logicalId := by
        rw [heq]
        rfl
      exact absurd hmem.1 hgone
  | some s =>
    have hleases : after.unexpired now =
        insert (newLease σ now req i) (db.unexpired now \ leasesOf σ req.logicalId) := by
      rw [hunexpired, hfind]
      simp
    rw [← insert_diff_eq_iff hown, ← hleases]
    constructor
    · rintro (⟨-, h⟩ | ⟨stale, -, hlog, -, -, -, h | h⟩)
      · exact h
      · exact h
      · -- all leases of the logical id are gone, and this one is there
        rw [h, hlog] at hthere
        exact absurd hown hthere.2
    · intro hsame
      refine leavesNothing_fenced hkeyed hfind (hlive s hfind) ?_ (.inl hsame)
      simp [hsessions, prepared, hfind, releaseFor_sessions]

/-- **A refused registration leaves nothing behind** exactly if it is turned away before it was
given anything, or is not refused at all: once a worker id is leased or the session recorded, no
later call may throw and the configuration has to be there. -/
theorem refused_leaves_nothing_iff (hkeyed : db.Keyed) (hnew : ¬ (db.getSession uuid).isSome) :
    ((handleRegisterThrowing σ throws db now kvLive uuid config req).2.status ≠ "OK" →
        LeavesNothing σ db (handleRegisterThrowing σ throws db now kvLive uuid config req).1 now
          kvLive req) ↔
      TurnedAway σ throws db now kvLive req ∨ GoesThrough throws config ∨
        throws .recordSession ∧ (¬ σ.isEngine req.instanceType ∨ SameLease σ db now req) := by
  by_cases hturned : TurnedAway σ throws db now kvLive req
  · simp only [hturned, true_or, iff_true]
    exact fun _ => leavesNothing_of_turnedAway hkeyed hturned
  simp only [hturned, false_or]
  obtain ⟨henv, hlive⟩ := env_of_not_turnedAway hturned
  obtain ⟨db', i, hhandle, hsessions, hlease, hplain⟩ := exists_recordThrowing uuid config hturned
  rw [hhandle]
  by_cases hrecord : throws .recordSession
  · have hthrown : recordThrowing σ throws db' uuid config req i = (db', exceptionReply) :=
      attempt_of_throws hrecord
    have hgoes : ¬ GoesThrough throws config := fun h => h.1 hrecord
    simp only [hthrown, hgoes, hrecord, false_or, true_and]
    rw [forall_prop_of_true (by simp [exceptionReply])]
    by_cases hengine : σ.isEngine req.instanceType
    · obtain ⟨hfirst, hunexpired⟩ := hlease hengine
      have hfree : Free db now req i := by simpa using find?_some hfirst
      rw [unexpired_prepared henv hengine] at hunexpired
      rw [leavesNothing_leased_iff hkeyed hfree henv hlive hsessions hunexpired]
      simp [SameLease, hengine, hfirst]
    · rw [hplain hengine]
      exact iff_of_true (leavesNothing_prepared hkeyed hlive hengine) (.inl hengine)
  · have hfind : db'.findSessionForLogical req.logicalId req.instanceType = none := by
      rw [findSessionForLogical, hsessions]
      exact find_prepared hkeyed
    have hnew' : ¬ (db'.getSession uuid).isSome := by
      have hsame : ((prepared σ db req).getSession uuid).isSome = _ := getSession_prepared
      rw [getSession, hsessions]
      rwa [← hsame] at hnew
    obtain ⟨hactive, hstatus⟩ := recordThrowing_recorded config i hnew' hfind hrecord
    have hgoes : GoesThrough throws config ↔
        (recordThrowing σ throws db' uuid config req i).2.status = "OK" := by
      rw [hstatus]
      exact and_iff_right hrecord
    have hleft : ¬ LeavesNothing σ db (recordThrowing σ throws db' uuid config req i).1 now kvLive
        req := not_leavesNothing_recorded hnew hactive
    simp [hrecord, hgoes, hleft]

end Clean

namespace Sample

/-- An engine asks to be registered. -/
def engineRequest : RegisterRequest :=
  { token := "t1", logicalId := "e1", instanceType := "ENGINE", env := "prod" }

/-- An earlier session of the engine, and its worker id. -/
def staleDb : Db where
  sessions := [{ ownerSessionId := "s0", logicalId := "e1", instanceType := "ENGINE",
                 kvKey := "svc.ENGINE.e1", status := .active }]
  leases := [{ env := "prod", instanceId := 0, logicalId := "e1", leasedUntil := 100 }]

lemma keyed_staleDb : staleDb.Keyed := by
  refine ⟨by decide, ?_⟩
  rintro s ⟨hs, -⟩ s' ⟨hs', -⟩ - -
  rw [mem_singleton.mp hs, mem_singleton.mp hs']

end Sample

open Pilot.Sample

/-- The earlier session is fenced, and then no worker id can be leased because the call throws. -/
theorem refused_leaves_nothing_at_acquire :
    let throws : Call → Bool := fun call => call == .acquireInstanceId
    let result := handleRegisterThrowing setting throws staleDb 10 (fun _ => false)
      "s1" (some "config") engineRequest
    result.2.status ≠ "OK" ∧ result.1 ≠ staleDb ∧
      LeavesNothing setting staleDb result.1 10 (fun _ => false)
        engineRequest := by
  intro throws result
  have hrefused : result.2.status ≠ "OK" := by decide +kernel
  refine ⟨hrefused, by decide +kernel, ?_⟩
  refine (refused_leaves_nothing_iff keyed_staleDb (by decide +kernel)).mpr ?_ hrefused
  exact .inl (.inr (.inr (.inr (.inr ⟨by decide +kernel, .inl (by decide +kernel)⟩))))

/-- An engine without a configuration is refused, and is registered with a worker id all the
same. -/
theorem refused_without_config_registered :
    let result := handleRegisterThrowing setting (fun _ => false) {} 10 (fun _ => false)
      "s1" none engineRequest
    result.2.status = "ERROR" ∧ result.1.Active "s1" ∧ result.1.leased 10 "prod" 0 = true ∧
      ¬ LeavesNothing setting {} result.1 10 (fun _ => false) engineRequest := by
  intro result
  refine ⟨by decide +kernel, by decide +kernel, by decide +kernel, ?_⟩
  have hthere : newSession setting "s1" engineRequest ∈ result.1.activeSessions :=
    ⟨by decide +kernel, rfl⟩
  rintro (⟨hactive, -⟩ | ⟨stale, hmem, -⟩)
  · rw [hactive] at hthere
    exact absurd hthere.1 not_mem_nil
  · exact absurd hmem.1 not_mem_nil

end Zkbot.Pilot
