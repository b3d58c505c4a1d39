import Zkbot.Pilot.Reconciler

/-!
# Whom Pilot fences

A session whose entry is in the bucket, as its instance wrote it, is *standing*.  Pilot's threads
are meant to fence no such session and to release no lease of it.  They look at the live keys, which
follow the bucket, and they fence the session that has the key of a loss when they get there; so
they spare a standing session if they have caught up with its key at two moments:

* when its instance writes the entry, no thread is to act any more on an earlier loss of the key,
* when a request asks whether the key is live, the watch has delivered the entry.

`CatchesUp` is this condition.  `Spared` says of every thread that it aims at somebody else,
`Kept` adds where the key is in the live set or still on its way there, and `Safe` is the invariant.
`standing_session_kept` is what follows for every statement of `onKvLost` and `handleRegister`.
-/

namespace Zkbot.Pilot

variable {s s' : Threads} {S : Session}

open Db Threads List Session WatchPc Option

/-! ## Rows that stay -/

namespace Db

variable {row : Session} {db : Db} {status : SessionStatus}

/-- The table after sessions have ended: the same ids, and no row that is active now was not. -/
structure Shrinks (db db' : Db) : Prop where
  ids : db'.sessions.map ownerSessionId = db.sessions.map ownerSessionId
  active : ∀ row ∈ db'.sessions, row.status = .active → row ∈ db.sessions

lemma shrinks_of_eq {db' : Db} (h : db'.sessions = db.sessions) : Shrinks db db' where
  ids := by rw [h]
  active := fun _ hrow _ => h ▸ hrow

lemma shrinks_setStatus (db : Db) (id : String) (h : status ≠ .active) :
    Shrinks db (db.setStatus id status) where
  ids := setStatus_ids
  active := by
    intro row hrow hactive
    obtain ⟨row', hrow', rfl⟩ := mem_map.mp hrow
    split at hactive
    · exact absurd hactive h
    · rw [if_neg ‹_›]
      exact hrow'

lemma mem_setStatus_of_ne {id : String} (hrow : row ∈ db.sessions) (hne : id ≠ row.ownerSessionId) :
    row ∈ (db.setStatus id status).sessions := by
  refine mem_map.mpr ⟨row, hrow, ?_⟩
  rw [if_neg (by simpa using Ne.symm hne)]

lemma findActiveSessionByKvKey_spec {key : String}
    (h : db.findActiveSessionByKvKey key = some row) :
    row ∈ db.sessions ∧ row.kvKey = key ∧ row.status = .active := by
  have hmem := mem_of_find?_eq_some h
  have hrow := find?_some h
  simp only [Bool.and_eq_true, beq_iff_eq] at hrow
  exact ⟨hmem, hrow.1, hrow.2⟩

lemma findSessionForLogical_spec {logicalId instanceType : String}
    (h : db.findSessionForLogical logicalId instanceType = some row) :
    row ∈ db.sessions ∧ row.status = .active := by
  have hmem := mem_of_find?_eq_some h
  have hrow := find?_some h
  simp only [Bool.and_eq_true, beq_iff_eq] at hrow
  exact ⟨hmem, hrow.2⟩

lemma eq_of_ids (hids : (db.sessions.map ownerSessionId).Nodup) {row' : Session}
    (h : row ∈ db.sessions) (h' : row' ∈ db.sessions)
    (heq : row.ownerSessionId = row'.ownerSessionId) : row = row' :=
  inj_on_of_nodup_map hids h h' heq

end Db

/-! ## Standing sessions, and who aims at them -/

/-- The session is active, and the entry of its key is the one its instance wrote. -/
@[mk_iff] structure Standing (s : Threads) (S : Session) : Prop where
  mem : S ∈ s.db.sessions
  active : S.status = .active
  entry : s.bucket.lookup S.kvKey = some (.entry (some S.ownerSessionId))

/-- A row that is to be fenced or released stands in the way of `S`. -/
def Hits (S row : Session) : Prop :=
  row.ownerSessionId = S.ownerSessionId ∨ row.logicalId = S.logicalId
deriving Decidable

def Lost.Aims (S : Session) : Lost → Prop
  | .lookup key => key = S.kvKey
  | .fence row | .release row => Hits S row

def WatchPc.Aims (S : Session) : WatchPc → Prop
  | .lost l rest => l.Aims S ∨ S.kvKey ∈ rest
  | _ => False

def SweepPc.Aims (S : Session) : SweepPc → Prop
  | .gone key _ => key = S.kvKey
  | .lost l _ => l.Aims S
  | _ => False

def DispatchPc.Aims (S : Session) : DispatchPc → Prop
  | .fence _ row | .release _ row => Hits S row
  | _ => False

/-- No thread is to act on a loss of the session's key, and the watch has none to deliver. -/
@[mk_iff] structure Spared (s : Threads) (S : Session) : Prop where
  watch : ¬ s.watcher.pc.Aims S
  sweep : ¬ s.sweep.Aims S
  dispatch : ¬ s.dispatch.Aims S
  queue : .delete S.kvKey ∉ s.watcher.queue

/-- What a statement of the dispatcher is made under: the watch has delivered the key that is asked
for, and a logical id has one active session. -/
def Consults (s : Threads) : DispatchPc → Prop
  | .check _ session =>
    s.watcher.snapshotDone = true ∧ .put session.kvKey ∉ s.watcher.queue
  | .record r _ => ∀ S ∈ s.db.sessions, S.status = .active → S.logicalId ≠ r.req.logicalId
  | _ => True

/-- The condition: Pilot has caught up with a key when its entry is written and when it is asked
for. -/
def CatchesUp (s : Threads) : Act → Prop
  | .put id =>
    s.watcher.snapshotDone = true ∧ ∀ S ∈ s.db.sessions, S.ownerSessionId = id → Spared s S
  | .dispatch => Consults s s.dispatch
  | _ => True

section Decidable

instance (s : Threads) (S : Session) : Decidable (Standing s S) :=
  decidable_of_iff' _ (standing_iff ..)

instance (S : Session) (l : Lost) : Decidable (l.Aims S) := by
  cases l <;> dsimp only [Lost.Aims] <;> infer_instance

instance (S : Session) (pc : WatchPc) : Decidable (pc.Aims S) := by
  cases pc <;> dsimp only [WatchPc.Aims] <;> infer_instance

instance (S : Session) (pc : SweepPc) : Decidable (pc.Aims S) := by
  cases pc <;> dsimp only [SweepPc.Aims] <;> infer_instance

instance (S : Session) (pc : DispatchPc) : Decidable (pc.Aims S) := by
  cases pc <;> dsimp only [DispatchPc.Aims] <;> infer_instance

instance (s : Threads) (S : Session) : Decidable (Spared s S) :=
  decidable_of_iff' _ (spared_iff ..)

instance (s : Threads) (pc : DispatchPc) : Decidable (Consults s pc) := by
  cases pc <;> dsimp only [Consults] <;> infer_instance

instance (s : Threads) (a : Act) : Decidable (CatchesUp s a) := by
  cases a <;> dsimp only [CatchesUp] <;> infer_instance

end Decidable

/-! ## The invariant -/

/-- The request a register request is handled for. -/
def DispatchPc.registering : DispatchPc → Option Registering
  | .find r | .check r _ | .fence r _ | .release r _ | .acquire r | .record r _ => some r
  | _ => none

/-- The rows: an id once, a logical id active once, and no entry of a session that is not there. -/
structure Rows (s : Threads) : Prop where
  ids : (s.db.sessions.map ownerSessionId).Nodup
  logical : ∀ S ∈ s.db.sessions, ∀ S' ∈ s.db.sessions, S.status = .active → S'.status = .active →
    S.logicalId = S'.logicalId → S = S'
  writers : ∀ key id, s.bucket.lookup key = some (.entry (some id)) →
    id ∈ s.db.sessions.map ownerSessionId
  uuid : ∀ r, s.dispatch.registering = some r → r.uuid ∉ s.db.sessions.map ownerSessionId
  /-- the session that was found is the only one with its id, and with its logical id -/
  found : ∀ r row, s.dispatch = .check r row → ∀ S ∈ s.db.sessions, S.status = .active →
    Hits S row → S = row

/-- The watch is at the end of its initial values while `endOfData` runs. -/
def Ending (s : Threads) : Prop :=
  ∀ old, s.watcher.pc = .copied old ∨ s.watcher.pc = .cleared old ∨ s.watcher.pc = .filled old →
    s.watcher.snapshotDone = false ∧ s.watcher.initialLeft = 0

/-- A standing session: nobody aims at it, and its key is live or will be. -/
structure Kept (s : Threads) (S : Session) : Prop extends Spared s S where
  snapshot : s.watcher.snapshotDone = false →
    S.kvKey ∈ s.watcher.nextLive ∨ .put S.kvKey ∈ s.watcher.queue.take s.watcher.initialLeft
  live : s.watcher.snapshotDone = true ∨ (∃ old, s.watcher.pc = .filled old) →
    S.kvKey ∈ s.live ∨ .put S.kvKey ∈ s.watcher.queue

structure Safe (s : Threads) : Prop where
  rows : Rows s
  ending : Ending s
  kept : ∀ S, Standing s S → Kept s S

lemma Rows.shrink (rows : Rows s) (hdb : s.db.Shrinks s'.db) (hbucket : s'.bucket = s.bucket)
    (hreg : ∀ r, s'.dispatch.registering = some r → s.dispatch.registering = some r)
    (hfound : ∀ r row, s'.dispatch = .check r row → ∀ S ∈ s.db.sessions, S.status = .active →
      Hits S row → S = row) : Rows s' where
  ids := hdb.ids ▸ rows.ids
  logical S hS S' hS' h h' :=
    rows.logical S (hdb.active S hS h) S' (hdb.active S' hS' h') h h'
  writers key id h := hdb.ids ▸ rows.writers key id (hbucket ▸ h)
  uuid r h := hdb.ids ▸ rows.uuid r (hreg r h)
  found r row hpc S hS h := hfound r row hpc S (hdb.active S hS h) h

lemma Standing.of_shrinks (h : Standing s' S) (hdb : s.db.Shrinks s'.db)
    (hbucket : s'.bucket = s.bucket) : Standing s S where
  mem := hdb.active S h.mem h.active
  active := h.active
  entry := hbucket ▸ h.entry

/-- The watch stays as it is, and the key stays in the live set. -/
lemma Kept.of_watcher (kept : Kept s S) (hwatcher : s'.watcher = s.watcher)
    (hlive : S.kvKey ∈ s.live → S.kvKey ∈ s'.live) (hsweep : ¬ s'.sweep.Aims S)
    (hdispatch : ¬ s'.dispatch.Aims S) : Kept s' S where
  watch := hwatcher ▸ kept.watch
  sweep := hsweep
  dispatch := hdispatch
  queue := hwatcher ▸ kept.queue
  snapshot := hwatcher ▸ kept.snapshot
  live h := by
    rw [hwatcher] at h ⊢
    exact (kept.live h).imp_left hlive

/-- Who looks up a key other than that of a standing session finds somebody else. -/
lemma not_aims_step {σ : Setting} {l l' : Lost} (rows : Rows s) (hS : Standing s S)
    (hl : ¬ l.Aims S) (h : (l.step σ s.db).2 = some l') : ¬ l'.Aims S := by
  cases l with
  | lookup key =>
    obtain ⟨row, hfind, rfl⟩ := map_eq_some_iff.mp h
    obtain ⟨hmem, hkey, hactive⟩ := findActiveSessionByKvKey_spec hfind
    have hne : row ≠ S := by
      rintro rfl
      exact hl hkey.symm
    rintro (hid | hlog)
    · exact hne (eq_of_ids rows.ids hmem hS.mem hid)
    · exact hne (rows.logical row hmem S hS.mem hactive hS.active hlog)
  | fence row =>
    simp only [Lost.step] at h
    split at h <;> cases h
    exact hl
  | release row => cases h

lemma shrinks_lost (σ : Setting) (db : Db) (l : Lost) : db.Shrinks (l.step σ db).1 := by
  cases l with
  | lookup key => exact shrinks_of_eq rfl
  | fence row => exact shrinks_setStatus db _ (by decide)
  | release row => exact shrinks_of_eq (releaseFor_sessions _ _)

/-! ## Changes in the bucket -/

section Bucket

variable {s s' : Threads} {S : Session} {key : String} {m : Message} {e : WatchEvent}

lemma Kept.message (kept : Kept s S) (he : e ≠ .delete S.kvKey) : Kept (s.message key m e) S where
  watch := kept.watch
  sweep := kept.sweep
  dispatch := kept.dispatch
  queue h := by
    rcases mem_append.mp h with h | h
    · exact kept.queue h
    · exact he (mem_singleton.mp h).symm
  snapshot h := by
    refine (kept.snapshot h).imp_right fun hput => ?_
    simp only [Threads.message, take_append]
    exact mem_append_left _ hput
  live h := (kept.live h).imp_right fun hput => mem_append_left _ hput

lemma Rows.message (rows : Rows s)
    (hm : ∀ id, m = .entry (some id) → id ∈ s.db.sessions.map ownerSessionId) :
    Rows (s.message key m e) where
  ids := rows.ids
  logical := rows.logical
  writers key' id h := by
    simp only [Threads.message, Dict.lookup_insert_if] at h
    split at h
    · exact hm id (some.inj h)
    · exact rows.writers key' id h
  uuid := rows.uuid
  found := rows.found

/-- Who stands after a message has written it, or stood before and has another key. -/
lemma Standing.of_message (h : Standing (s.message key m e) S) :
    S.kvKey = key ∧ m = .entry (some S.ownerSessionId) ∨ S.kvKey ≠ key ∧ Standing s S := by
  have hentry := h.entry
  simp only [message, Dict.lookup_insert_if] at hentry
  split at hentry
  · exact .inl ⟨‹_›, some.inj hentry⟩
  · exact .inr ⟨‹_›, h.mem, h.active, hentry⟩

/-- A message that is not a new entry of a session. -/
lemma Safe.message (inv : Safe s)
    (hm : ∀ id, m = .entry (some id) → s.bucket.lookup key = some m)
    (he : e = .delete key → m = .tombstone) (he' : ∀ k, e = .delete k → k = key) :
    Safe (s.message key m e) where
  rows := inv.rows.message fun id h => inv.rows.writers key id ((hm id h).trans (h ▸ rfl))
  ending := inv.ending
  kept S hS := by
    rcases hS.of_message with ⟨rfl, hentry⟩ | ⟨hne, hS⟩
    · -- it is written again
      have hold : Standing s S := ⟨hS.mem, hS.active, (hm _ hentry).trans (hentry ▸ rfl)⟩
      refine (inv.kept S hold).message fun heq => ?_
      rw [he heq] at hentry
      cases hentry
    · exact (inv.kept S hS).message fun heq => hne (he' _ heq)

/-- A session's entry, written when the threads have caught up. -/
lemma Safe.put {id : String} {row : Session} (inv : Safe s) (hrow : s.db.getSession id = some row)
    (hok : CatchesUp s (.put id)) :
    Safe { s.message row.kvKey (.entry (some id)) (.put row.kvKey) with
      written := id :: s.written } := by
  have hid : id ∈ s.db.sessions.map ownerSessionId :=
    getSession_isSome.mp (by rw [hrow]; rfl)
  have rows : Rows (s.message row.kvKey (.entry (some id)) (.put row.kvKey)) :=
    inv.rows.message fun id' h => by cases h; exact hid
  have kept : ∀ S, Standing (s.message row.kvKey (.entry (some id)) (.put row.kvKey)) S →
      Kept (s.message row.kvKey (.entry (some id)) (.put row.kvKey)) S := by
    intro S hS
    rcases hS.of_message with ⟨hkey, hentry⟩ | ⟨-, hS⟩
    · obtain rfl : id = S.ownerSessionId := by cases hentry; rfl
      have spared := hok.2 S hS.mem rfl
      exact {
        watch := spared.watch
        sweep := spared.sweep
        dispatch := spared.dispatch
        queue := fun h => by
          rcases mem_append.mp h with h | h
          · exact spared.queue h
          · cases mem_singleton.mp h
        snapshot := fun h => by cases hok.1.symm.trans h
        live := fun _ => .inr <| mem_append_right _ <| by
          rw [hkey]
          exact mem_singleton_self _ }
    · exact (inv.kept S hS).message nofun
  exact {
    rows := { rows with }
    ending := inv.ending
    kept := fun S hS => { kept S { hS with } with } }

lemma Safe.expire (inv : Safe s) : Safe { s with bucket := s.bucket.erase key } where
  rows := { inv.rows with
    writers := fun key' id h => by
      simp only [Dict.lookup_erase_if] at h
      split at h
      · cases h
      · exact inv.rows.writers key' id h }
  ending := inv.ending
  kept S hS := by
    have hentry := hS.entry
    simp only [Dict.lookup_erase_if] at hentry
    split at hentry
    · cases hentry
    · exact { inv.kept S ⟨hS.mem, hS.active, hentry⟩ with }

end Bucket

/-! ## The watch -/

section Watch

variable {σ : Setting} {s s' : Threads} {live : List String}

/-- The watch, the live keys and the latch change. -/
lemma Safe.of_watcher (inv : Safe s) {w : Watcher} {ready : Bool}
    (hend : ∀ old, w.pc = .copied old ∨ w.pc = .cleared old ∨ w.pc = .filled old →
      w.snapshotDone = false ∧ w.initialLeft = 0)
    (haims : ∀ S, Standing s S → ¬ w.pc.Aims S ∧ .delete S.kvKey ∉ w.queue)
    (hsnapshot : ∀ S, Standing s S → w.snapshotDone = false →
      S.kvKey ∈ w.nextLive ∨ .put S.kvKey ∈ w.queue.take w.initialLeft)
    (hlive : ∀ S, Standing s S → w.snapshotDone = true ∨ (∃ old, w.pc = .filled old) →
      S.kvKey ∈ live ∨ .put S.kvKey ∈ w.queue) : Safe { s with watcher := w, live, ready } where
  rows := { inv.rows with }
  ending := hend
  kept S hS := by
    have hS : Standing s S := { hS with }
    have kept := inv.kept S hS
    exact ⟨⟨(haims S hS).1, kept.sweep, kept.dispatch, (haims S hS).2⟩, hsnapshot S hS, hlive S hS⟩

/-- The same between the callbacks. -/
lemma Safe.of_idle (inv : Safe s) {w : Watcher} (hpc : w.pc = .idle)
    (hdelete : ∀ S, Standing s S → .delete S.kvKey ∉ w.queue)
    (hsnapshot : ∀ S, Standing s S → w.snapshotDone = false →
      S.kvKey ∈ w.nextLive ∨ .put S.kvKey ∈ w.queue.take w.initialLeft)
    (hlive : ∀ S, Standing s S → w.snapshotDone = true → S.kvKey ∈ live ∨ .put S.kvKey ∈ w.queue) :
    Safe { s with watcher := w, live } := by
  refine inv.of_watcher ?_ (fun S hS => ⟨?_, hdelete S hS⟩) hsnapshot fun S hS h => ?_
  · rw [hpc]
    rintro old (h | h | h) <;> cases h
  · rw [hpc]
    exact id
  · rcases h with h | ⟨old, h⟩
    · exact hlive S hS h
    · cases hpc.symm.trans h

/-- The same inside `endOfData`, before the snapshot counts as done. -/
lemma Safe.of_ending (inv : Safe s) (hdone : s.watcher.snapshotDone = false)
    (hleft : s.watcher.initialLeft = 0) {pc : WatchPc} (haims : ∀ S, ¬ pc.Aims S)
    (hlive : ∀ S, Standing s S → (∃ old, pc = .filled old) →
      S.kvKey ∈ live ∨ .put S.kvKey ∈ s.watcher.queue) :
    Safe { s with watcher := { s.watcher with pc }, live } := by
  refine inv.of_watcher (fun _ _ => ⟨hdone, hleft⟩)
    (fun S hS => ⟨haims S, (inv.kept S hS).queue⟩) (fun S hS => (inv.kept S hS).snapshot)
    fun S hS h => ?_
  rcases h with h | h
  · cases hdone.symm.trans h
  · exact hlive S hS h

/-- The initial values of a new watch have the entry of every standing session, and no deletion of
its key. -/
lemma safe_subscribe (inv : Safe s) :
    Safe { s with
      watcher :=
        { queue := initialEvents s.bucket, initialLeft := (initialEvents s.bucket).length,
          subscribed := true } } := by
  refine inv.of_idle rfl (fun S hS h => ?_) (fun S hS _ => .inr ?_) (fun S hS h => by cases h)
  · obtain ⟨⟨key, m⟩, hm, heq⟩ := mem_map.mp h
    cases m with
    | entry writer => cases heq
    | tombstone =>
      cases heq
      have := AList.mem_lookup_iff.mpr (mem_reverse.mp hm)
      cases hS.entry.symm.trans this
  · rw [take_length]
    exact mem_map.mpr ⟨_, mem_reverse.mpr (AList.mem_lookup_iff.mp hS.entry), rfl⟩

/-- An event is delivered: the key of an entry moves from the queue into a set of live keys, and a
deletion is of another key. -/
lemma safe_deliver {e : WatchEvent} {queue : List WatchEvent} (inv : Safe s)
    (hpc : s.watcher.pc = .idle) (hqueue : s.watcher.queue = e :: queue) :
    Safe (s.deliver e queue) := by
  have hdelete : ∀ S, Standing s S → .delete S.kvKey ≠ e ∧ .delete S.kvKey ∉ queue := by
    intro S hS
    have := (inv.kept S hS).queue
    rwa [hqueue, mem_cons, not_or] at this
  -- the key of a standing session is there, or in the head of the queue, or in the rest
  have htake : ∀ S, Standing s S → s.watcher.snapshotDone = false →
      S.kvKey ∈ s.watcher.nextLive ∨ .put S.kvKey = e ∨
        .put S.kvKey ∈ queue.take (s.watcher.initialLeft - 1) := by
    intro S hS hdone
    refine ((inv.kept S hS).snapshot hdone).imp_right fun h => ?_
    rw [hqueue] at h
    cases hn : s.watcher.initialLeft with
    | zero =>
      rw [hn] at h
      cases h
    | succ n =>
      rwa [hn, take_succ_cons, mem_cons] at h
  have hlive : ∀ S, Standing s S → s.watcher.snapshotDone = true →
      S.kvKey ∈ s.live ∨ .put S.kvKey = e ∨ .put S.kvKey ∈ queue := by
    intro S hS hdone
    refine ((inv.kept S hS).live (.inl hdone)).imp_right fun h => ?_
    rwa [hqueue, mem_cons] at h
  have hne : ∀ {S key}, Standing s S → e = .delete key → S.kvKey ≠ key := by
    rintro S key hS rfl rfl
    exact (hdelete S hS).1 rfl
  cases hdone : s.watcher.snapshotDone <;> cases e <;>
    simp [deliver, hdone]
  case false.put key =>
    refine inv.of_idle hpc (fun S hS => (hdelete S hS).2) (fun S hS _ => ?_) fun S _ h => by cases h
    rcases htake S hS hdone with h | h | h
    · exact .inl (mem_insert_of_mem h)
    · cases h
      exact .inl mem_insert_self
    · exact .inr h
  case false.delete key =>
    refine inv.of_idle hpc (fun S hS => (hdelete S hS).2) (fun S hS _ => ?_) fun S _ h => by cases h
    rcases htake S hS hdone with h | h | h
    · exact .inl (mem_filter.mpr ⟨h, by simpa using hne hS rfl⟩)
    · cases h
    · exact .inr h
  case true.put key =>
    refine inv.of_idle hpc (fun S hS => (hdelete S hS).2) (fun S _ h => by cases h) fun S hS _ => ?_
    rcases hlive S hS hdone with h | h | h
    · exact .inl (mem_insert_of_mem h)
    · cases h
      exact .inl mem_insert_self
    · exact .inr h
  case true.delete key =>
    refine inv.of_watcher (by rintro old (h | h | h) <;> cases h)
      (fun S hS => ⟨?_, (hdelete S hS).2⟩) (fun S _ h => by cases h) fun S hS _ => ?_
    · rintro (h | h)
      · exact hne hS rfl h.symm
      · cases h
    · rcases hlive S hS hdone with h | h | h
      · exact .inl (mem_filter.mpr ⟨h, by simpa using hne hS rfl⟩)
      · cases h
      · exact .inr h

lemma safe_endOfData (inv : Safe s) (hdone : s.watcher.snapshotDone = false)
    (hleft : s.watcher.initialLeft = 0) :
    Safe { s with watcher := { s.watcher with pc := .copied s.live } } := by
  refine inv.of_ending hdone hleft (fun _ => id) fun S _ h => ?_
  obtain ⟨old, h⟩ := h
  cases h

/-- What comes after a lost key aims at the lost keys that are left. -/
lemma aims_next {S : Session} {rest : List String} :
    (WatchPc.next rest).Aims S ↔ S.kvKey ∈ rest := by
  cases rest with
  | nil => simp [WatchPc.next, WatchPc.Aims]
  | cons key rest => simp [WatchPc.next, WatchPc.Aims, Lost.Aims, eq_comm]

/-- It is no part of `endOfData`. -/
lemma after_ne (rest : List String) (l : Option Lost) (old : List String) :
    ¬ (after rest l = .copied old ∨ after rest l = .cleared old ∨ after rest l = .filled old) := by
  cases l with
  | some l => rintro (h | h | h) <;> cases h
  | none => cases rest <;> rintro (h | h | h) <;> cases h

lemma safe_watch (inv : Safe s) (h : s.watch σ s.watcher.pc = some s') : Safe s' := by
  cases hpc : s.watcher.pc with
  | idle =>
    rw [hpc] at h
    cases h
  | copied old =>
    rw [hpc] at h
    cases h
    obtain ⟨hdone, hleft⟩ := inv.ending old (.inl hpc)
    refine inv.of_ending hdone hleft (fun _ => id) fun S _ h => ?_
    obtain ⟨old, h⟩ := h
    cases h
  | cleared old =>
    rw [hpc] at h
    cases h
    obtain ⟨hdone, hleft⟩ := inv.ending old (.inr (.inl hpc))
    refine inv.of_ending hdone hleft (fun _ => id) fun S hS _ => .inl ?_
    -- the initial values are all there
    rcases (inv.kept S hS).snapshot hdone with h | h
    · exact mem_union_iff.mpr (.inr h)
    · rw [hleft] at h
      cases h
  | filled old =>
    rw [hpc] at h
    cases h
    obtain ⟨hdone, hleft⟩ := inv.ending old (.inr (.inr hpc))
    refine inv.of_watcher ?_ (fun S hS => ⟨fun haims => ?_, (inv.kept S hS).queue⟩)
      (fun S _ h => by cases h) fun S hS _ => (inv.kept S hS).live (.inr ⟨old, hpc⟩)
    · exact fun old' h => absurd h (after_ne _ none old')
    · have hlost := mem_filter.mp (aims_next.mp haims)
      rcases (inv.kept S hS).snapshot hdone with h | h
      · simp [h] at hlost
      · rw [hleft] at h
        cases h
  | lost l rest =>
    rw [hpc] at h
    cases h
    have hdb := shrinks_lost σ s.db l
    refine ⟨inv.rows.shrink hdb rfl (fun _ h => h) inv.rows.found, ?_, fun S hS => ?_⟩
    · exact fun old h => absurd h (after_ne _ _ old)
    have hS : Standing s S := hS.of_shrinks hdb rfl
    have kept := inv.kept S hS
    have haims : ¬ l.Aims S ∧ S.kvKey ∉ rest := by
      have := kept.watch
      rwa [hpc, WatchPc.Aims, not_or] at this
    refine ⟨⟨?_, kept.sweep, kept.dispatch, kept.queue⟩, kept.snapshot, fun h => ?_⟩
    · show ¬ (after rest (l.step σ s.db).2).Aims S
      cases hl : (l.step σ s.db).2 with
      | none => exact fun h => haims.2 (aims_next.mp h)
      | some l' =>
        rintro (h | h)
        · exact not_aims_step inv.rows hS haims.1 hl h
        · exact haims.2 h
    · refine kept.live (h.imp_right ?_)
      rintro ⟨old, h⟩
      exact absurd (.inr (.inr h)) (after_ne _ _ old)

end Watch

/-! ## The sweep and the dispatcher -/

section Others

variable {σ : Setting} {s s' : Threads} {db : Db} {pc : DispatchPc} {r : Registering}

/-- The sweep or the dispatcher goes on, and aims at nobody that stands. -/
lemma Safe.go (inv : Safe s) (hrows : Rows s') (hdb : s.db.Shrinks s'.db)
    (hbucket : s'.bucket = s.bucket) (hwatcher : s'.watcher = s.watcher)
    (hlive : ∀ S, Standing s S → S.kvKey ∈ s.live → S.kvKey ∈ s'.live)
    (hsweep : ∀ S, Standing s S → ¬ s'.sweep.Aims S)
    (hdispatch : ∀ S, Standing s S → ¬ s'.dispatch.Aims S) : Safe s' where
  rows := hrows
  ending := by
    rw [Ending, hwatcher]
    exact inv.ending
  kept S hS := by
    have hS := hS.of_shrinks hdb hbucket
    exact (inv.kept S hS).of_watcher hwatcher (hlive S hS) (hsweep S hS) (hdispatch S hS)

/-- The sweep alone goes on. -/
lemma Safe.sweep_on (inv : Safe s) {sweep : SweepPc} (h : ∀ S, Standing s S → ¬ sweep.Aims S) :
    Safe { s with sweep } :=
  inv.go { inv.rows with } (shrinks_of_eq rfl) rfl rfl (fun _ _ h => h) h
    fun S hS => (inv.kept S hS).dispatch

lemma safe_sweep (inv : Safe s) (h : s.sweepStep σ s.sweep = some s') : Safe s' := by
  have hdispatch : ∀ S, Standing s S → ¬ s.dispatch.Aims S := fun S hS => (inv.kept S hS).dispatch
  cases hpc : s.sweep with
  | idle =>
    rw [hpc] at h
    cases h
  | checking rest =>
    rw [hpc] at h
    cases rest with
    | nil =>
      cases h
      exact inv.sweep_on fun _ _ => id
    | cons key rest =>
      simp only [sweepStep] at h
      split at h <;> cases h
      · exact inv.sweep_on fun _ _ => id
      · next hnone =>
        refine inv.sweep_on fun S hS heq => ?_
        -- the entry of a standing session is there
        cases heq
        exact hnone _ hS.entry
  | gone key rest =>
    have hne : ∀ S, Standing s S → key ≠ S.kvKey := fun S hS => by
      have := (inv.kept S hS).sweep
      rwa [hpc] at this
    rw [hpc] at h
    cases h
    refine inv.go { inv.rows with } (shrinks_of_eq rfl) rfl rfl (fun S hS h => ?_)
      (fun S hS => hne S hS) hdispatch
    exact mem_filter.mpr ⟨h, by simpa using Ne.symm (hne S hS)⟩
  | lost l rest =>
    have haims : ∀ S, Standing s S → ¬ l.Aims S := fun S hS => by
      have := (inv.kept S hS).sweep
      rwa [hpc] at this
    rw [hpc] at h
    cases h
    have hdb := shrinks_lost σ s.db l
    refine inv.go (inv.rows.shrink hdb rfl (fun _ h => h) inv.rows.found) hdb rfl rfl
      (fun _ _ h => h) (fun S hS => ?_) hdispatch
    show ¬ (SweepPc.after rest (l.step σ s.db).2).Aims S
    cases hl : (l.step σ s.db).2 with
    | none => exact id
    | some l' => exact not_aims_step inv.rows hS (haims S hS) hl

/-- The dispatcher goes on with the request it has, and aims at nobody. -/
lemma Safe.dispatch_on (inv : Safe s) (hdb : s.db.Shrinks db)
    (hreg : ∀ r, pc.registering = some r → s.dispatch.registering = some r)
    (hfound : ∀ r row, pc = .check r row → ∀ S ∈ s.db.sessions, S.status = .active →
      Hits S row → S = row) (haims : ∀ S, Standing s S → ¬ pc.Aims S) :
    Safe { s with db, dispatch := pc } :=
  inv.go (inv.rows.shrink hdb rfl hreg hfound) hdb rfl rfl (fun _ _ h => h)
    (fun S hS => (inv.kept S hS).sweep) haims

/-- The dispatcher is done with registering. -/
lemma Safe.dispatch_off (inv : Safe s) (hdb : s.db.Shrinks db) (hoff : pc.registering = none) :
    Safe { s with db, dispatch := pc } := by
  refine inv.dispatch_on hdb (fun r h => by cases hoff.symm.trans h) ?_ fun S _ haims => ?_
  · rintro r row rfl
    cases hoff
  · cases pc <;> first | exact haims | cases hoff

lemma toAssign_registering (r : Registering) : (toAssign σ r).registering = some r := by
  simp only [toAssign]
  split <;> rfl

lemma not_aims_toAssign (r : Registering) (S : Session) : ¬ (toAssign σ r).Aims S := by
  simp only [toAssign]
  split <;> exact id

lemma toAssign_ne_check (r r' : Registering) (row : Session) : toAssign σ r ≠ .check r' row := by
  simp only [toAssign]
  split <;> intro h <;> cases h

lemma Safe.dispatch_assign (inv : Safe s) (hdb : s.db.Shrinks db)
    (hreg : s.dispatch.registering = some r) : Safe { s with db, dispatch := toAssign σ r } :=
  inv.dispatch_on hdb (fun _ h => hreg.trans ((toAssign_registering r).symm.trans h))
    (fun _ _ h => absurd h (toAssign_ne_check _ _ _)) fun S _ => not_aims_toAssign r S

/-- Recording a session with a new id adds at most its row. -/
lemma recordAndReply_db (σ : Setting) (db : Db) (uuid : String) (config : Option String)
    (req : RegisterRequest) (i : ℕ) (hnew : uuid ∉ db.sessions.map ownerSessionId) :
    (recordAndReply σ db uuid config req i).1 = db ∨
      ∃ row, row.ownerSessionId = uuid ∧ row.logicalId = req.logicalId ∧
        (recordAndReply σ db uuid config req i).1 =
          { db with sessions := db.sessions ++ [row] } := by
  simp only [recordAndReply, recordThrowing, attempt_none]
  generalize "svc." ++ σ.toLowerCase req.instanceType ++ "." ++ req.logicalId = kvKey
  cases hrec : db.recordSession uuid req.logicalId req.instanceType kvKey with
  | none => exact .inl rfl
  | some db' =>
    have hdb := recordSession_new (fun h => hnew (getSession_isSome.mp h)) hrec
    refine .inr ⟨⟨uuid, req.logicalId, req.instanceType, kvKey, .active⟩, rfl, rfl, ?_⟩
    cases config <;> rw [hdb]

/-- A new session: its id is new, so no entry is its own yet. -/
lemma Safe.record (inv : Safe s) {i : ℕ} (hpc : s.dispatch = .record r i)
    (hok : Consults s s.dispatch) :
    Safe { s with
      db := (recordAndReply σ s.db r.uuid r.config r.req i).1, dispatch := .idle } := by
  have huuid : r.uuid ∉ s.db.sessions.map ownerSessionId :=
    inv.rows.uuid r (by rw [hpc]; rfl)
  rw [hpc] at hok
  -- nothing is recorded, or one row at the end
  rcases recordAndReply_db σ s.db r.uuid r.config r.req i huuid with
    hsame | ⟨row, hid, hrow, hnew⟩
  · rw [hsame]
    exact inv.dispatch_off (shrinks_of_eq rfl) rfl
  have hold : ∀ S, Standing { s with
      db := (recordAndReply σ s.db r.uuid r.config r.req i).1, dispatch := .idle } S →
      Standing s S := by
    intro S hS
    have hmem := hS.mem
    rw [hnew, mem_append, mem_singleton] at hmem
    refine ⟨hmem.resolve_right ?_, hS.active, hS.entry⟩
    rintro rfl
    exact huuid (hid ▸ inv.rows.writers _ _ hS.entry)
  refine ⟨⟨?_, ?_, ?_, (fun _ h => by cases h), (fun _ _ h => by cases h)⟩, inv.ending,
    fun S hS => ?_⟩
  · rw [hnew, map_append, map_singleton, hid]
    exact nodup_append.mpr ⟨inv.rows.ids, nodup_singleton _, by
      rintro a ha b hb rfl
      exact huuid (mem_singleton.mp hb ▸ ha)⟩
  · intro S hS S' hS' h h' hlog
    rw [hnew, mem_append, mem_singleton] at hS hS'
    rcases hS with hS | rfl <;> rcases hS' with hS' | rfl
    · exact inv.rows.logical S hS S' hS' h h' hlog
    · exact absurd (hlog.trans hrow) (hok S hS h)
    · exact absurd (hlog.symm.trans hrow) (hok S' hS' h')
    · rfl
  · intro key id h
    rw [hnew, map_append]
    exact mem_append_left _ (inv.rows.writers key id h)
  · have kept := inv.kept S (hold S hS)
    exact kept.of_watcher rfl id kept.sweep id

lemma safe_dispatch (inv : Safe s) (hok : Consults s s.dispatch)
    (h : s.dispatchStep σ s.dispatch = some s') : Safe s' := by
  have hsame : s.db.Shrinks s.db := shrinks_of_eq rfl
  cases hpc : s.dispatch <;> rw [hpc] at h
  case idle => cases h
  case find r =>
    have hreg : s.dispatch.registering = some r := by rw [hpc]; rfl
    simp only [dispatchStep] at h
    split at h <;> cases h
    · exact inv.dispatch_assign hsame hreg
    · next row hfind =>
      obtain ⟨hmem, hactive⟩ := findSessionForLogical_spec hfind
      refine inv.dispatch_on hsame (fun r' h => hreg.trans h) ?_ fun _ _ => id
      rintro r' row' ⟨⟩ S hS h (hid | hlog)
      · exact eq_of_ids inv.rows.ids hS hmem hid.symm
      · exact inv.rows.logical S hS row hmem h hactive hlog.symm
  case check r row =>
    have hreg : s.dispatch.registering = some r := by rw [hpc]; rfl
    simp only [dispatchStep] at h
    split at h <;> cases h
    · exact inv.dispatch_off hsame rfl
    · next hnot =>
      refine inv.dispatch_on hsame (fun r' h => hreg.trans h) (fun _ _ h => by cases h)
        fun S hS hhits => ?_
      -- the key of a standing session is live by now
      obtain rfl := inv.rows.found r row hpc S hS.mem hS.active hhits
      rw [hpc] at hok
      rcases (inv.kept S hS).live (.inl hok.1) with hlive | hput
      · exact hnot (contains_iff_mem.mpr hlive)
      · exact hok.2 hput
  case fence r row =>
    have hreg : s.dispatch.registering = some r := by rw [hpc]; rfl
    have haims : ∀ S, Standing s S → ¬ Hits S row := fun S hS => by
      have := (inv.kept S hS).dispatch
      rwa [hpc] at this
    cases h
    have hdb := shrinks_setStatus s.db row.ownerSessionId
      (show SessionStatus.fenced ≠ .active by decide)
    split
    · exact inv.dispatch_on hdb (fun r' h => hreg.trans h) (fun _ _ h => by cases h) haims
    · exact inv.dispatch_assign hdb hreg
  case release r row =>
    cases h
    exact inv.dispatch_assign (shrinks_of_eq (releaseFor_sessions _ _)) (by rw [hpc]; rfl)
  case acquire r =>
    have hreg : s.dispatch.registering = some r := by rw [hpc]; rfl
    cases h
    have hdb := shrinks_of_eq
      (s.db.acquireInstanceId_sessions s.now σ.leaseTtl r.req.env r.req.logicalId)
    cases (s.db.acquireInstanceId s.now σ.leaseTtl r.req.env r.req.logicalId).2 with
    | none => exact inv.dispatch_off hdb rfl
    | some i =>
      exact inv.dispatch_on hdb (fun r' h => hreg.trans h) (fun _ _ h => by cases h) fun _ _ => id
  case record r i =>
    cases h
    exact inv.record hpc hok
  case deregister ownerSessionId row =>
    cases h
    refine inv.dispatch_off (shrinks_setStatus s.db ownerSessionId (by decide)) ?_
    cases row.filter fun x => σ.isEngine x.instanceType <;> rfl
  case giveBack row =>
    cases h
    exact inv.dispatch_off (shrinks_of_eq (releaseFor_sessions _ _)) rfl

end Others

/-! ## Whole runs -/

section Runs

variable {σ : Setting} {s s' : Threads} {S : Session} {db : Db}

lemma safe_start : Safe {} where
  rows :=
    { ids := nodup_nil
      logical := fun _ h => by cases h
      writers := fun _ _ h => by cases h
      uuid := fun _ h => by cases h
      found := fun _ _ h => by cases h }
  ending := by rintro old (h | h | h) <;> cases h
  kept _ hS := by cases hS.mem

lemma safe_step {a : Act} (inv : Safe s) (hok : CatchesUp s a) (h : s.step σ a = some s') :
    Safe s' := by
  cases a with
  | subscribe =>
    simp only [Threads.step] at h
    split at h <;> cases h
    exact safe_subscribe inv
  | deliver =>
    simp only [Threads.step] at h
    split at h <;> cases h
    exact safe_deliver inv ‹_› ‹_›
  | endOfData =>
    simp only [Threads.step] at h
    split at h <;> cases h
    next hcond => exact safe_endOfData inv (by simpa using hcond.2.2.1) hcond.2.2.2
  | watch => exact safe_watch inv h
  | sweepStart =>
    simp only [Threads.step] at h
    split at h <;> cases h
    exact inv.sweep_on fun _ _ => id
  | sweep => exact safe_sweep inv h
  | register r =>
    simp only [Threads.step] at h
    split at h
    · next hpc =>
      split at h
      · cases h
      · next hnew =>
        split at h <;> cases h
        · exact inv
        · have huuid : r.uuid ∉ s.db.sessions.map ownerSessionId := by
            rw [← Db.getSession_isSome]
            simp only [Bool.or_eq_true, not_or] at hnew
            exact hnew.2
          refine inv.go { inv.rows with uuid := ?_, found := ?_ } (Db.shrinks_of_eq rfl) rfl rfl
            (fun _ _ h => h) (fun S hS => (inv.kept S hS).sweep) fun _ _ => id
          · rintro r' ⟨⟩
            exact huuid
          · exact fun _ _ h => by cases h
    · cases h
  | deregister id =>
    simp only [Threads.step] at h
    split at h
    · split at h <;> cases h
      exact inv.dispatch_off (Db.shrinks_of_eq rfl) rfl
    · cases h
  | dispatch => exact safe_dispatch inv hok h
  | advance ms =>
    cases h
    exact inv.go { inv.rows with } (Db.shrinks_of_eq rfl) rfl rfl (fun _ _ h => h)
      (fun S hS => (inv.kept S hS).sweep) fun S hS => (inv.kept S hS).dispatch
  | put id =>
    simp only [Threads.step] at h
    split at h
    · cases h
    · obtain ⟨row, hrow, rfl⟩ := map_eq_some_iff.mp h
      exact inv.put hrow hok
  | foreignPut key =>
    cases h
    exact inv.message (fun _ hm => by cases hm) (fun he => by cases he) fun _ he => by cases he
  | heartbeat key =>
    simp only [Threads.step] at h
    split at h <;> cases h
    exact inv.message (fun _ _ => ‹_›) (fun he => by cases he) fun _ he => by cases he
  | delete key =>
    cases h
    exact inv.message (fun _ hm => by cases hm) (fun _ => rfl) fun k h => by cases h; rfl
  | expire key =>
    cases h
    exact inv.expire

/-- A statement of `handleDeregister`. -/
def Deregisters (s : Threads) (a : Act) : Prop :=
  a = .dispatch ∧ ((∃ id row, s.dispatch = .deregister id row) ∨ ∃ row, s.dispatch = .giveBack row)

/-- The transaction that leases a worker id, and takes over leases that have expired. -/
def LeasesId (s : Threads) (a : Act) : Prop :=
  a = .dispatch ∧ ∃ r, s.dispatch = .acquire r

/-- The row of the session and its leases are still there. -/
def Keeps (S : Session) (db db' : Db) : Prop :=
  S ∈ db'.sessions ∧ ∀ l ∈ db.leases, l.logicalId = S.logicalId → l ∈ db'.leases

lemma keeps_fence {row : Session} (hS : S ∈ db.sessions) (hhits : ¬ Hits S row) :
    Keeps S db (db.fenceSession row.ownerSessionId) :=
  ⟨mem_setStatus_of_ne hS fun h => hhits (.inl h), fun _ hl _ => hl⟩

lemma keeps_release {row : Session} (hS : S ∈ db.sessions) (hhits : ¬ Hits S row) :
    Keeps S db (releaseFor σ db row) := by
  refine ⟨by rwa [releaseFor_sessions], fun l hl hlog => mem_releaseFor hl fun _ heq => ?_⟩
  exact hhits (.inr (heq.symm.trans hlog))

/-- `onKvLost` keeps whom it does not aim at. -/
lemma keeps_lost {l : Lost} (hS : S ∈ db.sessions) (haims : ¬ l.Aims S) :
    Keeps S db (l.step σ db).1 := by
  cases l with
  | lookup key => exact ⟨hS, fun _ hl _ => hl⟩
  | fence row => exact keeps_fence hS haims
  | release row => exact keeps_release hS haims

/-- Only `onKvLost` and the dispatcher change the database. -/
lemma step_db {a : Act} (h : s.step σ a = some s') (hdispatch : a ≠ .dispatch) :
    s'.db = s.db ∨ ∃ l rest, (s.watcher.pc = .lost l rest ∨ s.sweep = .lost l rest) ∧
      s'.db = (l.step σ s.db).1 := by
  cases a with
  | dispatch => exact absurd rfl hdispatch
  | watch =>
    simp only [Threads.step, Threads.watch] at h
    split at h <;> cases h
    case h_5 l rest hpc => exact .inr ⟨l, rest, .inl hpc, rfl⟩
    all_goals exact .inl rfl
  | sweep =>
    simp only [Threads.step, sweepStep] at h
    split at h
    case h_5 l rest hpc =>
      cases h
      exact .inr ⟨l, rest, .inr hpc, rfl⟩
    all_goals
      repeat' split at h
      all_goals cases h <;> exact .inl rfl
  | deliver =>
    simp only [Threads.step] at h
    split at h <;> cases h
    next e queue _ _ =>
      cases e <;> simp only [Threads.deliver] <;> split <;> exact .inl rfl
  | put id =>
    simp only [Threads.step] at h
    split at h
    · cases h
    · obtain ⟨row, -, rfl⟩ := map_eq_some_iff.mp h
      exact .inl rfl
  | _ =>
    simp only [Threads.step] at h
    repeat' split at h
    all_goals cases h <;> exact .inl rfl

lemma keeps_dispatch (inv : Safe s) (hS : Standing s S) (hother : ¬ Deregisters s .dispatch)
    (h : s.dispatchStep σ s.dispatch = some s') :
    S ∈ s'.db.sessions ∧ ∀ l ∈ s.db.leases, l.logicalId = S.logicalId →
      (LeasesId s .dispatch → s.now ≤ l.leasedUntil) → l ∈ s'.db.leases := by
  have hkeeps : Keeps S s.db s'.db → S ∈ s'.db.sessions ∧ ∀ l ∈ s.db.leases,
      l.logicalId = S.logicalId → (LeasesId s .dispatch → s.now ≤ l.leasedUntil) →
        l ∈ s'.db.leases :=
    fun h => ⟨h.1, fun l hl hlog _ => h.2 l hl hlog⟩
  have haims := (inv.kept S hS).dispatch
  cases hpc : s.dispatch with
  | idle =>
    rw [hpc] at h
    cases h
  | find r | check r row =>
    simp only [hpc, dispatchStep] at h
    split at h <;> cases h <;> exact ⟨hS.mem, fun _ hl _ _ => hl⟩
  | fence r row =>
    rw [hpc] at h haims
    cases h
    exact hkeeps (keeps_fence hS.mem haims)
  | release r row =>
    rw [hpc] at h haims
    cases h
    exact hkeeps (keeps_release hS.mem haims)
  | acquire r =>
    rw [hpc] at h
    cases h
    refine ⟨?_, fun l hl hlog htime => acquireInstanceId_keeps hl (.inr ?_)⟩
    · show S ∈ (s.db.acquireInstanceId _ _ _ _).1.sessions
      rw [acquireInstanceId_sessions]
      exact hS.mem
    · exact htime ⟨rfl, r, hpc⟩
  | record r i =>
    have huuid := inv.rows.uuid r (by rw [hpc]; rfl)
    rw [hpc] at h
    cases h
    refine hkeeps ?_
    show Keeps S s.db (recordAndReply σ s.db r.uuid r.config r.req i).1
    rcases recordAndReply_db σ s.db r.uuid r.config r.req i huuid with
      hsame | ⟨row, -, -, hnew⟩
    · rw [hsame]
      exact ⟨hS.mem, fun _ hl _ => hl⟩
    · rw [hnew]
      exact ⟨mem_append_left _ hS.mem, fun _ hl _ => hl⟩
  | deregister id row => exact absurd ⟨rfl, .inl ⟨id, row, hpc⟩⟩ hother
  | giveBack row => exact absurd ⟨rfl, .inr ⟨row, hpc⟩⟩ hother

/-- **Pilot keeps a standing session.**  In every run that catches up, a statement of `onKvLost` or
`handleRegister`, or of any thread but for `handleDeregister`, leaves the row and the leases of a
standing session as they are; the transaction that leases a worker id does so for leases that have
not expired. -/
theorem standing_session_kept {acts : List Act} {S : Session} {a : Act}
    (hrun : run (Threads.step σ) {} acts = some s)
    (hok : Guarded (Threads.step σ) CatchesUp {} acts) (hS : Standing s S)
    (hstep : s.step σ a = some s') (hother : ¬ Deregisters s a) :
    S ∈ s'.db.sessions ∧ ∀ l ∈ s.db.leases, l.logicalId = S.logicalId →
      (LeasesId s a → s.now ≤ l.leasedUntil) → l ∈ s'.db.leases := by
  have inv : Safe s :=
    run_invariant (fun _ _ _ inv hok h => safe_step inv hok h) safe_start hok hrun
  have kept := inv.kept S hS
  by_cases hdispatch : a = .dispatch
  · subst hdispatch
    exact keeps_dispatch inv hS hother hstep
  rcases step_db hstep hdispatch with hdb | ⟨l, rest, hpc, hdb⟩ <;> rw [hdb]
  · exact ⟨hS.mem, fun _ hl _ _ => hl⟩
  · have haims : ¬ l.Aims S := by
      rcases hpc with hpc | hpc
      · exact fun h => kept.watch (hpc ▸ .inl h)
      · exact fun h => kept.sweep (hpc ▸ h)
    obtain ⟨hmem, hleases⟩ := keeps_lost hS.mem haims
    exact ⟨hmem, fun l hl hlog _ => hleases l hl hlog⟩

end Runs

open Pilot.Sample

/-- Pilot starts: the watch is set up and finds an empty bucket. -/
def Sample.boot : List Act := [.subscribe, .endOfData, .watch, .watch, .watch]

/-- The engine registers, and is recorded. -/
def Sample.recorded (uuid : String) : List Act :=
  [.register
    { req := { token := "t1", logicalId := "e1", instanceType := "ENGINE", env := "prod" }
      uuid, config := some "config" },
    .dispatch, .dispatch, .dispatch]

/-- A second registration of the engine, when the watch has delivered the entry of the first. -/
theorem standing_session_kept_by_duplicate :
    let acts := boot ++ recorded "s1" ++ [.put "s1", .deliver] ++
      (recorded "s2").take 2
    ∃ s ∈ run (Threads.step setting) {} acts, ∃ S ∈ s.db.sessions, Standing s S ∧
      ∃ s' ∈ s.step setting .dispatch, S ∈ s'.db.sessions := by
  intro acts
  obtain ⟨s, hs, ⟨S, hmem, hS⟩, hpc, hstep⟩ :
      ∃ s ∈ run (Threads.step setting) {} acts, (∃ S ∈ s.db.sessions, Standing s S) ∧
        (match s.dispatch with | .check _ _ => true | _ => false) = true ∧
        (s.step setting .dispatch).isSome := by
    decide +kernel
  obtain ⟨s', hs'⟩ := isSome_iff_exists.mp hstep
  have hother : ¬ Deregisters s .dispatch := by
    rintro ⟨-, ⟨id, row, h⟩ | ⟨row, h⟩⟩ <;> rw [h] at hpc <;> cases hpc
  exact ⟨s, hs, S, hmem, hS, s', hs',
    (standing_session_kept hs (by decide +kernel) hS hs' hother).1⟩

/-- The engine's first instance deletes its entry and deregisters; the second one registers and
writes its entry; then the watch delivers the deletion, and the second session is fenced. -/
theorem late_deletion_fences_successor :
    let acts := boot ++ recorded "s1" ++ [.put "s1", .deliver,
      .delete "svc.ENGINE.e1", .deregister "s1", .dispatch, .dispatch] ++ recorded "s2" ++
      [.put "s2", .deliver, .watch]
    ∃ s ∈ run (Threads.step setting) {} acts, ∃ S ∈ s.db.sessions,
      S.ownerSessionId = "s2" ∧ Standing s S ∧
        ∃ s' ∈ s.step setting .watch, { S with status := .fenced } ∈ s'.db.sessions ∧
          ∃ s'' ∈ s'.step setting .watch, s.db.leases.length = 1 ∧ s''.db.leases = [] := by
  decide +kernel

end Zkbot.Pilot
