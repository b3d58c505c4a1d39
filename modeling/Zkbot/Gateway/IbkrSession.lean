import Zkbot.Core.Run
import Mathlib.Data.Nat.Notation
import Mathlib.Tactic.SplitIfs

/-!
# The session of the IBKR adaptor

`IbkrConnection` keeps the state of the session, and `place_order` goes by it.  The state is written
by `connect`, by the reconnect loop, and by the callbacks for a lost socket and for the connectivity
codes.  Code 1100 takes the session out of `LIVE`; the codes 1101 and 1102 say that the link is
back, but only tell the host so.  The socket is still open then, so that no reconnect loop runs
either, and the session stays degraded.  And the loop is alive until it has set `LIVE`: a socket
lost just before that starts no other one.

* `IbkrConnection`, `step` — `connect` and the loop with their suspension points, the callbacks and
  the codes.
* `heeded` — the condition on a step; `Sound` — the invariant.
-/

namespace Zkbot

/-! ## The connection -/

/-- The connection states. -/
inductive SessionState where
  | disconnected | connecting | waitingHandshake | live | degraded | reconnecting
  deriving DecidableEq

def SessionState.text : SessionState → String
  | .disconnected => "disconnected"
  | .connecting => "connecting"
  | .waitingHandshake => "waiting_handshake"
  | .live => "live"
  | .degraded => "degraded"
  | .reconnecting => "reconnecting"

/-- Where a coroutine that connects is suspended: in `connectAsync`, in the wait for the handshake,
or past it and about to resume. -/
inductive ConnectAttempt where
  | connecting | waiting | woken
  deriving DecidableEq

/-- The first `connect`. -/
inductive ConnectCall where
  | trying (a : ConnectAttempt)
  | succeeded
  | failed
  deriving DecidableEq

/-- `_reconnect_task`; idle if there is none, or it is done. -/
inductive ReconnectTask where
  | idle | scheduled | sleeping
  | trying (a : ConnectAttempt)
  deriving DecidableEq

inductive Connector where
  | connect | loop
  deriving DecidableEq

structure SystemEvent where
  eventType : String
  message : String
  deriving DecidableEq

structure IbkrConnection where
  state : SessionState
  /-- `_handshake_event` -/
  handshake : Bool := false
  connect : ConnectCall := .trying .connecting
  loop : ReconnectTask := .idle
  /-- the number of the loop's attempt -/
  attempt : ℕ := 0
  systemEvents : List SystemEvent := []
  /-- the socket to the gateway process -/
  socketUp : Bool := false
  /-- ghost: the last connectivity event reported the link as up -/
  linkUp : Bool := false
  deriving DecidableEq

open IbkrConnection

/-- The connectivity codes. -/
inductive ConnectivityCode where
  | lost | restoredDataLost | restoredDataOk | socketPortReset
  deriving DecidableEq

inductive SessionEvent where
  /-- `connectedEvent`, and whether `getReqId` returns -/
  | connected (reqId : Bool)
  | disconnected
  | error (code : ConnectivityCode) (errorString : String)
  | connectReturns (c : Connector)
  | connectRaises (c : Connector)
  | handshakeSeen (c : Connector)
  | handshakeTimeout (c : Connector)
  | resume (c : Connector)
  | loopStarts
  | loopWakes

namespace IbkrConnection

/-- `connect`, up to its first suspension. -/
def start : IbkrConnection := { state := .connecting }

def pushSystemEvent (eventType message : String) (s : IbkrConnection) : IbkrConnection :=
  { s with systemEvents := s.systemEvents ++ [⟨eventType, message⟩] }

section

variable (s : IbkrConnection)

def scheduleReconnect : IbkrConnection :=
  { s with loop := if s.loop = .idle then .scheduled else s.loop }

/-- Where a connecting coroutine is. -/
def trying : Connector → Option ConnectAttempt
  | .connect => match s.connect with
      | .trying a => some a
      | .succeeded | .failed => none
  | .loop => match s.loop with
      | .trying a => some a
      | .idle | .scheduled | .sleeping => none

def setTrying (a : ConnectAttempt) (s : IbkrConnection) : Connector → IbkrConnection
  | .connect => { s with connect := .trying a }
  | .loop => { s with loop := .trying a }

/-- A `connectAsync` is under way, or its handshake is awaited. -/
def Pending : Prop :=
  (s.connect = .trying .connecting ∨ s.connect = .trying .waiting) ∨
    s.loop = .trying .connecting ∨ s.loop = .trying .waiting
deriving Decidable

/-- A coroutine has its handshake and is about to set `LIVE`. -/
def Woken : Prop := s.connect = .trying .woken ∨ s.loop = .trying .woken
deriving Decidable

def onConnected (reqId : Bool) (s : IbkrConnection) : IbkrConnection :=
  { s with handshake := reqId || s.handshake, socketUp := true, linkUp := true }

def onDisconnected : IbkrConnection :=
  scheduleReconnect (pushSystemEvent "disconnected" "connection lost"
    { s with state := .degraded, handshake := false, socketUp := false, linkUp := false })

/-- `_on_error`, for the connectivity codes. -/
def onError (errorString : String) (s : IbkrConnection) : ConnectivityCode → IbkrConnection
  | .lost => pushSystemEvent "disconnected" ("[1100] " ++ errorString)
      { s with state := .degraded, handshake := false, linkUp := false }
  | .restoredDataLost => pushSystemEvent "connected" ("[1101] " ++ errorString)
      { s with linkUp := true }
  | .restoredDataOk => pushSystemEvent "connected" ("[1102] " ++ errorString)
      { s with linkUp := true }
  | .socketPortReset => scheduleReconnect (pushSystemEvent "reconnecting"
      ("[1300] " ++ errorString) { s with linkUp := false })

/-- An attempt of the loop fails: it sleeps before the next one. -/
def retry : IbkrConnection :=
  { s with state := .reconnecting, loop := .sleeping, attempt := s.attempt + 1 }

/-- `connectAsync` raises. -/
def connectRaises : Connector → IbkrConnection
  | .connect => { s with state := .disconnected, connect := .failed }
  | .loop => s.retry

/-- The handshake does not come in time. -/
def handshakeTimeout : Connector → IbkrConnection
  | .connect => { s with state := .degraded, connect := .failed }
  | .loop => s.retry

/-- The rest of `connect`, or of the loop, after the handshake. -/
def resume : Connector → IbkrConnection
  | .connect => { s with state := .live, connect := .succeeded }
  | .loop => pushSystemEvent "connected" ("reconnected on attempt " ++ toString s.attempt)
      { s with state := .live, loop := .idle }

def step : SessionEvent → Option IbkrConnection
  | .connected reqId => if s.Pending then some (s.onConnected reqId) else none
  | .disconnected => some s.onDisconnected
  | .error code errorString => some (s.onError errorString code)
  | .connectReturns c =>
    if s.trying c = some .connecting then
      some ({ s with state := .waitingHandshake }.setTrying .waiting c)
    else none
  | .connectRaises c => if s.trying c = some .connecting then some (s.connectRaises c) else none
  | .handshakeSeen c =>
    if s.trying c = some .waiting ∧ s.handshake then some (s.setTrying .woken c) else none
  | .handshakeTimeout c =>
    if s.trying c = some .waiting then some (s.handshakeTimeout c) else none
  | .resume c => if s.trying c = some .woken then some (s.resume c) else none
  | .loopStarts =>
    if s.loop = .scheduled then
      some { s with state := .reconnecting, loop := .sleeping, attempt := 1 }
    else none
  | .loopWakes =>
    if s.loop = .sleeping then
      some { s with handshake := false, state := .connecting, loop := .trying .connecting }
    else none

/-- The answer of `place_order` if it refuses. -/
def refusal (readOnly : Bool) (s : IbkrConnection) : Option String :=
  if readOnly then some "adaptor is in read-only mode"
  else if s.state ≠ .live then some ("not connected (state=" ++ s.state.text ++ ")")
  else none

/-- The condition on a step: no code says that the link is back to a session that 1100 has taken
out of `LIVE`, and nothing says that it is gone when a coroutine already has its handshake. -/
def heeded : SessionEvent → Bool
  | .error .restoredDataLost _ | .error .restoredDataOk _ =>
    s.connect = .succeeded ∧ s.loop = .idle → s.state = .live
  | .error .lost _ | .disconnected => ¬ s.Woken
  | .error .socketPortReset _ => ¬ s.Woken ∧ ¬ (s.Pending ∧ s.handshake)
  | _ => true

/-! ## The invariant -/

/-- What holds between the steps of a run in which all are heeded. -/
structure Sound : Prop where
  /-- a handshake that somebody is going to see is that of an open socket -/
  shaken : s.Pending → s.handshake → s.socketUp ∧ s.linkUp
  woken : s.Woken → s.socketUp ∧ s.linkUp
  follows : s.connect = .succeeded → s.loop = .idle → (s.state = .live ↔ s.linkUp)
  socket : s.connect = .succeeded → s.loop = .idle → s.socketUp
  live : s.state = .live → s.socketUp

end

section

variable {s s' : IbkrConnection} {e : SessionEvent}

lemma trying_loop {a : ConnectAttempt} : s.trying .loop = some a ↔ s.loop = .trying a := by
  simp only [trying]
  split <;> simp_all

lemma sound_start : Sound start where
  shaken := nofun
  woken := fun h => by rcases h with h | h <;> cases h
  follows := nofun
  socket := nofun
  live := nofun

/-! ## Steps -/

lemma sound_step (h : Sound s) (hok : s.heeded e) (hs : s.step e = some s') : Sound s' := by
  obtain ⟨shaken, woken, follows, socket, live⟩ := h
  cases e with
  | connected reqId =>
    -- the callback comes to a coroutine that is connecting
    constructor <;> grind -linarith [step, onConnected, Pending, Woken]
  | disconnected =>
    constructor <;>
      grind -linarith [step, onDisconnected, pushSystemEvent, scheduleReconnect, Pending, Woken,
        heeded]
  | error code errorString =>
    cases code <;> constructor <;>
      grind -linarith [step, onError, pushSystemEvent, scheduleReconnect, Pending, Woken, heeded]
  | connectReturns c =>
    cases c <;> constructor <;> grind -linarith [step, trying, setTrying, Pending, Woken]
  | connectRaises c =>
    cases c <;> constructor <;> grind -linarith [step, trying, connectRaises, retry, Pending, Woken]
  | handshakeSeen c =>
    -- a handshake that a coroutine sees is that of an open socket
    cases c <;> constructor <;> grind -linarith [step, trying, setTrying, Pending, Woken]
  | handshakeTimeout c =>
    cases c <;> constructor <;>
      grind -linarith [step, trying, handshakeTimeout, retry, Pending, Woken]
  | resume c =>
    -- `LIVE` is set for a link that is up
    cases c <;> constructor <;>
      grind -linarith [step, trying, resume, pushSystemEvent, Pending, Woken]
  | loopStarts | loopWakes => constructor <;> grind -linarith [step, Pending, Woken]

lemma sound_run {es : List SessionEvent} (hg : Guarded step (fun s e => s.heeded e) start es)
    (hr : run step start es = some s) : Sound s :=
  run_invariant (fun _ _ _ h hok hs => sound_step h hok hs) sound_start hg hr

/-! ## Orders -/

lemma refusal_eq_none : s.refusal false = none ↔ s.state = .live := by
  simp [refusal]

/-- Some steps lead to a session that takes orders. -/
def Recovers (s : IbkrConnection) : Prop :=
  ∃ es s', run step s es = some s' ∧ s'.refusal false = none

lemma Recovers.of_step (hs : s.step e = some s') (h : Recovers s') : Recovers s := by
  obtain ⟨es, t, hr, ht⟩ := h
  exact ⟨e :: es, t, run_cons_eq_some.mpr ⟨s', hs, hr⟩, ht⟩

lemma recovers_woken (h : s.loop = .trying .woken) : Recovers s :=
  .of_step (e := .resume .loop) (if_pos (trying_loop.mpr h)) ⟨[], _, rfl, refusal_eq_none.mpr rfl⟩

lemma recovers_waiting (h : s.loop = .trying .waiting) : Recovers s := by
  refine .of_step (e := .connected true) (if_pos (.inr (.inr h))) ?_
  refine .of_step (e := .handshakeSeen .loop) (if_pos ⟨trying_loop.mpr h, rfl⟩) ?_
  exact recovers_woken rfl

lemma recovers_connecting (h : s.loop = .trying .connecting) : Recovers s :=
  .of_step (e := .connectReturns .loop) (if_pos (trying_loop.mpr h)) (recovers_waiting rfl)

lemma recovers_sleeping (h : s.loop = .sleeping) : Recovers s :=
  .of_step (e := .loopWakes) (if_pos h) (recovers_connecting rfl)

/-- A loop that runs ends with a session that takes orders once the venue can be reached. -/
lemma recovers_of_loop (h : s.loop ≠ .idle) : Recovers s := by
  rcases hl : s.loop with _ | _ | _ | _ | _ | _
  · exact absurd hl h
  · exact .of_step (e := .loopStarts) (if_pos hl) (recovers_sleeping rfl)
  · exact recovers_sleeping hl
  · exact recovers_connecting hl
  · exact recovers_waiting hl
  · exact recovers_woken hl

/-- **The session follows the link** in a run in which every step is heeded.  When no loop runs, the
state is `LIVE` exactly if the link was last reported up, and the socket is open.  So an order is
taken only on an open socket, it is taken when the link is up and no loop runs, and a loop that runs
can end with a session that takes orders. -/
theorem session_follows_link {es : List SessionEvent} {s : IbkrConnection}
    (hg : Guarded step (fun s e => s.heeded e) start es) (hr : run step start es = some s)
    (hc : s.connect = .succeeded) :
    (s.loop = .idle → (s.state = .live ↔ s.linkUp)) ∧ (s.socketUp = false → s.loop ≠ .idle) ∧
      (∀ readOnly, s.refusal readOnly = none → s.socketUp) ∧
      (s.loop = .idle → s.linkUp → s.refusal false = none) ∧
      (s.loop ≠ .idle → s.Recovers) := by
  have hsound : Sound s := sound_run hg hr
  refine ⟨hsound.follows hc, ?_, ?_, ?_, recovers_of_loop⟩
  · intro hdown hl
    rw [hsound.socket hc hl] at hdown
    cases hdown
  · intro readOnly hnone
    cases readOnly with
    | true => cases hnone
    | false => exact hsound.live (refusal_eq_none.mp hnone)
  · intro hl hup
    exact refusal_eq_none.mpr ((hsound.follows hc hl).mpr hup)

end

end IbkrConnection

/-- The first connect, without a disturbance. -/
def Sample.firstConnect : List SessionEvent :=
  [.connected true, .connectReturns .connect, .handshakeSeen .connect, .resume .connect]

/-- The loop reconnects, up to its handshake. -/
def Sample.reconnect : List SessionEvent :=
  [.loopStarts, .loopWakes, .connected true, .connectReturns .loop, .handshakeSeen .loop]

open Sample

/-- A lost socket is replaced, and the session is live again. -/
theorem session_follows_reconnect :
    ∃ s ∈ run step .start (firstConnect ++ [.disconnected] ++ reconnect ++ [.resume .loop]),
      s.connect = .succeeded ∧ s.loop = .idle ∧ s.linkUp = true ∧ s.state = .live := by
  refine exists_mem_imp
    (P := fun s => s.connect = .succeeded ∧ s.loop = .idle ∧ s.linkUp = true)
    (by decide +kernel) ?_
  rintro s hs ⟨hc, hl, hup⟩
  have hlink := session_follows_link (by decide +kernel) hs hc
  exact ⟨hc, hl, hup, (hlink.1 hl).mpr hup⟩

/-- The codes that start no loop. -/
def SessionEvent.keepsLoop : SessionEvent → Bool
  | .error .socketPortReset _ => false
  | .error _ _ => true
  | _ => false

/-- A degraded session with an open socket stays degraded whatever the venue says about the link. -/
lemma IbkrConnection.degraded_run {s t : IbkrConnection} {es : List SessionEvent}
    (h : s.connect = .succeeded ∧ s.loop = .idle ∧ s.state = .degraded)
    (hes : ∀ e ∈ es, e.keepsLoop) (hr : run step s es = some t) :
    t.connect = .succeeded ∧ t.loop = .idle ∧ t.state = .degraded := by
  refine run_invariant (I := fun s => s.connect = .succeeded ∧ s.loop = .idle ∧ s.state = .degraded)
    ?_ h (guarded_of_mem hes) hr
  intro s e s' h hok hs
  cases e with
  | error code errorString =>
    cases hs
    cases code with
    | lost => exact ⟨h.1, h.2.1, rfl⟩
    | restoredDataLost => exact h
    | restoredDataOk => exact h
    | socketPortReset => cases hok
  | _ => cases hok

/-- Code 1100 and then 1102: the host has been told that the link is up, the socket is open and no
loop runs, but orders are refused, and go on being refused however often 1101 and 1102 are repeated.
And a socket that is lost after the handshake of the loop and before the loop resumes leaves a live
session on a dead socket, with no loop. -/
theorem restored_link_stays_refused :
    (∃ s ∈ run step .start (firstConnect ++
        [.error .lost "Lost connection", .error .restoredDataOk "Restored"]),
      s.connect = .succeeded ∧ s.loop = .idle ∧ s.socketUp = true ∧ s.linkUp = true ∧
      s.systemEvents.getLast? = some ⟨"connected", "[1102] Restored"⟩ ∧
      ∀ es s', (∀ e ∈ es, e.keepsLoop) → run step s es = some s' →
          s'.refusal false = some "not connected (state=degraded)") ∧
    ∃ s ∈ run step .start (firstConnect ++ [.disconnected] ++
        reconnect ++ [.disconnected, .resume .loop]),
      s.connect = .succeeded ∧ s.loop = .idle ∧ s.socketUp = false ∧ s.refusal false = none := by
  constructor
  · refine exists_mem_imp (P := fun s => s.connect = .succeeded ∧ s.loop = .idle ∧
      s.state = .degraded ∧ s.socketUp = true ∧ s.linkUp = true ∧
      s.systemEvents.getLast? = some ⟨"connected", "[1102] Restored"⟩) (by decide +kernel) ?_
    rintro s - ⟨hc, hl, hstate, hrest⟩
    refine ⟨hc, hl, hrest.1, hrest.2.1, hrest.2.2, fun es s' hes hr => ?_⟩
    have hdegraded := (degraded_run ⟨hc, hl, hstate⟩ hes hr).2.2
    simp [refusal, hdegraded, SessionState.text]
  · decide +kernel

end Zkbot
