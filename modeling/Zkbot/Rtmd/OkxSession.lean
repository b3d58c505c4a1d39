import Zkbot.Rtmd.Subscriptions

/-!
# The OKX market-data session

The OKX adapter of the market-data gateway.  Calls of `subscribe` and `unsubscribe` write its maps
at once and queue a command for the socket; a new socket subscribes to everything that is active,
and then gets the commands that are still queued.  The maps of streams go by `StreamKey`, those of
the venue by channel and instrument: two order books of different depths, or two codes of one
instrument, are one pair there.

* `intent` — what the queued commands will make of a pair.
* `Separate` — a stream is subscribed once, and when it is unsubscribed it is the only one of its
  pair.  Then the session matches the active streams (`session_matches`).
-/

namespace Zkbot

open Dict

/-- A channel and the instrument's id at OKX. -/
abbrev OkxPair := String × String

inductive WsCommand where
  | subscribe (pair : OkxPair)
  | unsubscribe (pair : OkxPair)
  deriving DecidableEq

namespace WsCommand

def pair : WsCommand → OkxPair
  | subscribe pair | unsubscribe pair => pair

def on : WsCommand → Bool
  | subscribe _ => true
  | unsubscribe _ => false

/-- What the venue makes of a command. -/
def perform (subscribed : Finset OkxPair) : WsCommand → Finset OkxPair
  | subscribe pair => insert pair subscribed
  | unsubscribe pair => subscribed.erase pair

lemma mem_perform {S : Finset OkxPair} {c : WsCommand} {p : OkxPair} :
    p ∈ c.perform S ↔ if c.pair = p then c.on = true else p ∈ S := by
  cases c <;> simp only [perform, pair, on, Finset.mem_insert, Finset.mem_erase] <;> grind

end WsCommand

/-- `OkxRtmdAdapter` with its queue, and what the venue has subscribed on the socket that is up. -/
structure OkxRtmdAdapter where
  activeSubs : Dict StreamKey OkxPair := ∅
  reverseMap : Dict OkxPair String := ∅
  commands : List WsCommand := []
  session : Option (Finset OkxPair) := none

inductive OkxEvent where
  | subscribe (spec : RtmdSubscriptionSpec)
  | unsubscribe (spec : RtmdSubscriptionSpec)
  /-- the socket task takes the next command -/
  | command
  | disconnect
  | connect

namespace OkxRtmdAdapter

/-- `resolve_okx_sub`; `none` is an error. -/
def resolveOkxSub (spec : RtmdSubscriptionSpec) : Option OkxPair :=
  match spec.streamKey.channel with
  | .tick => some ("tickers", spec.instrumentExch)
  | .orderBook depth =>
    if depth.all (· ≤ 5) then some ("books5", spec.instrumentExch) else none
  | .kline interval => some ("candle" ++ interval, spec.instrumentExch)
  | .funding => some ("funding-rate", spec.instrumentExch)

section

variable (s : OkxRtmdAdapter)

def subscribe (spec : RtmdSubscriptionSpec) : OkxRtmdAdapter :=
  match resolveOkxSub spec with
  | none => s
  | some pair =>
    { s with
      reverseMap := s.reverseMap.insert pair spec.streamKey.instrumentCode
      activeSubs := s.activeSubs.insert spec.streamKey pair
      commands := s.commands ++ [.subscribe pair] }

def unsubscribe (spec : RtmdSubscriptionSpec) : OkxRtmdAdapter :=
  match resolveOkxSub spec with
  | none => s
  | some pair =>
    { s with
      activeSubs := s.activeSubs.erase spec.streamKey
      reverseMap := s.reverseMap.erase pair
      commands := s.commands ++ [.unsubscribe pair] }

/-- The pairs of the active streams. -/
def image : Finset OkxPair := (s.activeSubs.entries.map (·.2)).toFinset

/-- The instrument code that `handle_ws_message` gives to a push. -/
def label (pair : OkxPair) : String := s.reverseMap.getD pair pair.2

/-- One step.  A command that is taken for a socket that is gone is lost. -/
def step : OkxEvent → Option OkxRtmdAdapter
  | .subscribe spec => some (s.subscribe spec)
  | .unsubscribe spec => some (s.unsubscribe spec)
  | .command =>
    match s.commands with
    | [] => none
    | c :: commands => some { s with commands, session := s.session.map c.perform }
  | .disconnect => some { s with session := none }
  | .connect => if s.session.isSome then none else some { s with session := some s.image }

/-- The queued commands will leave a pair subscribed or not, or say nothing of it. -/
def intent (pair : OkxPair) : List WsCommand → Option Bool
  | [] => none
  | c :: commands => (intent pair commands).or (if c.pair = pair then some c.on else none)

/-- A stream is subscribed once, and when it is unsubscribed no other stream has its pair. -/
def Separate : OkxEvent → Prop
  | .subscribe spec => s.activeSubs.lookup spec.streamKey = none
  | .unsubscribe spec =>
    ∀ pair ∈ resolveOkxSub spec, ∀ e ∈ s.activeSubs.entries, e.1 = spec.streamKey ↔ e.2 = pair
  | .command | .disconnect | .connect => True

instance (e : OkxEvent) : Decidable (Separate s e) := by
  cases e <;> dsimp only [Separate] <;> infer_instance

/-- Where the queue says nothing of a pair the session has it right, and where it does it will. -/
structure Follows : Prop where
  queued : ∀ pair b, intent pair s.commands = some b → (b = true ↔ pair ∈ s.image)
  settled : ∀ S, s.session = some S → ∀ pair, intent pair s.commands = none →
    (pair ∈ S ↔ pair ∈ s.image)
  labels : ∀ k pair, s.activeSubs.lookup k = some pair →
    ∃ k', s.activeSubs.lookup k' = some pair ∧ s.reverseMap.lookup pair = some k'.instrumentCode

end

variable {s s' : OkxRtmdAdapter}

lemma mem_image {pair : OkxPair} : pair ∈ s.image ↔ ∃ k, s.activeSubs.lookup k = some pair := by
  simp only [image, List.mem_toFinset, List.mem_map]
  constructor
  · rintro ⟨⟨k, p⟩, hmem, rfl⟩
    exact ⟨k, mem_entries_iff.mp hmem⟩
  · rintro ⟨k, hk⟩
    exact ⟨⟨k, pair⟩, mem_entries_iff.mpr hk, rfl⟩

/-- The last command counts. -/
lemma intent_append (pair : OkxPair) (commands : List WsCommand) (c : WsCommand) :
    intent pair (commands ++ [c]) = if c.pair = pair then some c.on else intent pair commands := by
  induction commands with
  | nil => simp [intent]
  | cons d commands ih =>
    rw [List.cons_append, intent, ih, intent]
    split_ifs <;> simp

/-- A call changes the active streams as the command that it queues will change the session. -/
lemma Follows.call (h : Follows s) {c : WsCommand} (hcommands : s'.commands = s.commands ++ [c])
    (hsession : s'.session = s.session) (himage : s'.image = c.perform s.image)
    (labels : ∀ k pair, s'.activeSubs.lookup k = some pair → ∃ k',
      s'.activeSubs.lookup k' = some pair ∧ s'.reverseMap.lookup pair = some k'.instrumentCode) :
    Follows s' := by
  refine ⟨fun pair b hb => ?_, fun S hS pair hnone => ?_, labels⟩ <;>
    rw [hcommands, intent_append] at * <;> rw [himage, WsCommand.mem_perform] <;> split_ifs at *
  · simp_all
  · exact h.queued pair b hb
  · exact h.settled S (hsession ▸ hS) pair hnone

lemma Follows.step {e : OkxEvent} (h : Follows s) (hok : Separate s e) (hs : s.step e = some s') :
    Follows s' := by
  cases e with
  | subscribe spec =>
    obtain rfl : s.subscribe spec = s' := by simpa [OkxRtmdAdapter.step] using hs
    cases hpair : resolveOkxSub spec with
    | none => simpa [subscribe, hpair] using h
    | some pair =>
      have hnew : s.activeSubs.lookup spec.streamKey = none := hok
      simp only [subscribe, hpair]
      refine h.call rfl rfl ?_ ?_
      · ext p
        simp only [WsCommand.perform, Finset.mem_insert, mem_image, lookup_insert_if]
        grind
      · have := h.labels
        grind [lookup_insert_if]
  | unsubscribe spec =>
    obtain rfl : s.unsubscribe spec = s' := by simpa [OkxRtmdAdapter.step] using hs
    cases hpair : resolveOkxSub spec with
    | none => simpa [unsubscribe, hpair] using h
    | some pair =>
      have hone : ∀ k p, s.activeSubs.lookup k = some p → (k = spec.streamKey ↔ p = pair) :=
        fun k p hk => hok pair hpair ⟨k, p⟩ (mem_entries_iff.mpr hk)
      simp only [unsubscribe, hpair]
      refine h.call rfl rfl ?_ ?_
      · ext p
        simp only [WsCommand.perform, Finset.mem_erase, mem_image, lookup_erase_if]
        grind
      · have := h.labels
        grind [lookup_erase_if]
  | command =>
    cases hc : s.commands with
    | nil => simp [OkxRtmdAdapter.step, hc] at hs
    | cons c commands =>
      obtain rfl := by simpa [OkxRtmdAdapter.step, hc] using hs
      have hq := h.queued
      have hset := h.settled
      simp only [hc, intent] at hq hset
      refine ⟨fun p b hb => hq p b (by simp [show intent p commands = _ from hb]), ?_, h.labels⟩
      intro S hS p hnone
      obtain ⟨S₀, hS₀, rfl⟩ := Option.map_eq_some_iff.mp hS
      rw [WsCommand.mem_perform]
      split_ifs with hp
      · exact hq p c.on (by simp_all)
      · exact hset S₀ hS₀ p (by simp_all)
  | disconnect =>
    obtain rfl := by simpa [OkxRtmdAdapter.step] using hs
    exact ⟨h.queued, nofun, h.labels⟩
  | connect =>
    cases hsess : s.session with
    | some S => simp [OkxRtmdAdapter.step, hsess] at hs
    | none =>
      obtain rfl := by simpa [OkxRtmdAdapter.step, hsess] using hs
      refine ⟨h.queued, ?_, h.labels⟩
      rintro S ⟨⟩ pair _
      rfl

lemma follows_new : Follows {} where
  queued _ _ h := by cases h
  settled _ h := by cases h
  labels _ _ h := by cases h

/-- **The session matches the active streams**, whenever all commands have been sent. -/
theorem session_matches {events : List OkxEvent} {S : Finset OkxPair}
    (hguard : Guarded step Separate {} events) (hr : run step {} events = some s)
    (hsent : s.commands = []) (hup : s.session = some S) :
    S = s.image ∧ ∀ pair ∈ S, ∃ k, s.activeSubs.lookup k = some pair ∧
      s.label pair = k.instrumentCode := by
  have h : Follows s :=
    run_invariant (fun _ _ _ h hok hs => h.step hok hs) follows_new hguard hr
  have hset : S = s.image := by
    ext pair
    exact h.settled S hup pair (by simp [hsent, intent])
  refine ⟨hset, fun pair hpair => ?_⟩
  obtain ⟨k, hk⟩ := mem_image.mp (hset ▸ hpair)
  obtain ⟨k', hk', hlabel⟩ := h.labels k pair hk
  exact ⟨k', hk', by simp [label, getD, hlabel]⟩

end OkxRtmdAdapter

open Sample

/-- The book of one instrument, to a depth. -/
def Sample.bookTo (depth : Option ℕ) : RtmdSubscriptionSpec :=
  { streamKey := ⟨"BTC-P", .orderBook depth⟩, instrumentExch := "BTC-USDT-SWAP", venue := "OKX" }

/-- Two books of one instrument: when one is unsubscribed, the venue sends neither. -/
theorem OkxRtmdAdapter.other_depth_loses_book :
    ∃ s ∈ run step {} [.connect, .subscribe (bookTo none),
        .subscribe (bookTo (some 5)), .command, .command, .unsubscribe (bookTo none),
        .command],
      s.commands = [] ∧ s.session = some ∅ ∧ s.image = {("books5", "BTC-USDT-SWAP")} :=
  ⟨_, rfl, rfl, by decide, by decide⟩

/-- A socket that is lost before the first command is sent, and then a change of streams. -/
theorem OkxRtmdAdapter.session_matches_after_reconnect :
    ∃ s ∈ run step {} [.connect, .subscribe (bookTo none), .disconnect, .connect, .command,
        .unsubscribe (bookTo none), .subscribe (bookTo (some 1)), .command, .command],
      s.session = some s.image := by
  have h := @session_matches _ [.connect, .subscribe (bookTo none), .disconnect, .connect,
    .command, .unsubscribe (bookTo none), .subscribe (bookTo (some 1)), .command,
    .command] _ (by decide) rfl rfl rfl
  exact ⟨_, rfl, congrArg some h.1⟩

end Zkbot
