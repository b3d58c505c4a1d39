import Zkbot.Core.Dict
import Zkbot.Core.Run

/-!
# The reference data cache of the SDK

`refdata.rs` caches instruments by id, and an index leads from a venue and a symbol to an id.  The
index is only added to: once an instrument has been seen under a symbol, every query for the symbol
asks for that instrument, whatever symbol it has now and whoever has the symbol.

* `RefdataSdk` — the server, whose instruments change, the cache, and the queries that wait for the
  server; others run in the meantime.
* `symbol_answered` — the answers to queries for a symbol are right if it belongs to one instrument
  all the time, and the instrument has no other.
-/

namespace Zkbot

open Option Dict

/-- `InstrumentRefdataResponse`, without the fields that the cache does not look at. -/
structure InstrumentRefdata where
  instrumentId : String
  venue : String
  instrumentExch : String
  deriving DecidableEq

def InstrumentRefdata.symbol (i : InstrumentRefdata) : String × String :=
  (i.venue, i.instrumentExch)

/-- `CachedEntry`; nothing reads when it was loaded. -/
structure CachedEntry where
  data : InstrumentRefdata
  valid : Bool
  deprecated : Bool

structure RefdataCache where
  instruments : Dict String CachedEntry := ∅
  byVenueSymbol : Dict (String × String) String := ∅

open RefdataCache

inductive RefdataReply where
  | ok (data : InstrumentRefdata)
  | refdataDeprecated (instrumentId : String)
  | refdataNotAvailable (what : String)
  deriving DecidableEq

/-- A request to the server; `stale` is what a query by id replies if the request fails. -/
inductive RefdataRequest where
  | byId (instrumentId : String) (stale : Option InstrumentRefdata)
  | bySymbol (symbol : String × String)

/-- The answer of the server; which of the instruments with a symbol it gives is up to it. -/
def RefdataRequest.answer (server : Dict String InstrumentRefdata) (choice : String) :
    RefdataRequest → Option InstrumentRefdata
  | .byId instrumentId _ => server.lookup instrumentId
  | .bySymbol symbol => (server.lookup choice).filter (·.symbol = symbol)

/-- The reply if the request fails. -/
def RefdataRequest.failed : RefdataRequest → RefdataReply
  | .byId instrumentId stale => stale.elim (.refdataNotAvailable instrumentId) .ok
  | .bySymbol symbol => .refdataNotAvailable (symbol.1 ++ "/" ++ symbol.2)

namespace RefdataCache

/-- `query_instrument` up to its request. -/
def queryInstrument (cache : RefdataCache) (instrumentId : String) :
    RefdataReply ⊕ RefdataRequest :=
  match cache.instruments.lookup instrumentId with
  | some entry =>
    if entry.deprecated then .inl (.refdataDeprecated instrumentId)
    else if entry.valid then .inl (.ok entry.data)
    else .inr (.byId instrumentId (some entry.data))
  | none => .inr (.byId instrumentId none)

/-- `query_by_venue_symbol` up to its request. -/
def queryByVenueSymbol (cache : RefdataCache) (symbol : String × String) :
    RefdataReply ⊕ RefdataRequest :=
  match cache.byVenueSymbol.lookup symbol with
  | some instrumentId => cache.queryInstrument instrumentId
  | none => .inr (.bySymbol symbol)

def invalidate (cache : RefdataCache) (instrumentId : String) (deprecated : Bool) : RefdataCache :=
  { cache with
    instruments := cache.instruments.modify instrumentId fun entry =>
      { entry with valid := false, deprecated } }

def upsertInstrument (cache : RefdataCache) (data : InstrumentRefdata) : RefdataCache where
  instruments := cache.instruments.insert data.instrumentId ⟨data, true, false⟩
  byVenueSymbol := cache.byVenueSymbol.insert data.symbol data.instrumentId

end RefdataCache

/-- The server, the cache, and the queries, those that wait and those that are replied to, each with
the symbol it was made for. -/
structure RefdataSdk where
  server : Dict String InstrumentRefdata := ∅
  cache : RefdataCache := {}
  waiting : Dict ℕ (Option (String × String) × RefdataRequest) := ∅
  replies : List (Option (String × String) × RefdataReply) := []

inductive RefdataEvent where
  /-- the server lists an instrument, or changes it -/
  | list (data : InstrumentRefdata)
  | invalidate (instrumentId : String) (deprecated : Bool)
  | queryInstrument (n : ℕ) (instrumentId : String)
  | queryByVenueSymbol (n : ℕ) (symbol : String × String)
  | answer (n : ℕ) (choice : String := "")
  | fail (n : ℕ)

namespace RefdataSdk

def reply (s : RefdataSdk) (n : ℕ) (asked : Option (String × String)) (r : RefdataReply) :
    RefdataSdk :=
  { s with waiting := s.waiting.erase n, replies := s.replies ++ [(asked, r)] }

def request (s : RefdataSdk) (n : ℕ) (asked : Option (String × String)) (q : RefdataRequest) :
    RefdataSdk :=
  { s with waiting := s.waiting.insert n (asked, q) }

def step (s : RefdataSdk) : RefdataEvent → Option RefdataSdk
  | .list data => some { s with server := s.server.insert data.instrumentId data }
  | .invalidate id deprecated => some { s with cache := s.cache.invalidate id deprecated }
  | .queryInstrument n id =>
    some ((s.cache.queryInstrument id).elim (s.reply n none) (s.request n none))
  | .queryByVenueSymbol n symbol =>
    some ((s.cache.queryByVenueSymbol symbol).elim (s.reply n symbol) (s.request n symbol))
  | .answer n choice => (s.waiting.lookup n).bind fun c =>
    (c.2.answer s.server choice).map fun data =>
      { s with cache := s.cache.upsertInstrument data }.reply n c.1 (.ok data)
  | .fail n => (s.waiting.lookup n).map fun c => s.reply n c.1 c.2.failed

/-! ## A symbol that stays -/

section

variable (symbol : String × String) (owner : String)

/-- The instrument has the symbol exactly if it is its owner. -/
def Owns (i : InstrumentRefdata) : Prop := i.symbol = symbol ↔ i.instrumentId = owner

/-- What a query for the symbol may be replied. -/
def Right : RefdataReply → Prop
  | .ok i => i.symbol = symbol ∧ i.instrumentId = owner
  | _ => True

/-- What a query for the symbol may ask the server. -/
def OnTrack : RefdataRequest → Prop
  | .byId id stale => id = owner ∧ ∀ i ∈ stale, Right symbol owner (.ok i)
  | .bySymbol sym => sym = symbol

structure Consistent (s : RefdataSdk) : Prop where
  server : ∀ id i, s.server.lookup id = some i → i.instrumentId = id ∧ Owns symbol owner i
  entries : ∀ id i, (s.cache.instruments.lookup id).map (·.data) = some i →
    i.instrumentId = id ∧ Owns symbol owner i
  index : ∀ id, s.cache.byVenueSymbol.lookup symbol = some id → id = owner
  waiting : ∀ n q, s.waiting.lookup n = some (some symbol, q) → OnTrack symbol owner q
  replies : ∀ r, (some symbol, r) ∈ s.replies → Right symbol owner r

end

variable {symbol : String × String} {owner : String} {s s' : RefdataSdk} {q : RefdataRequest}
  {asked : Option (String × String)} {i : InstrumentRefdata}

lemma Owns.right (h : Owns symbol owner i) (hid : i.instrumentId = owner) :
    Right symbol owner (.ok i) :=
  ⟨h.mpr hid, hid⟩

lemma OnTrack.failed (h : OnTrack symbol owner q) : Right symbol owner q.failed := by
  cases q with
  | byId id stale =>
    cases stale with
    | none => trivial
    | some i => exact h.2 i rfl
  | bySymbol => trivial

namespace Consistent

variable (h : Consistent symbol owner s)
include h

lemma reply {r : RefdataReply} (hr : asked = some symbol → Right symbol owner r) (n : ℕ) :
    Consistent symbol owner (s.reply n asked r) :=
  { h with
    waiting := by grind [RefdataSdk.reply, lookup_erase_if, h.waiting]
    replies := by grind [RefdataSdk.reply, h.replies] }

/-- A query of which what it finds in the cache is in order. -/
lemma query {x : RefdataReply ⊕ RefdataRequest}
    (hx : asked = some symbol → x.elim (Right symbol owner) (OnTrack symbol owner)) (n : ℕ) :
    Consistent symbol owner (x.elim (s.reply n asked) (s.request n asked)) := by
  cases x with
  | inl r => exact h.reply hx n
  | inr q => exact { h with waiting := by grind [request, lookup_insert_if, h.waiting] }

lemma upsert (hi : Owns symbol owner i) :
    Consistent symbol owner { s with cache := s.cache.upsertInstrument i } :=
  { h with
    entries := by grind [upsertInstrument, lookup_insert_if, h.entries]
    index := by grind [upsertInstrument, lookup_insert_if, h.index, Owns] }

lemma invalidate (id : String) (deprecated : Bool) :
    Consistent symbol owner { s with cache := s.cache.invalidate id deprecated } := by
  refine { h with entries := fun id' i hi => h.entries id' i ?_ }
  refine (map_lookup_modify ?_ _ id id').symm.trans hi
  exact fun _ => rfl

/-- What a query for the symbol finds in the cache. -/
lemma found : (s.cache.queryByVenueSymbol symbol).elim (Right symbol owner)
    (OnTrack symbol owner) := by
  simp only [queryByVenueSymbol]
  split
  · rename_i id hid
    obtain rfl := h.index id hid
    simp only [queryInstrument]
    split
    · rename_i e he
      obtain ⟨hid, howns⟩ := h.entries id e.data (by rw [he]; rfl)
      have hright := howns.right hid
      split_ifs
      · trivial
      · exact hright
      · exact ⟨rfl, fun i hi => some.inj hi ▸ hright⟩
    · exact ⟨rfl, fun i hi => by cases hi⟩
  · rfl

/-- What the server answers. -/
lemma answered {choice : String} (hi : q.answer s.server choice = some i) :
    Owns symbol owner i ∧ (OnTrack symbol owner q → Right symbol owner (.ok i)) := by
  cases q with
  | byId id =>
    obtain ⟨hid, howns⟩ := h.server id i hi
    exact ⟨howns, fun hq => howns.right (hid.trans hq.1)⟩
  | bySymbol sym =>
    obtain ⟨hi, hsym⟩ := filter_eq_some_iff.mp hi
    have howns := (h.server choice i hi).2
    exact ⟨howns, fun hq => howns.right (howns.mp ((of_decide_eq_true hsym).trans hq))⟩

lemma step {e : RefdataEvent} (hlist : ∀ i, e = .list i → Owns symbol owner i)
    (hstep : s.step e = some s') : Consistent symbol owner s' := by
  cases e with
  | list i =>
    cases hstep
    exact { h with server := by grind [lookup_insert_if, h.server] }
  | invalidate id deprecated =>
    cases hstep
    exact h.invalidate id deprecated
  | queryInstrument n id =>
    cases hstep
    exact h.query (fun hasked => by cases hasked) n
  | queryByVenueSymbol n sym =>
    cases hstep
    refine h.query (fun hasked => ?_) n
    cases hasked
    exact h.found
  | answer n choice =>
    obtain ⟨⟨asked, q⟩, hq, hstep⟩ := bind_eq_some_iff.mp hstep
    obtain ⟨i, hi, rfl⟩ := map_eq_some_iff.mp hstep
    obtain ⟨howns, hright⟩ := h.answered hi
    exact (h.upsert howns).reply (fun hasked => hright (h.waiting n q (hasked ▸ hq))) n
  | fail n =>
    obtain ⟨⟨asked, q⟩, hq, rfl⟩ := map_eq_some_iff.mp hstep
    exact h.reply (fun hasked => (h.waiting n q (hasked ▸ hq)).failed) n

end Consistent

/-- **A query for a symbol is answered with the instrument that has it**, if one instrument has the
symbol whenever the server lists one with it, and is never listed with another. -/
theorem symbol_answered {events : List RefdataEvent}
    (hlist : ∀ i, .list i ∈ events → (i.symbol = symbol ↔ i.instrumentId = owner))
    (hrun : run step {} events = some s) (hi : (some symbol, .ok i) ∈ s.replies) :
    (i.venue, i.instrumentExch) = symbol ∧ i.instrumentId = owner := by
  have hstart : Consistent symbol owner {} := by
    constructor <;> simp
  have hguard : Guarded step (fun _ e => ∀ i, e = .list i → Owns symbol owner i) {} events :=
    guarded_of_mem fun e he i hei => hlist i (hei ▸ he)
  exact (run_invariant (fun _ _ _ h => h.step) hstart hguard hrun).replies _ hi

open RefdataEvent

/-- The owner is invalidated and asked for again, while another instrument is renamed. -/
theorem symbol_answered_beside_rename :
    ∃ s ∈ run step {} [list ⟨"A", "V", "S"⟩, list ⟨"B", "V", "T"⟩, queryByVenueSymbol 1 ("V", "S"),
        answer 1 "A", invalidate "A" false, list ⟨"B", "V", "U"⟩, queryByVenueSymbol 2 ("V", "S"),
        answer 2], s.replies.length = 2 ∧
      ∃ i, (some ("V", "S"), .ok i) ∈ s.replies ∧ i.instrumentId = "A" := by
  refine exists_mem_imp (P := fun s => s.replies.length = 2 ∧
    (some ("V", "S"), .ok ⟨"A", "V", "S"⟩) ∈ s.replies) (by decide +kernel) ?_
  rintro s hs ⟨hlen, hi⟩
  refine ⟨hlen, _, hi, (symbol_answered (fun i hi => ?_) hs hi).2⟩
  simp only [List.mem_cons, list.injEq, reduceCtorEq, false_or, or_false, List.not_mem_nil] at hi
  rcases hi with rfl | rfl | rfl <;> decide

/-- The instrument that had the symbol is renamed and the symbol given to another: two queries for
it are answered with the first, under its new symbol. -/
theorem renamed_instrument_returned :
    ∃ s ∈ run step {} [list ⟨"A", "V", "S"⟩, queryByVenueSymbol 1 ("V", "S"), answer 1 "A",
        list ⟨"A", "V", "T"⟩, list ⟨"B", "V", "S"⟩, invalidate "A" false,
        queryByVenueSymbol 2 ("V", "S"), answer 2, invalidate "A" false,
        queryByVenueSymbol 3 ("V", "S"), answer 3],
      s.replies = [(some ("V", "S"), .ok ⟨"A", "V", "S"⟩), (some ("V", "S"), .ok ⟨"A", "V", "T"⟩),
        (some ("V", "S"), .ok ⟨"A", "V", "T"⟩)] := by
  decide +kernel

end RefdataSdk

end Zkbot
