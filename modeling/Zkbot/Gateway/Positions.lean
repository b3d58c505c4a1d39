import Zkbot.Core.Changes
import Zkbot.Core.Run
import Zkbot.Oms.Proto
import Mathlib.Tactic.Linarith
import Mathlib.Data.List.Infix

/-!
# Positions on their way to the OMS

The position part of `semantic_pipeline.rs`, and the adapters that feed it: the OKX socket and the
IBKR event router.  The pipeline remembers the positions it has published as open; one that an event
does not mention is taken to be closed, and a zero is published for it.  That is right for an event
that lists all positions.  But the OKX socket and the IBKR router send one event for each position
that changes, and an OKX snapshot that lists nothing is not sent at all.

* `processPosition` — the pipeline: the reports of an event, and what it remembers.
* `VenueUpdate` — what happens at a venue, with the facts the adapter makes of it.
* `PositionFeed` — a venue, the pipeline, and the fold of everything published; `Fits` is the
  condition on an update under which the fold still agrees with the venue after it.
-/

namespace Zkbot

open List Function

/-! ## The pipeline -/

structure VenuePositionFact where
  instrument : String
  longShortType : LongShortType
  qty : ℚ
  availQty : ℚ
  instrumentType : InstrumentType := .unspecified

/-- The number of a side on the wire. -/
def LongShortType.code : LongShortType → String
  | .unspecified => "0"
  | .long => "1"
  | .short => "2"

/-- `parse::<i32>().unwrap_or_default()`, on the texts that can follow the first colon of a key: a
number, or a text with another colon in it. -/
def LongShortType.parse (s : String) : LongShortType :=
  if s = "1" then .long else if s = "2" then .short else .unspecified

/-- `format!("{}:{}", instrument, long_short_type)`. -/
def positionKey (k : String × LongShortType) : String := k.1 ++ ":" ++ k.2.code

/-- `key.splitn(2, ':')`, if it has two parts, read back as instrument and side. -/
def splitKey (key : String) : Option (String × LongShortType) :=
  match key.toList.dropWhile (· ≠ ':') with
  | [] => none
  | _ :: side => some (String.ofList (key.toList.takeWhile (· ≠ ':')), .parse (String.ofList side))

def inferInstrumentType (instrument : String) : InstrumentType :=
  let has (part : String) : Bool := part.toList <:+: instrument.toList
  if has "SWAP" then .perp
  else if has "FUTURES" || (has "-" && 2 ≤ instrument.toList.count '-') then .future
  else if has "_" then .cfd
  else .spot

/-- The part of `SemanticPipeline` that positions need. -/
structure SemanticPipeline where
  /-- a set; the order in which it is gone through plays no part -/
  publishedPositionKeys : List String := []
  exchAccountCode : String

open SemanticPipeline

namespace VenuePositionFact

/-- Instrument and side. -/
def position (f : VenuePositionFact) : String × LongShortType := (f.instrument, f.longShortType)

def key (f : VenuePositionFact) : String := positionKey f.position

def toReport (exchAccountCode : String) (f : VenuePositionFact) : PositionReport where
  instrumentCode := f.instrument
  instrumentType := if f.instrumentType ≠ .unspecified then f.instrumentType
    else inferInstrumentType f.instrument
  longShortType := f.longShortType
  exchAccountCode := exchAccountCode
  qty := f.qty
  availQty := f.availQty
  updateTimestamp := 0

end VenuePositionFact

/-- The zero that is published for a key. -/
def zeroReport (exchAccountCode key : String) : Option PositionReport :=
  (splitKey key).map fun k =>
    { instrumentCode := k.1, instrumentType := inferInstrumentType k.1, longShortType := k.2,
      exchAccountCode, qty := 0, availQty := 0, updateTimestamp := 0 }

namespace SemanticPipeline

/-- The keys that are known, with those of the positions that are open now. -/
def keysWith (p : SemanticPipeline) (facts : List VenuePositionFact) : List String :=
  facts.foldl (fun keys f => if f.qty ≠ 0 ∧ f.key ∉ keys then keys ++ [f.key] else keys)
    p.publishedPositionKeys

/-- The keys that are known and that the event does not mention. -/
def zeroKeys (p : SemanticPipeline) (facts : List VenuePositionFact) : List String :=
  (p.keysWith facts).filter (· ∉ facts.map (·.key))

/-- `process_position`: what the pipeline remembers, and the reports it publishes. -/
def processPosition (p : SemanticPipeline) (facts : List VenuePositionFact) :
    SemanticPipeline × List PositionReport :=
  ({ p with publishedPositionKeys := (p.keysWith facts).filter (· ∉ p.zeroKeys facts) },
   facts.map (·.toReport p.exchAccountCode) ++
     (p.zeroKeys facts).filterMap (zeroReport p.exchAccountCode))

end SemanticPipeline

/-! ## The adapters -/

/-- `posSide`. -/
def okxSide (posSide : String) : LongShortType :=
  if posSide = "long" then .long else if posSide = "short" then .short else .unspecified

/-- An item of the `positions` channel of OKX.  Numbers come as texts; a text that is missing or is
not a number counts as zero. -/
structure OkxWsPosition where
  instId : Option String
  posSide : Option String
  pos : Option ℚ
  availPos : Option ℚ

def normalizeWsPositions (data : OkxWsPosition) : List VenuePositionFact :=
  match data.instId with
  | none => []
  | some instId =>
    if instId = "" then []
    else [{ instrument := instId, longShortType := okxSide (data.posSide.getD "net"),
            qty := data.pos.getD 0, availQty := data.availPos.getD 0 }]

/-- `OkxPositionData`: an item of the REST answer. -/
structure OkxPositionData where
  instId : String
  posSide : String
  pos : ℚ
  availPos : ℚ

def normalizeRestPosition (data : OkxPositionData) : VenuePositionFact :=
  { instrument := data.instId, longShortType := okxSide data.posSide, qty := data.pos,
    availQty := data.availPos }

structure IbContract where
  symbol : String
  currency : String
  secType : String
  exchange : String

def instrumentFromContract (c : IbContract) : String :=
  let exchange := if c.secType = "STK" then "SMART" else c.exchange
  c.symbol ++ "-" ++ c.currency ++ "-" ++ c.secType ++ "-" ++ exchange

/-- `_SECTYPE_TO_PROTO_INST_TYPE`. -/
def secTypeToInstType (secType : String) : InstrumentType :=
  if secType = "STK" then .stock
  else if secType = "FUT" then .future
  else if secType = "OPT" then .option
  else if secType = "CFD" then .cfd
  else if secType = "CASH" then .spot
  else .unspecified

/-- What IBKR calls back with: the signed position in a contract. -/
structure IbPosition where
  account : String
  contract : IbContract
  position : ℚ

/-- `on_position`.  The router is for one account, or for all if its code is empty. -/
def onPosition (accountCode : String) (p : IbPosition) : List VenuePositionFact :=
  if accountCode ≠ "" ∧ p.account ≠ accountCode then []
  else [{ instrument := instrumentFromContract p.contract
          longShortType := if 0 ≤ p.position then .long else .short
          qty := |p.position|
          availQty := |p.position|
          instrumentType := secTypeToInstType p.contract.secType }]

/-! ## What happens at a venue -/

/-- A position changes and is pushed, or the socket is back and all positions are queried. -/
inductive VenueUpdate where
  | okxPush (data : OkxWsPosition)
  | okxSnapshot (positions : List OkxPositionData)
  | ibkrPosition (p : IbPosition)

namespace VenueUpdate

/-- The facts that the adapter makes of it. -/
def facts (accountCode : String) : VenueUpdate → List VenuePositionFact
  | .okxPush data => normalizeWsPositions data
  | .okxSnapshot positions => positions.map normalizeRestPosition
  | .ibkrPosition p => onPosition accountCode p

/-- The positions of which the update says that they are not open unless its facts say so: all of
them after a snapshot, and both sides of an instrument at IBKR, whose positions are net. -/
def covers (accountCode : String) (k : String × LongShortType) : VenueUpdate → Bool
  | .okxPush _ => false
  | .okxSnapshot _ => true
  | .ibkrPosition p => (onPosition accountCode p).any fun f => f.instrument = k.1

def isSnapshot : VenueUpdate → Bool
  | .okxSnapshot _ => true
  | _ => false

/-- The quantities at the venue after the update. -/
def venueAfter (accountCode : String) (venue : String × LongShortType → ℚ) (u : VenueUpdate) :
    String × LongShortType → ℚ :=
  (u.facts accountCode).foldl (fun v f => update v f.position f.qty)
    fun k => if u.covers accountCode k then 0 else venue k

end VenueUpdate

/-- A venue, the pipeline that publishes its positions, and what a reader has who keeps the last
report for each instrument and side. -/
structure PositionFeed where
  venue : String × LongShortType → ℚ
  pipeline : SemanticPipeline
  view : Dict (String × LongShortType) ℚ := ∅

namespace PositionFeed

def start (exchAccountCode : String) (venue : String × LongShortType → ℚ) : PositionFeed :=
  { venue, pipeline := { exchAccountCode } }

/-- A report as a change of the reader's view. -/
def change (r : PositionReport) : Change (String × LongShortType) ℚ :=
  .upsert (r.instrumentCode, r.longShortType) r.qty

/-- An update, its event and the reports that are published.  An event without facts is not
sent. -/
def step (accountCode : String) (x : PositionFeed) (u : VenueUpdate) : Option PositionFeed :=
  let venue := u.venueAfter accountCode x.venue
  if u.facts accountCode = [] then some { x with venue }
  else
    let r := x.pipeline.processPosition (u.facts accountCode)
    some { venue, pipeline := r.1, view := replay x.view (r.2.map change) }

/-- Every position that the pipeline takes for open, and that the event does not mention, is closed:
the update says so in an event that is sent, or it is closed already.  Its key can be read back,
which fails for an instrument with a colon in it.  A push that is not sent changes nothing. -/
def fits (accountCode : String) (x : PositionFeed) (u : VenueUpdate) : Bool :=
  let facts := u.facts accountCode
  (facts.isEmpty && !u.isSnapshot) ||
    x.pipeline.publishedPositionKeys.all fun key => key ∈ facts.map (·.key) ||
      (splitKey key).any fun k => positionKey k = key &&
        (x.venue k = 0 || (u.covers accountCode k && !facts.isEmpty))

/-! ## The reports of an event -/

end PositionFeed

lemma positionKey_injective : Function.Injective positionKey := by
  rintro ⟨i, a⟩ ⟨j, b⟩ h
  have hchars := congrArg String.toList h
  simp only [positionKey, String.toList_append] at hchars
  have hsuffix := append_inj' hchars (by cases a <;> cases b <;> rfl)
  have hprefix := append_inj' hsuffix.1 rfl
  have hside : a = b := by
    cases a <;> cases b <;> first | rfl | exact absurd hsuffix.2 (by decide)
  rw [String.toList_inj.mp hprefix.1, hside]

namespace SemanticPipeline

variable {p : SemanticPipeline} {facts : List VenuePositionFact} {key : String}

lemma mem_keysWith :
    key ∈ p.keysWith facts ↔
      key ∈ p.publishedPositionKeys ∨ ∃ f ∈ facts, f.qty ≠ 0 ∧ f.key = key := by
  rw [keysWith]
  generalize p.publishedPositionKeys = keys
  induction facts generalizing keys with
  | nil => simp
  | cons f facts ih =>
    rw [foldl_cons, ih, exists_mem_cons_iff, ← or_assoc]
    refine or_congr_left ?_
    split_ifs with hnew
    · rw [mem_append, mem_singleton, eq_comm]
      simp [hnew.1]
    · refine ⟨.inl, ?_⟩
      rintro (hold | ⟨hqty, rfl⟩)
      · exact hold
      · by_contra hne
        exact hnew ⟨hqty, hne⟩

lemma mem_zeroKeys :
    key ∈ p.zeroKeys facts ↔ key ∈ p.publishedPositionKeys ∧ key ∉ facts.map (·.key) := by
  rw [zeroKeys, mem_filter, mem_keysWith, decide_eq_true_eq]
  refine and_congr_left fun hkey => or_iff_left ?_
  rintro ⟨f, hf, -, rfl⟩
  exact hkey (mem_map_of_mem hf)

lemma mem_published_of_fact {f : VenuePositionFact} (hf : f ∈ facts) (hqty : f.qty ≠ 0) :
    f.key ∈ (p.processPosition facts).1.publishedPositionKeys := by
  rw [processPosition, mem_filter, decide_eq_true_eq, mem_keysWith, mem_zeroKeys]
  exact ⟨.inr ⟨f, hf, hqty, rfl⟩, fun hzero => hzero.2 (mem_map_of_mem hf)⟩

end SemanticPipeline

namespace PositionFeed

variable {accountCode : String} {x y : PositionFeed} {u : VenueUpdate}
  {facts : List VenuePositionFact} {venue : String × LongShortType → ℚ} {k : String × LongShortType}

/-- The fold agrees with the venue, and what is open in it is known to the pipeline. -/
structure Follows (x : PositionFeed) : Prop where
  agrees : ∀ k q, x.view.lookup k = some q → q = x.venue k
  known : ∀ k q, x.view.lookup k = some q → q ≠ 0 → positionKey k ∈ x.pipeline.publishedPositionKeys

lemma lookup_replay_facts {code : String} {m : Dict (String × LongShortType) ℚ} {q : ℚ}
    (h : (∃ f ∈ facts, f.position = k) ∨ ∀ q, m.lookup k = some q → q = venue k)
    (hq : (replay m ((facts.map (·.toReport code)).map change)).lookup k = some q) :
    q = facts.foldl (fun v f => update v f.position f.qty) venue k := by
  induction facts generalizing m venue with
  | nil =>
    rcases h with ⟨f, hf, -⟩ | h
    · cases hf
    · exact h q hq
  | cons f facts ih =>
    refine ih ?_ hq
    by_cases hk : k = f.position
    · subst hk
      right
      intro q' hq'
      have hself : (Change.apply m (change (f.toReport code))).lookup f.position = some f.qty :=
        AList.lookup_insert _
      rw [hself] at hq'
      simp only [update_self]
      exact (Option.some.inj hq').symm
    · refine h.imp ?_ fun h q' hq' => ?_
      · rintro ⟨f', hf', rfl⟩
        rcases mem_cons.mp hf' with rfl | hf'
        · exact absurd rfl hk
        · exact ⟨f', hf', rfl⟩
      · simp only [update_of_ne hk]
        exact h q' ((AList.lookup_insert_ne hk).symm.trans hq')

lemma foldl_update_of_forall_ne (h : ∀ f ∈ facts, f.position ≠ k) :
    facts.foldl (fun v f => update v f.position f.qty) venue k = venue k := by
  induction facts generalizing venue with
  | nil => rfl
  | cons f facts ih =>
    rw [foldl_cons, ih (forall_mem_cons.mp h).2]
    exact update_of_ne (h f mem_cons_self).symm _ _

/-! ## What fits -/

lemma closed_of_fits (hfits : x.fits accountCode u) {key : String}
    (hknown : key ∈ x.pipeline.publishedPositionKeys)
    (hkey : key ∉ (u.facts accountCode).map (·.key))
    (hsent : u.facts accountCode ≠ [] ∨ u.isSnapshot) :
    ∃ k, splitKey key = some k ∧ positionKey k = key ∧
      (x.venue k = 0 ∨ u.covers accountCode k ∧ u.facts accountCode ≠ []) := by
  have hall : u.facts accountCode = [] ∧ u.isSnapshot = false ∨
      ∀ key ∈ x.pipeline.publishedPositionKeys, key ∈ (u.facts accountCode).map (·.key) ∨
        ∃ k, splitKey key = some k ∧ positionKey k = key ∧
          (x.venue k = 0 ∨ u.covers accountCode k ∧ u.facts accountCode ≠ []) := by
    simpa [fits, Option.any_eq_true] using hfits
  rcases hall with ⟨hnil, hpush⟩ | hall
  · rcases hsent with hsent | hsent
    · exact absurd hnil hsent
    · rw [hpush] at hsent
      cases hsent
  · exact (hall key hknown).resolve_left hkey

lemma follows_unsent (h : x.Follows) (hfits : x.fits accountCode u)
    (hnil : u.facts accountCode = []) :
    Follows { x with venue := u.venueAfter accountCode x.venue } := by
  refine ⟨fun k q hq => ?_, h.known⟩
  have hafter : u.venueAfter accountCode x.venue k
      = if u.covers accountCode k then 0 else x.venue k := by
    rw [VenueUpdate.venueAfter, hnil]
    rfl
  simp only [hafter]
  split_ifs with hcovers
  · -- a position that is closed without a word was closed before
    by_contra hq0
    have hsnapshot : u.isSnapshot := by
      cases u with
      | okxPush data => cases hcovers
      | okxSnapshot positions => rfl
      | ibkrPosition p =>
        have hnone : onPosition accountCode p = [] := hnil
        rw [VenueUpdate.covers, hnone] at hcovers
        cases hcovers
    obtain ⟨k', -, hkey, hclosed⟩ := closed_of_fits hfits (h.known k q hq hq0)
      (by rw [hnil]; exact not_mem_nil) (.inr hsnapshot)
    rw [positionKey_injective hkey] at hclosed
    rcases hclosed with hzero | ⟨-, hsent⟩
    · exact hq0 ((h.agrees k q hq).trans hzero)
    · exact hsent hnil
  · exact h.agrees k q hq

/-! ## An update that is sent -/

/-- The facts of an event, as changes of the reader's view. -/
def factChanges (p : SemanticPipeline) (facts : List VenuePositionFact) :
    List (Change (String × LongShortType) ℚ) :=
  (facts.map (·.toReport p.exchAccountCode)).map change

/-- The zeros that are published with them. -/
def zeroChanges (p : SemanticPipeline) (facts : List VenuePositionFact) :
    List (Change (String × LongShortType) ℚ) :=
  ((p.zeroKeys facts).filterMap (zeroReport p.exchAccountCode)).map change

lemma map_change_processPosition (p : SemanticPipeline) (facts : List VenuePositionFact) :
    (p.processPosition facts).2.map change = factChanges p facts ++ zeroChanges p facts :=
  map_append

lemma exists_factChange {p : SemanticPipeline} :
    (∃ c ∈ factChanges p facts, c.key = k) ↔ ∃ f ∈ facts, f.position = k := by
  constructor
  · rintro ⟨c, hc, rfl⟩
    obtain ⟨r, hr, rfl⟩ := mem_map.mp hc
    obtain ⟨f, hf, rfl⟩ := mem_map.mp hr
    exact ⟨f, hf, rfl⟩
  · rintro ⟨f, hf, rfl⟩
    exact ⟨_, mem_map_of_mem (mem_map_of_mem hf), rfl⟩

section

variable (hfits : x.fits accountCode u) (hsent : u.facts accountCode ≠ [])
  {k : String × LongShortType}

include hfits hsent

lemma zeroChanges_spec {c : Change (String × LongShortType) ℚ}
    (hc : c ∈ zeroChanges x.pipeline (u.facts accountCode)) :
    c.value = some 0 ∧ positionKey c.key ∈ x.pipeline.publishedPositionKeys ∧
      positionKey c.key ∉ (u.facts accountCode).map (·.key) := by
  obtain ⟨r, hr, rfl⟩ := mem_map.mp hc
  obtain ⟨key, hkey, hr⟩ := mem_filterMap.mp hr
  obtain ⟨hknown, hmissing⟩ := mem_zeroKeys.mp hkey
  obtain ⟨k, hsplit, hback, -⟩ := closed_of_fits hfits hknown hmissing (.inl hsent)
  rw [zeroReport, hsplit] at hr
  cases hr
  rw [← hback] at hknown hmissing
  exact ⟨rfl, hknown, hmissing⟩

lemma exists_zeroChange (hknown : positionKey k ∈ x.pipeline.publishedPositionKeys)
    (hmissing : positionKey k ∉ (u.facts accountCode).map (·.key)) :
    ∃ c ∈ zeroChanges x.pipeline (u.facts accountCode), c.key = k := by
  obtain ⟨k', hsplit, hback, -⟩ := closed_of_fits hfits hknown hmissing (.inl hsent)
  cases positionKey_injective hback
  obtain ⟨r, hr, hrk⟩ : ∃ r, zeroReport x.pipeline.exchAccountCode (positionKey k) = some r ∧
      (change r).key = k := by
    rw [zeroReport, hsplit]
    exact ⟨_, rfl, rfl⟩
  refine ⟨change r, mem_map_of_mem (mem_filterMap.mpr ⟨_, ?_, hr⟩), hrk⟩
  exact mem_zeroKeys.mpr ⟨hknown, hmissing⟩

/-- The view after an event: zeros where they are published, and elsewhere what the facts say. -/
lemma lookup_view_sent (k : String × LongShortType) :
    (replay x.view ((x.pipeline.processPosition (u.facts accountCode)).2.map change)).lookup k =
      if ∃ c ∈ zeroChanges x.pipeline (u.facts accountCode), c.key = k then some 0
      else (replay x.view (factChanges x.pipeline (u.facts accountCode))).lookup k := by
  rw [map_change_processPosition, replay_append]
  split_ifs with hk
  · exact lookup_replay_eq (fun c hc _ => (zeroChanges_spec hfits hsent hc).1) (.inr hk)
  · exact lookup_replay_of_forall_ne fun c hc hkey => hk ⟨c, hc, hkey⟩

lemma lookup_view_of_mentioned (hf : ∃ f ∈ u.facts accountCode, f.position = k) :
    (replay x.view ((x.pipeline.processPosition (u.facts accountCode)).2.map change)).lookup k =
      (replay x.view (factChanges x.pipeline (u.facts accountCode))).lookup k := by
  rw [lookup_view_sent hfits hsent, if_neg]
  rintro ⟨c, hc, rfl⟩
  obtain ⟨f, hf, hkey⟩ := hf
  exact (zeroChanges_spec hfits hsent hc).2.2 (hkey ▸ mem_map_of_mem hf)

/-- What is not mentioned is zero, in the view and at the venue. -/
lemma zero_of_unmentioned (h : x.Follows) {q : ℚ} (hf : ¬ ∃ f ∈ u.facts accountCode, f.position = k)
    (hq : (replay x.view
      ((x.pipeline.processPosition (u.facts accountCode)).2.map change)).lookup k = some q) :
    q = 0 ∧ u.venueAfter accountCode x.venue k = 0 := by
  have hmissing : positionKey k ∉ (u.facts accountCode).map (·.key) := by
    intro hmem
    obtain ⟨f, hmem, hkey⟩ := mem_map.mp hmem
    exact hf ⟨f, hmem, positionKey_injective hkey⟩
  rw [VenueUpdate.venueAfter, foldl_update_of_forall_ne fun f hmem hk => hf ⟨f, hmem, hk⟩]
  rw [lookup_view_sent hfits hsent] at hq
  by_cases hknown : positionKey k ∈ x.pipeline.publishedPositionKeys
  · obtain ⟨k', -, hback, hclosed⟩ := closed_of_fits hfits hknown hmissing (.inl hsent)
    cases positionKey_injective hback
    rw [if_pos (exists_zeroChange hfits hsent hknown hmissing)] at hq
    refine ⟨(Option.some.inj hq).symm, ?_⟩
    rcases hclosed with hclosed | ⟨hcovers, -⟩
    · split_ifs
      · rfl
      · exact hclosed
    · rw [if_pos hcovers]
  · -- neither a zero nor a fact is for it
    have hnone : ¬ ∃ c ∈ zeroChanges x.pipeline (u.facts accountCode), c.key = k := by
      rintro ⟨c, hc, rfl⟩
      exact hknown (zeroChanges_spec hfits hsent hc).2.1
    rw [if_neg hnone, lookup_replay_of_forall_ne fun c hc hk => hf
      (exists_factChange.mp ⟨c, hc, hk⟩)] at hq
    have hq0 : q = 0 := by_contra fun hne => hknown (h.known k q hq hne)
    refine ⟨hq0, ?_⟩
    split_ifs
    · rfl
    · exact (h.agrees k q hq).symm.trans hq0

lemma follows_sent (h : x.Follows) :
    Follows
      { venue := u.venueAfter accountCode x.venue
        pipeline := (x.pipeline.processPosition (u.facts accountCode)).1
        view := replay x.view
          ((x.pipeline.processPosition (u.facts accountCode)).2.map change) } := by
  refine ⟨fun k q hq => ?_, fun k q hq hq0 => ?_⟩
  · by_cases hf : ∃ f ∈ u.facts accountCode, f.position = k
    · simp only [lookup_view_of_mentioned hfits hsent hf] at hq
      exact lookup_replay_facts (.inl hf) hq
    · obtain ⟨hq0, hvenue⟩ := zero_of_unmentioned hfits hsent h hf hq
      exact hq0.trans hvenue.symm
  · by_cases hf : ∃ f ∈ u.facts accountCode, f.position = k
    · -- it is open because a fact says so, and such a fact is remembered
      simp only [lookup_view_of_mentioned hfits hsent hf] at hq
      obtain ⟨c, hc, hkey, hvalue⟩ := exists_value_eq_lookup_replay (m := x.view)
        (exists_factChange (p := x.pipeline).mpr hf)
      obtain ⟨r, hr, rfl⟩ := mem_map.mp hc
      obtain ⟨f, hmem, rfl⟩ := mem_map.mp hr
      have hqty : f.qty = q := Option.some.inj (hvalue.trans hq)
      have hpublished := mem_published_of_fact (p := x.pipeline) hmem (hqty ▸ hq0)
      rw [VenuePositionFact.key, show f.position = k from hkey] at hpublished
      exact hpublished
    · exact absurd (zero_of_unmentioned hfits hsent h hf hq).1 hq0

end

theorem follows_step (h : x.Follows) (hfits : x.fits accountCode u)
    (hstep : x.step accountCode u = some y) : y.Follows := by
  simp only [step] at hstep
  split_ifs at hstep with hnil
  · cases hstep
    exact follows_unsent h hfits hnil
  · cases hstep
    exact follows_sent hfits hnil h

end PositionFeed

def Sample.push (instId posSide : String) (pos : ℚ) : VenueUpdate :=
  .okxPush { instId := some instId, posSide := some posSide, pos := some pos, availPos := some pos }

open Sample

end Zkbot
