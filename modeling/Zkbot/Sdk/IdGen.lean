import Mathlib.Data.Fintype.Pi
import Mathlib.Tactic.NormNum
import Zkbot.Core.Run

/-!
# The generator of order ids

`id_gen.rs`: a Snowflake generator that threads share.  A call of `next_id` is a sequence of atomic
operations on two shared cells, the last millisecond that was claimed and the sequence number within
it, and other calls can come between any two of them.

* `Pc` — where a thread stands in `next_id`; `SharedGen.step` is one atomic operation of one thread.
* `compose_inj` — an id determines its timestamp and its sequence number.
* `IdInv` — what holds as long as no sequence number is taken while a claimed millisecond waits for
  the sequence to be reset, or for another millisecond than the one that was claimed last
  (`TakesInTurn`).
* `ids_unique_of_run` — all ids are distinct in every such run.
-/

namespace Zkbot

open List Nat

variable {ts : ℕ} {inst seq : BitVec 16}

/-! ## The generator -/

def maxInstanceId : BitVec 16 := 1023

def maxSequence : BitVec 16 := 4095

/-- The two shared cells, and the id of the instance. -/
structure SnowflakeIdGen where
  instanceId : BitVec 16
  sequence : BitVec 16
  lastMs : ℕ
  deriving DecidableEq

open SnowflakeIdGen

/-- `SnowflakeIdGen::new`; `none` is `InstanceIdOutOfRange`. -/
def SnowflakeIdGen.new (instanceId : BitVec 16) : Option SnowflakeIdGen :=
  if instanceId > maxInstanceId then none else some { instanceId, sequence := 0, lastMs := 0 }

/-- 41 bits of the timestamp, 10 bits of the instance, 12 bits of the sequence. -/
def compose (timestampMs : ℕ) (instanceId sequence : BitVec 16) : BitVec 64 :=
  (BitVec.ofNat 64 timestampMs <<< 22) ||| (instanceId.setWidth 64 <<< 12) ||| sequence.setWidth 64

/-- Parts that do not overlap add up. -/
lemma lor_parts {i q : ℕ} (hi : i < 2 ^ 10) (hq : q < 2 ^ 12) :
    ts * 2 ^ 22 ||| (i * 2 ^ 12 ||| q) = ts * 2 ^ 22 + i * 2 ^ 12 + q := by
  have hlow : i * 2 ^ 12 + q < 2 ^ 22 := by omega
  calc ts * 2 ^ 22 ||| (i * 2 ^ 12 ||| q)
      = ts * 2 ^ 22 ||| (i * 2 ^ 12 + q) := by
        rw [← shiftLeft_eq i, shiftLeft_add_eq_or_of_lt hq]
    _ = ts * 2 ^ 22 + (i * 2 ^ 12 + q) := by
        rw [← shiftLeft_eq ts, shiftLeft_add_eq_or_of_lt hlow]
    _ = ts * 2 ^ 22 + i * 2 ^ 12 + q := by omega

/-- And none of them is cut off. -/
lemma compose_toNat (hts : ts < 2 ^ 41) (hinst : inst ≤ maxInstanceId) (hseq : seq ≤ maxSequence) :
    (compose ts inst seq).toNat = ts * 2 ^ 22 + inst.toNat * 2 ^ 12 + seq.toNat := by
  have hi : inst.toNat < 2 ^ 10 := lt_of_le_of_lt hinst (by decide)
  have hs : seq.toNat < 2 ^ 12 := lt_of_le_of_lt hseq (by decide)
  have hmod : ∀ {x k w : ℕ}, x < 2 ^ w → w + k ≤ 64 → x % 2 ^ 64 * 2 ^ k % 2 ^ 64 = x * 2 ^ k := by
    intro x k w hx hw
    have hpow : x * 2 ^ k < 2 ^ 64 := calc
      x * 2 ^ k < 2 ^ w * 2 ^ k := Nat.mul_lt_mul_of_pos_right hx (Nat.two_pow_pos k)
      _ = 2 ^ (w + k) := (pow_add 2 w k).symm
      _ ≤ 2 ^ 64 := Nat.pow_le_pow_right (by decide) hw
    have hx' : x < 2 ^ 64 := hx.trans_le (Nat.pow_le_pow_right (by decide) (by omega))
    rw [mod_eq_of_lt hx', mod_eq_of_lt hpow]
  have hseq' : seq.toNat % 2 ^ 64 = seq.toNat := by
    have := hmod (k := 0) hs (by decide)
    simpa using this
  simp only [compose, BitVec.toNat_or, BitVec.toNat_shiftLeft, BitVec.toNat_ofNat,
    BitVec.toNat_setWidth, Nat.shiftLeft_eq, Nat.or_assoc, hmod hts (by decide : 41 + 22 ≤ 64),
    hmod hi (by decide : 10 + 12 ≤ 64), hseq']
  exact lor_parts hi hs

/-- **An id determines its timestamp and its sequence number.** -/
lemma compose_inj {ts' : ℕ} {seq' : BitVec 16} (hts : ts < 2 ^ 41) (hts' : ts' < 2 ^ 41)
    (hinst : inst ≤ maxInstanceId) (hseq : seq ≤ maxSequence) (hseq' : seq' ≤ maxSequence)
    (h : compose ts inst seq = compose ts' inst seq') : ts = ts' ∧ seq = seq' := by
  have heq := congrArg BitVec.toNat h
  rw [compose_toNat hts hinst hseq, compose_toNat hts' hinst hseq'] at heq
  refine ⟨by omega, BitVec.eq_of_toNat_eq ?_⟩
  omega

/-! ## Threads that share it -/

/-- Where a thread stands in `next_id`. -/
inductive Pc where
  /-- at the top of the loop, or not in a call -/
  | top
  /-- the clock has been read -/
  | haveNow (now : ℕ)
  /-- and `last_ms` -/
  | haveLast (now last : ℕ)
  /-- the millisecond is claimed, the sequence still to be reset -/
  | claimed (now : ℕ)
  /-- the sequence is exhausted: in the loop that waits for the clock -/
  | spin
  | spinNow (now : ℕ)
  deriving DecidableEq

/-- The millisecond that is claimed, while the sequence is still to be reset. -/
def Pc.claims : Pc → Option ℕ
  | .claimed now => some now
  | _ => none

/-- The clock reading with which a millisecond will be claimed. -/
def Pc.reads : Pc → Option ℕ
  | .haveNow now | .haveLast now _ => some now
  | _ => none

/-- The generator, shared by `n` threads. -/
structure SharedGen (n : ℕ) where
  gen : SnowflakeIdGen
  pc : Fin n → Pc := fun _ => .top
  /-- the last reading of the clock -/
  clock : ℕ := 0
  /-- the timestamp and the sequence number of every id that has been returned -/
  returned : List (ℕ × BitVec 16) := []

/-- One atomic operation: a thread reads the clock, or does what comes next. -/
inductive Move (n : ℕ) where
  | clock (t : Fin n) (now : ℕ)
  | go (t : Fin n)

namespace SharedGen

variable {n : ℕ} {s : SharedGen n} {now : ℕ}

section

variable (s : SharedGen n)

def ids : List (BitVec 64) :=
  s.returned.map fun x => compose x.1 s.gen.instanceId x.2

def setPc (t : Fin n) (pc : Pc) : SharedGen n :=
  { s with pc := Function.update s.pc t pc }

/-- `next_id` returns the id for this timestamp and sequence number. -/
def finish (t : Fin n) (now : ℕ) (seq : BitVec 16) : SharedGen n :=
  { s.setPc t .top with returned := (now, seq) :: s.returned }

/-- `compare_exchange` on `last_ms`. -/
def claim (t : Fin n) (now last : ℕ) : SharedGen n :=
  if s.gen.lastMs = last then
    { s.setPc t (.claimed now) with gen := { s.gen with lastMs := now } }
  else s.setPc t .top

/-- `fetch_add` on the sequence, which wraps, and what follows. -/
def takeSequence (t : Fin n) (now : ℕ) : SharedGen n :=
  let nextSeq := s.gen.sequence + 1
  let s := { s with gen := { s.gen with sequence := nextSeq } }
  if nextSeq ≤ maxSequence then s.finish t now nextSeq else s.setPc t .spin

/-- One atomic operation.  The clock never goes back, and its readings fit in 41 bits. -/
def step : Move n → Option (SharedGen n)
  | .clock t now =>
    if s.clock ≤ now ∧ now < 2 ^ 41 then
      match s.pc t with
      | .top => some ({ s with clock := now }.setPc t (.haveNow now))
      | .spin => some ({ s with clock := now }.setPc t (.spinNow now))
      | _ => none
    else none
  | .go t =>
    match s.pc t with
    | .haveNow now => some (s.setPc t (.haveLast now s.gen.lastMs))
    | .haveLast now last =>
      if now > last then some (s.claim t now last) else some (s.takeSequence t now)
    | .claimed now =>
      some ({ s with gen := { s.gen with sequence := 0 } }.finish t now 0)
    | .spinNow now => some (s.setPc t (if now ≤ s.gen.lastMs then .spin else .top))
    | .top | .spin => none

/-! ## Taking sequence numbers in turn -/

/-- A thread that takes a sequence number takes it for the millisecond that was claimed last, after
the sequence has been reset for every claimed millisecond, and without wrapping the counter. -/
def InTurn : Pc → Prop
  | .haveLast now last =>
    last < now ∨ now = s.gen.lastMs ∧ s.gen.sequence ≠ 65535 ∧ ∀ t, (s.pc t).claims = none
  | _ => True

instance : (pc : Pc) → Decidable (s.InTurn pc)
  | .haveLast _ _ => inferInstanceAs (Decidable (_ ∨ _))
  | .top | .haveNow _ | .claimed _ | .spin | .spinNow _ => .isTrue trivial

def TakesInTurn : Move n → Prop
  | .clock _ _ => True
  | .go t => s.InTurn (s.pc t)

instance (m : Move n) : Decidable (s.TakesInTurn m) := by
  cases m <;> dsimp only [TakesInTurn] <;> infer_instance

/-- What holds between the operations. -/
structure IdInv : Prop where
  instanceId : s.gen.instanceId ≤ maxInstanceId
  lastMs : s.gen.lastMs < 2 ^ 41
  reads : ∀ t now, (s.pc t).reads = some now → now < 2 ^ 41
  nodup : s.returned.Nodup
  returned : ∀ x ∈ s.returned, x.1 ≤ s.gen.lastMs ∧ x.2 ≤ maxSequence
  /-- the sequence is at least every number that was returned for the last millisecond -/
  sequence : ∀ q, (s.gen.lastMs, q) ∈ s.returned → q ≤ s.gen.sequence
  /-- nothing has been returned for a millisecond whose sequence is still to be reset -/
  claims : ∀ t now, (s.pc t).claims = some now → now ≤ s.gen.lastMs ∧ ∀ q, (now, q) ∉ s.returned
  claimsOnce : ∀ t t' now, (s.pc t).claims = some now → (s.pc t').claims = some now → t = t'
  /-- and for the last one at most the first id, while there is such a millisecond -/
  first : ∀ t now q, (s.pc t).claims = some now → (s.gen.lastMs, q) ∈ s.returned → q = 0

end

@[simp] lemma setPc_pc (s : SharedGen n) (t t' : Fin n) (pc : Pc) :
    (s.setPc t pc).pc t' = if t' = t then pc else s.pc t' :=
  Function.update_apply s.pc t pc t'

/-- What a thread claims after a step that claims nothing, it claimed before, and it is another
thread. -/
lemma claims_of_setPc {t t' : Fin n} {pc : Pc} (hpc : pc.claims = none)
    (h : ((s.setPc t pc).pc t').claims = some now) : t' ≠ t ∧ (s.pc t').claims = some now := by
  rw [setPc_pc] at h
  split at h
  · rw [hpc] at h
    cases h
  · exact ⟨‹_›, h⟩

section

variable (inv : IdInv s)
include inv

/-- A thread can go on as long as it claims nothing. -/
lemma IdInv.setPc (t : Fin n) (pc : Pc) (hpc : pc.claims = none)
    (hreads : ∀ now, pc.reads = some now → now < 2 ^ 41) : IdInv (s.setPc t pc) where
  instanceId := inv.instanceId
  lastMs := inv.lastMs
  reads := by
    intro t' now h
    rw [setPc_pc] at h
    split at h
    · exact hreads now h
    · exact inv.reads t' now h
  nodup := inv.nodup
  returned := inv.returned
  sequence := inv.sequence
  claims t' now h := inv.claims t' now (claims_of_setPc hpc h).2
  claimsOnce t' t'' now h h' :=
    inv.claimsOnce t' t'' now (claims_of_setPc hpc h).2 (claims_of_setPc hpc h').2
  first t' now q h := inv.first t' now q (claims_of_setPc hpc h).2

/-- Claiming a millisecond: nothing can have been returned for it yet. -/
lemma IdInv.claim (t : Fin n) (hlast : s.gen.lastMs < now) (hnow : now < 2 ^ 41) :
    IdInv { s.setPc t (.claimed now) with gen := { s.gen with lastMs := now } } := by
  have hfresh : ∀ q, (now, q) ∉ s.returned := by
    intro q hq
    have := (inv.returned _ hq).1
    omega
  -- a claimed millisecond is the new one, or one of another thread that is older
  have hclaims : ∀ t' now', ((s.setPc t (.claimed now)).pc t').claims = some now' →
      t' = t ∧ now' = now ∨ t' ≠ t ∧ (s.pc t').claims = some now' ∧ now' < now := by
    intro t' now' h
    rw [setPc_pc] at h
    split at h
    · cases h
      exact .inl ⟨‹_›, rfl⟩
    · have := (inv.claims t' now' h).1
      exact .inr ⟨‹_›, h, by omega⟩
  constructor
  case instanceId => exact inv.instanceId
  case lastMs => exact hnow
  case reads =>
    intro t' now' h
    simp only [setPc_pc] at h
    split at h
    · cases h
    · exact inv.reads t' now' h
  case nodup => exact inv.nodup
  case returned =>
    intro x hx
    obtain ⟨hms, hseq⟩ := inv.returned x hx
    exact ⟨hms.trans hlast.le, hseq⟩
  case sequence => exact fun q hq => absurd hq (hfresh q)
  case claims =>
    intro t' now' h
    rcases hclaims t' now' h with ⟨-, rfl⟩ | ⟨-, h, hlt⟩
    · exact ⟨le_rfl, hfresh⟩
    · exact ⟨hlt.le, (inv.claims t' now' h).2⟩
  case claimsOnce =>
    intro t' t'' now' h h'
    rcases hclaims t' now' h with ⟨rfl, rfl⟩ | ⟨-, h, hlt⟩ <;>
      rcases hclaims t'' _ h' with ⟨rfl, heq⟩ | ⟨-, h', hlt'⟩
    · rfl
    · exact absurd hlt' (lt_irrefl _)
    · exact absurd hlt (by omega)
    · exact inv.claimsOnce t' t'' now' h h'
  case first => exact fun t' now' q _ hq => absurd hq (hfresh q)

/-- Resetting the sequence for a claimed millisecond, and returning its first id. -/
lemma IdInv.reset {t : Fin n} (ht : (s.pc t).claims = some now) :
    IdInv ({ s with gen := { s.gen with sequence := 0 } }.finish t now 0) := by
  obtain ⟨hle, hfresh⟩ := inv.claims t now ht
  have hclaims : ∀ {t' now'}, ((s.setPc t .top).pc t').claims = some now' →
      t' ≠ t ∧ (s.pc t').claims = some now' := claims_of_setPc rfl
  -- for the last millisecond only the first id has been returned, now or before
  have hfirst : ∀ q, (s.gen.lastMs, q) ∈ (now, 0) :: s.returned → q = 0 := by
    intro q hq
    rcases mem_cons.mp hq with heq | hq
    · exact (Prod.mk.inj heq).2
    · exact inv.first t now q ht hq
  constructor
  case instanceId => exact inv.instanceId
  case lastMs => exact inv.lastMs
  case reads => exact (inv.setPc t .top rfl nofun).reads
  case nodup => exact nodup_cons.mpr ⟨hfresh 0, inv.nodup⟩
  case returned =>
    intro x hx
    rcases mem_cons.mp hx with rfl | hx
    · exact ⟨hle, show (0 : BitVec 16) ≤ maxSequence by decide⟩
    · exact inv.returned x hx
  case sequence =>
    intro q hq
    rw [hfirst q hq]
    exact le_refl 0
  case claims =>
    intro t' now' h
    obtain ⟨hne, h⟩ := hclaims h
    refine ⟨(inv.claims t' now' h).1, fun q hq => ?_⟩
    rcases mem_cons.mp hq with heq | hq
    · cases heq
      exact hne (inv.claimsOnce t' t now h ht)
    · exact (inv.claims t' now' h).2 q hq
  case claimsOnce =>
    exact fun t' t'' now' h h' => inv.claimsOnce t' t'' now' (hclaims h).2 (hclaims h').2
  case first => exact fun _ _ q _ => hfirst q

/-- Taking the next sequence number of the last millisecond, when no reset is outstanding. -/
lemma IdInv.takeSequence (t : Fin n) (hwrap : s.gen.sequence ≠ 65535)
    (hreset : ∀ t', (s.pc t').claims = none) : IdInv (s.takeSequence t s.gen.lastMs) := by
  have hnext : (s.gen.sequence + 1).toNat = s.gen.sequence.toNat + 1 := by
    have hne : s.gen.sequence.toNat ≠ 65535 := fun h => hwrap (BitVec.eq_of_toNat_eq h)
    have hlt : s.gen.sequence.toNat + 1 < 2 ^ 16 := by
      omega
    exact mod_eq_of_lt hlt
  have hlater : ∀ q, (s.gen.lastMs, q) ∈ s.returned → q.toNat < (s.gen.sequence + 1).toNat := by
    intro q hq
    have hle : q.toNat ≤ s.gen.sequence.toNat := inv.sequence q hq
    omega
  have hnone : ∀ pc : Pc, pc.claims = none → ∀ t', ((s.setPc t pc).pc t').claims = none := by
    intro pc hpc t'
    rw [setPc_pc]
    split
    · exact hpc
    · exact hreset t'
  simp only [SharedGen.takeSequence]
  split
  case isTrue hmax =>
    have htop := hnone .top rfl
    constructor
    case instanceId => exact inv.instanceId
    case lastMs => exact inv.lastMs
    case reads => exact (inv.setPc t .top rfl nofun).reads
    case nodup =>
      exact nodup_cons.mpr ⟨fun h => absurd (hlater _ h) (lt_irrefl _), inv.nodup⟩
    case returned =>
      intro x hx
      rcases mem_cons.mp hx with rfl | hx
      · exact ⟨le_rfl, hmax⟩
      · exact inv.returned x hx
    case sequence =>
      intro q hq
      rcases mem_cons.mp hq with heq | hq
      · cases heq
        exact Nat.le_refl _
      · exact (hlater q hq).le
    case claims => exact fun t' _ h => nomatch (htop t').symm.trans h
    case claimsOnce => exact fun t' _ _ h => nomatch (htop t').symm.trans h
    case first => exact fun t' _ _ h => nomatch (htop t').symm.trans h
  case isFalse =>
    -- no id: only the counter has moved on
    have inv' := inv.setPc t .spin rfl nofun
    exact { inv' with sequence := fun q hq => (hlater q hq).le }

lemma idInv_step {s' : SharedGen n} {m : Move n} (hturn : s.TakesInTurn m)
    (hstep : s.step m = some s') : IdInv s' := by
  cases m with
  | clock t now =>
    simp only [step] at hstep
    split at hstep
    case isFalse => cases hstep
    case isTrue hclock =>
      have hreads : ∀ now', some now = some now' → now' < 2 ^ 41 := by
        rintro _ ⟨⟩
        exact hclock.2
      split at hstep <;> cases hstep
      · exact { inv.setPc t (.haveNow now) rfl hreads with }
      · exact { inv.setPc t (.spinNow now) rfl nofun with }
  | go t =>
    simp only [step] at hstep
    split at hstep
    case h_1 now hpc =>
      cases hstep
      exact inv.setPc t _ rfl fun now' h => inv.reads t now' (by rw [hpc]; exact h)
    case h_2 now last hpc =>
      simp only [TakesInTurn, InTurn, hpc] at hturn
      split at hstep <;> cases hstep
      case isTrue hgt =>
        simp only [claim]
        split
        case isTrue hlast => exact inv.claim t (hlast ▸ hgt) (inv.reads t now (by rw [hpc]; rfl))
        case isFalse => exact inv.setPc t _ rfl nofun
      case isFalse hgt =>
        obtain ⟨rfl, hwrap, hreset⟩ := hturn.resolve_left hgt
        exact inv.takeSequence t hwrap hreset
    case h_3 now hpc =>
      cases hstep
      exact inv.reset (by rw [hpc]; rfl)
    case h_4 now hpc =>
      cases hstep
      split
      · exact inv.setPc t _ rfl nofun
      · exact inv.setPc t _ rfl nofun
    case h_5 | h_6 => cases hstep

end

lemma idInv_new {inst : BitVec 16} {g : SnowflakeIdGen} (h : new inst = some g) :
    IdInv ({ gen := g } : SharedGen n) := by
  simp only [new] at h
  split at h
  case isTrue => cases h
  case isFalse hinst =>
    cases h
    exact {
      instanceId := BitVec.not_lt.mp hinst
      lastMs := Nat.two_pow_pos 41
      reads := nofun
      nodup := nodup_nil
      returned := nofun
      sequence := nofun
      claims := nofun
      claimsOnce := nofun
      first := nofun }

/-- Ids are distinct as their timestamps and sequence numbers are. -/
lemma IdInv.ids_nodup (inv : IdInv s) : s.ids.Nodup := by
  refine inv.nodup.map_on ?_
  intro x hx y hy h
  obtain ⟨hx1, hx2⟩ := inv.returned x hx
  obtain ⟨hy1, hy2⟩ := inv.returned y hy
  have heq := compose_inj (hx1.trans_lt inv.lastMs) (hy1.trans_lt inv.lastMs) inv.instanceId
    hx2 hy2 h
  exact Prod.ext heq.1 heq.2

/-- **All ids are distinct** in every interleaving in which sequence numbers are taken in turn. -/
theorem ids_unique_of_run {inst : BitVec 16} {g : SnowflakeIdGen} {moves : List (Move n)}
    {s : SharedGen n} (hnew : new inst = some g)
    (hrun : run step { gen := g } moves = some s)
    (hturn : Guarded step TakesInTurn { gen := g } moves) : s.ids.Nodup := by
  have inv : IdInv s :=
    run_invariant (fun _ _ _ inv hok hs => idInv_step inv hok hs) (idInv_new hnew) hturn hrun
  exact inv.ids_nodup

/-- Two threads in the same millisecond: the second takes its number after the reset. -/
theorem ids_unique_in_turn :
    let moves : List (Move 2) := [.clock 0 5, .go 0, .go 0, .go 0, .clock 1 5, .go 1, .go 1]
    ∃ s ∈ run step { gen := { instanceId := 7, sequence := 0, lastMs := 0 } } moves,
      s.ids.length = 2 ∧ s.ids.Nodup := by
  intro moves
  obtain ⟨s, hs, hlen⟩ : ∃ s ∈ run step { gen := ⟨7, 0, 0⟩ } moves, s.ids.length = 2 := by
    decide +kernel
  have hnew : new 7 = some ⟨7, 0, 0⟩ := rfl
  exact ⟨s, hs, hlen, ids_unique_of_run hnew hs (by decide +kernel)⟩

/-- Thread 0 claims a millisecond and stops before it resets the sequence.  Thread 1 takes number 1,
thread 0 resets, and thread 1 takes number 1 again. -/
theorem reset_after_take_repeats_id :
    let moves : List (Move 2) :=
      [.clock 0 5, .go 0, .go 0, .clock 1 5, .go 1, .go 1, .go 0, .clock 1 5, .go 1, .go 1]
    ∃ g ∈ new 7, ∃ s ∈ run step { gen := g } moves, ¬ s.ids.Nodup := by
  decide +kernel

/-! ## The ids of an engine -/

lemma step_instanceId {s' : SharedGen n} {m : Move n} (h : s.step m = some s') :
    s'.gen.instanceId = s.gen.instanceId := by
  cases m with
  | clock t now =>
    simp only [step] at h
    split_ifs at h
    split at h <;> cases h <;> rfl
  | go t =>
    simp only [step, claim, takeSequence] at h
    split at h
    case h_2 => split_ifs at h <;> cases h <;> rfl
    all_goals cases h <;> rfl

/-- The ids that an engine with worker id `i` has given out, in a run of its generator in which its
threads take sequence numbers in turn. -/
def GivesOut (i : ℕ) (ids : List (BitVec 64)) : Prop :=
  ∃ (inst : BitVec 16) (gen : SnowflakeIdGen) (n : ℕ) (moves : List (Move n)) (s : SharedGen n),
    inst.toNat = i ∧ SnowflakeIdGen.new inst = some gen ∧ run step { gen } moves = some s ∧
      Guarded step TakesInTurn { gen } moves ∧ s.ids = ids

/-- The worker id is in the middle of every id. -/
lemma GivesOut.spec {i : ℕ} {ids : List (BitVec 64)} (h : GivesOut i ids) :
    ids.Nodup ∧ ∀ id ∈ ids, id.toNat / 2 ^ 12 % 2 ^ 10 = i := by
  obtain ⟨inst, gen, n, moves, s, rfl, hnew, hrun, hturn, rfl⟩ := h
  have hinst : gen.instanceId = inst := by
    simp only [SnowflakeIdGen.new] at hnew
    split_ifs at hnew
    cases hnew
    rfl
  obtain ⟨inv, rfl⟩ : IdInv s ∧ s.gen.instanceId = inst := by
    refine run_invariant (I := fun s => IdInv s ∧ s.gen.instanceId = inst) ?_
      ⟨idInv_new hnew, hinst⟩ hturn hrun
    rintro s m s' ⟨inv, hs⟩ hok hstep
    exact ⟨idInv_step inv hok hstep, (step_instanceId hstep).trans hs⟩
  refine ⟨inv.ids_nodup, fun id hid => ?_⟩
  obtain ⟨x, hx, rfl⟩ := mem_map.mp hid
  obtain ⟨hlast, hseq⟩ := inv.returned x hx
  have hi : s.gen.instanceId.toNat ≤ 1023 := inv.instanceId
  have hq : x.2.toNat ≤ 4095 := hseq
  rw [compose_toNat (hlast.trans_lt inv.lastMs) inv.instanceId hseq]
  omega

end SharedGen

end Zkbot
