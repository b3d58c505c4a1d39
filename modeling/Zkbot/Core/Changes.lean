import Zkbot.Core.Dict

/-!
# The changes of a dictionary

A program that keeps a dictionary tells others of its *changes*: a key got a value, or was removed.
Who has a copy of the dictionary replays the changes on it.

* `lookup_replay_eq` — a key that some change is about has the value all of them agree on, whatever
  their order.
* `changes old new` — how one dictionary becomes another; `lookup_replay_changes` says that
  replaying them does it.
* `lookup_replay_again` — changes that a copy already has can be replayed once more, as long as
  those that came after them are replayed as well.
-/

namespace Zkbot

open List

/-- One change of a dictionary. -/
inductive Change (K V : Type) where
  | upsert (key : K) (value : V)
  | remove (key : K)
  deriving DecidableEq

open Change

namespace Change

variable {K V : Type}

def key : Change K V → K
  | .upsert k _ => k
  | .remove k => k

/-- What the key has after the change. -/
def value : Change K V → Option V
  | .upsert _ v => some v
  | .remove _ => none

variable [DecidableEq K]

def apply (m : Dict K V) : Change K V → Dict K V
  | .upsert k v => m.insert k v
  | .remove k => m.erase k

lemma lookup_apply (m : Dict K V) (c : Change K V) (k : K) :
    (apply m c).lookup k = if k = c.key then c.value else m.lookup k := by
  cases c with
  | upsert i v => exact Dict.lookup_insert_if m i k v
  | remove i => exact Dict.lookup_erase_if m i k

end Change

variable {K V : Type} [DecidableEq K]

/-- Replay changes on a copy. -/
def replay (m : Dict K V) (cs : List (Change K V)) : Dict K V := cs.foldl apply m

lemma replay_append (m : Dict K V) (cs ds : List (Change K V)) :
    replay m (cs ++ ds) = replay (replay m cs) ds :=
  foldl_append

/-- The changes of a key agree on what it has after them, and one was made or it had that before. -/
lemma lookup_replay_eq {m : Dict K V} {cs : List (Change K V)} {k : K} {v : Option V}
    (hagree : ∀ c ∈ cs, c.key = k → c.value = v)
    (h : m.lookup k = v ∨ ∃ c ∈ cs, c.key = k) : (replay m cs).lookup k = v := by
  induction cs generalizing m with
  | nil => simpa [replay] using h
  | cons c cs ih =>
    refine ih (forall_mem_cons.mp hagree).2 ?_
    rw [lookup_apply]
    by_cases hk : k = c.key
    · rw [if_pos hk]
      exact .inl (hagree c mem_cons_self hk.symm)
    · rw [if_neg hk]
      refine h.imp_right ?_
      rintro ⟨c', hc', hkey⟩
      rcases mem_cons.mp hc' with rfl | hc'
      · exact absurd hkey.symm hk
      · exact ⟨c', hc', hkey⟩

lemma lookup_replay_of_forall_ne {m : Dict K V} {cs : List (Change K V)} {k : K}
    (h : ∀ c ∈ cs, c.key ≠ k) : (replay m cs).lookup k = m.lookup k :=
  lookup_replay_eq (fun c hc hkey => absurd hkey (h c hc)) (.inl rfl)

lemma exists_value_eq_lookup_replay {m : Dict K V} {cs : List (Change K V)} {k : K}
    (h : ∃ c ∈ cs, c.key = k) : ∃ c ∈ cs, c.key = k ∧ c.value = (replay m cs).lookup k := by
  induction cs generalizing m with
  | nil => simp at h
  | cons c cs ih =>
    by_cases hrest : ∃ c' ∈ cs, c'.key = k
    · obtain ⟨c', hc', hkey, hvalue⟩ := ih (m := apply m c) hrest
      exact ⟨c', mem_cons_of_mem _ hc', hkey, hvalue⟩
    · -- the first change is the last one about the key
      have hkey : c.key = k := by
        obtain ⟨c', hc', hkey⟩ := h
        rcases mem_cons.mp hc' with rfl | hc'
        · exact hkey
        · exact absurd ⟨c', hc', hkey⟩ hrest
      refine ⟨c, mem_cons_self, hkey, ?_⟩
      have hlast : (replay (apply m c) cs).lookup k = (apply m c).lookup k :=
        lookup_replay_of_forall_ne fun c' hc' hk => hrest ⟨c', hc', hk⟩
      rw [lookup_apply, if_pos hkey.symm] at hlast
      exact hlast.symm

/-- Changes do the same to copies that agree, and to a key they are about on any two copies. -/
lemma lookup_replay_congr {m m' : Dict K V} {cs : List (Change K V)} {k : K}
    (h : m.lookup k = m'.lookup k ∨ ∃ c ∈ cs, c.key = k) :
    (replay m cs).lookup k = (replay m' cs).lookup k := by
  induction cs generalizing m m' with
  | nil => simpa [replay] using h
  | cons c cs ih =>
    refine ih ?_
    rw [lookup_apply, lookup_apply]
    by_cases hk : k = c.key
    · exact .inl (by rw [if_pos hk, if_pos hk])
    · rw [if_neg hk, if_neg hk]
      refine h.imp_right ?_
      rintro ⟨c', hc', hkey⟩
      rcases mem_cons.mp hc' with rfl | hc'
      · exact absurd hkey.symm hk
      · exact ⟨c', hc', hkey⟩

/-- **Changes can be replayed on a copy that has them**, followed by those it does not have. -/
theorem lookup_replay_again (m : Dict K V) (as bs cs : List (Change K V)) (k : K) :
    (replay (replay m (as ++ bs)) (bs ++ cs)).lookup k = (replay m (as ++ bs ++ cs)).lookup k := by
  rw [append_assoc as, replay_append m as (bs ++ cs)]
  by_cases hk : ∃ c ∈ bs ++ cs, c.key = k
  · exact lookup_replay_congr (.inr hk)
  · have hbs : ∀ c ∈ bs, c.key ≠ k := fun c hc hkey =>
      hk ⟨c, mem_append_left _ hc, hkey⟩
    refine lookup_replay_congr (.inl ?_)
    rw [replay_append, lookup_replay_of_forall_ne hbs]

/-! ## From one dictionary to another -/

variable [DecidableEq V]

/-- The keys that are gone, and those that are new or have another value. -/
def changes (old new : Dict K V) : List (Change K V) :=
  (old.keys.filter fun k => k ∉ new).map .remove ++
    (new.entries.filter fun e => old.lookup e.1 ≠ some e.2).map fun e => .upsert e.1 e.2

lemma value_of_mem_changes {old new : Dict K V} {c : Change K V} (h : c ∈ changes old new) :
    c.value = new.lookup c.key := by
  rcases mem_append.mp h with h | h
  · obtain ⟨k, hk, rfl⟩ := mem_map.mp h
    have hgone : k ∉ new := by simpa using (mem_filter.mp hk).2
    exact (AList.lookup_eq_none.mpr hgone).symm
  · obtain ⟨e, he, rfl⟩ := mem_map.mp h
    exact (Dict.mem_entries_iff.mp (mem_filter.mp he).1).symm

theorem lookup_replay_changes (old new : Dict K V) (k : K) :
    (replay old (changes old new)).lookup k = new.lookup k := by
  refine lookup_replay_eq (fun c hc hkey => hkey ▸ value_of_mem_changes hc) ?_
  by_cases hsame : old.lookup k = new.lookup k
  · exact .inl hsame
  · right
    cases hnew : new.lookup k with
    | none =>
      refine ⟨.remove k, mem_append_left _ ?_, rfl⟩
      refine mem_map.mpr ⟨k, mem_filter.mpr ⟨?_, ?_⟩, rfl⟩
      · rw [← AList.mem_keys, ← AList.lookup_isSome, Option.isSome_iff_ne_none]
        exact fun h => hsame (h.trans hnew.symm)
      · simpa using AList.lookup_eq_none.mp hnew
    | some v =>
      refine ⟨.upsert k v, mem_append_right _ ?_, rfl⟩
      refine mem_map.mpr ⟨⟨k, v⟩, mem_filter.mpr ⟨Dict.mem_entries_iff.mpr hnew, ?_⟩, rfl⟩
      simpa [hnew] using hsame

end Zkbot
