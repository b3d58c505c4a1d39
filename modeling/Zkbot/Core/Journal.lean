import Zkbot.Core.Dict

/-!
# A dictionary kept in a store of records

A program keeps a dictionary in memory and writes what changes to a store of records, one record a
*slot*.  When it restarts it loads all records, in any order; a record names the key it is loaded
under, or none.  The store backs the dictionary if loading it gives the dictionary back.

* `Backs` — the invariant, with the keys whose record is still to be written: every record that is
  loaded lies in the slot of its key, and the records of the keys that are not pending show what the
  dictionary has.  The slot of a key is a function of what the dictionary has there, so a key that
  changes its slot while a record lies in the old one is not backed.
* `Backs.change` — a change of the dictionary; `Backs.write` — writing the record of a pending key.
* `Backs.load` — loading a store that backs a dictionary, in any order, shows the dictionary.
* `Backs.of_load` — a store backs what was loaded from it, if each key has one slot.
-/

namespace Zkbot

open List Option Dict

/-- How the records of a store are read: the key a record is loaded under, and what it shows. -/
structure Journal (K R W : Type) where
  key : R → Option K
  view : R → W

namespace Journal

variable {K K' R V W : Type} [DecidableEq K'] {j : Journal K R W}
  {slot : K → Option K'} {shown : K → Option W} {pending : K → Prop} {t : Dict K' R} {val : R → V}
  {rs : List R} {m : Dict K V} {k : K} {pending' : K → Prop}

/-- The store backs what is `shown`, but for what is `pending`. -/
structure Backs (j : Journal K R W) (slot : K → Option K') (shown : K → Option W)
    (pending : K → Prop) (t : Dict K' R) : Prop where
  placed : ∀ k' r k, t.lookup k' = some r → j.key r = some k → slot k = some k'
  agree : ∀ k, ¬ pending k → ∀ w,
    shown k = some w ↔ ∃ k' r, t.lookup k' = some r ∧ j.key r = some k ∧ j.view r = w

/-- Writing the record of a key into its slot. -/
theorem Backs.write (h : Backs j slot shown pending t)
    (hinj : ∀ k₁ k₂ k', slot k₁ = some k' → slot k₂ = some k' → k₁ = k₂) {k' : K'} {r : R}
    (hslot : slot k = some k') (hkey : j.key r = some k) (hshown : shown k = some (j.view r)) :
    Backs j slot shown (fun i => pending i ∧ i ≠ k) (t.insert k' r) where
  placed := by
    intro i' r' i hi' hi
    rw [lookup_insert_if] at hi'
    split_ifs at hi' with heq
    · cases hi'
      rw [hkey, some.injEq] at hi
      rw [← hi, heq]
      exact hslot
    · exact h.placed i' r' i hi' hi
  agree := by
    intro i hi w
    by_cases hik : i = k
    · -- the only record for this key is the one just written
      subst hik
      rw [hshown, some.injEq]
      constructor
      · rintro rfl
        exact ⟨k', r, AList.lookup_insert _, hkey, rfl⟩
      · rintro ⟨i', r', hi', hkey', rfl⟩
        rw [lookup_insert_if] at hi'
        split_ifs at hi' with heq
        · cases hi'
          rfl
        · have hplaced := h.placed i' r' i hi' hkey'
          rw [hslot, some.injEq] at hplaced
          exact absurd hplaced.symm heq
    · have hnot : ¬ pending i := fun hp => hi ⟨hp, hik⟩
      rw [h.agree i hnot w]
      constructor
      · rintro ⟨i', r', hi', hkey', hview⟩
        refine ⟨i', r', ?_, hkey', hview⟩
        rw [lookup_insert_if, if_neg]
        · exact hi'
        · rintro rfl
          exact hik (hinj i k i' (h.placed i' r' i hi' hkey') hslot)
      · rintro ⟨i', r', hi', hkey', hview⟩
        rw [lookup_insert_if] at hi'
        split_ifs at hi' with heq
        · cases hi'
          rw [hkey, some.injEq] at hkey'
          exact absurd hkey'.symm hik
        · exact ⟨i', r', hi', hkey', hview⟩

/-- The dictionary changes: no key leaves its slot, and the keys that change are pending. -/
lemma Backs.change {slot' : K → Option K'} {shown' : K → Option W} {changed : K → Prop}
    (h : Backs j slot shown pending t) (hslot : ∀ k k', slot k = some k' → slot' k = some k')
    (hshown : ∀ k, shown' k = shown k ∨ changed k) :
    Backs j slot' shown' (fun k => pending k ∨ changed k) t where
  placed k' r k hk' hk := hslot k k' (h.placed k' r k hk' hk)
  agree k hk w := by
    rw [(hshown k).resolve_right fun hc => hk (.inr hc)]
    exact h.agree k (fun hp => hk (.inl hp)) w

lemma Backs.mono (h : Backs j slot shown pending t) (hp : ∀ k, pending k → pending' k) :
    Backs j slot shown pending' t where
  placed := h.placed
  agree k hk := h.agree k fun hpk => hk (hp k hpk)

/-- A pending key that is not in the dictionary has no record. -/
lemma Backs.skip (h : Backs j slot shown pending t) (hslot : slot k = none)
    (hshown : shown k = none) : Backs j slot shown (fun i => pending i ∧ i ≠ k) t where
  placed := h.placed
  agree i hi w := by
    by_cases hik : i = k
    · subst hik
      rw [hshown]
      constructor
      · intro hw
        cases hw
      · rintro ⟨k', r, hk', hkey, -⟩
        have hplaced := h.placed k' r i hk' hkey
        rw [hslot] at hplaced
        cases hplaced
    · exact h.agree i (fun hp => hi ⟨hp, hik⟩) w

variable [DecidableEq K]

def loadRecord (j : Journal K R W) (val : R → V) (m : Dict K V) (r : R) : Dict K V :=
  match j.key r with
  | some k => m.insert k (val r)
  | none => m

/-- What is found after a load: a record that was loaded, or what was there before. -/
lemma lookup_loadRecords {v : V} (h : (rs.foldl (loadRecord j val) m).lookup k = some v) :
    (∃ r ∈ rs, j.key r = some k ∧ val r = v) ∨ m.lookup k = some v := by
  induction rs generalizing m with
  | nil => exact .inr h
  | cons r rs ih =>
    rcases ih h with ⟨r', hr', hfound⟩ | hm
    · exact .inl ⟨r', mem_cons_of_mem _ hr', hfound⟩
    · simp only [loadRecord] at hm
      cases hkey : j.key r with
      | none =>
        rw [hkey] at hm
        exact .inr hm
      | some i =>
        rw [hkey] at hm
        simp only [lookup_insert_if] at hm
        split_ifs at hm with heq
        · cases hm
          exact .inl ⟨r, mem_cons_self, heq ▸ hkey, rfl⟩
        · exact .inr hm

lemma isSome_loadRecords (h : (m.lookup k).isSome = true ∨ ∃ r ∈ rs, j.key r = some k) :
    ((rs.foldl (loadRecord j val) m).lookup k).isSome = true := by
  induction rs generalizing m with
  | nil =>
    rcases h with h | ⟨r, hr, -⟩
    · exact h
    · cases hr
  | cons r rs ih =>
    refine ih ?_
    simp only [loadRecord]
    rcases h with h | ⟨r', hr', hkey⟩
    · left
      cases j.key r with
      | none => exact h
      | some i =>
        simp only [lookup_insert_if]
        split_ifs
        · rfl
        · exact h
    · rcases mem_cons.mp hr' with rfl | hr'
      · simp [hkey]
      · exact .inr ⟨r', hr', hkey⟩

lemma mem_records (h : rs.Perm (t.entries.map (·.2))) (r : R) :
    r ∈ rs ↔ ∃ k', t.lookup k' = some r := by
  rw [h.mem_iff, List.mem_map]
  constructor
  · rintro ⟨e, he, rfl⟩
    exact ⟨e.1, mem_entries_iff.mp he⟩
  · rintro ⟨k', hk'⟩
    exact ⟨⟨k', r⟩, mem_entries_iff.mpr hk', rfl⟩

/-- **Loading a store that backs a dictionary shows the dictionary**, whatever the order. -/
theorem Backs.load (h : Backs j slot shown pending t) (hpending : ∀ k, ¬ pending k) {f : V → W}
    (hm : m = rs.foldl (loadRecord j val) ∅) (hval : ∀ r, f (val r) = j.view r)
    (hrs : ∀ r, r ∈ rs ↔ ∃ k', t.lookup k' = some r) (k : K) : (m.lookup k).map f = shown k := by
  cases hfound : m.lookup k with
  | some v =>
    rw [hm] at hfound
    rcases lookup_loadRecords hfound with ⟨r, hr, hkey, rfl⟩ | hempty
    · obtain ⟨k', hk'⟩ := (hrs r).mp hr
      rw [map_some, hval, eq_comm]
      exact (h.agree k (hpending k) (j.view r)).mpr ⟨k', r, hk', hkey, rfl⟩
    · cases hempty
  | none =>
    rw [map_none, eq_comm, eq_none_iff_forall_not_mem]
    intro w hw
    obtain ⟨k', r, hk', hkey, -⟩ := (h.agree k (hpending k) w).mp hw
    have hsome : ((rs.foldl (loadRecord j val) ∅).lookup k).isSome = true :=
      isSome_loadRecords (.inr ⟨r, (hrs r).mpr ⟨k', hk'⟩, hkey⟩)
    rw [← hm, hfound] at hsome
    cases hsome

/-- Each key has one record. -/
def OneRecord (j : Journal K R W) (t : Dict K' R) : Prop :=
  ∀ k₁' k₂' r₁ r₂ k, t.lookup k₁' = some r₁ → t.lookup k₂' = some r₂ → j.key r₁ = some k →
    j.key r₂ = some k → k₁' = k₂'

/-- The only record of a key is what is found, whatever the order. -/
lemma OneRecord.lookup_load (h : OneRecord j t) (val : R → V)
    (hrs : ∀ r, r ∈ rs ↔ ∃ k', t.lookup k' = some r) {k' : K'} {r : R} (hr : t.lookup k' = some r)
    (hkey : j.key r = some k) : (rs.foldl (loadRecord j val) ∅).lookup k = some (val r) := by
  have hsome : ((rs.foldl (loadRecord j val) ∅).lookup k).isSome = true :=
    isSome_loadRecords (.inr ⟨r, (hrs r).mpr ⟨k', hr⟩, hkey⟩)
  obtain ⟨v, hv⟩ := isSome_iff_exists.mp hsome
  rcases lookup_loadRecords hv with ⟨r₂, hr₂, hkey₂, rfl⟩ | hempty
  · obtain ⟨k₂', hk₂'⟩ := (hrs r₂).mp hr₂
    have hslot := h k' k₂' r r₂ k hr hk₂' hkey hkey₂
    subst hslot
    rw [hr, some.injEq] at hk₂'
    rw [hv, hk₂']
  · cases hempty

/-- **A store backs what was loaded from it**, if each key has one record and it lies in the slot of
its key. -/
theorem Backs.of_load {f : V → W} (hm : m = rs.foldl (loadRecord j val) ∅)
    (hval : ∀ r, f (val r) = j.view r) (hrs : ∀ r, r ∈ rs ↔ ∃ k', t.lookup k' = some r)
    (hone : OneRecord j t)
    (hplaced : ∀ k' r k, t.lookup k' = some r → j.key r = some k → m.lookup k = some (val r) →
      slot k = some k') : Backs j slot (fun k => (m.lookup k).map f) pending t where
  placed k' r k hr hkey := by
    refine hplaced k' r k hr hkey ?_
    rw [hm]
    exact hone.lookup_load val hrs hr hkey
  agree k _ w := by
    rw [hm]
    constructor
    · intro hw
      obtain ⟨v, hv, rfl⟩ := map_eq_some_iff.mp hw
      rcases lookup_loadRecords hv with ⟨r, hr, hkey, rfl⟩ | hempty
      · obtain ⟨k', hk'⟩ := (hrs r).mp hr
        exact ⟨k', r, hk', hkey, (hval r).symm⟩
      · cases hempty
    · rintro ⟨k', r, hk', hkey, rfl⟩
      rw [hone.lookup_load val hrs hk' hkey, map_some, hval]

end Journal

end Zkbot
