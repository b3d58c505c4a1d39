import Mathlib.Data.List.Nodup
import Mathlib.Data.Nat.Find

/-!
# Directories of names

A program that works with small integers instead of names keeps an append-only list of names: the id
of a name is its place in the list.  Beside the list, a map says which names are current and under
which id.  A *reload* replaces the map: a name of the new configuration keeps the id it is current
under, and any other is appended.

* `Reloads d ks d'` — what a reload to the names `ks` does, and the rules to build one name by name:
  `Reloads.start`, `Reloads.known`, `Reloads.append`, `Reloads.again`.
* `History d ks n` — `n` reloads in a row, from nothing.
* `sameIds_iff`, `nodup_iff` — names keep their ids along a history, and no name is listed twice,
  exactly when no name ever *returns*: a name that is dropped by one reload and taken up by a later
  one is a new name to the directory.
-/

namespace Zkbot

open List Option Function

structure Directory (K : Type) where
  names : List K
  ids : K → Option ℕ

namespace Directory

variable {K : Type} {d d' : Directory K} {ks : List K} {k : K}

/-- A current id is a place where the list has that name. -/
def Sound (d : Directory K) : Prop := ∀ k i, d.ids k = some i → d.names[i]? = some k

/-- `d'` is `d` after a reload to the names `ks`. -/
structure Reloads (d : Directory K) (ks : List K) (d' : Directory K) : Prop where
  appended : ∃ app, d'.names = d.names ++ app ∧ app.Nodup ∧ ∀ k ∈ app, k ∈ ks ∧ d.ids k = none
  current : ∀ k, (d'.ids k).isSome = true ↔ k ∈ ks
  kept : ∀ k i, k ∈ ks → d.ids k = some i → d'.ids k = some i
  fresh : ∀ k i, d.ids k = none → d'.ids k = some i → d.names.length ≤ i
  sound : d'.Sound

/-! ## Reloading name by name -/

lemma Reloads.start (d : Directory K) : Reloads d [] ⟨d.names, fun _ => none⟩ where
  appended := ⟨[], by simp⟩
  current := by simp
  kept k i hk := by simp at hk
  fresh k i _ hi := by cases hi
  sound k i hi := by cases hi

lemma Reloads.again (h : Reloads d ks d') (hk : k ∈ ks) : Reloads d (ks ++ [k]) d' where
  appended := by
    obtain ⟨app, happ, hnodup, hnew⟩ := h.appended
    refine ⟨app, happ, hnodup, fun j hj => ⟨?_, (hnew j hj).2⟩⟩
    exact mem_append_left _ (hnew j hj).1
  current j := by
    rw [h.current, mem_append, mem_singleton]
    constructor
    · exact .inl
    · rintro (hj | rfl)
      · exact hj
      · exact hk
  kept j i hj hi := by
    rcases mem_append.mp hj with hj | hj
    · exact h.kept j i hj hi
    · rw [mem_singleton] at hj
      subst hj
      exact h.kept j i hk hi
  fresh := h.fresh
  sound := h.sound

section Build

variable [DecidableEq K]

/-- Makes `i` the id of `k`. -/
def enter (d : Directory K) (k : K) (i : ℕ) : Directory K :=
  { d with ids := update d.ids k (some i) }

@[simp] lemma enter_names (d : Directory K) (k : K) (i : ℕ) : (d.enter k i).names = d.names := rfl

@[simp] lemma enter_ids_self (d : Directory K) (k : K) (i : ℕ) : (d.enter k i).ids k = some i :=
  update_self ..

lemma enter_ids_of_ne (d : Directory K) {j : K} (i : ℕ) (h : j ≠ k) :
    (d.enter k i).ids j = d.ids j := update_of_ne h ..

/-- Lists `k` and makes its place the id of `k`. -/
def push (d : Directory K) (k : K) : Directory K :=
  { names := d.names ++ [k], ids := update d.ids k (some d.names.length) }

@[simp] lemma push_names (d : Directory K) (k : K) : (d.push k).names = d.names ++ [k] := rfl

@[simp] lemma push_ids_self (d : Directory K) (k : K) :
    (d.push k).ids k = some d.names.length := update_self ..

lemma push_ids_of_ne (d : Directory K) {j : K} (h : j ≠ k) :
    (d.push k).ids j = d.ids j := update_of_ne h ..

lemma Reloads.known (h : Reloads d ks d') (hd : d.Sound) {i : ℕ} (hi : d.ids k = some i) :
    Reloads d (ks ++ [k]) (d'.enter k i) where
  appended := by
    obtain ⟨app, happ, hnodup, hnew⟩ := h.appended
    refine ⟨app, happ, hnodup, fun j hj => ⟨?_, (hnew j hj).2⟩⟩
    exact mem_append_left _ (hnew j hj).1
  current j := by
    by_cases hj : j = k
    · subst hj
      simp
    · simp [enter_ids_of_ne d' i hj, h.current, hj]
  kept j i' hj hi' := by
    by_cases hjk : j = k
    · subst hjk
      rw [enter_ids_self, ← hi, hi']
    · rw [enter_ids_of_ne d' i hjk]
      simp only [mem_append, mem_singleton, hjk, or_false] at hj
      exact h.kept j i' hj hi'
  fresh j i' hj hi' := by
    have hjk : j ≠ k := by
      rintro rfl
      rw [hi] at hj
      cases hj
    rw [enter_ids_of_ne d' i hjk] at hi'
    exact h.fresh j i' hj hi'
  sound j i' hi' := by
    by_cases hjk : j = k
    · subst hjk
      rw [enter_ids_self] at hi'
      cases hi'
      have hold := hd j i hi
      obtain ⟨app, happ, -⟩ := h.appended
      rw [enter_names, happ, List.getElem?_append_left (List.getElem?_eq_some_iff.mp hold).1]
      exact hold
    · rw [enter_ids_of_ne d' i hjk] at hi'
      exact h.sound j i' hi'

lemma Reloads.append (h : Reloads d ks d') (hk : k ∉ ks) (hi : d.ids k = none) :
    Reloads d (ks ++ [k]) (d'.push k) where
  appended := by
    obtain ⟨app, happ, hnodup, hnew⟩ := h.appended
    refine ⟨app ++ [k], by rw [push_names, happ, append_assoc], ?_, ?_⟩
    · rw [nodup_append]
      refine ⟨hnodup, by simp, fun j hj j' hj' => ?_⟩
      rw [mem_singleton] at hj'
      rintro rfl
      exact hk (hj' ▸ (hnew j hj).1)
    · intro j hj
      rcases mem_append.mp hj with hj | hj
      · exact ⟨mem_append_left _ (hnew j hj).1, (hnew j hj).2⟩
      · rw [mem_singleton] at hj
        subst hj
        exact ⟨by simp, hi⟩
  current j := by
    by_cases hj : j = k
    · subst hj
      simp
    · simp [push_ids_of_ne d' hj, h.current, hj]
  kept j i' hj hi' := by
    have hjk : j ≠ k := by
      rintro rfl
      rw [hi] at hi'
      cases hi'
    rw [push_ids_of_ne d' hjk]
    simp only [mem_append, mem_singleton, hjk, or_false] at hj
    exact h.kept j i' hj hi'
  fresh j i' hj hi' := by
    by_cases hjk : j = k
    · subst hjk
      rw [push_ids_self] at hi'
      cases hi'
      obtain ⟨app, happ, -⟩ := h.appended
      simp [happ]
    · rw [push_ids_of_ne d' hjk] at hi'
      exact h.fresh j i' hj hi'
  sound j i' hi' := by
    by_cases hjk : j = k
    · subst hjk
      rw [push_ids_self] at hi'
      cases hi'
      exact getElem?_concat_length
    · rw [push_ids_of_ne d' hjk] at hi'
      have hold := h.sound j i' hi'
      exact (List.getElem?_append_left (List.getElem?_eq_some_iff.mp hold).1).trans hold

end Build

/-! ## Histories of reloads -/

/-- The directories `d 0 … d n` of `n` reloads in a row, from nothing to `ks 0`, then `ks 1` … -/
structure History (d : ℕ → Directory K) (ks : ℕ → List K) (n : ℕ) : Prop where
  names_zero : (d 0).names = []
  ids_zero : ∀ k, (d 0).ids k = none
  reloads : ∀ i < n, Reloads (d i) (ks i) (d (i + 1))

/-- No name that was dropped is taken up again. -/
def NoReturn (ks : ℕ → List K) (n : ℕ) : Prop :=
  ∀ k i m j, i < m → m < j → j < n → k ∈ ks i → k ∈ ks j → k ∈ ks m

lemma NoReturn.mem {ks : ℕ → List K} {n i q : ℕ} {k : K} (h : NoReturn ks n) (hiq : i ≤ q)
    (hq : q + 1 < n) (hki : k ∈ ks i) (hkq : k ∈ ks (q + 1)) : k ∈ ks q := by
  rcases Nat.lt_or_eq_of_le hiq with hiq | rfl
  · exact h k i q (q + 1) hiq (by omega) hq hki hkq
  · exact hki

/-- A name is current under one id only, through the whole history. -/
def SameIds (d : ℕ → Directory K) (n : ℕ) : Prop :=
  ∀ k i j x y, i ≤ j → j ≤ n → (d i).ids k = some x → (d j).ids k = some y → x = y

namespace History

variable {d : ℕ → Directory K} {ks : ℕ → List K} {n i : ℕ} (h : History d ks n)
include h

lemma names_isPrefix {j : ℕ} (hij : i ≤ j) (hj : j ≤ n) : (d i).names <+: (d j).names := by
  induction j, hij using Nat.le_induction with
  | base => exact prefix_rfl
  | succ j _ ih =>
    obtain ⟨app, happ, -⟩ := (h.reloads j (by omega)).appended
    exact (ih (by omega)).trans ⟨app, happ.symm⟩

lemma exists_mem_of_mem_names (hi : i ≤ n) (hk : k ∈ (d i).names) : ∃ j < i, k ∈ ks j := by
  induction i with
  | zero =>
    rw [h.names_zero] at hk
    cases hk
  | succ i ih =>
    obtain ⟨app, happ, -, hnew⟩ := (h.reloads i (by omega)).appended
    rw [happ, mem_append] at hk
    rcases hk with hk | hk
    · obtain ⟨j, hj, hkj⟩ := ih (by omega) hk
      exact ⟨j, by omega, hkj⟩
    · exact ⟨i, by omega, (hnew k hk).1⟩

lemma mem_of_ids {x : ℕ} (hi : i < n) (hx : (d (i + 1)).ids k = some x) : k ∈ ks i :=
  ((h.reloads i hi).current k).mp (by rw [hx]; rfl)

lemma exists_ids (hi : i < n) (hk : k ∈ ks i) : ∃ x, (d (i + 1)).ids k = some x :=
  isSome_iff_exists.mp (((h.reloads i hi).current k).mpr hk)

lemma ids_eq_none (hi : i < n) (hk : k ∉ ks i) : (d (i + 1)).ids k = none := by
  rw [← not_isSome_iff_eq_none, (h.reloads i hi).current k]
  exact hk

/-- A name that returns is listed a second time, and current under its second place. -/
lemma second_id {m j : ℕ} (him : i < m) (hmj : m < j) (hj : j < n) (hki : k ∈ ks i)
    (hkj : k ∈ ks j) (hkm : k ∉ ks m) :
    ∃ t x y, m < t ∧ t < n ∧ (d (i + 1)).ids k = some x ∧ (d (t + 1)).ids k = some y ∧ x < y := by
  -- `t` is the first configuration after the gap that has the name
  classical
  have hex : ∃ t, m < t ∧ k ∈ ks t := ⟨j, hmj, hkj⟩
  obtain ⟨hmt, hkt⟩ := Nat.find_spec hex
  have htj : Nat.find hex ≤ j := Nat.find_min' hex ⟨hmj, hkj⟩
  generalize ht : Nat.find hex = t at hmt hkt htj
  obtain ⟨r, rfl⟩ : ∃ r, t = r + 1 := ⟨t - 1, by omega⟩
  have hkr : k ∉ ks r := by
    intro hkr
    rcases Nat.lt_or_ge m r with hmr | hrm
    · exact Nat.find_min hex (by omega) ⟨hmr, hkr⟩
    · obtain rfl : r = m := by omega
      exact hkm hkr
  obtain ⟨x, hx⟩ := h.exists_ids (by omega) hki
  obtain ⟨y, hy⟩ := h.exists_ids (by omega) hkt
  have hnone := h.ids_eq_none (by omega) hkr
  have hfresh := (h.reloads (r + 1) (by omega)).fresh k y hnone hy
  have hlisted := (h.reloads i (by omega)).sound k x hx
  have hlen := (h.names_isPrefix (show i + 1 ≤ r + 1 by omega) (by omega)).length_le
  have hlt := (List.getElem?_eq_some_iff.mp hlisted).1
  exact ⟨r + 1, x, y, hmt, by omega, hx, hy, by omega⟩

theorem sameIds_iff : SameIds d n ↔ NoReturn ks n := by
  constructor
  · intro hsame k i m j him hmj hj hki hkj
    by_contra hkm
    obtain ⟨t, x, y, hmt, htn, hx, hy, hlt⟩ := h.second_id him hmj hj hki hkj hkm
    have := hsame k (i + 1) (t + 1) x y (by omega) (by omega) hx hy
    omega
  · intro hnr k i j x y hij hj hx
    -- on the later time: the name was there all along, so each reload kept its id
    induction j, hij using Nat.le_induction generalizing y with
    | base =>
      intro hy
      rw [hx] at hy
      exact some.inj hy
    | succ j hij ih =>
      intro hy
      obtain ⟨r, rfl⟩ : ∃ r, i = r + 1 := by
        cases i with
        | zero =>
          rw [h.ids_zero] at hx
          cases hx
        | succ r => exact ⟨r, rfl⟩
      obtain ⟨q, rfl⟩ : ∃ q, j = q + 1 := ⟨j - 1, by omega⟩
      have hkr := h.mem_of_ids (by omega) hx
      have hkj := h.mem_of_ids (by omega) hy
      have hkq : k ∈ ks q := hnr.mem (by omega) (by omega) hkr hkj
      obtain ⟨z, hz⟩ := h.exists_ids (by omega) hkq
      have hkept := (h.reloads (q + 1) (by omega)).kept k z hkj hz
      rw [hkept] at hy
      rw [ih z (by omega) hz, some.inj hy]

theorem nodup_iff : (d n).names.Nodup ↔ NoReturn ks n := by
  constructor
  · intro hnodup k i m j him hmj hj hki hkj
    by_contra hkm
    obtain ⟨t, x, y, hmt, htn, hx, hy, hlt⟩ := h.second_id him hmj hj hki hkj hkm
    have hplace : ∀ {r z}, r < n → (d (r + 1)).ids k = some z → (d n).names[z]? = some k := by
      intro r z hr hz
      have hsound := (h.reloads r hr).sound k z hz
      obtain ⟨app, happ⟩ := h.names_isPrefix (show r + 1 ≤ n by omega) le_rfl
      rw [← happ, List.getElem?_append_left (List.getElem?_eq_some_iff.mp hsound).1]
      exact hsound
    obtain ⟨hxlt, hxk⟩ := List.getElem?_eq_some_iff.mp (hplace (by omega) hx)
    obtain ⟨hylt, hyk⟩ := List.getElem?_eq_some_iff.mp (hplace htn hy)
    have := hnodup.getElem_inj_iff.mp (hxk.trans hyk.symm)
    omega
  · intro hnr
    suffices hall : ∀ i ≤ n, (d i).names.Nodup from hall n le_rfl
    intro i hi
    induction i with
    | zero => simp [h.names_zero]
    | succ i ih =>
      obtain ⟨app, happ, happnodup, hnew⟩ := (h.reloads i (by omega)).appended
      rw [happ, nodup_append]
      refine ⟨ih (by omega), happnodup, fun k hk k' hk' => ?_⟩
      rintro rfl
      obtain ⟨hki, hnone⟩ := hnew k hk'
      obtain ⟨j, hji, hkj⟩ := h.exists_mem_of_mem_names (by omega) hk
      obtain ⟨q, rfl⟩ : ∃ q, i = q + 1 := ⟨i - 1, by omega⟩
      have hkq : k ∈ ks q := hnr.mem (by omega) (by omega) hkj hki
      obtain ⟨z, hz⟩ := h.exists_ids (by omega) hkq
      rw [hnone] at hz
      cases hz

end History

end Directory

end Zkbot
