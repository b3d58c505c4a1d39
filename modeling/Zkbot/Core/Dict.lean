import Mathlib.Data.List.AList
import Mathlib.Algebra.Order.BigOperators.Group.List

/-!
# Finite dictionaries

A dictionary with keys `K` and values `V` is Mathlib's `AList` at a constant family, so that
`lookup`, `insert` and `erase` compute and every key occurs once.  This file adds what a stateful
program does with one:

* `modify` — change the value at a key in place, and do nothing where the key is absent.
* `lookup_insert_if`, `lookup_erase_if`, `lookup_modify` — one conditional equation for each
  operation, which is the form a case split on keys consumes.
* `collectBy` — the values of a list, each under its own key; `rekey` — the values of a dictionary,
  each under the key it names itself.
* `sumBy` — the sum of a weight over all entries.  A new entry adds its weight (`sumBy_insert`), and
  a weight that changes at one key changes the sum by as much (`sumBy_of_agree`).
-/

namespace Zkbot

open List Option AList

/-- A finite dictionary. -/
abbrev Dict (K V : Type) := AList fun _ : K => V

namespace Dict

variable {K V M : Type} [DecidableEq K] {k : K} {m : Dict K V} {f : K → V → M} {v : V}
  {g : K → V → M}

/-- Update the value at `k` in place.  An absent key stays absent. -/
def modify (m : Dict K V) (k : K) (f : V → V) : Dict K V :=
  match m.lookup k with
  | some v => m.insert k (f v)
  | none => m

def getD (m : Dict K V) (k : K) (d : V) : V := (m.lookup k).getD d

/-! ## Lookup after an update -/

lemma lookup_insert_if (m : Dict K V) (k k' : K) (v : V) :
    (m.insert k v).lookup k' = if k' = k then some v else m.lookup k' := by
  split_ifs with h
  · subst h; exact lookup_insert m
  · exact lookup_insert_ne h

lemma lookup_erase_if (m : Dict K V) (k k' : K) :
    (m.erase k).lookup k' = if k' = k then none else m.lookup k' := by
  split_ifs with h
  · subst h; exact lookup_erase k' m
  · exact lookup_erase_ne h

@[simp] lemma lookup_modify_self (m : Dict K V) (k : K) (f : V → V) :
    (m.modify k f).lookup k = (m.lookup k).map f := by
  cases h : m.lookup k with
  | some v | none => simp [modify, h]

lemma lookup_modify_ne {k' : K} (h : k' ≠ k) (m : Dict K V) (f : V → V) :
    (m.modify k f).lookup k' = m.lookup k' := by
  simp only [modify]
  cases m.lookup k with
  | some v => exact lookup_insert_ne h
  | none => rfl

lemma modify_of_lookup (h : m.lookup k = some v) (f : V → V) : m.modify k f = m.insert k (f v) := by
  simp [modify, h]

/-! ## Membership and lookup -/

lemma mem_iff_lookup : k ∈ m ↔ ∃ v, m.lookup k = some v := by
  rw [← lookup_isSome, isSome_iff_exists]

lemma mem_of_lookup (h : m.lookup k = some v) : k ∈ m :=
  mem_iff_lookup.mpr ⟨v, h⟩

lemma mem_modify {k' : K} {f : V → V} : k' ∈ m.modify k f ↔ k' ∈ m := by
  by_cases hk : k' = k
  · subst hk; simp [mem_iff_lookup, lookup_modify_self]
  · simp [mem_iff_lookup, lookup_modify_ne hk]

/-- What a change keeps of every value reads the same before and after it. -/
lemma map_lookup_modify {W : Type} {g : V → W} {f : V → V} (h : ∀ v, g (f v) = g v)
    (m : Dict K V) (k k' : K) : ((m.modify k f).lookup k').map g = (m.lookup k').map g := by
  by_cases hk : k' = k
  · subst hk
    rw [lookup_modify_self, Option.map_map]
    exact congrArg (Option.map · _) (funext h)
  · rw [lookup_modify_ne hk]

lemma map_lookup_insert {W : Type} {g : V → W} {m : Dict K V} {k : K} {v v' : V}
    (hv : m.lookup k = some v) (h : g v' = g v) (k' : K) :
    ((m.insert k v').lookup k').map g = (m.lookup k').map g := by
  by_cases hk : k' = k
  · subst hk
    rw [AList.lookup_insert, hv, Option.map_some, Option.map_some, h]
  · rw [AList.lookup_insert_ne hk]

/-! ## Dictionaries from lists -/

/-- The values of a list under their own keys; of two with one key, the later stays. -/
def collectBy (key : V → K) (vs : List V) : Dict K V := vs.foldl (fun m v => m.insert (key v) v) ∅

lemma key_of_lookup_collectBy {key : V → K} {vs : List V}
    (h : (collectBy key vs).lookup k = some v) : key v = k := by
  -- what is true of the dictionary so far is true after one more value
  suffices hfold : ∀ (vs : List V) (m : Dict K V), (∀ k v, m.lookup k = some v → key v = k) →
      ∀ k v, (vs.foldl (fun m v => m.insert (key v) v) m).lookup k = some v → key v = k from
    hfold vs ∅ (fun k v h => by cases h) k v h
  intro vs
  induction vs with
  | nil => exact fun m hm => hm
  | cons w ws ih =>
    intro m hm
    refine ih _ fun k v hv => ?_
    rw [lookup_insert_if] at hv
    split_ifs at hv with hk
    · cases hv
      exact hk.symm
    · exact hm k v hv

lemma lookup_foldl_insert {α : Type} (key : α → K) (val : α → V) (as : List α) (m : Dict K V)
    (k : K) :
    (as.foldl (fun m a => m.insert (key a) (val a)) m).lookup k =
      ((as.reverse.find? fun a => decide (key a = k)).map val).or (m.lookup k) := by
  induction as generalizing m with
  | nil => rfl
  | cons a as ih =>
    rw [foldl_cons, ih, lookup_insert_if, reverse_cons, find?_append,
      Option.map_or, Option.or_assoc]
    by_cases hk : key a = k
    · simp [hk]
    · simp [hk, Ne.symm hk]

/-- The values of a dictionary under the keys they name themselves; a value that names none is left
out. -/
def rekey {K' W : Type} [DecidableEq K'] (key : V → Option K') (f : V → W) (m : Dict K V) :
    Dict K' W :=
  m.entries.foldl
    (fun acc e =>
      match key e.2 with
      | some k => acc.insert k (f e.2)
      | none => acc) ∅

lemma mem_entries_iff {e : Sigma fun _ : K => V} : e ∈ m.entries ↔ m.lookup e.1 = some e.2 :=
  mem_lookup_iff.symm

/-- A search among the entries is a lookup, whichever way it goes through them. -/
lemma find?_reverse_entries (m : Dict K V) (k : K) :
    m.entries.reverse.find? (fun e => decide (e.1 = k)) = (m.lookup k).map fun v => ⟨k, v⟩ := by
  cases hv : m.lookup k with
  | none =>
    rw [map_none, find?_eq_none]
    intro e he hek
    have hlook := mem_entries_iff.mp (mem_reverse.mp he)
    rw [of_decide_eq_true hek, hv] at hlook
    cases hlook
  | some v =>
    have hmem : (⟨k, v⟩ : Sigma fun _ : K => V) ∈ m.entries.reverse :=
      mem_reverse.mpr (mem_entries_iff.mpr hv)
    cases hfind : m.entries.reverse.find? fun e => decide (e.1 = k) with
    | none => simpa using find?_eq_none.mp hfind _ hmem
    | some e =>
      obtain ⟨k', v'⟩ := e
      obtain rfl : k' = k := by simpa using find?_some hfind
      have hlook := mem_entries_iff.mp (mem_reverse.mp (mem_of_find?_eq_some hfind))
      rw [hv, some.injEq] at hlook
      rw [map_some, hlook]

lemma lookup_rekey {W : Type} {key : V → Option K} {f : V → W}
    (h : ∀ k v, m.lookup k = some v → key v = some k) (k : K) :
    (m.rekey key f).lookup k = (m.lookup k).map f := by
  have hinsert : m.rekey key f = m.entries.foldl (fun acc e => acc.insert e.1 (f e.2)) ∅ := by
    refine foldl_ext _ _ _ fun acc e he => ?_
    rw [h e.1 e.2 (mem_entries_iff.mp he)]
  rw [hinsert, lookup_foldl_insert (fun e : Sigma fun _ : K => V => e.1) (fun e => f e.2),
    find?_reverse_entries]
  cases m.lookup k with
  | none => rfl
  | some v => rfl

/-! ## Sums over a dictionary -/

variable [AddCommMonoid M]

/-- The sum of a weight over all entries. -/
def sumBy (f : K → V → M) (m : Dict K V) : M := (m.entries.map fun e => f e.1 e.2).sum

/-- The weight of what is stored at one key; zero where nothing is stored. -/
def weightAt (f : K → V → M) (m : Dict K V) (k : K) : M := (m.lookup k).elim 0 (f k)

/-- Taking one key out of a dictionary takes exactly its weight out of the sum. -/
lemma sumBy_erase (f : K → V → M) (m : Dict K V) (k : K) :
    sumBy f m = weightAt f m k + sumBy f (m.erase k) := by
  by_cases hk : k ∈ m.entries.keys
  · obtain ⟨v, l₁, l₂, hl₁, hm, he⟩ := exists_of_kerase hk
    have hv : m.lookup k = some v := by
      have hmem : (⟨k, v⟩ : Sigma fun _ : K => V) ∈ m.entries := by simp [hm]
      exact (mem_dlookup_iff m.nodupKeys).mpr hmem
    have he' : (m.erase k).entries = l₁ ++ l₂ := he
    simp only [sumBy, weightAt, hv, he', hm, map_append, map_cons, sum_append, sum_cons, elim_some]
    rw [← add_assoc, ← add_assoc, add_comm (f k v)]
  · have hv : m.lookup k = none := lookup_eq_none.mpr hk
    have he : (m.erase k).entries = m.entries := kerase_of_notMem_keys hk
    simp [weightAt, hv, sumBy, he]

/-- An entry adds its weight to those of the other keys. -/
lemma sumBy_insert_erase (f : K → V → M) (m : Dict K V) (k : K) (v : V) :
    sumBy f (m.insert k v) = f k v + sumBy f (m.erase k) := by
  have herase : (m.erase k).entries = m.entries.kerase k := rfl
  simp [sumBy, entries_insert, herase]

lemma sumBy_insert (f : K → V → M) (hk : m.lookup k = none) (v : V) :
    sumBy f (m.insert k v) = f k v + sumBy f m := by
  rw [sumBy_insert_erase, sumBy_erase f m k, weightAt, hk, elim_none, zero_add]

/-- The sum depends only on the weights of what is stored. -/
lemma sumBy_congr (h : ∀ k v, m.lookup k = some v → f k v = g k v) : sumBy f m = sumBy g m := by
  refine congrArg List.sum (map_congr_left ?_)
  intro e he
  exact h e.1 e.2 (mem_lookup_iff.mpr he)

/-- Two weights that agree except at one key have sums that differ by as much as they do there. -/
lemma sumBy_of_agree (hk : m.lookup k = some v)
    (h : ∀ k' v', k' ≠ k → m.lookup k' = some v' → f k' v' = g k' v') :
    f k v + sumBy g m = g k v + sumBy f m := by
  have herase : sumBy f (m.erase k) = sumBy g (m.erase k) := by
    refine sumBy_congr ?_
    intro k' v' hk'
    rw [lookup_erase_if] at hk'
    split_ifs at hk' with hne
    exact h k' v' hne hk'
  rw [sumBy_erase f m k, sumBy_erase g m k, weightAt, weightAt, hk, elim_some,
    elim_some, herase, add_left_comm]

lemma sumBy_nonneg [PartialOrder M] [IsOrderedAddMonoid M]
    (h : ∀ k v, m.lookup k = some v → 0 ≤ f k v) : 0 ≤ sumBy f m := by
  refine sum_nonneg ?_
  intro w hw
  obtain ⟨e, he, rfl⟩ := mem_map.mp hw
  exact h e.1 e.2 (mem_lookup_iff.mpr he)

lemma le_sumBy [PartialOrder M] [IsOrderedAddMonoid M] (h : ∀ k v, m.lookup k = some v → 0 ≤ f k v)
    (hk : m.lookup k = some v) : f k v ≤ sumBy f m := by
  have hrest : 0 ≤ sumBy f (m.erase k) := by
    refine sumBy_nonneg ?_
    intro k' v' hk'
    rw [lookup_erase_if] at hk'
    split_ifs at hk'
    exact h k' v' hk'
  rw [sumBy_erase f m k, weightAt, hk, elim_some]
  exact le_add_of_nonneg_right hrest

end Dict

end Zkbot
