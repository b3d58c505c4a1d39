import Mathlib.Data.List.Nodup

/-!
# Sharded queues

A pool of workers, each with a first-in first-out queue of its own.  Work is put into the queue of a
*shard* that is fixed by what the work is about, so that two pieces of work on the same thing wait
in the same queue.

The *lane* of a thing is what its queue holds that is about it: `f` says what a piece of work
contributes to the lane, a list.  A piece of work that contributes to a lane lies in the queue of
that lane; then putting it in appends to the lane (`lane_push`), and taking it out takes it from the
front (`lane_pop`), whichever queue is worked on.  A batch that is partitioned by shard keeps each
lane together (`lane_partition`), and nothing is lost or doubled (`partition_perm`).
-/

namespace Zkbot.Shards

open Function List

variable {α β : Type}

/-- Put a piece of work into a queue. -/
def push (q : ℕ → List α) (i : ℕ) (a : α) : ℕ → List α := update q i (q i ++ [a])

/-- Every piece of work lies where it belongs. -/
def Placed (home : α → ℕ → Prop) (q : ℕ → List α) : Prop := ∀ i, ∀ a ∈ q i, home a i

variable {q : ℕ → List α} {i k : ℕ} {a : α} {rest : List α} {home : α → ℕ → Prop}

lemma Placed.push (h : Placed home q) (ha : home a i) : Placed home (push q i a) := by
  intro j b hb
  by_cases hj : j = i
  · subst hj
    rw [Shards.push, update_self, mem_append, mem_singleton] at hb
    rcases hb with hb | rfl
    · exact h j b hb
    · exact ha
  · rw [Shards.push, update_of_ne hj] at hb
    exact h j b hb

lemma Placed.pop (h : Placed home q) (hq : q i = a :: rest) :
    home a i ∧ Placed home (update q i rest) := by
  have hmem : ∀ b ∈ a :: rest, home b i := hq ▸ h i
  refine ⟨hmem a mem_cons_self, fun j b hb => ?_⟩
  by_cases hj : j = i
  · subst hj
    rw [update_self] at hb
    exact hmem b (mem_cons_of_mem _ hb)
  · rw [update_of_ne hj] at hb
    exact h j b hb

lemma lane_push (f : α → List β) (h : f a ≠ [] → i = k) :
    (push q i a k).flatMap f = (q k).flatMap f ++ f a := by
  by_cases hk : k = i
  · subst hk
    rw [push, update_self, flatMap_append, flatMap_singleton]
  · have hnil : f a = [] := by_contra fun hne => hk (h hne).symm
    rw [push, update_of_ne hk, hnil, append_nil]

lemma lane_pop (f : α → List β) (hq : q i = a :: rest) (h : f a ≠ [] → i = k) :
    (q k).flatMap f = f a ++ (update q i rest k).flatMap f := by
  by_cases hk : k = i
  · subst hk
    rw [update_self, hq, flatMap_cons]
  · have hnil : f a = [] := by_contra fun hne => hk (h hne).symm
    rw [update_of_ne hk, hnil, nil_append]

/-- Work that is partitioned by shard: what belongs to one lane stays together, in its order. -/
lemma lane_partition (shard : α → ℕ) {p : α → Prop} [DecidablePred p]
    (hp : ∀ a, p a → shard a = k) {is : List ℕ} (his : is.Nodup) (l : List α) :
    (is.flatMap fun i => (l.filter fun a => shard a = i).filter p).Sublist (l.filter p) := by
  have hnil : ∀ i, i ≠ k → (l.filter fun a => shard a = i).filter p = [] := by
    intro i hi
    rw [filter_filter, filter_eq_nil_iff]
    intro a _ ha
    simp only [Bool.and_eq_true, decide_eq_true_eq] at ha
    exact hi (ha.2.symm.trans (hp a ha.1))
  induction is with
  | nil => exact nil_sublist _
  | cons i is ih =>
    obtain ⟨hi, his⟩ := nodup_cons.mp his
    rw [flatMap_cons]
    by_cases hik : i = k
    · -- the lane lies in this part, and in no other
      have hrest : (is.flatMap fun i => (l.filter fun a => shard a = i).filter p) = [] := by
        rw [flatMap_eq_nil_iff]
        intro j hj
        exact hnil j fun hjk => hi (by rw [hik, ← hjk]; exact hj)
      rw [hrest, append_nil]
      exact filter_sublist.filter _
    · rw [hnil i hik, nil_append]
      exact ih his

lemma partition_perm (shard : α → ℕ) (l : List α) (n : ℕ) :
    ((range n).flatMap fun i => l.filter fun a => shard a = i).Perm
      (l.filter fun a => shard a < n) := by
  induction n with
  | zero => simp
  | succ n ih =>
    have hsplit := filter_append_perm (fun a => shard a < n) (l.filter fun a => shard a < n + 1)
    rw [filter_filter, filter_filter] at hsplit
    rw [range_succ, flatMap_append, flatMap_singleton]
    refine (ih.append_right _).trans (.trans (.of_eq ?_) hsplit)
    congr 1 <;> refine filter_congr fun a _ => ?_ <;> grind

end Zkbot.Shards
