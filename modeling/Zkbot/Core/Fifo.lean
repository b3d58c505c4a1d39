import Mathlib.Data.List.Dedup

/-!
# A bounded first-in first-out queue

A queue that holds at most `cap` elements: pushing onto a full one drops the oldest.

Used as a cache of the most recent elements of a history, the queue is a *suffix of the history
without repetitions* (`Recent`), as long as nothing is pushed that is in it already
(`Recent.push`).  Then every one of the last `cap` distinct elements of the history is in the queue,
or the queue has never been full (`Recent.newest`).  A push of an element that is already there
breaks this: the second copy pushes out somebody else.
-/

namespace Zkbot.Fifo

open List

variable {α : Type} {cap : ℕ} {q : List α}

/-- Push an element, dropping the oldest one when the queue is over its capacity. -/
def push (cap : ℕ) (q : List α) (a : α) : List α :=
  if q.length + 1 > cap then (q ++ [a]).tail else q ++ [a]

lemma length_push (cap : ℕ) (q : List α) (a : α) :
    (push cap q a).length = if q.length + 1 > cap then q.length else q.length + 1 := by
  rw [push]
  split_ifs <;> simp

lemma length_push_le (h : q.length ≤ cap) (a : α) : (push cap q a).length ≤ cap := by
  rw [length_push]
  split_ifs <;> omega

lemma push_suffix (cap : ℕ) (q : List α) (a : α) : push cap q a <:+ q ++ [a] := by
  rw [push]
  split_ifs
  · exact tail_suffix _
  · exact suffix_refl _

lemma push_suffix_push {q' : List α} (h : q' <:+ q) (hle : q.length ≤ cap) (a : α) :
    push cap q' a <:+ push cap q a := by
  rcases Nat.lt_or_ge q'.length q.length with hlt | hge
  · -- the shorter one has room, and the longer one drops at most what the shorter one lacks
    have hroom : ¬ q'.length + 1 > cap := by omega
    rw [push, if_neg hroom, push]
    obtain ⟨x, rfl⟩ := h
    cases x with
    | nil => simp at hlt
    | cons b x =>
      split_ifs
      · exact ⟨x, by simp⟩
      · exact ⟨b :: x, by simp⟩
  · obtain rfl := h.eq_of_length_le hge
    exact suffix_refl _

variable [DecidableEq α]

lemma dedup_concat (l : List α) (a : α) : (l ++ [a]).dedup = l.dedup.erase a ++ [a] := by
  induction l with
  | nil => simp
  | cons b l ih =>
    by_cases hb : b ∈ l
    · rw [cons_append, dedup_cons_of_mem (mem_append_left _ hb), ih, dedup_cons_of_mem hb]
    · rw [dedup_cons_of_notMem hb]
      by_cases hba : b = a
      · subst hba
        rw [cons_append, dedup_cons_of_mem (by simp), ih, erase_cons_head,
          erase_of_not_mem (by simpa using hb)]
      · rw [cons_append, dedup_cons_of_notMem (by simp [hb, hba]), ih,
          erase_cons_tail (by simpa using hba), cons_append]

/-- The last `n` distinct elements of a history. -/
def newest (n : ℕ) (h : List α) : List α := h.dedup.reverse.take n

/-- The queue `q` holds the most recent distinct elements of the history `h`. -/
structure Recent (cap : ℕ) (h q : List α) : Prop where
  isSuffix : q <:+ h.dedup
  length_le : q.length ≤ cap

lemma Recent.nil (cap : ℕ) (h : List α) : Recent cap h [] :=
  ⟨nil_suffix, Nat.zero_le _⟩

lemma Recent.push {h : List α} (hr : Recent cap h q) {a : α} (ha : a ∉ q) :
    Recent cap (h ++ [a]) (push cap q a) := by
  refine ⟨?_, length_push_le hr.length_le a⟩
  refine (push_suffix cap q a).trans ?_
  obtain ⟨x, hx⟩ := hr.isSuffix
  rw [dedup_concat, ← hx, erase_append]
  split_ifs with hmem
  · exact ⟨x.erase a, by rw [append_assoc]⟩
  · exact ⟨x, by rw [erase_of_not_mem ha, append_assoc]⟩

/-- The newest elements are in a recent queue, unless there is still room in it. -/
lemma Recent.newest {h : List α} (hr : Recent cap h q) {a : α} (ha : a ∈ newest cap h) :
    a ∈ q ∨ q.length < cap ∧ a ∈ h := by
  have hmem : a ∈ h := by
    have := mem_of_mem_take ha
    simpa using this
  rcases Nat.lt_or_eq_of_le hr.length_le with hlt | heq
  · exact .inr ⟨hlt, hmem⟩
  · left
    obtain ⟨x, hx⟩ := hr.isSuffix
    rw [Fifo.newest, ← hx, reverse_append, take_append_of_le_length (by simp [heq]),
      take_of_length_le (by simp [heq])] at ha
    simpa using ha

end Zkbot.Fifo
