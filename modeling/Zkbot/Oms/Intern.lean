import Zkbot.Core.Dict

/-!
# String intern tables

`intern_v2.rs` and the string side-table of `models_v2.rs`.  Both are append-only tables that hand
out consecutive integer ids; the source has the same code twice, once for config strings and once
for exchange order references, so there is one definition here.

The table carries its invariant: the map and the vector are inverse to each other.  An id
therefore stands for one string for as long as the table lives, and `intern` can only add.
-/

namespace Zkbot

open List Option

/-- `InternTable`, with ids `u32` read as naturals. -/
structure InternTable where
  idsByStr : Dict String ℕ
  strsById : List String
  inverse : ∀ s i, idsByStr.lookup s = some i ↔ strsById[i]? = some s

/-- `DynStringTable`: the per-store table of exchange order references. -/
abbrev DynStringTable := InternTable

namespace InternTable

variable {t : InternTable} {s : String} {i : ℕ} {s' : String}

def new : InternTable where
  idsByStr := ∅
  strsById := []
  inverse := by simp

/-- `lookup`: the id of a string that has been interned. -/
def lookup (t : InternTable) (s : String) : Option ℕ := t.idsByStr.lookup s

/-- `try_resolve`; `resolve` panics exactly where this is `none`. -/
def resolve (t : InternTable) (i : ℕ) : Option String := t.strsById[i]?

lemma lookup_eq_some : t.lookup s = some i ↔ t.resolve i = some s :=
  t.inverse s i

lemma inverse_push (t : InternTable) (h : t.lookup s = none) (s' : String) (i : ℕ) :
    (t.idsByStr.insert s t.strsById.length).lookup s' = some i
      ↔ (t.strsById ++ [s])[i]? = some s' := by
  rw [Dict.lookup_insert_if, getElem?_append]
  split_ifs with hs hi hi
  · -- the new string, at an old index: it would have been interned already
    subst hs
    rw [← t.inverse s' i]
    simp only [lookup] at h
    simp only [h, some.injEq, reduceCtorEq, iff_false]
    omega
  · subst hs
    simp only [some.injEq, getElem?_singleton]
    split_ifs with h0
    · simp only [iff_true]; omega
    · simp only [iff_false]; omega
  · exact t.inverse s' i
  · -- an old string has an old index
    rw [getElem?_singleton]
    have hlt : t.idsByStr.lookup s' ≠ some i := by
      intro h'
      have := (t.inverse s' i).mp h'
      rw [getElem?_eq_some_iff] at this
      exact hi this.1
    simp only [hlt, false_iff]
    split_ifs with h0
    · simpa using Ne.symm hs
    · simp

/-- `intern`: the id of a string, appended if it is new. -/
def intern (t : InternTable) (s : String) : InternTable × ℕ :=
  match h : t.lookup s with
  | some i => (t, i)
  | none =>
    ({ idsByStr := t.idsByStr.insert s t.strsById.length
       strsById := t.strsById ++ [s]
       inverse := t.inverse_push h }, t.strsById.length)

lemma intern_of_lookup (h : t.lookup s = some i) : t.intern s = (t, i) := by
  simp only [intern]
  split
  · rename_i j hj
    rw [h, some.injEq] at hj
    rw [hj]
  · rename_i hn
    rw [h] at hn
    cases hn

@[simp] lemma lookup_intern_self (t : InternTable) (s : String) :
    (t.intern s).1.lookup s = some (t.intern s).2 := by
  simp only [intern]
  split
  · assumption
  · simp [lookup]

lemma lookup_intern_of_lookup (h : t.lookup s' = some i) (s : String) :
    (t.intern s).1.lookup s' = some i := by
  simp only [intern]
  split
  · exact h
  · rename_i hn
    have hne : s' ≠ s := by
      rintro rfl
      rw [h] at hn
      cases hn
    show (t.idsByStr.insert s _).lookup s' = some i
    rw [AList.lookup_insert_ne hne]
    exact h

lemma lookup_intern_ne (t : InternTable) (h : s' ≠ s) : (t.intern s).1.lookup s' = t.lookup s' := by
  simp only [intern]
  split
  · rfl
  · exact AList.lookup_insert_ne h

lemma lookup_inj (h : t.lookup s = some i) (h' : t.lookup s' = some i) : s = s' := by
  rw [lookup_eq_some] at h h'
  exact Option.mem_unique h h'

lemma intern_intern (t : InternTable) (s : String) :
    (t.intern s).1.intern s = ((t.intern s).1, (t.intern s).2) :=
  intern_of_lookup (lookup_intern_self t s)

end InternTable

end Zkbot
