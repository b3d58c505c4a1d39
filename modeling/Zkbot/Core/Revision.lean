import Mathlib.Data.Nat.Notation

/-!
# A key with a revision

One key of a store that numbers its writes.  Every write, to this key or another, gets the next
number of the store; the number of the last write to the key is the key's *revision*.  A
compare-and-set names the revision it has seen and fails if there has been a write since.

A number is never given twice (`Slot.revision_le`), so a client whose number is not the revision
has been overtaken, and its compare-and-set fails until it learns a new number
(`Slot.update_eq_none`).
-/

namespace Zkbot

/-- A key: the number of the last write to the store, and of the last one to the key. -/
structure Slot (ν : Type) where
  lastSeq : ℕ
  revision : ℕ
  /-- `none` before the first write, and after a deletion -/
  value : Option ν
  revision_le : revision ≤ lastSeq

namespace Slot

variable {ν : Type}

def empty : Slot ν := { lastSeq := 0, revision := 0, value := none, revision_le := Nat.le_refl _ }

/-- A write, whatever the revision is; the new revision is what the client gets back. -/
def put (s : Slot ν) (v : ν) : Slot ν :=
  { lastSeq := s.lastSeq + 1
    revision := s.lastSeq + 1
    value := some v
    revision_le := Nat.le_refl _ }

/-- A deletion is a write as well. -/
def delete (s : Slot ν) : Slot ν :=
  { lastSeq := s.lastSeq + 1
    revision := s.lastSeq + 1
    value := none
    revision_le := Nat.le_refl _ }

/-- A write to another key. -/
def skip (s : Slot ν) : Slot ν :=
  { s with lastSeq := s.lastSeq + 1, revision_le := Nat.le_succ_of_le s.revision_le }

/-- Compare and set; `none` if `last` is not the revision. -/
def update (s : Slot ν) (v : ν) (last : ℕ) : Option (Slot ν) :=
  if s.revision = last then some (s.put v) else none

@[simp] lemma put_revision (s : Slot ν) (v : ν) : (s.put v).revision = s.lastSeq + 1 := rfl

@[simp] lemma put_lastSeq (s : Slot ν) (v : ν) : (s.put v).lastSeq = s.lastSeq + 1 := rfl

@[simp] lemma skip_revision (s : Slot ν) : s.skip.revision = s.revision := rfl

@[simp] lemma skip_lastSeq (s : Slot ν) : s.skip.lastSeq = s.lastSeq + 1 := rfl

lemma update_eq_none {s : Slot ν} {v : ν} {last : ℕ} (h : last ≠ s.revision) :
    s.update v last = none :=
  if_neg (Ne.symm h)

lemma update_revision (s : Slot ν) (v : ν) : s.update v s.revision = some (s.put v) :=
  if_pos rfl

end Slot

end Zkbot
