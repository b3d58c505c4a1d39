import Mathlib.Logic.Basic

/-!
# Runs of a partial step function

A program that handles one event after another is a step function `σ → ε → Option σ`, where
`none` is a crash.  A *run* folds it over a list of events.

* `run_append` — a run of two lists is a run of the first and then of the second, so that a
  statement about the end of every run is a statement about every state on the way.
* `Guarded step ok s es` — every event of the run meets `ok` **in the state it is handled in**.
* `run_invariant` — what one guarded step preserves holds at the end of every guarded run.
* `guarded_congr` — two guards that agree in good states guard the same runs; `guarded_after_iff` is
  the case of a property that is to hold after every step.
* `trace step out s es` — what the steps of a run put out, in order; `run_trace_invariant` is the
  invariant rule for a relation between the state and the output so far.
* `withGhost step upd` — the step function with a ghost value beside the state, which the program
  does not have but a property of its runs can speak of; `run_withGhost` says that it changes
  nothing about the runs.
* `run_total` — if no step taken from a good state crashes, no run does.
-/

namespace Zkbot

open List Option

variable {σ ε : Type} {I : σ → Prop} {s t : σ} {es : List ε}

/-! ## Computations that can fail -/

lemma bind_eq_some {x : Option σ} {f : σ → Option ε} {e : ε} :
    (x >>= f) = some e ↔ ∃ s, x = some s ∧ f s = some e := bind_eq_some_iff

lemma some_bind (s : σ) (f : σ → Option ε) : (some s >>= f) = f s := rfl

/-- What can be computed of a result gives what follows from it. -/
lemma exists_mem_imp {o : Option σ} {P Q : σ → Prop} (h : ∃ s ∈ o, P s)
    (hPQ : ∀ s ∈ o, P s → Q s) : ∃ s ∈ o, Q s := by
  obtain ⟨s, hs, hP⟩ := h
  exact ⟨s, hs, hPQ s hs hP⟩

/-- Handle a list of events, one after another. -/
def run (step : σ → ε → Option σ) : σ → List ε → Option σ
  | s, [] => some s
  | s, e :: es => (step s e).bind fun s' => run step s' es

/-- What no step of a fold changes, the fold does not change. -/
lemma foldl_preserves {β : Type} {f : σ → ε → σ} {g : σ → β} (h : ∀ s e, g (f s e) = g s)
    (s : σ) (es : List ε) : g (es.foldl f s) = g s := by
  induction es generalizing s with
  | nil => rfl
  | cons e es ih => rw [foldl_cons, ih, h]

lemma foldlM_invariant {f : σ → ε → Option σ} (h : ∀ s e s', I s → f s e = some s' → I s')
    (h0 : I s) (hr : es.foldlM f s = some t) : I t := by
  induction es generalizing s with
  | nil =>
    cases hr
    exact h0
  | cons e es ih =>
    rw [foldlM_cons, bind_eq_some] at hr
    obtain ⟨s', hs', hr⟩ := hr
    exact ih (h s e s' h0 hs') hr

/-- A fold whose steps succeed wherever an invariant of what is done so far holds succeeds, with
the invariant of all. -/
lemma foldlM_total {f : σ → ε → Option σ} {I : List ε → σ → Prop}
    (h : ∀ done e rest s, es = done ++ e :: rest → I done s →
      ∃ s', f s e = some s' ∧ I (done ++ [e]) s') (h0 : I [] s) :
    ∃ t, es.foldlM f s = some t ∧ I es t := by
  suffices hrest : ∀ rest done s, es = done ++ rest → I done s →
      ∃ t, rest.foldlM f s = some t ∧ I es t from hrest es [] s rfl h0
  intro rest
  induction rest with
  | nil =>
    intro done s hes hs
    rw [append_nil] at hes
    exact ⟨s, rfl, hes ▸ hs⟩
  | cons e rest ih =>
    intro done s hes hs
    obtain ⟨s', hs', hI⟩ := h done e rest s hes hs
    obtain ⟨t, ht, hIt⟩ := ih (done ++ [e]) s' (by rw [hes, append_assoc]; rfl) hI
    exact ⟨t, by rw [foldlM_cons, hs']; exact ht, hIt⟩

/-- Every event meets `ok` in the state in which it is handled. -/
def Guarded (step : σ → ε → Option σ) (ok : σ → ε → Prop) : σ → List ε → Prop
  | _, [] => True
  | s, e :: es => ok s e ∧ ∀ s', step s e = some s' → Guarded step ok s' es

variable {step : σ → ε → Option σ} {ok : σ → ε → Prop}

/-- A guard that can be decided event by event can be decided for a run. -/
instance Guarded.decidable [∀ s e, Decidable (ok s e)] :
    (s : σ) → (es : List ε) → Decidable (Guarded step ok s es)
  | _, [] => .isTrue trivial
  | s, e :: es =>
    have : Decidable (∀ s', step s e = some s' → Guarded step ok s' es) :=
      match step s e with
      | none => .isTrue nofun
      | some s' =>
        have := Guarded.decidable s' es
        decidable_of_iff (Guarded step ok s' es) (by simp)
    inferInstanceAs (Decidable (ok s e ∧ _))

@[simp] lemma run_nil (s : σ) : run step s [] = some s := rfl

lemma run_cons (s : σ) (e : ε) (es : List ε) :
    run step s (e :: es) = (step s e).bind fun s' => run step s' es := rfl

lemma run_cons_eq_some {e : ε} :
    run step s (e :: es) = some t ↔ ∃ s', step s e = some s' ∧ run step s' es = some t := by
  rw [run_cons, bind_eq_some_iff]

lemma run_append (s : σ) (es fs : List ε) :
    run step s (es ++ fs) = (run step s es).bind fun s' => run step s' fs := by
  induction es generalizing s with
  | nil => rfl
  | cons e es ih =>
    rw [cons_append, run_cons, run_cons, bind_assoc]
    exact congrArg _ (funext fun s' => ih s')

lemma run_append_eq_some {fs : List ε} :
    run step s (es ++ fs) = some t ↔ ∃ s', run step s es = some s' ∧ run step s' fs = some t := by
  rw [run_append, bind_eq_some_iff]

lemma Guarded.left {fs : List ε} (h : Guarded step ok s (es ++ fs)) : Guarded step ok s es := by
  induction es generalizing s with
  | nil => trivial
  | cons e es ih => exact ⟨h.1, fun s' hs' => ih (h.2 s' hs')⟩

lemma Guarded.right {fs : List ε} (h : Guarded step ok s (es ++ fs)) (hr : run step s es = some t) :
    Guarded step ok t fs := by
  induction es generalizing s with
  | nil =>
    cases hr
    exact h
  | cons e es ih =>
    obtain ⟨s', hs', hr'⟩ := run_cons_eq_some.mp hr
    exact ih (h.2 s' hs') hr'

lemma Guarded.append {fs : List ε} (h : Guarded step ok s es) (hr : run step s es = some t)
    (h' : Guarded step ok t fs) : Guarded step ok s (es ++ fs) := by
  induction es generalizing s with
  | nil =>
    cases hr
    exact h'
  | cons e es ih =>
    refine ⟨h.1, fun s' hs' => ih (h.2 s' hs') ?_⟩
    rwa [run_cons, hs'] at hr

/-- What is true of every event can be added to a guard. -/
lemma Guarded.and_mem {P : ε → Prop} (h : Guarded step ok s es) (hP : ∀ e ∈ es, P e) :
    Guarded step (fun s e => ok s e ∧ P e) s es := by
  induction es generalizing s with
  | nil => trivial
  | cons e es ih =>
    exact ⟨⟨h.1, hP e mem_cons_self⟩,
      fun s' hs' => ih (h.2 s' hs') (forall_mem_cons.mp hP).2⟩

lemma guarded_of_forall (h : ∀ s e, ok s e) (s : σ) (es : List ε) : Guarded step ok s es := by
  induction es generalizing s with
  | nil => trivial
  | cons e es ih => exact ⟨h s e, fun s' _ => ih s'⟩

lemma guarded_of_mem {P : ε → Prop} (h : ∀ e ∈ es, P e) : Guarded step (fun _ e => P e) s es := by
  induction es generalizing s with
  | nil => trivial
  | cons e es ih =>
    exact ⟨h e mem_cons_self, fun _ _ => ih (forall_mem_cons.mp h).2⟩

/-- **The invariant rule.**  What every guarded step preserves holds at the end of every guarded
run.  With `Guarded.left` it holds in every state the run passes through. -/
theorem run_invariant {I : σ → Prop}
    (hstep : ∀ s e s', I s → ok s e → step s e = some s' → I s')
    {s t : σ} {es : List ε} (h0 : I s) (hg : Guarded step ok s es) (hr : run step s es = some t) :
    I t := by
  induction es generalizing s with
  | nil =>
    cases hr
    exact h0
  | cons e es ih =>
    obtain ⟨s', hs', hr'⟩ := run_cons_eq_some.mp hr
    exact ih (hstep s e s' h0 hg.1 hs') (hg.2 s' hs') hr'

/-- Two guards that agree at every step out of a good state guard the same runs. -/
lemma guarded_congr {ok' : σ → ε → Prop}
    (hiff : ∀ s e s', I s → step s e = some s' → (ok s e ↔ ok' s e))
    (hstep : ∀ s e s', I s → ok' s e → step s e = some s' → I s') (h0 : I s)
    (hr : run step s es = some t) : Guarded step ok s es ↔ Guarded step ok' s es := by
  induction es generalizing s with
  | nil => exact Iff.rfl
  | cons e es ih =>
    obtain ⟨s', hs', hr'⟩ := run_cons_eq_some.mp hr
    simp only [Guarded, hs', some.injEq, forall_eq', hiff s e s' h0 hs']
    exact and_congr_right fun hok => ih (hstep s e s' h0 hok hs') hr'

/-- Steps that never crash keep a property all along exactly if each of them is of a kind that
keeps it. -/
lemma guarded_after_iff {apply : σ → ε → σ} (hiff : ∀ s e, I s → (I (apply s e) ↔ ok s e))
    (h0 : I s) : Guarded (fun s e => some (apply s e)) (fun s e => I (apply s e)) s es ↔
      Guarded (fun s e => some (apply s e)) ok s es := by
  induction es generalizing s with
  | nil => exact Iff.rfl
  | cons e es ih =>
    simp only [Guarded, some.injEq, forall_eq', hiff s e h0]
    exact and_congr_right fun hok => ih ((hiff s e h0).mpr hok)

/-- What the steps of a run put out, in order. -/
def trace {α : Type} (step : σ → ε → Option σ) (out : σ → ε → List α) : σ → List ε → List α
  | _, [] => []
  | s, e :: es => out s e ++ (step s e).elim [] fun s' => trace step out s' es

/-- The invariant rule with a history: `h` is what was put out before the run. -/
theorem run_trace_invariant {α : Type} {out : σ → ε → List α} {I : σ → List α → Prop}
    (hstep : ∀ s h e s', I s h → ok s e → step s e = some s' → I s' (h ++ out s e)) {h : List α}
    (h0 : I s h) (hg : Guarded step ok s es) (hr : run step s es = some t) :
    I t (h ++ trace step out s es) := by
  induction es generalizing s h with
  | nil =>
    cases hr
    rw [trace, append_nil]
    exact h0
  | cons e es ih =>
    obtain ⟨s', hs', hr'⟩ := run_cons_eq_some.mp hr
    rw [trace, hs', elim_some, ← append_assoc]
    exact ih (hstep s h e s' h0 hg.1 hs') (hg.2 s' hs') hr'

/-- A step function with a ghost value beside the state. -/
def withGhost {γ : Type} (step : σ → ε → Option σ) (upd : σ → ε → γ → γ) (x : σ × γ) (e : ε) :
    Option (σ × γ) :=
  (step x.1 e).map fun s' => (s', upd x.1 e x.2)

lemma run_withGhost {γ : Type} (upd : σ → ε → γ → γ) (x : σ × γ) (es : List ε) :
    (run (withGhost step upd) x es).map Prod.fst = run step x.1 es := by
  induction es generalizing x with
  | nil => rfl
  | cons e es ih =>
    rw [run_cons, run_cons, withGhost]
    cases step x.1 e with
    | none => rfl
    | some s' => exact ih (s', upd x.1 e x.2)

/-- If a step taken from a good state neither crashes nor leaves the good states, no run does. -/
theorem run_total (hstep : ∀ s, ∀ e ∈ es, I s → ∃ s', step s e = some s' ∧ I s') (h0 : I s) :
    ∃ t, run step s es = some t ∧ I t := by
  induction es generalizing s with
  | nil => exact ⟨s, rfl, h0⟩
  | cons e es ih =>
    obtain ⟨s', hs', hi'⟩ := hstep s e mem_cons_self h0
    obtain ⟨t, ht, hit⟩ := ih (fun s e he => hstep s e (mem_cons_of_mem _ he)) hi'
    exact ⟨t, run_cons_eq_some.mpr ⟨s', hs', ht⟩, hit⟩

end Zkbot
