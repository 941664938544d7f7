import Mathlib.Data.List.Basic

/-!
# Runs of a deterministic step function

A system is a step function `step : σ → ι → σ`: the state after one input.  `run` folds it over a
list of inputs.

`Along step P s is` says that every input of the run meets `P` at the state it arrives in.  It is
the form in which a property of runs has a side condition on each step, and `Along.invariant` is the
rule for it: what holds at the start and survives every step that meets the condition holds after
every number of steps.
-/

namespace Run

variable {σ ι : Type*} {step : σ → ι → σ}

/-- The state after a list of inputs. -/
def run (step : σ → ι → σ) (s : σ) (is : List ι) : σ := is.foldl step s

@[simp] lemma run_nil (s : σ) : run step s [] = s := rfl

@[simp] lemma run_cons (s : σ) (i : ι) (is : List ι) :
    run step s (i :: is) = run step (step s i) is := rfl

lemma run_append (s : σ) (is js : List ι) : run step s (is ++ js) = run step (run step s is) js :=
  List.foldl_append

/-- Every input of the run meets `P` at the state it arrives in. -/
def Along (step : σ → ι → σ) (P : σ → ι → Prop) : σ → List ι → Prop
  | _, [] => True
  | s, i :: is => P s i ∧ Along step P (step s i) is

/-- What every step preserves a run preserves. -/
lemma invariant {I : σ → Prop} (hstep : ∀ s i, I s → I (step s i)) {s : σ} (h : I s)
    (is : List ι) : I (run step s is) := by
  induction is generalizing s with
  | nil => exact h
  | cons i is ih => exact ih (hstep s i h)

namespace Along

variable {P Q : σ → ι → Prop} {s : σ} {is : List ι}

lemma take (h : Along step P s is) (n : ℕ) : Along step P s (is.take n) := by
  induction is generalizing s n with
  | nil => simpa using h
  | cons i is ih =>
      cases n with
      | zero => exact trivial
      | succ n => exact ⟨h.1, ih h.2 n⟩

/-- The invariant rule: what every step that meets the condition preserves holds in every state of
the run. -/
lemma invariant {I : σ → Prop} (h : Along step P s is) (h0 : I s)
    (hstep : ∀ s i, I s → P s i → I (step s i)) (n : ℕ) : I (run step s (is.take n)) := by
  induction is generalizing s n with
  | nil => simpa using h0
  | cons i is ih =>
      cases n with
      | zero => exact h0
      | succ n => exact ih h.2 (hstep s i h0 h.1) n

/-- The condition holds at every input of the run. -/
lemma get (h : Along step P s is) {n : ℕ} (hn : n < is.length) :
    P (run step s (is.take n)) is[n] := by
  induction is generalizing s n with
  | nil => cases hn
  | cons i is ih =>
      cases n with
      | zero => exact h.1
      | succ n => exact ih h.2 (Nat.lt_of_succ_lt_succ hn)

/-- The rule for a relation between neighbouring states: an invariant, and what every step that meets
the condition relates, hold from each state of the run to the next. -/
lemma chain {I : σ → Prop} {R : σ → σ → Prop} (h : Along step P s is) (h0 : I s)
    (hI : ∀ s i, I s → I (step s i)) (hR : ∀ s i, I s → P s i → R s (step s i)) {n : ℕ}
    (hn : n < is.length) : R (run step s (is.take n)) (run step s (is.take (n + 1))) := by
  induction is generalizing s n with
  | nil => cases hn
  | cons i is ih =>
      cases n with
      | zero => exact hR s i h0 h.1
      | succ n => exact ih h.2 (hI s i h0) (Nat.lt_of_succ_lt_succ hn)

end Along

/-- When a step keeps `I` just when it meets the condition, `I` holds in every state of a run just
when every input meets the condition. -/
lemma forall_take_iff_along {I : σ → Prop} {P : σ → ι → Prop}
    (hstep : ∀ s i, I s → (I (step s i) ↔ P s i)) {s : σ} (h : I s) (is : List ι) :
    (∀ n, I (run step s (is.take n))) ↔ Along step P s is := by
  induction is generalizing s with
  | nil => exact iff_of_true (fun n => by simpa using h) trivial
  | cons i is ih =>
      constructor
      · intro hall
        have hone : I (step s i) := hall 1
        exact ⟨(hstep s i h).mp hone, (ih hone).mp fun n => hall (n + 1)⟩
      · rintro ⟨hP, hrest⟩ n
        cases n with
        | zero => exact h
        | succ n => exact (ih ((hstep s i h).mpr hP)).mpr hrest n

/-- A run of steps that can fail, each of them or not whatever the state: it succeeds just when every
step does. -/
lemma isSome_foldlM_iff {f : σ → ι → Option σ} {P : ι → Prop}
    (hf : ∀ s i, (f s i).isSome = true ↔ P i) {is : List ι} {s : σ} :
    (is.foldlM f s).isSome = true ↔ ∀ i ∈ is, P i := by
  induction is generalizing s with
  | nil => simp
  | cons i is ih =>
    rw [List.foldlM_cons, Option.bind_eq_bind, List.forall_mem_cons, ← hf s i]
    cases f s i with
    | none => simp
    | some s' => simp [ih]

end Run
