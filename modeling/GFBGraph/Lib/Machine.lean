import Mathlib.Data.List.Basic

/-!
# Deterministic machines

A machine moves its state on every input and answers an output.  A *run* is
any finite list of inputs; three notions are all the rest of the development
needs of it:

* `run` — the state a list of inputs leads to;
* `Always` — every step of a run meets a condition on the state before the
  step and its input;
* `Simulation` — a map of states and inputs that commutes with steps, and so
  carries conditions on the runs of one machine to runs of another.

The invariant rules `run_of_step`, `run_of_guarded` and `always_of_guarded`
package the induction over runs: an invariant that every step keeps holds at
the end of every run, one that every *guarded* step keeps holds at the end of
every run whose steps all meet the guard, and what it gives holds throughout.
-/

namespace Lib

/-- A deterministic machine with outputs. -/
structure Machine (σ ι ο : Type*) where
  step : σ → ι → σ × ο

namespace Machine

variable {σ ι ο σ' ι' ο' : Type*} (m : Machine σ ι ο)

/-- The state after one input. -/
def next (s : σ) (i : ι) : σ := (m.step s i).1

/-- The answer to one input. -/
def out (s : σ) (i : ι) : ο := (m.step s i).2

/-- The state a list of inputs leads to. -/
def run (s : σ) (is : List ι) : σ := is.foldl m.next s

@[simp] theorem run_nil (s : σ) : m.run s [] = s := rfl

@[simp] theorem run_cons (s : σ) (i : ι) (is : List ι) :
    m.run s (i :: is) = m.run (m.next s i) is := rfl

@[simp] theorem run_append (s : σ) (is js : List ι) :
    m.run s (is ++ js) = m.run (m.run s is) js := by
  simp [run]

/-- The answers to a list of inputs. -/
def outs : σ → List ι → List ο
  | _, [] => []
  | s, i :: is => m.out s i :: outs (m.next s i) is

@[simp] theorem outs_nil (s : σ) : m.outs s [] = [] := rfl

@[simp] theorem outs_cons (s : σ) (i : ι) (is : List ι) :
    m.outs s (i :: is) = m.out s i :: m.outs (m.next s i) is := rfl

@[simp] theorem length_outs (s : σ) (is : List ι) : (m.outs s is).length = is.length := by
  induction is generalizing s with
  | nil => rfl
  | cons i is ih => simp [ih]

@[simp] theorem outs_append (s : σ) (is js : List ι) :
    m.outs s (is ++ js) = m.outs s is ++ m.outs (m.run s is) js := by
  induction is generalizing s with
  | nil => rfl
  | cons i is ih => simp [ih]

/-! ## conditions on every step -/

/-- Every step of the run from `s` meets `P`, a condition on the state before
the step and its input. -/
def Always (P : σ → ι → Prop) : σ → List ι → Prop
  | _, [] => True
  | s, i :: is => P s i ∧ Always P (m.next s i) is

variable {P Q : σ → ι → Prop}

@[simp] theorem always_nil (s : σ) : m.Always P s [] := trivial

@[simp] theorem always_cons (s : σ) (i : ι) (is : List ι) :
    m.Always P s (i :: is) ↔ P s i ∧ m.Always P (m.next s i) is := Iff.rfl

@[simp] theorem always_append (s : σ) (is js : List ι) :
    m.Always P s (is ++ js) ↔ m.Always P s is ∧ m.Always P (m.run s is) js := by
  induction is generalizing s with
  | nil => simp
  | cons i is ih => simp [ih, and_assoc]

/-- `Always` read off the positions of a run: at each input, the state reached
so far meets the condition. -/
theorem always_iff (s : σ) (is : List ι) :
    m.Always P s is ↔ ∀ pre i post, is = pre ++ i :: post → P (m.run s pre) i := by
  constructor
  · intro h pre i post hsplit
    rw [hsplit, always_append, always_cons] at h
    exact h.2.1
  · intro h
    induction is generalizing s with
    | nil => trivial
    | cons i is ih =>
        refine ⟨h [] i is rfl, ih _ fun pre j post hsplit => ?_⟩
        exact h (i :: pre) j post (by rw [hsplit, List.cons_append])

/-- A condition on the inputs alone. -/
theorem always_of_forall_mem {Q : ι → Prop} {is : List ι} (h : ∀ i ∈ is, Q i) (s : σ) :
    m.Always (fun _ i => Q i) s is := by
  induction is generalizing s with
  | nil => trivial
  | cons i is ih =>
      rw [List.forall_mem_cons] at h
      exact ⟨h.1, ih h.2 _⟩

/-- Conditions that agree at every step agree along every run. -/
theorem always_congr (h : ∀ s i, P s i ↔ Q s i) (s : σ) (is : List ι) :
    m.Always P s is ↔ m.Always Q s is := by
  induction is generalizing s with
  | nil => simp
  | cons i is ih => rw [always_cons, always_cons, h, ih]

/-! ## invariants -/

variable {Inv : σ → Prop} {Guard : σ → ι → Prop}

/-- An invariant that every step keeps holds at the end of every run. -/
theorem run_of_step (hstep : ∀ s i, Inv s → Inv (m.next s i)) {s : σ} (hs : Inv s)
    (is : List ι) : Inv (m.run s is) := by
  induction is generalizing s with
  | nil => exact hs
  | cons i is ih => exact ih (hstep s i hs)

/-- An invariant that every guarded step keeps holds at the end of every guarded
run. -/
theorem run_of_guarded (hstep : ∀ s i, Inv s → Guard s i → Inv (m.next s i)) {s : σ} (hs : Inv s)
    {is : List ι} (hg : m.Always Guard s is) : Inv (m.run s is) := by
  induction is generalizing s with
  | nil => exact hs
  | cons i is ih => exact ih (hstep s i hs hg.1) hg.2

/-- Whatever the invariant gives at a guarded step holds at every step of a
guarded run. -/
theorem always_of_guarded (hstep : ∀ s i, Inv s → Guard s i → Inv (m.next s i))
    (hP : ∀ s i, Inv s → Guard s i → P s i)
    {s : σ} (hs : Inv s) {is : List ι} (hg : m.Always Guard s is) : m.Always P s is := by
  induction is generalizing s with
  | nil => trivial
  | cons i is ih => exact ⟨hP s i hs hg.1, ih (hstep s i hs hg.1) hg.2⟩

/-! ## simulation -/

/-- `m` simulates `m'` through an abstraction of states and inputs. -/
structure Simulation (m : Machine σ ι ο) (m' : Machine σ' ι' ο') where
  abs : σ → σ'
  label : ι → ι'
  next_comm : ∀ s i, abs (m.next s i) = m'.next (abs s) (label i)

namespace Simulation

variable {m} {m' : Machine σ' ι' ο'} (sim : Simulation m m')

/-- Conditions on every step are carried along. -/
theorem always_comm {P : σ → ι → Prop} {P' : σ' → ι' → Prop}
    (h : ∀ s i, P s i ↔ P' (sim.abs s) (sim.label i)) (s : σ) (is : List ι) :
    m.Always P s is ↔ m'.Always P' (sim.abs s) (is.map sim.label) := by
  induction is generalizing s with
  | nil => simp
  | cons i is ih => rw [always_cons, ih, sim.next_comm, List.map_cons, always_cons, h]

end Simulation

/-! ## machines with the same inputs and answers -/

section

variable {m : Machine σ ι ο} {m' : Machine σ' ι ο} {abs : σ → σ'}
  (h : ∀ s i, m'.step (abs s) i = (abs (m.step s i).1, (m.step s i).2))

include h

/-- If every step of `m'` does what the step of `m` does, runs lead to related
states. -/
theorem run_of_step_eq (s : σ) (is : List ι) : m'.run (abs s) is = abs (m.run s is) := by
  induction is generalizing s with
  | nil => rfl
  | cons i is ih =>
      have hnext : m'.next (abs s) i = abs (m.next s i) := congrArg Prod.fst (h s i)
      rw [run_cons, run_cons, hnext, ih]

/-- And answer alike. -/
theorem outs_of_step_eq (s : σ) (is : List ι) : m'.outs (abs s) is = m.outs s is := by
  induction is generalizing s with
  | nil => rfl
  | cons i is ih =>
      have hnext : m'.next (abs s) i = abs (m.next s i) := congrArg Prod.fst (h s i)
      have hout : m'.out (abs s) i = m.out s i := congrArg Prod.snd (h s i)
      rw [outs_cons, outs_cons, hout, hnext, ih]

end

end Machine

end Lib
