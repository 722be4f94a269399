import GFBGraph.Lib.Machine

/-!
# Registers of a machine

A *register* is a part of a machine's state that every input either writes or
leaves alone.  What it holds after a run is therefore decided by the last input
that wrote it, or by the initial state if none did: `get_run_iff`.

Which value an input writes may depend on the state it finds, so that one
register can be loaded from another.
-/

namespace Lib

namespace Machine

variable {σ ι ο : Type*}

/-- A part of the state with the value, if any, that an input writes to it. -/
structure Register (m : Machine σ ι ο) (α : Type*) where
  get : σ → α
  write : σ → ι → Option α
  get_next : ∀ s i, get (m.next s i) = (write s i).getD (get s)

namespace Register

variable {m : Machine σ ι ο} {α : Type*} (reg : m.Register α)

/-- No step of the run writes the register. -/
def Quiet (s : σ) (is : List ι) : Prop := m.Always (fun s i => reg.write s i = none) s is

/-- The run ends with an input that writes `v`, followed by quiet ones only. -/
def LastWrite (s : σ) (is : List ι) (v : α) : Prop :=
  ∃ pre i post, is = pre ++ i :: post ∧ reg.write (m.run s pre) i = some v ∧
    reg.Quiet (m.next (m.run s pre) i) post

variable {reg}

/-- **Step lemma**: an input that does not write leaves the register alone. -/
theorem get_next_of_none {s : σ} {i : ι} (h : reg.write s i = none) :
    reg.get (m.next s i) = reg.get s := by
  rw [reg.get_next, h, Option.getD_none]

/-- And one that does leaves what it writes. -/
theorem get_next_of_some {s : σ} {i : ι} {v : α} (h : reg.write s i = some v) :
    reg.get (m.next s i) = v := by
  rw [reg.get_next, h, Option.getD_some]

theorem get_run_of_quiet {s : σ} {is : List ι} (h : reg.Quiet s is) :
    reg.get (m.run s is) = reg.get s := by
  induction is generalizing s with
  | nil => rfl
  | cons i is ih => rw [run_cons, ih h.2, get_next_of_none h.1]

theorem get_run_of_lastWrite {s : σ} {is : List ι} {v : α} (h : reg.LastWrite s is v) :
    reg.get (m.run s is) = v := by
  obtain ⟨pre, i, post, hsplit, hwrite, hquiet⟩ := h
  rw [hsplit, run_append, run_cons, get_run_of_quiet hquiet, get_next_of_some hwrite]

/-- A run is quiet, or some input is the last to write. -/
theorem quiet_or_lastWrite (reg : m.Register α) (s : σ) (is : List ι) :
    reg.Quiet s is ∨ ∃ v, reg.LastWrite s is v := by
  induction is generalizing s with
  | nil => exact Or.inl trivial
  | cons i is ih =>
      cases ih (m.next s i) with
      | inr hlater =>
          obtain ⟨v, pre, j, post, hsplit, hwrite, hquiet⟩ := hlater
          exact Or.inr ⟨v, i :: pre, j, post, by rw [hsplit, List.cons_append], hwrite, hquiet⟩
      | inl hquiet =>
          cases hwrite : reg.write s i with
          | none => exact Or.inl ⟨hwrite, hquiet⟩
          | some v => exact Or.inr ⟨v, [], i, is, rfl, hwrite, hquiet⟩

/-- **Law of registers**: what a register holds after a run is what the last
input that wrote it wrote, or what it held before. -/
theorem get_run_iff (reg : m.Register α) (s : σ) (is : List ι) (v : α) :
    reg.get (m.run s is) = v ↔ reg.LastWrite s is v ∨ (reg.Quiet s is ∧ reg.get s = v) := by
  constructor
  · intro h
    cases reg.quiet_or_lastWrite s is with
    | inl hquiet => exact Or.inr ⟨hquiet, by rw [← get_run_of_quiet hquiet, h]⟩
    | inr hlast =>
        obtain ⟨v', hv'⟩ := hlast
        have hv : v' = v := by rw [← get_run_of_lastWrite hv', h]
        rw [hv] at hv'
        exact Or.inl hv'
  · intro h
    cases h with
    | inl hlast => exact get_run_of_lastWrite hlast
    | inr hquiet => rw [get_run_of_quiet hquiet.1, hquiet.2]

end Register

end Machine

end Lib
