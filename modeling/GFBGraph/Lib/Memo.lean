import GFBGraph.Lib.Machine

/-!
# Memo cells

A *memo cell* keeps, next to a source value, the last result computed from it.
Reading answers the kept result when there is one and otherwise recomputes and
keeps what it found; writing replaces the source and leaves the cell alone.
The recomputation `f : α → Option β` may itself find nothing, in which case
nothing is kept.

`transparent_iff` is the law of such a cell: reads are indistinguishable from
recomputation at every point of a run exactly when every write of the run
meets `WriteOk` — it finds the cell empty, or the cell holds what the new
source would give.
-/

namespace Lib

/-- A source value and the result kept for it. -/
structure Memo (α β : Type*) where
  source : α
  cell : Option β

namespace Memo

variable {α β : Type*}

/-- What a client can do to a memo cell. -/
inductive Op (α : Type*) where
  | read
  | write (a : α)
  | other

section

variable (f : α → Option β)

/-- Answer the kept result, or recompute and keep. -/
def read (m : Memo α β) : Memo α β × Option β :=
  match m.cell with
  | some b => (m, some b)
  | none => ({ m with cell := f m.source }, f m.source)

/-- The cell as a machine; only `read` answers anything. -/
def machine : Machine (Memo α β) (Op α) (Option β) where
  step m
    | .read => m.read f
    | .write a => ({ m with source := a }, none)
    | .other => (m, none)

/-- The kept result, if any, is the one recomputation gives. -/
def Coherent (m : Memo α β) : Prop := m.cell = none ∨ m.cell = f m.source

/-- If this input is a read, it answers what recomputation gives. -/
def Transparent (m : Memo α β) (op : Op α) : Prop :=
  op = .read → (machine f).out m op = f m.source

/-- If this input is a write, the cell is empty or holds the new result. -/
def WriteOk (m : Memo α β) (op : Op α) : Prop :=
  ∀ a, op = .write a → m.cell = none ∨ m.cell = f a

variable {f}

/-- A read of a coherent cell answers what recomputation gives. -/
theorem read_of_coherent {m : Memo α β} (h : m.Coherent f) : (m.read f).2 = f m.source := by
  obtain ⟨a, c⟩ := m
  cases c with
  | none => rfl
  | some b =>
      cases h with
      | inl hempty => contradiction
      | inr hkept => exact hkept

/-- Conversely a read that answers what recomputation gives shows coherence. -/
theorem coherent_of_read {m : Memo α β} (h : (m.read f).2 = f m.source) : m.Coherent f := by
  obtain ⟨a, c⟩ := m
  cases c with
  | none => exact Or.inl rfl
  | some b => exact Or.inr h

/-- **Step lemma**: every input that is not a bad write keeps coherence. -/
theorem coherent_next (m : Memo α β) (op : Op α) (h : m.Coherent f) (hop : WriteOk f m op) :
    ((machine f).next m op).Coherent f := by
  cases op with
  | read =>
      change (m.read f).1.Coherent f
      unfold read
      split
      · exact h
      · exact Or.inr rfl
  | write a => exact hop a rfl
  | other => exact h

/-- **Law of the memo cell**: from a coherent cell, the writes of a run are all
harmless exactly when every read there could be along the run is transparent. -/
theorem transparent_iff {m : Memo α β} (hm : m.Coherent f) (ops : List (Op α)) :
    (machine f).Always (WriteOk f) m ops ↔
      ∀ pre, pre <+: ops → (machine f).Always (Transparent f) m (pre ++ [.read]) := by
  constructor
  · intro h pre hpre
    obtain ⟨post, hsplit⟩ := hpre
    rw [← hsplit, Machine.always_append] at h
    have hread : WriteOk f ((machine f).run m pre) .read := fun a ha => nomatch ha
    have hguarded : (machine f).Always (WriteOk f) m (pre ++ [.read]) :=
      (Machine.always_append _ _ _ _).2 ⟨h.1, hread, trivial⟩
    refine (machine f).always_of_guarded coherent_next (fun s op hs _ hop => ?_) hm hguarded
    rw [hop]
    exact read_of_coherent hs
  · intro h
    rw [Machine.always_iff]
    intro pre op post hsplit a hop
    -- the read right after the write sees the kept result against the new source
    have hpre : pre ++ [Op.write a] <+: ops := ⟨post, by rw [hsplit, hop]; simp⟩
    have hread := (Machine.always_append _ _ _ _).1 (h _ hpre)
    rw [Machine.run_append] at hread
    exact coherent_of_read (hread.2.1 rfl)

end

end Memo

end Lib
