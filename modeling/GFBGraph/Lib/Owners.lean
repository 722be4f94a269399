import GFBGraph.Lib.Ledger
import GFBGraph.Lib.Machine
import Mathlib.Data.Finset.SDiff

/-!
# Owners of allocated cells

Each of several owners holds a list of cells it has allocated, and releases them
when it is disposed of.  When an owner is given a new list, the cells of the old
one are not released: they are *lost*, still allocated and in no list.

`Sound` says that every allocated cell is in one place, with one owner or among
the lost.  It makes every release one of an allocated cell (`Sound.mem_live`),
which is what a double release would violate.
-/

namespace Lib

/-- What is allocated, and where the cells are. -/
structure Owners (κ ν : Type*) where
  owned : κ → List ν
  lost : Finset ν
  live : Finset ν

namespace Owners

variable {κ ν : Type*} [DecidableEq κ] [DecidableEq ν]

/-- Nothing is allocated. -/
def empty : Owners κ ν := ⟨fun _ => [], ∅, ∅⟩

/-- What can happen to the cells. -/
inductive Op (κ ν : Type*) where
  /-- An owner allocates the cells of a new list. -/
  | assign (k : κ) (vs : List ν)
  /-- An owner releases the cells of its list. -/
  | dispose (k : κ)
  | keep

/-- One operation, which answers what it does to the cells. -/
def step (s : Owners κ ν) : Op κ ν → Owners κ ν × List (RefAction ν)
  | .assign k vs =>
      (⟨Function.update s.owned k vs, s.lost ∪ (s.owned k).toFinset, s.live ∪ vs.toFinset⟩,
        vs.map .acquire)
  | .dispose k =>
      (⟨Function.update s.owned k [], s.lost, s.live \ (s.owned k).toFinset⟩,
        (s.owned k).map .release)
  | .keep => (s, [])

/-- Only cells that are not allocated yet are allocated, each once. -/
def Enabled (s : Owners κ ν) : Op κ ν → Prop
  | .assign _ vs => vs.Nodup ∧ ∀ v ∈ vs, v ∉ s.live
  | .dispose _ | .keep => True

/-- Every allocated cell is in one place. -/
structure Sound (s : Owners κ ν) : Prop where
  nodup : ∀ k, (s.owned k).Nodup
  apart : ∀ k k', k ≠ k' → ∀ v ∈ s.owned k, v ∉ s.owned k'
  notMem_lost : ∀ k, ∀ v ∈ s.owned k, v ∉ s.lost
  live_iff : ∀ v, v ∈ s.live ↔ v ∈ s.lost ∨ ∃ k, v ∈ s.owned k

omit [DecidableEq κ] [DecidableEq ν] in
theorem sound_empty : (empty : Owners κ ν).Sound where
  nodup _ := List.nodup_nil
  apart _ _ _ _ hv := by simp [empty] at hv
  notMem_lost _ _ hv := by simp [empty] at hv
  live_iff _ := by simp [empty]

variable {s : Owners κ ν}

omit [DecidableEq κ] [DecidableEq ν] in
theorem Sound.mem_live (h : s.Sound) {k : κ} {v : ν} (hv : v ∈ s.owned k) : v ∈ s.live :=
  (h.live_iff v).2 (Or.inr ⟨k, hv⟩)

/-- A new list of fresh cells keeps every cell in one place. -/
theorem Sound.assign (h : s.Sound) (k : κ) {vs : List ν} (hnodup : vs.Nodup)
    (hfresh : ∀ v ∈ vs, v ∉ s.live) : (s.step (.assign k vs)).1.Sound where
  nodup k' := by
    by_cases hk : k' = k
    · subst hk
      simpa [step] using hnodup
    · simpa [step, hk] using h.nodup k'
  apart k₁ k₂ hne v hv := by
    have howned : ∀ {k'}, v ∈ s.owned k' → v ∉ vs := fun hv' hin => hfresh v hin (h.mem_live hv')
    by_cases h₁ : k₁ = k <;> by_cases h₂ : k₂ = k
    · exact absurd (h₁.trans h₂.symm) hne
    · simp [step, h₁, h₂] at hv ⊢
      exact fun hv' => howned hv' hv
    · simp [step, h₁, h₂] at hv ⊢
      exact howned hv
    · simp [step, h₁, h₂] at hv ⊢
      exact h.apart k₁ k₂ hne v hv
  notMem_lost k' v hv := by
    by_cases hk : k' = k
    · simp [step, hk] at hv ⊢
      have hlive := hfresh v hv
      rw [h.live_iff, not_or] at hlive
      exact ⟨hlive.1, fun hv' => hlive.2 ⟨k, hv'⟩⟩
    · simp [step, hk] at hv ⊢
      exact ⟨h.notMem_lost k' v hv, h.apart k' k hk v hv⟩
  live_iff v := by
    simp only [step, Finset.mem_union, List.mem_toFinset, h.live_iff]
    constructor
    · intro hv
      obtain (hlost | ⟨k', hk'⟩) | hnew := hv
      · exact Or.inl (Or.inl hlost)
      · by_cases hk : k' = k
        · exact Or.inl (Or.inr (hk ▸ hk'))
        · exact Or.inr ⟨k', by simpa [hk] using hk'⟩
      · exact Or.inr ⟨k, by simpa using hnew⟩
    · intro hv
      obtain (hlost | hold) | ⟨k', hk'⟩ := hv
      · exact Or.inl (Or.inl hlost)
      · exact Or.inl (Or.inr ⟨k, hold⟩)
      · by_cases hk : k' = k
        · exact Or.inr (by simpa [hk] using hk')
        · exact Or.inl (Or.inr ⟨k', by simpa [hk] using hk'⟩)

/-- So does disposing of an owner. -/
theorem Sound.dispose (h : s.Sound) (k : κ) : (s.step (.dispose k)).1.Sound where
  nodup k' := by
    by_cases hk : k' = k
    · simp [step, hk]
    · simpa [step, hk] using h.nodup k'
  apart k₁ k₂ hne v hv := by
    by_cases h₁ : k₁ = k
    · simp [step, h₁] at hv
    · by_cases h₂ : k₂ = k
      · simp [step, h₂]
      · simp [step, h₁, h₂] at hv ⊢
        exact h.apart k₁ k₂ hne v hv
  notMem_lost k' v hv := by
    by_cases hk : k' = k
    · simp [step, hk] at hv
    · simp [step, hk] at hv ⊢
      exact h.notMem_lost k' v hv
  live_iff v := by
    simp only [step, Finset.mem_sdiff, List.mem_toFinset, h.live_iff]
    constructor
    · intro hv
      obtain ⟨hlost | ⟨k', hk'⟩, hnot⟩ := hv
      · exact Or.inl hlost
      · have hk : k' ≠ k := fun hk => hnot (hk ▸ hk')
        exact Or.inr ⟨k', by simpa [hk] using hk'⟩
    · intro hv
      obtain hlost | ⟨k', hk'⟩ := hv
      · exact ⟨Or.inl hlost, fun hv' => h.notMem_lost k v hv' hlost⟩
      · by_cases hk : k' = k
        · simp [hk] at hk'
        · have hold : v ∈ s.owned k' := by simpa [hk] using hk'
          exact ⟨Or.inr ⟨k', hold⟩, h.apart k' k hk v hold⟩

/-- **Step lemma**: an operation keeps the owners sound, and what it does to the
cells is in order. -/
theorem Sound.step (h : s.Sound) {op : Op κ ν} (hop : s.Enabled op) :
    (s.step op).1.Sound ∧ RefAction.settle s.live (s.step op).2 = some (s.step op).1.live := by
  cases op with
  | assign k vs => exact ⟨h.assign k hop.1 hop.2, RefAction.settle_acquire hop.1 hop.2⟩
  | dispose k =>
      refine ⟨h.dispose k, ?_⟩
      exact RefAction.settle_release (h.nodup k) fun v hv => h.mem_live hv
  | keep => exact ⟨h, rfl⟩

/-- The lost stay lost. -/
theorem lost_subset_step (s : Owners κ ν) (op : Op κ ν) :
    s.lost ⊆ (s.step op).1.lost := by
  cases op with
  | assign k vs => exact Finset.subset_union_left
  | dispose k => exact Finset.Subset.refl _
  | keep => exact Finset.Subset.refl _

end Owners

end Lib
