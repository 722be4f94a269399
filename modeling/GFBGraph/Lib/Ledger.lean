import Mathlib.Data.Finset.Image
import Mathlib.Data.Finset.Basic
import Mathlib.Data.List.Induction

/-!
# Ledgers of owned references

Code that acquires references, releases them, or gives them away to its
caller.  `Owning` is a computation together with what it does to its
references; `settle` plays such actions against the references held and fails
when one is acquired over a reference that is still held, or released or given
away when it is not held.

`settle_session`: in a session of calls, each with references of its own, no
action of one call touches the references of another, so what is held at the
end is what each call on its own leaves.
-/

namespace Lib

/-- What code does to a reference it keeps in the variable `v`. -/
inductive RefAction (ν : Type*) where
  | acquire (v : ν)
  | release (v : ν)
  /-- The reference is the caller's from now on. -/
  | give (v : ν)
  deriving DecidableEq, Repr

/-- The same action on renamed variables. -/
def RefAction.rename {ν ν' : Type*} (f : ν → ν') : RefAction ν → RefAction ν'
  | .acquire v => .acquire (f v)
  | .release v => .release (f v)
  | .give v => .give (f v)

/-! ## computations that own references -/

/-- A value, and what computing it did to references. -/
structure Owning (ν : Type*) (α : Type*) where
  value : α
  actions : List (RefAction ν)

namespace Owning

variable {ν α β : Type*}

instance : Monad (Owning ν) where
  pure a := ⟨a, []⟩
  bind x f := ⟨(f x.value).value, x.actions ++ (f x.value).actions⟩

/-- One action. -/
def act (action : RefAction ν) : Owning ν Unit := ⟨(), [action]⟩

/-- A reference is acquired into `v`. -/
def acquire (v : ν) : Owning ν Unit := act (.acquire v)

/-- The reference in `v` is released. -/
def release (v : ν) : Owning ν Unit := act (.release v)

/-- The reference in `v` is given away. -/
def give (v : ν) : Owning ν Unit := act (.give v)

/-- References are acquired and given to the caller. -/
def giveNew (vs : List ν) : Owning ν Unit :=
  ⟨(), vs.map .acquire ++ vs.map .give⟩

@[simp] theorem value_pure (a : α) : (pure a : Owning ν α).value = a := rfl

@[simp] theorem actions_pure (a : α) : (pure a : Owning ν α).actions = [] := rfl

@[simp] theorem value_bind {α β : Type u} (x : Owning ν α) (f : α → Owning ν β) :
    (x >>= f).value = (f x.value).value := rfl

@[simp] theorem actions_bind {α β : Type u} (x : Owning ν α) (f : α → Owning ν β) :
    (x >>= f).actions = x.actions ++ (f x.value).actions := rfl

@[simp] theorem actions_acquire (v : ν) : (acquire v).actions = [.acquire v] := rfl

@[simp] theorem actions_release (v : ν) : (release v).actions = [.release v] := rfl

@[simp] theorem actions_give (v : ν) : (give v).actions = [.give v] := rfl

@[simp] theorem actions_giveNew (vs : List ν) :
    (giveNew vs).actions = vs.map .acquire ++ vs.map .give := rfl

end Owning

/-! ## settling -/

namespace RefAction

variable {ν ν' : Type*} [DecidableEq ν] [DecidableEq ν']

/-- One action against the references held. -/
def apply (held : Finset ν) : RefAction ν → Option (Finset ν)
  | .acquire v => if v ∈ held then none else some (insert v held)
  | .release v | .give v => if v ∈ held then some (held.erase v) else none

/-- The references held after some actions, if all of them are in order. -/
def settle : Finset ν → List (RefAction ν) → Option (Finset ν)
  | held, [] => some held
  | held, action :: actions =>
      match apply held action with
      | none => none
      | some held' => settle held' actions

@[simp] theorem settle_nil (held : Finset ν) : settle held [] = some held := rfl

theorem settle_cons {held held' : Finset ν} {action : RefAction ν}
    (h : apply held action = some held') (actions : List (RefAction ν)) :
    settle held (action :: actions) = settle held' actions := by
  rw [settle, h]

theorem settle_append {held held' : Finset ν} {actions : List (RefAction ν)}
    (h : settle held actions = some held') (more : List (RefAction ν)) :
    settle held (actions ++ more) = settle held' more := by
  induction actions generalizing held with
  | nil =>
      rw [settle_nil, Option.some.injEq] at h
      rw [List.nil_append, h]
  | cons action actions ih =>
      cases happly : apply held action with
      | none => simp [settle, happly] at h
      | some next =>
          rw [settle_cons happly] at h
          rw [List.cons_append, settle_cons happly]
          exact ih h

theorem settle_acquire {held : Finset ν} {vs : List ν} (hnodup : vs.Nodup)
    (hfresh : ∀ v ∈ vs, v ∉ held) :
    settle held (vs.map .acquire) = some (held ∪ vs.toFinset) := by
  induction vs generalizing held with
  | nil => simp
  | cons v vs ih =>
      rw [List.nodup_cons] at hnodup
      rw [List.forall_mem_cons] at hfresh
      have happly : apply held (.acquire v) = some (insert v held) := by simp [apply, hfresh.1]
      have hrest : ∀ u ∈ vs, u ∉ insert v held := by
        intro u hu
        have hne : u ≠ v := fun huv => hnodup.1 (huv ▸ hu)
        simp [hne, hfresh.2 u hu]
      rw [List.map_cons, settle_cons happly, ih hnodup.2 hrest]
      simp [Finset.insert_union, Finset.union_insert]

theorem settle_give {held : Finset ν} {vs : List ν} (hnodup : vs.Nodup)
    (hfresh : ∀ v ∈ vs, v ∉ held) :
    settle (held ∪ vs.toFinset) (vs.map .give) = some held := by
  induction vs with
  | nil => simp
  | cons v vs ih =>
      rw [List.nodup_cons] at hnodup
      rw [List.forall_mem_cons] at hfresh
      have happly : apply (held ∪ (v :: vs).toFinset) (.give v) = some (held ∪ vs.toFinset) := by
        have hmem : v ∈ held ∪ (v :: vs).toFinset := by simp
        rw [apply, if_pos hmem, Option.some.injEq]
        ext u
        by_cases huv : u = v
        · simp [huv, hfresh.1, hnodup.1]
        · simp [huv]
      rw [List.map_cons, settle_cons happly, ih hnodup.2 hfresh.2]

theorem settle_release {held : Finset ν} {vs : List ν} (hnodup : vs.Nodup)
    (hheld : ∀ v ∈ vs, v ∈ held) :
    settle held (vs.map .release) = some (held \ vs.toFinset) := by
  induction vs generalizing held with
  | nil => simp
  | cons v vs ih =>
      rw [List.nodup_cons] at hnodup
      rw [List.forall_mem_cons] at hheld
      have happly : apply held (.release v) = some (held.erase v) := by simp [apply, hheld.1]
      have hrest : ∀ u ∈ vs, u ∈ held.erase v := by
        intro u hu
        have hne : u ≠ v := fun huv => hnodup.1 (huv ▸ hu)
        exact Finset.mem_erase.2 ⟨hne, hheld.2 u hu⟩
      rw [List.map_cons, settle_cons happly, ih hnodup.2 hrest, Option.some.injEq]
      ext u
      simp [and_assoc, and_left_comm]

/-- References that are acquired and given away leave no trace. -/
theorem settle_giveNew {held : Finset ν} {vs : List ν} (hnodup : vs.Nodup)
    (hfresh : ∀ v ∈ vs, v ∉ held) :
    settle held (vs.map .acquire ++ vs.map .give) = some held := by
  rw [settle_append (settle_acquire hnodup hfresh), settle_give hnodup hfresh]

/-- A reference acquired before and released after actions that leave the
references as they are. -/
theorem settle_bracket {held : Finset ν} {v : ν} (hv : v ∉ held) {actions : List (RefAction ν)}
    (h : settle (insert v held) actions = some (insert v held)) :
    settle held (.acquire v :: (actions ++ [.release v])) = some held := by
  have hacquire : apply held (.acquire v) = some (insert v held) := by simp [apply, hv]
  have hrelease : apply (insert v held) (.release v) = some held := by simp [apply, hv]
  rw [settle_cons hacquire, settle_append h, settle_cons hrelease, settle_nil]

/-! ## sessions -/

/-- Renaming, beside references that the actions do not touch. -/
theorem settle_rename {f : ν → ν'} (hf : Function.Injective f) {other : Finset ν'}
    (hother : ∀ v, f v ∉ other) {held held' : Finset ν} {actions : List (RefAction ν)}
    (h : settle held actions = some held') :
    settle (held.image f ∪ other) (actions.map (rename f)) = some (held'.image f ∪ other) := by
  induction actions generalizing held with
  | nil =>
      rw [settle_nil, Option.some.injEq] at h
      rw [List.map_nil, settle_nil, h]
  | cons action actions ih =>
      cases happly : apply held action with
      | none => simp [settle, happly] at h
      | some next =>
          rw [settle_cons happly] at h
          have hmem : ∀ v, f v ∈ held.image f ∪ other ↔ v ∈ held := by
            intro v
            simp [hother v, hf.eq_iff]
          have hrenamed : apply (held.image f ∪ other) (action.rename f) =
              some (next.image f ∪ other) := by
            cases action with
            | acquire v =>
                by_cases hv : v ∈ held
                · simp [apply, hv] at happly
                · simp only [apply, hv, if_false, Option.some.injEq] at happly
                  rw [rename, apply, if_neg (by rwa [hmem]), ← happly, Finset.image_insert,
                    Finset.insert_union]
            | release v | give v =>
                by_cases hv : v ∈ held
                · simp only [apply, hv, if_true, Option.some.injEq] at happly
                  rw [rename, apply, if_pos (by rwa [hmem]), ← happly, Finset.image_erase hf,
                    Finset.erase_union_distrib, Finset.erase_eq_of_notMem (hother v)]
                · simp [apply, hv] at happly
          rw [List.map_cons, settle_cons hrenamed]
          exact ih h

variable {α : Type*} (actions : α → List (RefAction ν))

/-- The actions of calls made one after the other; variable `v` of the `i`-th
call is `(i, v)`. -/
def session (calls : List α) : List (RefAction (Nat × ν)) :=
  calls.zipIdx.flatMap fun (call, i) => (actions call).map (rename (i, ·))

omit [DecidableEq ν] in
theorem session_append_singleton (calls : List α) (call : α) :
    session actions (calls ++ [call]) =
      session actions calls ++ (actions call).map (rename (calls.length, ·)) := by
  simp [session, List.zipIdx_append]

/-- **Law of sessions**: if the actions of every call are in order on their
own, those of a session are, and what is held at the end is what its calls
leave. -/
theorem settle_session {leaves : α → Finset ν}
    (h : ∀ call, settle ∅ (actions call) = some (leaves call)) (calls : List α) :
    ∃ held, settle ∅ (session actions calls) = some held ∧
      ∀ i v, (i, v) ∈ held ↔ ∃ call, calls[i]? = some call ∧ v ∈ leaves call := by
  induction calls using List.reverseRecOn with
  | nil => exact ⟨∅, rfl, by simp⟩
  | append_singleton calls call ih =>
      obtain ⟨held, hsettle, hheld⟩ := ih
      have hfresh : ∀ v, (calls.length, v) ∉ held := by
        intro v hv
        obtain ⟨other, hother, -⟩ := (hheld _ v).1 hv
        simp at hother
      have hinj : Function.Injective fun v : ν => (calls.length, v) := fun u v huv =>
        congrArg Prod.snd huv
      have hcall := settle_rename hinj hfresh (h call)
      rw [Finset.image_empty, Finset.empty_union] at hcall
      refine ⟨_, by rw [session_append_singleton, settle_append hsettle, hcall], fun i v => ?_⟩
      rw [Finset.mem_union, hheld, Finset.mem_image]
      by_cases hi : i = calls.length
      · subst hi
        simp
      · have hne : ∀ u ∈ leaves call, (calls.length, u) ≠ (i, v) := fun u _ heq =>
          hi (congrArg Prod.fst heq).symm
        have hget : (calls ++ [call])[i]? = calls[i]? := by
          by_cases hlt : i < calls.length
          · exact List.getElem?_append_left hlt
          · rw [List.getElem?_eq_none (by simp; omega), List.getElem?_eq_none (by omega)]
        rw [hget, or_iff_right_iff_imp]
        intro hmem
        obtain ⟨u, hu, heq⟩ := hmem
        exact absurd heq (hne u hu)

end RefAction

end Lib
