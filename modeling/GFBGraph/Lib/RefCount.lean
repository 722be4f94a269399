import GFBGraph.Lib.Task
import Mathlib.Algebra.Order.Group.Nat
import Mathlib.Data.List.Nodup
import Mathlib.Logic.Function.Basic
import Mathlib.Tactic.Common

/-!
# Reference counts

Objects that are finalized when their reference count reaches zero, a client
that holds references of its own, and tasks (`Lib.Task`) on such objects: a task
takes references when it is launched, its results are new objects, finishing it
hands some of them to the client, and destroying it drops references.

The counts are kept by increments and decrements, one object at a time.  The law
is that they are what the books say (`booked_run`): the references that the
client holds and that tasks have taken, less those that tasks have given away.
Whether that is the number of references that are still needed is up to the
kinds of task: one that drops what it has handed to the client gives it away
twice.  To drop a reference to a finalized object is a fault, which leaves the
count at zero.
-/

namespace Lib

/-- A reference count for each object, 0 for one that is finalized. -/
abbrev RefCounts (κ : Type*) := κ → Nat

namespace RefCounts

variable {κ : Type*} [DecidableEq κ]

/-- One more reference. -/
def ref (counts : RefCounts κ) (k : κ) : RefCounts κ := Function.update counts k (counts k + 1)

/-- One reference less. -/
def unref (counts : RefCounts κ) (k : κ) : RefCounts κ := Function.update counts k (counts k - 1)

theorem ref_apply (counts : RefCounts κ) (k j : κ) :
    counts.ref k j = counts j + if k = j then 1 else 0 := by
  by_cases h : k = j
  · subst h
    simp [ref]
  · simp [ref, h, Ne.symm h]

theorem unref_apply (counts : RefCounts κ) (k j : κ) :
    counts.unref k j = counts j - if k = j then 1 else 0 := by
  by_cases h : k = j
  · subst h
    simp [unref]
  · simp [unref, h, Ne.symm h]

/-- References to several objects, one after the other. -/
theorem foldl_ref (ks : List κ) (counts : RefCounts κ) (j : κ) :
    ks.foldl ref counts j = counts j + ks.count j := by
  induction ks generalizing counts with
  | nil => rfl
  | cons k ks ih =>
      rw [List.foldl_cons, ih, ref_apply, List.count_cons]
      simp only [beq_iff_eq]
      omega

theorem foldl_unref (ks : List κ) (counts : RefCounts κ) (j : κ) :
    ks.foldl unref counts j = counts j - ks.count j := by
  induction ks generalizing counts with
  | nil => rfl
  | cons k ks ih =>
      rw [List.foldl_cons, ih, unref_apply, List.count_cons]
      simp only [beq_iff_eq]
      omega

end RefCounts

/-- One entry of a list is replaced. -/
theorem count_flatMap_set {α κ : Type*} [DecidableEq κ] (f : α → List κ) {l : List α} {i : Nat}
    {old : α} (h : l[i]? = some old) (new : α) (k : κ) :
    ((l.set i new).flatMap f).count k + (f old).count k =
      (l.flatMap f).count k + (f new).count k := by
  induction l generalizing i with
  | nil => simp at h
  | cons a l ih =>
      cases i with
      | zero =>
          obtain rfl : a = old := by simpa using h
          simp only [List.set_cons_zero, List.flatMap_cons, List.count_append]
          omega
      | succ i =>
          have hrest := ih (i := i) (by simpa using h)
          simp only [List.set_cons_succ, List.flatMap_cons, List.count_append]
          omega

/-- Operations on objects: the kind of task each is, whose results are the
objects the worker makes, and the references it takes when it is launched. -/
structure Holding (η κ ε : Type*) where
  kind : η → TaskKind (List κ) κ ε
  holds : η → List κ
  empty_kind : ∀ op, (kind op).empty = []

namespace Holding

variable {η κ ε : Type*}

/-- An operation that was launched. -/
structure Entry (η κ ε : Type*) where
  op : η
  task : Task.State (List κ) κ ε

/-- The counts, the references of the client, and what was launched. -/
structure State (η κ ε : Type*) where
  refCount : RefCounts κ
  client : κ → Nat
  entries : List (Entry η κ ε)

/-- What the client and the operations do. -/
inductive Event (η κ ε : Type*) where
  /-- An object is made, with one reference for the client. -/
  | new (k : κ)
  | ref (k : κ)
  | unref (k : κ)
  | launch (op : η)
  /-- Something happens to the operation that was launched as the `i`-th. -/
  | task (i : Nat) (event : Task.Event (List κ) ε)

/-- No object, and no operation. -/
def empty : State η κ ε := ⟨fun _ => 0, fun _ => 0, []⟩

section

variable (holding : Holding η κ ε)

/-- The objects an event makes, which have one reference each. -/
def made (entry : Entry η κ ε) (event : Task.Event (List κ) ε) : List κ :=
  (Task.producedBy entry.task event).getD []

/-- The objects an event hands to the client, each with a reference. -/
def handed (entry : Entry η κ ε) (event : Task.Event (List κ) ε) : List κ :=
  ((Task.handedBy (holding.kind entry.op) entry.task event).getD none).getD []

/-- The references an event drops. -/
def dropped (entry : Entry η κ ε) (event : Task.Event (List κ) ε) : List κ :=
  (Task.releasedBy (holding.kind entry.op) entry.task event).getD []

/-- The operation after an event. -/
def advance (entry : Entry η κ ε) (event : Task.Event (List κ) ε) : Entry η κ ε :=
  { entry with task := (Task.machine (holding.kind entry.op)).next entry.task event }

variable [DecidableEq κ]

/-- One event. -/
def step (s : State η κ ε) : Event η κ ε → State η κ ε
  | .new k =>
      { s with
        refCount := s.refCount.ref k
        client := Function.update s.client k (s.client k + 1) }
  | .ref k =>
      { s with
        refCount := s.refCount.ref k
        client := Function.update s.client k (s.client k + 1) }
  | .unref k =>
      { s with
        refCount := s.refCount.unref k
        client := Function.update s.client k (s.client k - 1) }
  | .launch op =>
      { s with
        refCount := (holding.holds op).foldl RefCounts.ref s.refCount
        entries := s.entries ++ [⟨op, Task.scheduled (holding.kind op)⟩] }
  | .task i event =>
      match s.entries[i]? with
      | none => s
      | some entry =>
          { refCount := (holding.dropped entry event).foldl RefCounts.unref
              ((made entry event).foldl RefCounts.ref s.refCount)
            client := fun k => s.client k + (holding.handed entry event).count k
            entries := s.entries.set i (holding.advance entry event) }

/-- Counts as a machine. -/
def machine : Machine (State η κ ε) (Event η κ ε) Unit :=
  ⟨fun s event => (holding.step s event, ())⟩

@[simp] theorem next_machine (s : State η κ ε) (event : Event η κ ε) :
    holding.machine.next s event = holding.step s event := rfl

/-! ## the books -/

/-- The references an operation has taken: those it was launched with, and those
of the objects it made. -/
def taken (entry : Entry η κ ε) : List κ := holding.holds entry.op ++ entry.task.produced

/-- The references an operation has given away, to the client or for good. -/
def given (entry : Entry η κ ε) : List κ := entry.task.handed.getD [] ++ entry.task.released

/-- Every reference that was taken to the object has been given away, so that its
memory may be that of a new one. -/
def Fresh (s : State η κ ε) (k : κ) : Prop :=
  s.client k + (s.entries.flatMap holding.taken).count k = (s.entries.flatMap given).count k

instance (s : State η κ ε) (k : κ) : Decidable (holding.Fresh s k) :=
  inferInstanceAs (Decidable (_ = _))

/-- The client drops what it holds only and uses living objects only, and what is
made is new. -/
def Enabled (s : State η κ ε) : Event η κ ε → Prop
  | .new k => holding.Fresh s k
  | .ref k => 0 < s.refCount k
  | .unref k => 0 < s.client k
  | .launch op => ∀ k ∈ holding.holds op, 0 < s.refCount k
  | .task _ (.work result _) => result.Nodup ∧ ∀ k ∈ result, holding.Fresh s k
  | .task _ _ => True

instance (s : State η κ ε) (event : Event η κ ε) : Decidable (holding.Enabled s event) := by
  unfold Enabled
  split <;> infer_instance

/-- The books are right: operations have gone through the events of their tasks,
and every count is what was taken less what was given away. -/
structure Booked (s : State η κ ε) : Prop where
  entries : ∀ entry ∈ s.entries, ∃ events, entry.task =
    (Task.machine (holding.kind entry.op)).run (Task.scheduled (holding.kind entry.op)) events
  refCount : ∀ k, s.refCount k =
    s.client k + (s.entries.flatMap holding.taken).count k - (s.entries.flatMap given).count k

variable {holding}

theorem booked_empty : holding.Booked empty := ⟨fun _ h => by simp [empty] at h, fun _ => rfl⟩

/-- An event enters what it makes, hands over and drops into the books. -/
theorem count_advance {entry : Entry η κ ε}
    (hrun : ∃ events, entry.task =
      (Task.machine (holding.kind entry.op)).run (Task.scheduled (holding.kind entry.op)) events)
    (event : Task.Event (List κ) ε) (k : κ) :
    (holding.taken (holding.advance entry event)).count k =
        (holding.taken entry).count k + (made entry event).count k ∧
      (given (holding.advance entry event)).count k =
        (given entry).count k + (holding.handed entry event).count k +
          (holding.dropped entry event).count k := by
  obtain ⟨events, hevents⟩ := hrun
  have hunspent := Task.unspent_run (holding.kind entry.op) events
  have haccounted := Task.accounted_run (holding.kind entry.op) events
  rw [← hevents] at hunspent haccounted
  have hproduced := (Task.producedRegister (holding.kind entry.op)).get_next entry.task event
  have hhanded := (Task.handedRegister (holding.kind entry.op)).get_next entry.task event
  have hreleased := (Task.releasedRegister (holding.kind entry.op)).get_next entry.task event
  simp only [Task.producedRegister] at hproduced
  simp only [Task.handedRegister] at hhanded
  simp only [Task.releasedRegister] at hreleased
  simp only [taken, given, advance, made, handed, dropped, List.count_append, hproduced, hhanded,
    hreleased]
  cases event with
  | start | cancel => simp [Task.producedBy, Task.handedBy, Task.releasedBy]
  | work result error =>
      by_cases hphase : entry.task.phase = .running
      · have hnone : entry.task.produced = [] := by
          rw [hunspent.produced_of_rank (by simp [hphase]), holding.empty_kind]
        simp [Task.producedBy, Task.handedBy, Task.releasedBy, hphase, hnone]
      · simp [Task.producedBy, Task.handedBy, Task.releasedBy, hphase]
  | finish =>
      by_cases hdue : entry.task.phase = .completed ∧
          Task.finishError (holding.kind entry.op) entry.task = none
      · have hnone : entry.task.handed = none := haccounted.handed_of_rank (by simp [hdue.1])
        simp [Task.producedBy, Task.handedBy, Task.releasedBy, hdue, hnone]
        omega
      · simp [Task.producedBy, Task.handedBy, Task.releasedBy, hdue]
  | destroy =>
      by_cases hdue : entry.task.phase = .completed ∨ entry.task.phase = .finished
      · have hnone : entry.task.released = [] := hunspent.released_of_rank (by
          cases hdue with | _ hphase => simp [hphase])
        simp [Task.producedBy, Task.handedBy, Task.releasedBy, hdue, hnone]
      · simp [Task.producedBy, Task.handedBy, Task.releasedBy, hdue]

/-- A change of one count and of the references of the client to that object. -/
theorem Booked.update {s : State η κ ε} (hs : holding.Booked s) {j : κ} {count client : Nat}
    (h : count = client + (s.entries.flatMap holding.taken).count j -
      (s.entries.flatMap given).count j) :
    holding.Booked { s with
      refCount := Function.update s.refCount j count
      client := Function.update s.client j client } := by
  refine ⟨hs.entries, fun k => ?_⟩
  by_cases hk : k = j
  · subst hk
    simpa using h
  · simpa [hk] using hs.refCount k

/-- An operation takes references to living objects. -/
theorem Booked.launch {s : State η κ ε} (hs : holding.Booked s) {op : η}
    (halive : ∀ k ∈ holding.holds op, 0 < s.refCount k) :
    holding.Booked (holding.step s (.launch op)) := by
  refine ⟨?_, fun k => ?_⟩
  · simp only [step, List.forall_mem_append, List.forall_mem_singleton]
    exact ⟨hs.entries, [], rfl⟩
  · have hk := hs.refCount k
    have htaken : (holding.taken ⟨op, Task.scheduled (holding.kind op)⟩).count k =
        (holding.holds op).count k := by
      simp [taken, Task.scheduled, holding.empty_kind]
    have hgiven : (given (η := η) ⟨op, Task.scheduled (holding.kind op)⟩).count k = 0 := by
      simp [given, Task.scheduled]
    have hpos : 0 < (holding.holds op).count k → 0 < s.refCount k :=
      fun hmem => halive k (List.count_pos_iff.1 hmem)
    simp only [step, RefCounts.foldl_ref, List.flatMap_append, List.flatMap_singleton,
      List.count_append, htaken, hgiven]
    omega

/-- What is made is made once, where there is no object. -/
theorem made_cases {s : State η κ ε} {i : Nat} {event : Task.Event (List κ) ε}
    (he : holding.Enabled s (.task i event)) (entry : Entry η κ ε) (k : κ) :
    (made entry event).count k = 0 ∨ (made entry event).count k = 1 ∧ holding.Fresh s k := by
  cases event with
  | work result error =>
      by_cases hphase : entry.task.phase = .running
      · have hresult : made entry (.work result error) = result := by
          simp [made, Task.producedBy, hphase]
        rw [hresult]
        by_cases hmem : k ∈ result
        · exact Or.inr ⟨List.count_eq_one_of_mem he.1 hmem, he.2 k hmem⟩
        · exact Or.inl (List.count_eq_zero.2 hmem)
      · exact Or.inl (by simp [made, Task.producedBy, hphase])
  | _ => exact Or.inl rfl

/-- What happens to an operation is entered into the books. -/
theorem Booked.task {s : State η κ ε} (hs : holding.Booked s) {i : Nat}
    {event : Task.Event (List κ) ε} (he : holding.Enabled s (.task i event)) :
    holding.Booked (holding.step s (.task i event)) := by
  cases hentry : s.entries[i]? with
  | none => simpa [step, hentry] using hs
  | some entry =>
      have hrun := hs.entries entry (List.mem_of_getElem? hentry)
      refine ⟨fun entry' hentry' => ?_, fun k => ?_⟩
      · simp only [step, hentry] at hentry'
        obtain hold | rfl := List.mem_or_eq_of_mem_set hentry'
        · exact hs.entries entry' hold
        · obtain ⟨events, hevents⟩ := hrun
          exact ⟨events ++ [event], by simp [advance, hevents]⟩
      · have hk := hs.refCount k
        obtain ⟨htaken, hgiven⟩ := count_advance hrun event k
        have hsetTaken := count_flatMap_set holding.taken hentry (holding.advance entry event) k
        have hsetGiven := count_flatMap_set given hentry (holding.advance entry event) k
        have hmade := made_cases he entry k
        simp only [step, hentry, RefCounts.foldl_ref, RefCounts.foldl_unref]
        rw [Fresh] at hmade
        omega

/-- **Step lemma**: the books stay right. -/
theorem Booked.next {s : State η κ ε} (hs : holding.Booked s) {event : Event η κ ε}
    (he : holding.Enabled s event) : holding.Booked (holding.machine.next s event) := by
  cases event with
  | new j =>
      have hcount := hs.refCount j
      have hfresh : holding.Fresh s j := he
      rw [Fresh] at hfresh
      exact hs.update (by omega)
  | ref j =>
      have hcount := hs.refCount j
      have halive : 0 < s.refCount j := he
      exact hs.update (by omega)
  | unref j =>
      have hcount := hs.refCount j
      have hclient : 0 < s.client j := he
      exact hs.update (by omega)
  | launch op => exact hs.launch he
  | task i event => exact hs.task he

/-- **Law of reference counts**: whatever was done, the books are right. -/
theorem booked_run {events : List (Event η κ ε)}
    (hg : holding.machine.Always holding.Enabled empty events) :
    holding.Booked (holding.machine.run empty events) :=
  Machine.run_of_guarded holding.machine (fun _ _ hs he => hs.next he) booked_empty hg

end

end Holding

end Lib
