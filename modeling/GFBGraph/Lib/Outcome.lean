import GFBGraph.Lib.Task

/-!
# Outcomes of tasks

What finishing a task answers, when its worker stores the outcome of a function
that could have been called directly — a result and possibly an error.  Over
all orders of the events, a task that completed answers with that outcome if it
was not cancelled, and with the cancellation if it was: `out_finish_run`.  An
answer is a result or an error, so the outcome is delivered unchanged exactly
where an error comes with the empty result.
-/

namespace Lib

namespace Task

variable {ρ ι ε : Type*}

/-- Whatever a worker stores in these events is this outcome. -/
def StoresOnly (result : ρ) (error : Option ε) (events : List (Event ρ ε)) : Prop :=
  ∀ result' error', .work result' error' ∈ events → result' = result ∧ error' = error

variable (kind : TaskKind ρ ι ε)

/-- The answer an outcome is finished with. -/
def answer (result : ρ) : Option ε → Except ε ρ
  | some e => .error e
  | none => .ok (kind.finish result).1

/-- The result and the error an answer delivers. -/
def delivered : Except ε ρ → ρ × Option ε
  | .ok result => (result, none)
  | .error e => (kind.empty, some e)

/-- If the task completed, it was cancelled or the slot holds this outcome. -/
def Stored (result : ρ) (error : Option ε) (task : State ρ ι ε) : Prop :=
  task.phase = .completed → task.cancelled = true ∨ (task.error = error ∧ task.slot = result)

variable {kind}

/-! ## one event -/

theorem cancelled_next_iff (task : State ρ ι ε) (event : Event ρ ε) :
    ((machine kind).next task event).cancelled = true ↔
      task.cancelled = true ∨ event = .cancel := by
  have htransition := transition kind task event
  generalize (machine kind).next task event = task' at htransition ⊢
  cases htransition with
  | idle event hdue => cases event <;> simp_all [Due]
  | cancel => simp
  | _ => simp

/-- **Step lemma**: an event whose worker, if any, stores the outcome keeps it
stored. -/
theorem stored_next {result : ρ} {error : Option ε} (task : State ρ ι ε) (event : Event ρ ε)
    (h : Stored result error task)
    (hevent : ∀ result' error', event = .work result' error' →
      result' = result ∧ error' = error) :
    Stored result error ((machine kind).next task event) := by
  have htransition := transition kind task event
  generalize (machine kind).next task event = task' at htransition ⊢
  cases htransition with
  | idle => exact h
  | cancel => exact fun _ => Or.inl rfl
  | refuse _ hcancelled => exact fun _ => Or.inl hcancelled
  | work result' error' =>
      obtain ⟨hresult, herror⟩ := hevent result' error' rfl
      exact fun _ => Or.inr ⟨herror, hresult⟩
  | start | fail | hand | destroy =>
      intro hphase
      contradiction

/-- A task that has completed and was not cancelled was so before the last
event, or that was its worker. -/
theorem eq_or_work_of_completed {task : State ρ ι ε} {event : Event ρ ε}
    (hphase : ((machine kind).next task event).phase = .completed)
    (hcancelled : ((machine kind).next task event).cancelled = false) :
    (machine kind).next task event = task ∨
      ∃ result error, event = .work result error ∧
        ((machine kind).next task event).slot = result ∧
        ((machine kind).next task event).error = error := by
  have htransition := transition kind task event
  generalize (machine kind).next task event = task' at htransition hphase hcancelled ⊢
  cases htransition with
  | idle => exact Or.inl rfl
  | work result error => exact Or.inr ⟨result, error, rfl, rfl, rfl⟩
  | cancel => contradiction
  | refuse _ hyes => exact absurd (hyes.symm.trans hcancelled) Bool.noConfusion
  | start | fail | hand | destroy => contradiction

theorem out_finish {task : State ρ ι ε} (h : task.phase = .completed) :
    (machine kind).out task .finish = some (answer kind task.slot (finishError kind task)) := by
  cases herror : finishError kind task with
  | some e => simp [Machine.out, machine, step, h, herror, answer]
  | none => simp [Machine.out, machine, step, h, herror, answer]

/-! ## whole runs -/

theorem cancelled_run_iff (task : State ρ ι ε) (events : List (Event ρ ε)) :
    ((machine kind).run task events).cancelled = true ↔
      task.cancelled = true ∨ .cancel ∈ events := by
  induction events generalizing task with
  | nil => simp
  | cons event events ih =>
      rw [Machine.run_cons, ih, cancelled_next_iff, List.mem_cons, or_assoc, @eq_comm _ event]

theorem stored_run {result : ρ} {error : Option ε} {events : List (Event ρ ε)}
    (h : StoresOnly result error events) :
    Stored result error ((machine kind).run (scheduled kind) events) := by
  have hguard : ∀ event ∈ events, ∀ result' error', event = .work result' error' →
      result' = result ∧ error' = error :=
    fun event hmem result' error' heq => h result' error' (heq ▸ hmem)
  have hscheduled : Stored result error (scheduled kind) := fun hphase => nomatch hphase
  exact (machine kind).run_of_guarded stored_next hscheduled
    ((machine kind).always_of_forall_mem hguard _)

/-- **Law of outcomes**: a completed task answers with the outcome its worker
stored, or with the cancellation if it was cancelled. -/
theorem out_finish_run {result : ρ} {error : Option ε} {events : List (Event ρ ε)}
    (hstores : StoresOnly result error events)
    (hphase : ((machine kind).run (scheduled kind) events).phase = .completed) :
    (.cancel ∈ events → (machine kind).out ((machine kind).run (scheduled kind) events) .finish =
      some (.error kind.cancelled)) ∧
    (.cancel ∉ events → (machine kind).out ((machine kind).run (scheduled kind) events) .finish =
      some (answer kind result error)) := by
  have hcancelled : ((machine kind).run (scheduled kind) events).cancelled = true ↔
      .cancel ∈ events := by
    rw [cancelled_run_iff]
    simp [scheduled]
  rw [out_finish hphase, finishError]
  constructor
  · intro hcancel
    rw [if_pos (hcancelled.2 hcancel)]
    rfl
  · intro hcancel
    have hnot := mt hcancelled.1 hcancel
    rw [if_neg hnot]
    cases stored_run hstores hphase with
    | inl hyes => exact absurd hyes hnot
    | inr hstored => rw [hstored.1, hstored.2]

/-- An outcome whose error comes with the empty result is delivered as it is,
where finishing returns the result itself. -/
theorem delivered_answer {result : ρ} {error : Option ε}
    (hfinish : (kind.finish result).1 = result) (herror : error ≠ none → result = kind.empty) :
    delivered kind (answer kind result error) = (result, error) := by
  cases error with
  | none => simp [answer, delivered, hfinish]
  | some e => simp [answer, delivered, herror]

/-! ### getting there -/

variable (kind) in
/-- Before it is finished or destroyed, a task is not past completion. -/
theorem rank_run_le {events : List (Event ρ ε)} (h : ∀ event ∈ events, event ≠ .finish ∧
    event ≠ .destroy) : ((machine kind).run (scheduled kind) events).phase.rank ≤ 2 := by
  have hstep : ∀ (task : State ρ ι ε) (event : Event ρ ε), task.phase.rank ≤ 2 →
      (event ≠ .finish ∧ event ≠ .destroy) →
      ((machine kind).next task event).phase.rank ≤ 2 := by
    intro task event hrank hevent
    have htransition := transition kind task event
    generalize (machine kind).next task event = task' at htransition ⊢
    cases htransition with
    | idle | cancel => exact hrank
    | fail | hand => exact absurd rfl hevent.1
    | destroy => exact absurd rfl hevent.2
    | refuse | start | work => simp
  exact (machine kind).run_of_guarded hstep (by simp [scheduled])
    ((machine kind).always_of_forall_mem h _)

variable (kind) in
theorem rank_next_start (task : State ρ ι ε) :
    1 ≤ ((machine kind).next task .start).phase.rank := by
  have htransition := transition kind task .start
  generalize (machine kind).next task .start = task' at htransition ⊢
  cases htransition with
  | idle event hdue =>
      cases hphase : task.phase <;> simp_all [Due]
  | refuse | start => simp

variable (kind) in
theorem rank_next_work {task : State ρ ι ε} (h : 1 ≤ task.phase.rank) (result : ρ)
    (error : Option ε) : 2 ≤ ((machine kind).next task (.work result error)).phase.rank := by
  have htransition := transition kind task (.work result error)
  generalize (machine kind).next task (.work result error) = task' at htransition ⊢
  cases htransition with
  | idle event hdue =>
      cases hphase : task.phase <;> simp_all [Due]
  | work => simp

/-- A task that was started and whose worker stored its outcome is completed,
until it is finished or destroyed. -/
theorem phase_run_of_work {pre mid post : List (Event ρ ε)} {result : ρ} {error : Option ε}
    (h : ∀ event ∈ pre ++ .start :: mid ++ .work result error :: post,
      event ≠ .finish ∧ event ≠ .destroy) :
    ((machine kind).run (scheduled kind)
      (pre ++ .start :: mid ++ .work result error :: post)).phase = .completed := by
  have hle := rank_run_le kind h
  rw [Machine.run_append, Machine.run_append, Machine.run_cons, Machine.run_cons] at hle ⊢
  have hstart := rank_next_start kind ((machine kind).run (scheduled kind) pre)
  have hmid := Nat.le_trans hstart (rank_le_run kind _ mid)
  have hwork := rank_next_work kind hmid result error
  have hge := Nat.le_trans hwork (rank_le_run kind _ post)
  generalize (machine kind).run _ post = task at hle hge ⊢
  cases hphase : task.phase <;> simp_all

end Task

end Lib
