import GFBGraph.Lib.Outcome
import Mathlib.Data.List.Induction
import Mathlib.Logic.Function.Basic

/-!
# Tasks that share a service

Any number of tasks (`Lib.Task`), possibly of different kinds, whose workers
ask one shared service before they compute their outcomes, while others use
the service as well.  The steps of different tasks and the uses of the service
come in any order.

Two laws hold of every such session.  `view_run_filter`: what becomes of a task
depends on its own events and on the uses of the service only.  `out_finish`: a
task that was not cancelled is finished with the outcome of a call made against
the service as it was at the one moment its worker asked.
-/

namespace Lib

/-- Tasks `κ` around a service of state `σ`: what a use of the service does,
and the outcome of a worker that found the service in some state and was
answered `ω` by the rest of the world. -/
structure Session (κ σ υ ω ι ε : Type*) (ρ : κ → Type*) where
  kind : ∀ k, TaskKind (ρ k) ι ε
  serve : σ → υ → σ
  call : ∀ k, σ → ω → ρ k × Option ε

namespace Session

/-- What can happen in a session. -/
inductive Event (κ υ ω : Type*) where
  | serve (use : υ)
  | start (k : κ)
  /-- The worker asks the service. -/
  | ask (k : κ)
  /-- The worker is answered and stores its outcome. -/
  | reply (k : κ) (answer : ω)
  | cancel (k : κ)
  | finish (k : κ)
  | destroy (k : κ)

/-- The service, what each worker found when it asked, and the tasks. -/
structure State (κ σ ι ε : Type*) (ρ : κ → Type*) where
  service : σ
  asked : κ → Option σ
  tasks : ∀ k, Task.State (ρ k) ι ε

/-- The task an event belongs to. -/
def Event.key {κ υ ω : Type*} : Event κ υ ω → Option κ
  | .serve _ => none
  | .start k | .ask k | .reply k _ | .cancel k | .finish k | .destroy k => some k

variable {κ σ υ ω ι ε : Type*} {ρ : κ → Type*} [DecidableEq κ] (S : Session κ σ υ ω ι ε ρ)

/-- No task has been taken up. -/
def begin (service : σ) : State κ σ ι ε ρ :=
  ⟨service, fun _ => none, fun k => Task.scheduled (S.kind k)⟩

/-- An event of one task. -/
def onTask (s : State κ σ ι ε ρ) (k : κ) (event : Task.Event (ρ k) ε) : State κ σ ι ε ρ :=
  { s with tasks := Function.update s.tasks k ((Task.machine (S.kind k)).next (s.tasks k) event) }

/-- One event. -/
def step (s : State κ σ ι ε ρ) : Event κ υ ω → State κ σ ι ε ρ
  | .serve use => { s with service := S.serve s.service use }
  | .start k => S.onTask s k .start
  | .ask k =>
      if (s.tasks k).phase = .running ∧ (s.asked k).isNone then
        { s with asked := Function.update s.asked k (some s.service) }
      else s
  | .reply k answer =>
      match s.asked k with
      | none => s
      | some found => S.onTask s k (.work (S.call k found answer).1 (S.call k found answer).2)
  | .cancel k => S.onTask s k .cancel
  | .finish k => S.onTask s k .finish
  | .destroy k => S.onTask s k .destroy

/-- Sessions as a machine. -/
def machine : Machine (State κ σ ι ε ρ) (Event κ υ ω) Unit := ⟨fun s event => (S.step s event, ())⟩

@[simp] theorem next_machine (s : State κ σ ι ε ρ) (event : Event κ υ ω) :
    S.machine.next s event = S.step s event := rfl

/-! ## tasks do not interfere -/

/-- What concerns one task. -/
def view (k : κ) (s : State κ σ ι ε ρ) : σ × Option σ × Task.State (ρ k) ι ε :=
  (s.service, s.asked k, s.tasks k)

/-- The event belongs to the task, or is a use of the service. -/
def visible (k : κ) (event : Event κ υ ω) : Bool := event.key.all (· = k)

@[simp] theorem view_onTask_self (s : State κ σ ι ε ρ) (k : κ) (event : Task.Event (ρ k) ε) :
    view k (S.onTask s k event) =
      (s.service, s.asked k, (Task.machine (S.kind k)).next (s.tasks k) event) := by
  simp [view, onTask]

theorem view_onTask_of_ne (s : State κ σ ι ε ρ) {k k' : κ} (h : k ≠ k')
    (event : Task.Event (ρ k') ε) : view k (S.onTask s k' event) = view k s := by
  simp [view, onTask, h]

/-- An event of another task changes nothing that concerns this one. -/
theorem view_step_of_not_visible {k : κ} {event : Event κ υ ω} (h : visible k event = false)
    (s : State κ σ ι ε ρ) : view k (S.step s event) = view k s := by
  have hne : ∀ k', event.key = some k' → k ≠ k' := by
    intro k' hkey heq
    simp [visible, hkey, heq] at h
  cases event with
  | serve use => simp [visible, Event.key] at h
  | start k' => exact S.view_onTask_of_ne s (hne k' rfl) .start
  | ask k' =>
      simp only [step]
      split
      · simp [view, hne k' rfl]
      · rfl
  | reply k' answer =>
      simp only [step]
      split
      · rfl
      · exact S.view_onTask_of_ne s (hne k' rfl) _
  | cancel k' => exact S.view_onTask_of_ne s (hne k' rfl) .cancel
  | finish k' => exact S.view_onTask_of_ne s (hne k' rfl) .finish
  | destroy k' => exact S.view_onTask_of_ne s (hne k' rfl) .destroy

/-- What concerns a task after one of its events depends on what concerned it
before. -/
theorem view_step_congr {k : κ} {event : Event κ υ ω} (h : visible k event = true)
    {s s' : State κ σ ι ε ρ} (hview : view k s = view k s') :
    view k (S.step s event) = view k (S.step s' event) := by
  simp only [view, Prod.mk.injEq] at hview
  obtain ⟨hservice, hasked, htask⟩ := hview
  have hkey : ∀ k', event.key = some k' → k' = k := by
    intro k' hkey
    simpa [visible, hkey] using h
  cases event with
  | serve use => simp [view, step, hservice, hasked, htask]
  | start k' =>
      obtain rfl := hkey k' rfl
      simp [step, hservice, hasked, htask]
  | ask k' =>
      obtain rfl := hkey k' rfl
      simp only [step, htask, hasked]
      split
      · simp [view, hservice, htask]
      · simp [view, hservice, htask, hasked]
  | reply k' answer =>
      obtain rfl := hkey k' rfl
      simp only [step, hasked]
      split
      · simp [view, hservice, htask, hasked]
      · simp [hservice, htask, hasked]
  | cancel k' =>
      obtain rfl := hkey k' rfl
      simp [step, hservice, hasked, htask]
  | finish k' =>
      obtain rfl := hkey k' rfl
      simp [step, hservice, hasked, htask]
  | destroy k' =>
      obtain rfl := hkey k' rfl
      simp [step, hservice, hasked, htask]

/-- **Non-interference**: leaving out the events of all other tasks changes
nothing that concerns a task. -/
theorem view_run_filter (k : κ) (s : State κ σ ι ε ρ) (events : List (Event κ υ ω)) :
    view k (S.machine.run s (events.filter (visible k))) = view k (S.machine.run s events) := by
  suffices h : ∀ s s' : State κ σ ι ε ρ, view k s = view k s' →
      view k (S.machine.run s (events.filter (visible k))) = view k (S.machine.run s' events) from
    h s s rfl
  induction events with
  | nil => exact fun s s' hview => hview
  | cons event events ih =>
      intro s s' hview
      cases hvisible : visible k event with
      | true =>
          rw [List.filter_cons_of_pos hvisible, Machine.run_cons, Machine.run_cons]
          exact ih _ _ (S.view_step_congr hvisible hview)
      | false =>
          rw [List.filter_cons_of_neg (by simp [hvisible]), Machine.run_cons]
          exact ih _ _ (hview.trans (S.view_step_of_not_visible hvisible s').symm)

/-! ## what a task is finished with -/

/-- The event of task `k` that an event of the session is, if it is one. -/
def taskEvent (s : State κ σ ι ε ρ) (k : κ) : Event κ υ ω → Option (Task.Event (ρ k) ε)
  | .serve _ | .ask _ => none
  | .start k' => if k' = k then some .start else none
  | .reply k' answer =>
      if k' = k then
        (s.asked k).map fun found => .work (S.call k found answer).1 (S.call k found answer).2
      else none
  | .cancel k' => if k' = k then some .cancel else none
  | .finish k' => if k' = k then some .finish else none
  | .destroy k' => if k' = k then some .destroy else none

theorem tasks_step (s : State κ σ ι ε ρ) (event : Event κ υ ω) (k : κ) :
    (S.step s event).tasks k =
      (S.taskEvent s k event).elim (s.tasks k) ((Task.machine (S.kind k)).next (s.tasks k)) := by
  have honTask : ∀ k' (taskEvent : Task.Event (ρ k') ε), k' ≠ k →
      (S.onTask s k' taskEvent).tasks k = s.tasks k := fun k' _ h => by simp [onTask, h.symm]
  cases event with
  | serve use => rfl
  | ask k' =>
      simp only [step]
      split <;> rfl
  | reply k' answer =>
      by_cases hkey : k' = k
      · subst hkey
        cases hasked : s.asked k' <;> simp [step, taskEvent, onTask, hasked]
      · cases hasked : s.asked k' <;> simp [step, taskEvent, hasked, hkey, honTask]
  | start k' | cancel k' | finish k' | destroy k' =>
      by_cases hkey : k' = k
      · subst hkey
        simp [step, taskEvent, onTask]
      · simp [step, taskEvent, hkey, honTask]

theorem taskEvent_eq_cancel_iff (s : State κ σ ι ε ρ) (event : Event κ υ ω) (k : κ) :
    S.taskEvent s k event = some .cancel ↔ event = .cancel k := by
  cases event with
  | serve use | ask k' => simp [taskEvent]
  | start k' | cancel k' | finish k' | destroy k' => by_cases h : k' = k <;> simp [taskEvent, h]
  | reply k' answer => by_cases h : k' = k <;> cases s.asked k <;> simp [taskEvent, h]

/-- A task is given the outcome of a call by a reply to it. -/
theorem reply_of_taskEvent_eq_work {s : State κ σ ι ε ρ} {event : Event κ υ ω} {k : κ}
    {result : ρ k} {error : Option ε} (h : S.taskEvent s k event = some (.work result error)) :
    ∃ found answer, event = .reply k answer ∧ s.asked k = some found ∧
      S.call k found answer = (result, error) := by
  cases event with
  | serve use | ask k' => simp [taskEvent] at h
  | start k' | cancel k' | finish k' | destroy k' =>
      by_cases hkey : k' = k <;> simp [taskEvent, hkey] at h
  | reply k' answer =>
      by_cases hkey : k' = k
      · subst hkey
        cases hasked : s.asked k' with
        | none => simp [taskEvent, hasked] at h
        | some found =>
            simp only [taskEvent, hasked, if_true, Option.map_some, Option.some.injEq,
              Task.Event.work.injEq] at h
            exact ⟨found, answer, rfl, rfl, Prod.ext h.1 h.2⟩
      · simp [taskEvent, hkey] at h

/-- What a worker found is the service as it was when it asked. -/
theorem exists_ask_of_asked {service found : σ} {events : List (Event κ υ ω)} {k : κ}
    (h : (S.machine.run (S.begin service) events).asked k = some found) :
    ∃ pre post, events = pre ++ .ask k :: post ∧
      found = (S.machine.run (S.begin service) pre).service := by
  induction events using List.reverseRecOn with
  | nil => exact absurd h.symm (Option.some_ne_none found)
  | append_singleton events event ih =>
      rw [Machine.run_append, Machine.run_cons, Machine.run_nil, next_machine] at h
      by_cases hold : (S.machine.run (S.begin service) events).asked k = some found
      · obtain ⟨pre, post, hsplit, hfound⟩ := ih hold
        exact ⟨pre, post ++ [event], by rw [hsplit]; simp, hfound⟩
      · -- the event changes what was found, so it is the worker's own
        cases event with
        | ask k' =>
            simp only [step] at h
            split at h
            · dsimp only at h
              by_cases hkey : k = k'
              · rw [← hkey, Function.update_self, Option.some.injEq] at h
                exact ⟨events, [], by rw [hkey], h.symm⟩
              · rw [Function.update_of_ne hkey] at h
                exact absurd h hold
            · exact absurd h hold
        | reply k' answer =>
            simp only [step] at h
            split at h <;> exact absurd h hold
        | serve use => exact absurd h hold
        | start k' => exact absurd h hold
        | cancel k' => exact absurd h hold
        | finish k' => exact absurd h hold
        | destroy k' => exact absurd h hold

/-- A task is cancelled once a cancellation of it has occurred. -/
theorem cancelled_tasks_iff (service : σ) (events : List (Event κ υ ω)) (k : κ) :
    ((S.machine.run (S.begin service) events).tasks k).cancelled = true ↔
      .cancel k ∈ events := by
  induction events using List.reverseRecOn with
  | nil => simp [begin, Task.scheduled]
  | append_singleton events event ih =>
      have hcancel := S.taskEvent_eq_cancel_iff (S.machine.run (S.begin service) events) event k
      rw [Machine.run_append, Machine.run_cons, Machine.run_nil, next_machine, tasks_step,
        List.mem_append, List.mem_singleton, ← ih, @eq_comm _ (Event.cancel k), ← hcancel]
      cases S.taskEvent (S.machine.run (S.begin service) events) k event with
      | none => simp
      | some taskEvent => simp [Task.cancelled_next_iff]

/-- In these events the worker of `k` asks the service after `pre`, and stores
the outcome it was answered with `answer`. -/
def Calls (events : List (Event κ υ ω)) (k : κ) (pre : List (Event κ υ ω)) (answer : ω) : Prop :=
  ∃ mid post, events = pre ++ .ask k :: mid ++ .reply k answer :: post

/-- The task holds the outcome of a call that its worker made in these events. -/
def HoldsCall (service : σ) (events : List (Event κ υ ω)) (k : κ) (task : Task.State (ρ k) ι ε) :
    Prop :=
  ∃ pre answer, Calls events k pre answer ∧
    S.call k (S.machine.run (S.begin service) pre).service answer = (task.slot, task.error)

theorem HoldsCall.append {S : Session κ σ υ ω ι ε ρ} {service : σ} {events : List (Event κ υ ω)}
    {k : κ} {task : Task.State (ρ k) ι ε} (h : S.HoldsCall service events k task)
    (last : List (Event κ υ ω)) : S.HoldsCall service (events ++ last) k task := by
  obtain ⟨pre, answer, ⟨mid, post, hsplit⟩, houtcome⟩ := h
  exact ⟨pre, answer, ⟨mid, post ++ last, by simp [hsplit]⟩, houtcome⟩

/-- A completed task that was not cancelled holds the outcome of a call. -/
theorem holdsCall_of_completed {service : σ} {events : List (Event κ υ ω)} {k : κ}
    (hphase : ((S.machine.run (S.begin service) events).tasks k).phase = .completed)
    (hcancel : ((S.machine.run (S.begin service) events).tasks k).cancelled = false) :
    S.HoldsCall service events k ((S.machine.run (S.begin service) events).tasks k) := by
  induction events using List.reverseRecOn with
  | nil => exact absurd hphase (by simp [begin, Task.scheduled])
  | append_singleton events event ih =>
      rw [Machine.run_append, Machine.run_cons, Machine.run_nil, next_machine, tasks_step]
        at hphase hcancel ⊢
      cases htaskEvent : S.taskEvent (S.machine.run (S.begin service) events) k event with
      | none =>
          rw [htaskEvent] at hphase hcancel
          exact (ih hphase hcancel).append [event]
      | some taskEvent =>
          rw [htaskEvent] at hphase hcancel
          simp only [Option.elim_some] at hphase hcancel ⊢
          cases Task.eq_or_work_of_completed hphase hcancel with
          | inl hsame =>
              rw [hsame] at hphase hcancel ⊢
              exact (ih hphase hcancel).append [event]
          | inr hwork =>
              obtain ⟨result, error, rfl, hslot, herror⟩ := hwork
              obtain ⟨found, answer, rfl, hasked, hcall⟩ := S.reply_of_taskEvent_eq_work htaskEvent
              obtain ⟨pre, post, hsplit, hfound⟩ := S.exists_ask_of_asked hasked
              refine ⟨pre, answer, ⟨post, [], by rw [hsplit]⟩, ?_⟩
              rw [hslot, herror, ← hfound, hcall]

/-- **Law of shared services**: whatever else happens, a completed task is
finished with its cancellation if it was cancelled, and else with the outcome
of a call against the service as it was when the task's worker asked. -/
theorem out_finish (service : σ) (events : List (Event κ υ ω)) (k : κ)
    (hphase : ((S.machine.run (S.begin service) events).tasks k).phase = .completed) :
    let out := (Task.machine (S.kind k)).out ((S.machine.run (S.begin service) events).tasks k)
      .finish
    (.cancel k ∈ events → out = some (.error (S.kind k).cancelled)) ∧
    (.cancel k ∉ events → ∃ pre answer, Calls events k pre answer ∧
      let outcome := S.call k (S.machine.run (S.begin service) pre).service answer
      out = some (Task.answer (S.kind k) outcome.1 outcome.2)) := by
  dsimp only
  rw [Task.out_finish hphase, Task.finishError, ← S.cancelled_tasks_iff service events k]
  constructor
  · intro hcancelled
    rw [if_pos hcancelled]
    rfl
  · intro hcancelled
    obtain ⟨pre, answer, hcalls, houtcome⟩ :=
      S.holdsCall_of_completed hphase (Bool.eq_false_iff.2 hcancelled)
    refine ⟨pre, answer, hcalls, ?_⟩
    rw [if_neg hcancelled, houtcome]

end Session

end Lib
