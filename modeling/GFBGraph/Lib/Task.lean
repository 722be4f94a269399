import GFBGraph.Lib.Register

/-!
# Ownership of task results

A *task* runs once in a worker, which leaves a result and possibly an error in
a slot; afterwards its client may finish it, at most once, and is handed what
`finish` takes out of the slot unless the task failed or was cancelled; in the
end the slot is destroyed with what it still holds.  Cancellation can strike
at any moment: before the worker starts it prevents the work, later it only
makes finishing fail.

A task is `Settled` when every item of the result the worker produced has one
owner: the client it was handed to, or else the destruction, which released it
exactly once.  By `settled_run_iff` this is decided, for each complete run, by
the result produced and by whether the client was handed it.
-/

namespace Lib

/-- What distinguishes one kind of task from another: its results, the items
they are made of, what finishing takes out of the slot and leaves there, and
what destroying the slot releases. -/
structure TaskKind (ρ ι ε : Type*) where
  empty : ρ
  items : ρ → List ι
  items_empty : items empty = []
  finish : ρ → ρ × ρ
  destroy : ρ → List ι
  /-- The error a cancelled task fails with. -/
  cancelled : ε

namespace Task

variable {ρ ι ε : Type*}

/-- Where a task stands. -/
inductive Phase where
  | scheduled
  | running
  | completed
  | finished
  | destroyed
  deriving DecidableEq, Repr

/-- The order of the phases. -/
@[simp] def Phase.rank : Phase → Nat
  | .scheduled => 0
  | .running => 1
  | .completed => 2
  | .finished => 3
  | .destroyed => 4

/-- What can happen to a task. -/
inductive Event (ρ ε : Type*) where
  /-- The worker thread takes the task up. -/
  | start
  /-- The worker stores its result, and its error if it has one. -/
  | work (result : ρ) (error : Option ε)
  | cancel
  | finish
  | destroy

/-- A task: its phase, cancellation flag, error and slot, and what became of
its result — what was produced, handed to the client and released. -/
structure State (ρ ι ε : Type*) where
  phase : Phase := .scheduled
  cancelled : Bool := false
  error : Option ε := none
  slot : ρ
  produced : ρ
  handed : Option ρ := none
  released : List ι := []

section

variable (kind : TaskKind ρ ι ε)

/-- A task as it is scheduled. -/
def scheduled : State ρ ι ε := { slot := kind.empty, produced := kind.empty }

/-- The error that finishing the task would report. -/
def finishError (task : State ρ ι ε) : Option ε :=
  if task.cancelled then some kind.cancelled else task.error

/-- One event.  An event that is not due leaves the task alone. -/
def step (task : State ρ ι ε) : Event ρ ε → State ρ ι ε × Option (Except ε ρ)
  | .start =>
      if task.phase = .scheduled then
        if task.cancelled then
          ({ task with phase := .completed, error := some kind.cancelled }, none)
        else ({ task with phase := .running }, none)
      else (task, none)
  | .work result error =>
      if task.phase = .running then
        ({ task with phase := .completed, error, slot := result, produced := result }, none)
      else (task, none)
  | .cancel => ({ task with cancelled := true }, none)
  | .finish =>
      if task.phase = .completed then
        match finishError kind task with
        | some e => ({ task with phase := .finished }, some (.error e))
        | none =>
            let (result, slot) := kind.finish task.slot
            ({ task with phase := .finished, slot, handed := some result }, some (.ok result))
      else (task, none)
  | .destroy =>
      if task.phase = .completed ∨ task.phase = .finished then
        ({ task with phase := .destroyed, released := kind.destroy task.slot }, none)
      else (task, none)

/-- Tasks of one kind as a machine. -/
def machine : Machine (State ρ ι ε) (Event ρ ε) (Option (Except ε ρ)) := ⟨step kind⟩

/-- A run from scheduling to destruction. -/
structure CompleteRun where
  events : List (Event ρ ε)
  destroyed : ((machine kind).run (scheduled kind) events).phase = .destroyed

/-- The task at the end of a complete run. -/
def CompleteRun.task (run : CompleteRun kind) : State ρ ι ε :=
  (machine kind).run (scheduled kind) run.events

/-! ## what events say -/

/-- In these events the worker is running when it stores `result`. -/
def Produces (events : List (Event ρ ε)) (result : ρ) : Prop :=
  ∃ pre error post, events = pre ++ .work result error :: post ∧
    ((machine kind).run (scheduled kind) pre).phase = .running

/-- In these events the client finishes the task once it has completed, and
finds it neither failed nor cancelled. -/
def HandsOver (events : List (Event ρ ε)) : Prop :=
  ∃ pre post, events = pre ++ .finish :: post ∧
    ((machine kind).run (scheduled kind) pre).phase = .completed ∧
    finishError kind ((machine kind).run (scheduled kind) pre) = none

variable {kind}

/-! ## the transitions -/

/-- The phase an event is due in. -/
def Due (task : State ρ ι ε) : Event ρ ε → Prop
  | .start => task.phase = .scheduled
  | .work _ _ => task.phase = .running
  | .cancel => True
  | .finish => task.phase = .completed
  | .destroy => task.phase = .completed ∨ task.phase = .finished

variable (kind) in
/-- The transitions an event can cause, each with what it requires. -/
inductive Transition (task : State ρ ι ε) : Event ρ ε → State ρ ι ε → Prop
  | idle (event) : ¬ Due task event → Transition task event task
  | cancel : Transition task .cancel { task with cancelled := true }
  | refuse : task.phase = .scheduled → task.cancelled = true →
      Transition task .start { task with phase := .completed, error := some kind.cancelled }
  | start : task.phase = .scheduled → Transition task .start { task with phase := .running }
  | work (result error) : task.phase = .running →
      Transition task (.work result error)
        { task with phase := .completed, error, slot := result, produced := result }
  | fail : task.phase = .completed → finishError kind task ≠ none →
      Transition task .finish { task with phase := .finished }
  | hand : task.phase = .completed → finishError kind task = none →
      Transition task .finish
        { task with phase := .finished, slot := (kind.finish task.slot).2,
                    handed := some (kind.finish task.slot).1 }
  | destroy : task.phase = .completed ∨ task.phase = .finished →
      Transition task .destroy
        { task with phase := .destroyed, released := kind.destroy task.slot }

variable (kind) in
/-- **Step lemma**: every event causes one of the transitions. -/
theorem transition (task : State ρ ι ε) (event : Event ρ ε) :
    Transition kind task event ((machine kind).next task event) := by
  unfold Machine.next machine step
  cases event with
  | start =>
      by_cases hphase : task.phase = .scheduled
      · cases hcancelled : task.cancelled with
        | true => simpa [hphase, hcancelled] using Transition.refuse hphase hcancelled
        | false => simpa [hphase, hcancelled] using Transition.start hphase
      · simpa [hphase] using Transition.idle .start hphase
  | work result error =>
      by_cases hphase : task.phase = .running
      · simpa [hphase] using Transition.work result error hphase
      · simpa [hphase] using Transition.idle (.work result error) hphase
  | cancel => exact .cancel
  | finish =>
      by_cases hphase : task.phase = .completed
      · cases herror : finishError kind task with
        | some e =>
            have hne : finishError kind task ≠ none := by simp [herror]
            simpa [hphase, herror] using Transition.fail hphase hne
        | none => simpa [hphase, herror] using Transition.hand hphase herror
      · simpa [hphase] using Transition.idle .finish hphase
  | destroy =>
      by_cases hphase : task.phase = .completed ∨ task.phase = .finished
      · simpa [hphase] using Transition.destroy hphase
      · simpa [hphase] using Transition.idle .destroy hphase

variable (kind) in
/-- Phases only advance. -/
theorem rank_le_next (task : State ρ ι ε) (event : Event ρ ε) :
    task.phase.rank ≤ ((machine kind).next task event).phase.rank := by
  have htransition := transition kind task event
  generalize (machine kind).next task event = task' at htransition ⊢
  cases htransition with
  | idle | cancel => exact Nat.le_refl _
  | refuse hphase | start hphase | work _ _ hphase | fail hphase | hand hphase => simp [hphase]
  | destroy hphase => cases hphase with | _ hphase => simp [hphase]

variable (kind) in
theorem rank_le_run (task : State ρ ι ε) (events : List (Event ρ ε)) :
    task.phase.rank ≤ ((machine kind).run task events).phase.rank := by
  induction events generalizing task with
  | nil => exact Nat.le_refl _
  | cons event events ih => exact Nat.le_trans (rank_le_next kind task event) (ih _)

/-! ## accounting -/

variable (kind) in
/-- Where the result of a task is: nothing is handed over before it finished;
the slot holds the result until then, and afterwards what finishing left; and
what was released is what destroying that releases. -/
structure Accounted (task : State ρ ι ε) : Prop where
  handed_of_rank : task.phase.rank < 3 → task.handed = none
  slot_of_none : task.handed = none → task.slot = task.produced
  slot_of_some : task.handed ≠ none → task.slot = (kind.finish task.produced).2
  handed_of_some : task.handed ≠ none → task.handed = some (kind.finish task.produced).1
  released_of_destroyed : task.phase = .destroyed → task.released = kind.destroy task.slot

theorem accounted_scheduled : Accounted kind (scheduled kind) where
  handed_of_rank _ := rfl
  slot_of_none _ := rfl
  slot_of_some h := absurd rfl h
  handed_of_some h := absurd rfl h
  released_of_destroyed h := nomatch h

/-- **Step lemma**: every transition keeps the accounts. -/
theorem accounted_next (task : State ρ ι ε) (event : Event ρ ε) (h : Accounted kind task) :
    Accounted kind ((machine kind).next task event) := by
  have htransition := transition kind task event
  generalize (machine kind).next task event = task' at htransition ⊢
  cases htransition with
  | idle => exact h
  | cancel => exact ⟨h.1, h.2, h.3, h.4, h.5⟩
  | refuse hphase | start hphase =>
      have hnone : task.handed = none := h.handed_of_rank (by simp [hphase])
      exact ⟨fun _ => hnone, h.slot_of_none, h.slot_of_some, h.handed_of_some, fun hd => nomatch hd⟩
  | work result error hphase =>
      have hnone : task.handed = none := h.handed_of_rank (by simp [hphase])
      exact ⟨fun _ => hnone, fun _ => rfl, fun hne => absurd hnone hne,
        fun hne => absurd hnone hne, fun hd => nomatch hd⟩
  | fail hphase =>
      have hnone : task.handed = none := h.handed_of_rank (by simp [hphase])
      exact ⟨fun _ => hnone, h.slot_of_none, h.slot_of_some, h.handed_of_some, fun hd => nomatch hd⟩
  | hand hphase =>
      have hnone : task.handed = none := h.handed_of_rank (by simp [hphase])
      have hslot := h.slot_of_none hnone
      refine ⟨fun hrank => absurd hrank (by simp), fun hne => (nomatch hne), fun _ => ?_,
        fun _ => ?_, fun hd => (nomatch hd)⟩
      · exact congrArg (fun r => (kind.finish r).2) hslot
      · exact congrArg (fun r => some (kind.finish r).1) hslot
  | destroy hphase =>
      exact ⟨fun hrank => absurd hrank (by simp), h.slot_of_none, h.slot_of_some,
        h.handed_of_some, fun _ => rfl⟩

variable (kind) in
theorem accounted_run (events : List (Event ρ ε)) :
    Accounted kind ((machine kind).run (scheduled kind) events) :=
  (machine kind).run_of_step accounted_next accounted_scheduled events

variable (kind) in
/-- What a task has not come to: nothing is produced before the worker stored,
and nothing released before the slot is destroyed. -/
structure Unspent (task : State ρ ι ε) : Prop where
  produced_of_rank : task.phase.rank < 2 → task.produced = kind.empty
  released_of_rank : task.phase.rank < 4 → task.released = []

theorem unspent_scheduled : Unspent kind (scheduled kind) := ⟨fun _ => rfl, fun _ => rfl⟩

/-- **Step lemma**: every transition keeps that. -/
theorem unspent_next (task : State ρ ι ε) (event : Event ρ ε) (h : Unspent kind task) :
    Unspent kind ((machine kind).next task event) := by
  have htransition := transition kind task event
  generalize (machine kind).next task event = task' at htransition ⊢
  cases htransition with
  | idle => exact h
  | cancel => exact ⟨h.1, h.2⟩
  | start hphase =>
      exact ⟨fun _ => h.produced_of_rank (by simp [hphase]),
        fun _ => h.released_of_rank (by simp [hphase])⟩
  | refuse hphase | work _ _ hphase | fail hphase | hand hphase =>
      exact ⟨fun hrank => absurd hrank (by simp), fun _ => h.released_of_rank (by simp [hphase])⟩
  | destroy hphase =>
      exact ⟨fun hrank => absurd hrank (by simp), fun hrank => absurd hrank (by simp)⟩

variable (kind) in
theorem unspent_run (events : List (Event ρ ε)) :
    Unspent kind ((machine kind).run (scheduled kind) events) :=
  (machine kind).run_of_step unspent_next unspent_scheduled events

/-! ## what a run produces and hands over -/

/-- The result that an event makes the task produce. -/
def producedBy (task : State ρ ι ε) : Event ρ ε → Option ρ
  | .work result _ => if task.phase = .running then some result else none
  | _ => none

variable (kind) in
/-- What finishing hands to the client, when this event does. -/
def handedBy (task : State ρ ι ε) : Event ρ ε → Option (Option ρ)
  | .finish =>
      if task.phase = .completed ∧ finishError kind task = none then
        some (some (kind.finish task.slot).1)
      else none
  | _ => none

variable (kind) in
/-- The result produced is a register, written by a running worker. -/
def producedRegister : (machine kind).Register ρ where
  get := State.produced
  write := producedBy
  get_next task event := by
    have htransition := transition kind task event
    generalize (machine kind).next task event = task' at htransition ⊢
    cases htransition with
    | idle event hdue => cases event <;> simp_all [producedBy, Due]
    | work result error hphase => simp [producedBy, hphase]
    | _ => rfl

variable (kind) in
/-- What the client was handed is a register, written by finishing. -/
def handedRegister : (machine kind).Register (Option ρ) where
  get := State.handed
  write := handedBy kind
  get_next task event := by
    have htransition := transition kind task event
    generalize (machine kind).next task event = task' at htransition ⊢
    cases htransition with
    | idle event hdue => cases event <;> simp_all [handedBy, Due]
    | hand hphase herror => simp [handedBy, hphase, herror]
    | fail hphase herror => simp [handedBy, herror]
    | _ => rfl

/-- Past the worker nothing more is produced. -/
theorem producedRegister_quiet {task : State ρ ι ε} (h : 2 ≤ task.phase.rank)
    (events : List (Event ρ ε)) : (producedRegister kind).Quiet task events := by
  rw [Machine.Register.Quiet, Machine.always_iff]
  intro pre event post _
  have hrank := rank_le_run kind task pre
  have hphase : ((machine kind).run task pre).phase ≠ .running := by
    intro hrunning
    rw [hrunning, Phase.rank] at hrank
    omega
  cases event with
  | work result error => simp [producedRegister, producedBy, hphase]
  | _ => rfl

theorem phase_next_work {task : State ρ ι ε} (h : task.phase = .running) (result : ρ)
    (error : Option ε) :
    ((machine kind).next task (.work result error)).phase = .completed := by
  simp [Machine.next, machine, step, h]

/-- The worker produces at most one result. -/
theorem produced_run_of_produces {events : List (Event ρ ε)} {result : ρ}
    (h : Produces kind events result) :
    ((machine kind).run (scheduled kind) events).produced = result := by
  obtain ⟨pre, error, post, hsplit, hphase⟩ := h
  have hwrite : (producedRegister kind).write ((machine kind).run (scheduled kind) pre)
      (.work result error) = some result := by
    simp [producedRegister, producedBy, hphase]
  have hnext : 2 ≤ ((machine kind).next ((machine kind).run (scheduled kind) pre)
      (.work result error)).phase.rank := by
    simp [phase_next_work hphase]
  have hlast : (producedRegister kind).LastWrite (scheduled kind) events result :=
    ⟨pre, .work result error, post, hsplit, hwrite, producedRegister_quiet hnext post⟩
  exact Machine.Register.get_run_of_lastWrite hlast

/-- A worker that produces no result leaves the empty one. -/
theorem produced_run_of_not_produces {events : List (Event ρ ε)}
    (h : ∀ result, ¬ Produces kind events result) :
    ((machine kind).run (scheduled kind) events).produced = kind.empty := by
  cases (producedRegister kind).quiet_or_lastWrite (scheduled kind) events with
  | inl hquiet => exact Machine.Register.get_run_of_quiet hquiet
  | inr hlast =>
      obtain ⟨result, pre, event, post, hsplit, hwrite, -⟩ := hlast
      cases event with
      | work result' error =>
          by_cases hphase : ((machine kind).run (scheduled kind) pre).phase = .running
          · exact absurd ⟨pre, error, post, hsplit, hphase⟩ (h result')
          · simp [producedRegister, producedBy, hphase] at hwrite
      | _ => contradiction

variable (kind) in
/-- The client holds something at the end exactly when it was handed over. -/
theorem handed_run_ne_none_iff (events : List (Event ρ ε)) :
    ((machine kind).run (scheduled kind) events).handed ≠ none ↔ HandsOver kind events := by
  constructor
  · intro h
    cases (handedRegister kind).quiet_or_lastWrite (scheduled kind) events with
    | inl hquiet => exact absurd (Machine.Register.get_run_of_quiet hquiet) h
    | inr hlast =>
        obtain ⟨handed, pre, event, post, hsplit, hwrite, -⟩ := hlast
        cases event with
        | finish =>
            by_cases hdue : ((machine kind).run (scheduled kind) pre).phase = .completed ∧
                finishError kind ((machine kind).run (scheduled kind) pre) = none
            · exact ⟨pre, post, hsplit, hdue⟩
            · simp [handedRegister, handedBy, hdue] at hwrite
        | _ => contradiction
  · intro h hnone
    obtain ⟨pre, post, hsplit, hdue⟩ := h
    -- whichever finish is the last to hand over, something is handed
    cases ((handedRegister kind).get_run_iff _ _ _).1 hnone with
    | inl hlast =>
        obtain ⟨pre', event, post', -, hwrite, -⟩ := hlast
        cases event with
        | finish =>
            have hsome := hwrite
            simp only [handedRegister, handedBy] at hsome
            split at hsome <;> simp at hsome
        | _ => contradiction
    | inr hquiet =>
        have hwrite := ((machine kind).always_iff _ _).1 hquiet.1 pre .finish post hsplit
        simp [handedRegister, handedBy, hdue] at hwrite

variable (kind) in
/-- What destroying the slot releases, when this event does. -/
def releasedBy (task : State ρ ι ε) : Event ρ ε → Option (List ι)
  | .destroy =>
      if task.phase = .completed ∨ task.phase = .finished then some (kind.destroy task.slot)
      else none
  | _ => none

variable (kind) in
/-- What was released is a register, written by destroying. -/
def releasedRegister : (machine kind).Register (List ι) where
  get := State.released
  write := releasedBy kind
  get_next task event := by
    have htransition := transition kind task event
    generalize (machine kind).next task event = task' at htransition ⊢
    cases htransition with
    | idle event hdue => cases event <;> simp_all [releasedBy, Due]
    | destroy hphase => simp [releasedBy, hphase]
    | _ => rfl

/-! ## settled tasks -/

section

variable [DecidableEq ι]

variable (kind) in
/-- The items the client was handed. -/
def handedItems (task : State ρ ι ε) : List ι :=
  match task.handed with
  | none => []
  | some result => kind.items result

variable (kind) in
/-- An item of the result has one owner: the client it was handed to, and then
nothing released it, or the destruction, which released it once. -/
def Settled (task : State ρ ι ε) : Prop :=
  ∀ item ∈ kind.items task.produced,
    (item ∈ handedItems kind task ∧ task.released.count item = 0) ∨
      (item ∉ handedItems kind task ∧ task.released.count item = 1)

instance (task : State ρ ι ε) : Decidable (Settled kind task) :=
  inferInstanceAs (Decidable (∀ item ∈ kind.items task.produced, _))

variable (kind) in
/-- Destroying the slot releases each item of a result left in it once. -/
def ReleasesKept (result : ρ) : Prop :=
  ∀ item ∈ kind.items result, (kind.destroy result).count item = 1

variable (kind) in
/-- Destroying the slot after a result was finished releases each item that was
not handed over once, and no other item. -/
def ReleasesLeft (result : ρ) : Prop :=
  ∀ item ∈ kind.items result,
    (item ∈ kind.items (kind.finish result).1 ∧
        (kind.destroy (kind.finish result).2).count item = 0) ∨
      (item ∉ kind.items (kind.finish result).1 ∧
        (kind.destroy (kind.finish result).2).count item = 1)

theorem settled_iff_of_kept {task : State ρ ι ε} (h : Accounted kind task)
    (hphase : task.phase = .destroyed) (hnone : task.handed = none) :
    Settled kind task ↔ ReleasesKept kind task.produced := by
  have hslot := h.slot_of_none hnone
  rw [Settled, handedItems, hnone, h.released_of_destroyed hphase, hslot, ReleasesKept]
  simp

theorem settled_iff_of_handed {task : State ρ ι ε} (h : Accounted kind task)
    (hphase : task.phase = .destroyed) (hsome : task.handed ≠ none) :
    Settled kind task ↔ ReleasesLeft kind task.produced := by
  have hslot := h.slot_of_some hsome
  rw [Settled, handedItems, h.handed_of_some hsome, h.released_of_destroyed hphase, hslot,
    ReleasesLeft]

/-- **Law of task results**: a complete run is settled exactly when destroying
the slot fits what was handed over, for the result the worker produced. -/
theorem settled_run_iff (run : CompleteRun kind) :
    Settled kind run.task ↔ ∀ result, Produces kind run.events result →
      (HandsOver kind run.events → ReleasesLeft kind result) ∧
        (¬ HandsOver kind run.events → ReleasesKept kind result) := by
  have haccounted := accounted_run kind run.events
  have hhanded := handed_run_ne_none_iff kind run.events
  by_cases hproduces : ∃ result, Produces kind run.events result
  · obtain ⟨result, hresult⟩ := hproduces
    have hproduced := produced_run_of_produces hresult
    have hunique : ∀ result', Produces kind run.events result' → result' = result :=
      fun result' h' => (produced_run_of_produces h').symm.trans hproduced
    by_cases hhands : HandsOver kind run.events
    · have hiff := settled_iff_of_handed haccounted run.destroyed (hhanded.2 hhands)
      rw [hproduced] at hiff
      refine hiff.trans ⟨fun h result' h' => ?_, fun h => (h result hresult).1 hhands⟩
      rw [hunique result' h']
      exact ⟨fun _ => h, fun hnot => absurd hhands hnot⟩
    · have hnone : ((machine kind).run (scheduled kind) run.events).handed = none :=
        not_ne_iff.1 fun hne => hhands (hhanded.1 hne)
      have hiff := settled_iff_of_kept haccounted run.destroyed hnone
      rw [hproduced] at hiff
      refine hiff.trans ⟨fun h result' h' => ?_, fun h => (h result hresult).2 hhands⟩
      rw [hunique result' h']
      exact ⟨fun hyes => absurd hyes hhands, fun _ => h⟩
  · have hempty := produced_run_of_not_produces (not_exists.1 hproduces)
    constructor
    · exact fun _ result hresult => absurd ⟨result, hresult⟩ hproduces
    · intro _ item hitem
      rw [CompleteRun.task, hempty, kind.items_empty] at hitem
      contradiction

end

end

end Task

end Lib
