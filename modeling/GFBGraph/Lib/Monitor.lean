import GFBGraph.Lib.Machine
import Mathlib.Logic.Function.Basic
import Mathlib.Data.Fintype.Card

/-!
# Threads around one mutex

A monitor is a shared state with operations on it.  The code of an operation is
a sequence of accesses to the shared state, each of them atomic; a *guarded*
operation takes the monitor's mutex before its first access and gives it back
after its last.  Any number of threads each issue a list of operations, and a
schedule says which thread moves next: a thread that wants the mutex while
another holds it does not move.

When every operation is guarded, every schedule is serial (`Serial`): the
answers are those of the operations run one after the other, without
interruption, in the order in which they gave the mutex back.  Unguarded
operations only keep what each single access keeps (`Respects`), but a thread
whose state no other thread changes is answered as if it were alone (`Alone`).
-/

namespace Lib

/-! ## the code of an operation -/

/-- Accesses to a shared state `σ`, and last the answer `α`.  What follows an
access may depend on the state the access found. -/
inductive Code (σ α : Type*) where
  | done (answer : α)
  | access (update : σ → σ) (next : σ → Code σ α)

namespace Code

variable {σ α : Type*}

/-- The code run without interruption. -/
def exec : Code σ α → σ → σ × α
  | .done answer, s => (s, answer)
  | .access update next, s => (next s).exec (update s)

@[simp] theorem exec_done (answer : α) (s : σ) : (done answer : Code σ α).exec s = (s, answer) :=
  rfl

@[simp] theorem exec_access (update : σ → σ) (next : σ → Code σ α) (s : σ) :
    (access update next).exec s = (next s).exec (update s) := rfl

/-- Every access of the code keeps `Q`. -/
def Keeps (Q : σ → Prop) : Code σ α → Prop
  | .done _ => True
  | .access update next => (∀ s, Q s → Q (update s)) ∧ ∀ s, (next s).Keeps Q

theorem keeps_true (code : Code σ α) : code.Keeps fun _ => True := by
  induction code with
  | done answer => trivial
  | access update next ih => exact ⟨fun _ _ => trivial, ih⟩

theorem Keeps.exec {Q : σ → Prop} {code : Code σ α} (hcode : code.Keeps Q) {s : σ} (hs : Q s) :
    Q (code.exec s).1 := by
  induction code generalizing s with
  | done answer => exact hs
  | access update next ih => exact ih s (hcode.2 s) (hcode.1 s hs)

end Code

/-! ## monitors -/

/-- Operations `ι` on a shared state `σ`, with answers `α`. -/
structure Monitor (ι σ α : Type*) where
  guarded : ι → Bool
  code : ι → Code σ α

namespace Monitor

variable {τ ι σ α : Type*} [DecidableEq τ] (M : Monitor ι σ α)

/-- The operations run one after the other. -/
def atomic : Machine σ ι α := ⟨fun s op => (M.code op).exec s⟩

/-- A thread: the operation it is in the middle of, with the code left of it,
and the operations it has not begun. -/
structure Thread (ι σ α : Type*) where
  active : Option (ι × Code σ α)
  rest : List ι

/-- The shared state, the thread that holds the mutex, the threads, and the
answers given so far. -/
structure State (τ ι σ α : Type*) where
  shared : σ
  holder : Option τ
  threads : τ → Thread ι σ α
  answered : List (τ × ι × α)

/-- No thread has begun. -/
def start (shared : σ) (programs : τ → List ι) : State τ ι σ α :=
  ⟨shared, none, fun t => ⟨none, programs t⟩, []⟩

/-- Thread `t` begins an operation, with the mutex if it is a guarded one. -/
def enter (s : State τ ι σ α) (t : τ) (op : ι) (rest : List ι) : State τ ι σ α :=
  { s with
    holder := if M.guarded op then some t else s.holder
    threads := Function.update s.threads t ⟨some (op, M.code op), rest⟩ }

/-- Thread `t` makes one access. -/
def perform (s : State τ ι σ α) (t : τ) (op : ι) (update : σ → σ) (next : σ → Code σ α)
    (rest : List ι) : State τ ι σ α :=
  { s with
    shared := update s.shared
    threads := Function.update s.threads t ⟨some (op, next s.shared), rest⟩ }

/-- Thread `t` ends an operation. -/
def leave (s : State τ ι σ α) (t : τ) (op : ι) (answer : α) (rest : List ι) : State τ ι σ α :=
  { s with
    holder := if M.guarded op then none else s.holder
    threads := Function.update s.threads t ⟨none, rest⟩
    answered := s.answered ++ [(t, op, answer)] }

@[simp] theorem threads_enter_self (s : State τ ι σ α) (t : τ) (op : ι) (rest : List ι) :
    (M.enter s t op rest).threads t = ⟨some (op, M.code op), rest⟩ := Function.update_self _ _ _

@[simp] theorem threads_perform_self (s : State τ ι σ α) (t : τ) (op : ι) (update : σ → σ)
    (next : σ → Code σ α) (rest : List ι) :
    (perform s t op update next rest).threads t = ⟨some (op, next s.shared), rest⟩ :=
  Function.update_self _ _ _

@[simp] theorem threads_leave_self (s : State τ ι σ α) (t : τ) (op : ι) (answer : α)
    (rest : List ι) : (M.leave s t op answer rest).threads t = ⟨none, rest⟩ :=
  Function.update_self _ _ _

/-- One move of thread `t`. -/
def move (s : State τ ι σ α) (t : τ) : State τ ι σ α :=
  match s.threads t with
  | ⟨none, []⟩ => s
  | ⟨none, op :: rest⟩ =>
      -- a thread waits for the mutex by not moving
      if M.guarded op && s.holder.isSome then s else M.enter s t op rest
  | ⟨some (op, .access update next), rest⟩ => perform s t op update next rest
  | ⟨some (op, .done answer), rest⟩ => M.leave s t op answer rest

/-- The threads as a machine whose inputs are the choices of the scheduler. -/
def machine : Machine (State τ ι σ α) τ Unit := ⟨fun s t => (M.move s t, ())⟩

@[simp] theorem next_machine (s : State τ ι σ α) (t : τ) : M.machine.next s t = M.move s t := rfl

/-- What a move of `t` can lead to. -/
inductive Move (s : State τ ι σ α) (t : τ) : State τ ι σ α → Prop
  | stay : Move s t s
  | enter (op : ι) (rest : List ι) (hthread : s.threads t = ⟨none, op :: rest⟩)
      (hfree : M.guarded op = true → s.holder = none) : Move s t (M.enter s t op rest)
  | perform (op : ι) (update : σ → σ) (next : σ → Code σ α) (rest : List ι)
      (hthread : s.threads t = ⟨some (op, .access update next), rest⟩) :
      Move s t (perform s t op update next rest)
  | leave (op : ι) (answer : α) (rest : List ι)
      (hthread : s.threads t = ⟨some (op, .done answer), rest⟩) :
      Move s t (M.leave s t op answer rest)

/-- **Spec lemma** of a move. -/
theorem move_cases (s : State τ ι σ α) (t : τ) : M.Move s t (M.move s t) := by
  unfold move
  split
  · exact .stay
  · next op rest hthread =>
    split
    · exact .stay
    · next hfree =>
      refine .enter op rest hthread fun hguarded => ?_
      simpa [hguarded] using hfree
  · next op update next rest hthread => exact .perform op update next rest hthread
  · next op answer rest hthread => exact .leave op answer rest hthread

/-! ## program order -/

/-- The operations of thread `t` among the answered ones. -/
def answeredBy (answered : List (τ × ι × α)) (t : τ) : List ι :=
  (answered.filter fun entry => entry.1 = t).map fun entry => entry.2.1

/-- All operations of a thread: those answered, the one begun, those left. -/
def issued (s : State τ ι σ α) (t : τ) : List ι :=
  answeredBy s.answered t ++ ((s.threads t).active.map Prod.fst).toList ++ (s.threads t).rest

@[simp] theorem answeredBy_append (answered : List (τ × ι × α)) (u t : τ) (op : ι)
    (answer : α) :
    answeredBy (answered ++ [(u, op, answer)]) t =
      answeredBy answered t ++ if u = t then [op] else [] := by
  by_cases h : u = t <;> simp [answeredBy, h]

/-- The answers to thread `t`. -/
def answersTo (answered : List (τ × ι × α)) (t : τ) : List α :=
  (answered.filter fun entry => entry.1 = t).map fun entry => entry.2.2

@[simp] theorem answersTo_append (answered : List (τ × ι × α)) (u t : τ) (op : ι)
    (answer : α) :
    answersTo (answered ++ [(u, op, answer)]) t =
      answersTo answered t ++ if u = t then [answer] else [] := by
  by_cases h : u = t <;> simp [answersTo, h]

/-- A move neither loses, repeats nor reorders the operations of any thread. -/
theorem issued_of_move {s s' : State τ ι σ α} {t : τ} (hmove : M.Move s t s') (u : τ) :
    issued s' u = issued s u := by
  cases hmove with
  | stay => rfl
  | enter op rest hthread hfree =>
      by_cases h : u = t
      · subst h
        simp [issued, enter, hthread]
      · simp [issued, enter, h]
  | perform op update next rest hthread =>
      by_cases h : u = t
      · subst h
        simp [issued, perform, hthread]
      · simp [issued, perform, h]
  | leave op answer rest hthread =>
      by_cases h : u = t
      · subst h
        simp [issued, leave, hthread]
      · have h' : ¬t = u := fun htu => h htu.symm
        simp [issued, leave, h, h']

theorem issued_run (shared : σ) (programs : τ → List ι) (schedule : List τ) (t : τ) :
    issued (M.machine.run (start shared programs) schedule) t = programs t := by
  have hstep : ∀ (s : State τ ι σ α) (u : τ), issued s t = programs t →
      issued (M.machine.next s u) t = programs t :=
    fun s u hs => (M.issued_of_move (M.move_cases s u) t).trans hs
  have hstart : issued (start shared programs : State τ ι σ α) t = programs t := by
    simp [issued, start, answeredBy]
  exact M.machine.run_of_step hstep hstart schedule

/-- A move is a move of one thread. -/
theorem threads_of_move {s s' : State τ ι σ α} {t : τ} (hmove : M.Move s t s') {u : τ}
    (h : u ≠ t) : s'.threads u = s.threads u := by
  cases hmove with
  | stay => rfl
  | enter op rest hthread hfree => exact Function.update_of_ne h _ _
  | perform op update next rest hthread => exact Function.update_of_ne h _ _
  | leave op answer rest hthread => exact Function.update_of_ne h _ _

/-! ## what every access keeps -/

/-- Every access that the thread is still to make keeps `Q`. -/
structure Thread.Keeps (M : Monitor ι σ α) (Q : σ → Prop) (thread : Thread ι σ α) : Prop where
  active : ∀ op code, thread.active = some (op, code) → code.Keeps Q
  rest : ∀ op ∈ thread.rest, (M.code op).Keeps Q

/-- Every access that is still to be made keeps `Q`. -/
def Respects (Q : σ → Prop) (s : State τ ι σ α) : Prop := ∀ t, (s.threads t).Keeps M Q

variable {M} {Q : σ → Prop}

theorem Thread.keeps_of_rest {ops : List ι} (h : ∀ op ∈ ops, (M.code op).Keeps Q) :
    Thread.Keeps M Q ⟨none, ops⟩ :=
  ⟨fun _ _ hactive => (Option.some_ne_none _ hactive.symm).elim, h⟩

omit [DecidableEq τ] in
theorem respects_start {shared : σ} {programs : τ → List ι}
    (h : ∀ t, ∀ op ∈ programs t, (M.code op).Keeps Q) : M.Respects Q (start shared programs) :=
  fun t => Thread.keeps_of_rest (h t)

/-- **Step lemma**: the thread that moves keeps `Q`. -/
theorem Thread.Keeps.of_move {s s' : State τ ι σ α} {t : τ} (ht : (s.threads t).Keeps M Q)
    (hmove : M.Move s t s') : (s'.threads t).Keeps M Q ∧ (Q s.shared → Q s'.shared) := by
  have hactive := ht.active
  have hrest := ht.rest
  cases hmove with
  | stay => exact ⟨ht, id⟩
  | enter op rest hthread hfree =>
      simp only [hthread, List.forall_mem_cons] at hrest
      refine ⟨?_, id⟩
      rw [threads_enter_self]
      refine ⟨fun op' code hcode => ?_, hrest.2⟩
      simp only [Option.some.injEq, Prod.mk.injEq] at hcode
      rw [← hcode.2]
      exact hrest.1
  | perform op update next rest hthread =>
      simp only [hthread] at hactive hrest
      have hkeeps := hactive op _ rfl
      refine ⟨?_, hkeeps.1 s.shared⟩
      rw [threads_perform_self]
      refine ⟨fun op' code hcode => ?_, hrest⟩
      simp only [Option.some.injEq, Prod.mk.injEq] at hcode
      rw [← hcode.2]
      exact hkeeps.2 s.shared
  | leave op answer rest hthread =>
      simp only [hthread] at hrest
      refine ⟨?_, id⟩
      rw [threads_leave_self]
      exact Thread.keeps_of_rest hrest

/-- **Step lemma**: a move keeps `Respects Q`, and `Q` with it. -/
theorem Respects.of_move {s s' : State τ ι σ α} (hs : M.Respects Q s) {t : τ}
    (hmove : M.Move s t s') : M.Respects Q s' ∧ (Q s.shared → Q s'.shared) := by
  have ht := (hs t).of_move hmove
  refine ⟨fun u => ?_, ht.2⟩
  by_cases h : u = t
  · rw [h]
    exact ht.1
  · rw [M.threads_of_move hmove h]
    exact hs u

theorem Respects.run {s : State τ ι σ α} (hs : M.Respects Q s) (schedule : List τ) :
    M.Respects Q (M.machine.run s schedule) :=
  M.machine.run_of_step (fun s t hs => (hs.of_move (M.move_cases s t)).1) hs schedule

/-- What every access keeps holds after every schedule. -/
theorem Respects.shared_run {s : State τ ι σ α} (hs : M.Respects Q s) (hQ : Q s.shared)
    (schedule : List τ) : Q (M.machine.run s schedule).shared := by
  induction schedule generalizing s with
  | nil => exact hQ
  | cons t schedule ih =>
      have hnext := hs.of_move (M.move_cases s t)
      exact ih hnext.1 (hnext.2 hQ)

/-! ## a thread alone -/

/-- Thread `t` is served as if there were no other: its accesses stay within
`Q`, and on the states in `Q` no other thread has an access left that changes
the state. -/
structure Alone (M : Monitor ι σ α) (Q : σ → Prop) (init : σ) (t : τ) (s : State τ ι σ α) :
    Prop where
  shared : Q s.shared
  own : (s.threads t).Keeps M Q
  others : ∀ u, u ≠ t → ∀ v, Q v → (s.threads u).Keeps M fun v' => v' = v
  answers_eq : answersTo s.answered t = M.atomic.outs init (answeredBy s.answered t)
  idle : (s.threads t).active = none → s.shared = M.atomic.run init (answeredBy s.answered t)
  busy : ∀ op code, (s.threads t).active = some (op, code) →
    code.exec s.shared = (M.code op).exec (M.atomic.run init (answeredBy s.answered t))

theorem alone_start {init : σ} {programs : τ → List ι} {t : τ} (hinit : Q init)
    (hown : ∀ op ∈ programs t, (M.code op).Keeps Q)
    (hothers : ∀ u, u ≠ t → ∀ op ∈ programs u, ∀ v, Q v → (M.code op).Keeps fun v' => v' = v) :
    M.Alone Q init t (start init programs) where
  shared := hinit
  own := Thread.keeps_of_rest hown
  others u hu v hv := Thread.keeps_of_rest fun op hop => hothers u hu op hop v hv
  answers_eq := rfl
  idle _ := rfl
  busy _ _ hactive := (Option.some_ne_none _ hactive.symm).elim

/-- The move of another thread is not noticed. -/
theorem Alone.of_other {init : σ} {t u : τ} {s s' : State τ ι σ α} (hs : M.Alone Q init t s)
    (hu : u ≠ t) (hmove : M.Move s u s') : M.Alone Q init t s' := by
  have hshared : s'.shared = s.shared :=
    ((hs.others u hu s.shared hs.shared).of_move hmove).2 rfl
  have hthread : s'.threads t = s.threads t := M.threads_of_move hmove hu.symm
  have hanswered : answersTo s'.answered t = answersTo s.answered t ∧
      answeredBy s'.answered t = answeredBy s.answered t := by
    cases hmove with
    | stay => exact ⟨rfl, rfl⟩
    | enter op rest _ _ => exact ⟨rfl, rfl⟩
    | perform op update next rest _ => exact ⟨rfl, rfl⟩
    | leave op answer rest _ => simp [leave, hu]
  refine ⟨hshared ▸ hs.shared, hthread ▸ hs.own, fun v hv w hw => ?_, ?_, ?_, ?_⟩
  · by_cases h : v = u
    · rw [h]
      exact ((hs.others u hu w hw).of_move hmove).1
    · rw [M.threads_of_move hmove h]
      exact hs.others v hv w hw
  · rw [hanswered.1, hanswered.2, hs.answers_eq]
  · rw [hthread, hshared, hanswered.2]
    exact hs.idle
  · rw [hthread, hshared, hanswered.2]
    exact hs.busy

/-- The move of the thread itself. -/
theorem Alone.of_own {init : σ} {t : τ} {s s' : State τ ι σ α} (hs : M.Alone Q init t s)
    (hmove : M.Move s t s') : M.Alone Q init t s' := by
  have hown := hs.own.of_move hmove
  have hothers : ∀ u, u ≠ t → ∀ v, Q v → (s'.threads u).Keeps M fun v' => v' = v := by
    intro u hu v hv
    rw [M.threads_of_move hmove hu]
    exact hs.others u hu v hv
  cases hmove with
  | stay => exact hs
  | enter op rest hthread hfree =>
      refine ⟨hown.2 hs.shared, hown.1, hothers, hs.answers_eq, by simp, ?_⟩
      intro op' code hactive
      obtain ⟨rfl, rfl⟩ : op = op' ∧ M.code op = code := by simpa using hactive
      exact congrArg _ (hs.idle (by rw [hthread]))
  | perform op update next rest hthread =>
      refine ⟨hown.2 hs.shared, hown.1, hothers, hs.answers_eq, by simp, ?_⟩
      intro op' code hactive
      obtain ⟨rfl, rfl⟩ : op = op' ∧ next s.shared = code := by simpa using hactive
      exact hs.busy op (.access update next) (by rw [hthread])
  | leave op answer rest hthread =>
      have hexec : M.atomic.step (M.atomic.run init (answeredBy s.answered t)) op =
          (s.shared, answer) := (hs.busy op (.done answer) (by rw [hthread])).symm
      refine ⟨hown.2 hs.shared, hown.1, hothers, ?_, fun _ => ?_, by simp⟩
      · simp [leave, hs.answers_eq, Machine.out, hexec]
      · simp [leave, Machine.next, hexec]

/-- **Law of the undisturbed thread**: where the other threads' accesses change
nothing, a thread is answered as if it ran alone. -/
theorem alone_run {init : σ} {programs : τ → List ι} {t : τ} (hinit : Q init)
    (hown : ∀ op ∈ programs t, (M.code op).Keeps Q)
    (hothers : ∀ u, u ≠ t → ∀ op ∈ programs u, ∀ v, Q v → (M.code op).Keeps fun v' => v' = v)
    (schedule : List τ) : M.Alone Q init t (M.machine.run (start init programs) schedule) := by
  refine M.machine.run_of_step (fun s u hs => ?_) (alone_start hinit hown hothers) schedule
  by_cases h : u = t
  · subst h
    exact hs.of_own (M.move_cases s u)
  · exact hs.of_other h (M.move_cases s u)

/-! ## operations without an access -/

/-- Operations that make no access answer what they always do. -/
structure Prompt (M : Monitor ι σ α) (s : State τ ι σ α) : Prop where
  active : ∀ t op code answer, (s.threads t).active = some (op, code) →
    M.code op = .done answer → code = .done answer
  answered : ∀ entry ∈ s.answered, ∀ answer, M.code entry.2.1 = .done answer →
    entry.2.2 = answer

/-- **Step lemma**. -/
theorem Prompt.of_move {s s' : State τ ι σ α} (hs : M.Prompt s) {t : τ} (hmove : M.Move s t s') :
    M.Prompt s' := by
  have hothers : ∀ u, u ≠ t → ∀ op code answer, (s'.threads u).active = some (op, code) →
      M.code op = .done answer → code = .done answer := by
    intro u hu op code answer hactive
    rw [M.threads_of_move hmove hu] at hactive
    exact hs.active u op code answer hactive
  have hactive := hs.active t
  cases hmove with
  | stay => exact hs
  | enter op rest hthread hfree =>
      refine ⟨fun u op' code answer hu hcode => ?_, hs.answered⟩
      by_cases h : u = t
      · subst h
        obtain ⟨rfl, rfl⟩ : op = op' ∧ M.code op = code := by simpa using hu
        exact hcode
      · exact hothers u h op' code answer hu hcode
  | perform op update next rest hthread =>
      simp only [hthread] at hactive
      refine ⟨fun u op' code answer hu hcode => ?_, hs.answered⟩
      by_cases h : u = t
      · subst h
        obtain ⟨rfl, rfl⟩ : op = op' ∧ next s.shared = code := by simpa using hu
        exact nomatch hactive op _ answer rfl hcode
      · exact hothers u h op' code answer hu hcode
  | leave op answer rest hthread =>
      simp only [hthread] at hactive
      refine ⟨fun u op' code answer' hu hcode => ?_, ?_⟩
      · by_cases h : u = t
        · subst h
          simp at hu
        · exact hothers u h op' code answer' hu hcode
      · simp only [leave, List.forall_mem_append, List.forall_mem_singleton]
        refine ⟨hs.answered, fun answer' hcode => ?_⟩
        exact Code.done.inj (hactive op _ answer' rfl hcode)

omit [DecidableEq τ] in
/-- Answers of steps that stay in a state are those of the run of these steps. -/
theorem answers_eq_outs {init : σ} {answered : List (τ × ι × α)}
    (h : ∀ entry ∈ answered, M.code entry.2.1 = .done entry.2.2) :
    (answered.map fun entry => entry.2.2) =
      M.atomic.outs init (answered.map fun entry => entry.2.1) := by
  induction answered with
  | nil => rfl
  | cons entry answered ih =>
      rw [List.forall_mem_cons] at h
      have hstep : M.atomic.step init entry.2.1 = (init, entry.2.2) := by simp [atomic, h.1]
      rw [List.map_cons, List.map_cons, Machine.outs_cons, Machine.out, Machine.next, hstep, ih h.2]

/-- A thread whose operations make no access is answered as if it ran alone,
whatever the other threads do. -/
theorem answersTo_of_done {init : σ} {programs : τ → List ι} {t : τ}
    (h : ∀ op ∈ programs t, ∃ answer, M.code op = .done answer) (schedule : List τ) :
    answersTo (M.machine.run (start init programs) schedule).answered t =
      M.atomic.outs init
        (answeredBy (M.machine.run (start init programs) schedule).answered t) := by
  have hprompt : M.Prompt (M.machine.run (start init programs) schedule) :=
    M.machine.run_of_step (fun s u hs => hs.of_move (M.move_cases s u))
      ⟨fun _ _ _ _ hactive => (Option.some_ne_none _ hactive.symm).elim, by simp [start]⟩ schedule
  have hissued := M.issued_run init programs schedule t
  refine answers_eq_outs fun entry hentry => ?_
  have hop : entry.2.1 ∈ programs t := by
    rw [← hissued, issued]
    exact List.mem_append_left _ (List.mem_append_left _ (List.mem_map_of_mem hentry))
  obtain ⟨answer, hcode⟩ := h entry.2.1 hop
  rw [hcode, hprompt.answered entry (List.mem_of_mem_filter hentry) answer hcode]

/-! ## serial schedules -/

/-- The operations answered, in the order of their answers. -/
def history (s : State τ ι σ α) : List ι := s.answered.map fun entry => entry.2.1

/-- The answers given, in that order. -/
def answers (s : State τ ι σ α) : List α := s.answered.map fun entry => entry.2.2

/-- The state is one that the answered operations, run one after the other,
lead to, except for the operation of the thread that holds the mutex; that one
will end as if it had not been interrupted. -/
structure Serial (M : Monitor ι σ α) (init : σ) (s : State τ ι σ α) : Prop where
  answers_eq : answers s = M.atomic.outs init (history s)
  free : s.holder = none → s.shared = M.atomic.run init (history s)
  held : ∀ t, s.holder = some t → ∃ op code, (s.threads t).active = some (op, code)
  active : ∀ t op code, (s.threads t).active = some (op, code) →
    s.holder = some t ∧ code.exec s.shared = (M.code op).exec (M.atomic.run init (history s))

omit [DecidableEq τ] in
theorem serial_start (init : σ) (programs : τ → List ι) :
    M.Serial init (start init programs) where
  answers_eq := rfl
  free _ := rfl
  held _ h := by simp [start] at h
  active _ _ _ h := by simp [start] at h

/-- **Step lemma**: with every operation guarded, a move keeps the run serial. -/
theorem Serial.of_move (hguarded : ∀ op, M.guarded op = true) {init : σ} {s s' : State τ ι σ α}
    (hs : M.Serial init s) {t : τ} (hmove : M.Move s t s') : M.Serial init s' := by
  cases hmove with
  | stay => exact hs
  | enter op rest hthread hfree =>
      have hnone := hfree (hguarded op)
      have hshared := hs.free hnone
      have hholder : (M.enter s t op rest).holder = some t := by simp [enter, hguarded]
      refine ⟨hs.answers_eq, by simp [hholder], ?_, ?_⟩
      · intro u hu
        obtain rfl : t = u := by simpa [hholder] using hu
        exact ⟨op, M.code op, by simp [enter]⟩
      · intro u op' code hactive
        by_cases h : u = t
        · subst h
          obtain ⟨rfl, rfl⟩ : op = op' ∧ M.code op = code := by simpa [enter] using hactive
          exact ⟨hholder, congrArg _ hshared⟩
        · have hu : (s.threads u).active = some (op', code) := by simpa [enter, h] using hactive
          have := (hs.active u op' code hu).1
          simp [hnone] at this
  | perform op update next rest hthread =>
      have hactive := hs.active t op (.access update next) (by rw [hthread])
      refine ⟨hs.answers_eq, fun hnone => ?_, ?_, ?_⟩
      · have hsome := hactive.1
        rw [show s.holder = none from hnone] at hsome
        contradiction
      · intro u hu
        obtain rfl : t = u := Option.some.inj (hactive.1.symm.trans hu)
        exact ⟨op, next s.shared, by simp [perform]⟩
      · intro u op' code hu
        by_cases h : u = t
        · subst h
          obtain ⟨rfl, rfl⟩ : op = op' ∧ next s.shared = code := by simpa [perform] using hu
          exact hactive
        · have hu' : (s.threads u).active = some (op', code) := by simpa [perform, h] using hu
          have := hactive.1.symm.trans (hs.active u op' code hu').1
          exact absurd (Option.some.inj this).symm h
  | leave op answer rest hthread =>
      have hactive := hs.active t op (.done answer) (by rw [hthread])
      have hexec : M.atomic.step (M.atomic.run init (history s)) op = (s.shared, answer) :=
        hactive.2.symm
      have hhistory : history (M.leave s t op answer rest) = history s ++ [op] := by
        simp [history, leave]
      have hnone : (M.leave s t op answer rest).holder = none := by simp [leave, hguarded]
      refine ⟨?_, fun _ => ?_, by simp [hnone], ?_⟩
      · rw [hhistory, Machine.outs_append, ← hs.answers_eq]
        simp [answers, leave, Machine.out, hexec]
      · rw [hhistory, Machine.run_append, Machine.run_cons, Machine.run_nil]
        simp [leave, Machine.next, hexec]
      · intro u op' code hu
        by_cases h : u = t
        · subst h
          simp [leave] at hu
        · have hu' : (s.threads u).active = some (op', code) := by simpa [leave, h] using hu
          have := hactive.1.symm.trans (hs.active u op' code hu').1
          exact absurd (Option.some.inj this).symm h

/-- **Law of the mutex**: with every operation guarded, every schedule is
serial. -/
theorem serial_run (hguarded : ∀ op, M.guarded op = true) (init : σ) (programs : τ → List ι)
    (schedule : List τ) : M.Serial init (M.machine.run (start init programs) schedule) := by
  refine M.machine.run_of_step (fun s t hs => ?_) (serial_start init programs) schedule
  exact hs.of_move hguarded (M.move_cases s t)

omit [DecidableEq τ] in
/-- What every access keeps, and no serial run reaches, is not reached in the
middle of an operation either. -/
theorem Serial.not_shared {init : σ} {s : State τ ι σ α} (hs : M.Serial init s)
    (hrespects : M.Respects Q s) (hatomic : ∀ ops, ¬Q (M.atomic.run init ops)) : ¬Q s.shared := by
  intro hbad
  cases hholder : s.holder with
  | none => exact hatomic _ (hs.free hholder ▸ hbad)
  | some t =>
      obtain ⟨op, code, hactive⟩ := hs.held t hholder
      have hend := ((hrespects t).active op code hactive).exec hbad
      rw [(hs.active t op code hactive).2] at hend
      refine hatomic (history s ++ [op]) ?_
      rw [Machine.run_append]
      exact hend

/-! ## progress -/

section Progress

variable {s : State τ ι σ α} {t : τ}

/-- Left alone, a thread in the middle of an operation ends it. -/
theorem exists_run_active {op : ι} {code : Code σ α} {rest : List ι}
    (hthread : s.threads t = ⟨some (op, code), rest⟩) :
    ∃ schedule, M.machine.run s schedule =
      M.leave { s with shared := (code.exec s.shared).1 } t op (code.exec s.shared).2 rest := by
  induction code generalizing s with
  | done answer =>
      refine ⟨[t], ?_⟩
      simp [move, hthread]
  | access update next ih =>
      have hnext : M.move s t = perform s t op update next rest := by simp [move, hthread]
      obtain ⟨schedule, hrun⟩ := ih s.shared (s := perform s t op update next rest)
        (by simp [perform])
      refine ⟨t :: schedule, ?_⟩
      rw [Machine.run_cons, next_machine, hnext, hrun]
      simp [leave, perform]

/-- While the mutex is free, a thread left alone runs its next operations one
after the other. -/
theorem exists_run_ops (hfree : s.holder = none) {ops rest : List ι}
    (hthread : s.threads t = ⟨none, ops ++ rest⟩) :
    ∃ schedule answered, M.machine.run s schedule =
      ⟨M.atomic.run s.shared ops, none, Function.update s.threads t ⟨none, rest⟩, answered⟩ := by
  induction ops generalizing s with
  | nil =>
      refine ⟨[], s.answered, ?_⟩
      rw [List.nil_append] at hthread
      rw [← hthread, Function.update_eq_self, ← hfree]
      rfl
  | cons op ops ih =>
      have henter : M.move s t = M.enter s t op (ops ++ rest) := by simp [move, hthread, hfree]
      have hentered : (M.enter s t op (ops ++ rest)).threads t =
          ⟨some (op, M.code op), ops ++ rest⟩ := by simp [enter]
      obtain ⟨first, hfirst⟩ := exists_run_active (M := M) hentered
      obtain ⟨last, answered, hlast⟩ := ih (s := M.machine.run (M.move s t) first)
        (by rw [henter, hfirst]; cases h : M.guarded op <;> simp [leave, enter, h, hfree])
        (by rw [henter, hfirst]; simp [leave])
      refine ⟨t :: (first ++ last), answered, ?_⟩
      rw [Machine.run_cons, next_machine, Machine.run_append, hlast, henter, hfirst]
      simp [leave, enter, atomic, Machine.next]

/-- While the mutex is free, a thread can begin an operation and make its first
access. -/
theorem run_first_access (hfree : s.holder = none) {op : ι} {rest : List ι} {update : σ → σ}
    {next : σ → Code σ α} (hthread : s.threads t = ⟨none, op :: rest⟩)
    (hcode : M.code op = .access update next) :
    M.machine.run s [t, t] = perform (M.enter s t op rest) t op update next rest := by
  have henter : M.move s t = M.enter s t op rest := by simp [move, hthread, hfree]
  rw [Machine.run_cons, next_machine, henter, Machine.run_cons, next_machine]
  simp [move, enter, hcode]

/-- Threads that have nothing left can be added one at a time. -/
theorem exists_run_threads (ts : List τ) (hfree : s.holder = none)
    (hidle : ∀ t, (s.threads t).active = none) :
    ∃ schedule, (M.machine.run s schedule).holder = none ∧
      ∀ t, ((M.machine.run s schedule).threads t).active = none ∧
        (t ∈ ts ∨ (s.threads t).rest = [] → ((M.machine.run s schedule).threads t).rest = []) := by
  induction ts generalizing s with
  | nil => exact ⟨[], hfree, fun t => ⟨hidle t, by simp⟩⟩
  | cons t ts ih =>
      have hthread : s.threads t = ⟨none, (s.threads t).rest ++ []⟩ := by
        rw [List.append_nil, ← hidle t]
      obtain ⟨first, answered, hfirst⟩ := exists_run_ops (M := M) hfree hthread
      obtain ⟨last, hholder, hlast⟩ := ih (s := M.machine.run s first) (by rw [hfirst])
        (fun u => by rw [hfirst]; by_cases h : u = t <;> simp [h, hidle])
      refine ⟨first ++ last, by rwa [Machine.run_append], fun u => ?_⟩
      rw [Machine.run_append]
      refine ⟨(hlast u).1, fun hu => (hlast u).2 ?_⟩
      rw [hfirst]
      by_cases h : u = t
      · simp [h]
      · simpa [h] using hu

/-- **No deadlock**: with every operation guarded, every schedule can be
continued to one after which every thread has had all its operations answered. -/
theorem exists_finish [Finite τ] (hguarded : ∀ op, M.guarded op = true) (init : σ)
    (programs : τ → List ι) (schedule : List τ) :
    ∃ more, ∀ t, answeredBy
      (M.machine.run (start init programs) (schedule ++ more)).answered t = programs t := by
  have hserial := serial_run (M := M) hguarded init programs schedule
  have hidle : ∃ more, (M.machine.run (start init programs) (schedule ++ more)).holder = none := by
    cases hholder : (M.machine.run (start init programs) schedule).holder with
    | none => exact ⟨[], by rwa [List.append_nil]⟩
    | some t =>
        obtain ⟨op, code, hactive⟩ := hserial.held t hholder
        have hthread : (M.machine.run (start init programs) schedule).threads t =
            ⟨some (op, code), ((M.machine.run (start init programs) schedule).threads t).rest⟩ := by
          rw [← hactive]
        obtain ⟨more, hmore⟩ := exists_run_active (M := M) hthread
        refine ⟨more, ?_⟩
        rw [Machine.run_append, hmore]
        simp [leave, hguarded]
  obtain ⟨more, hmore⟩ := hidle
  have hserial := serial_run (M := M) hguarded init programs (schedule ++ more)
  have hactive : ∀ t,
      ((M.machine.run (start init programs) (schedule ++ more)).threads t).active = none := by
    intro t
    rw [Option.eq_none_iff_forall_ne_some]
    intro entry hentry
    have := (hserial.active t entry.1 entry.2 hentry).1
    rw [hmore] at this
    contradiction
  obtain ⟨ts, -, hts⟩ := Finite.exists_univ_list τ
  obtain ⟨last, -, hlast⟩ := exists_run_threads (M := M) ts hmore hactive
  refine ⟨more ++ last, fun t => ?_⟩
  have hissued := M.issued_run init programs (schedule ++ (more ++ last)) t
  rw [← List.append_assoc, Machine.run_append] at hissued ⊢
  rw [issued, (hlast t).1, (hlast t).2 (Or.inl (hts t))] at hissued
  simpa using hissued

end Progress

end Monitor

end Lib
