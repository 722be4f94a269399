import GFBGraph.Lib.Monitor

/-!
# Cells that are filled on the first call

A cell is empty until a call finds it so; that call fills it, by writing some
values one after the other, and answers what the cell holds in the end.  Calls
that find a value answer it at once.

Without a lock other threads may find a value that is about to be replaced.
Every answer is one of the values that are written, and once all calls are over
the cell holds the last one (`LazyInv`); but every answer is the last one
exactly when only one thread calls or no other value is ever written
(`lazy_answers_iff`).
-/

namespace Lib

open Monitor

variable {τ α : Type*} {values : List α}

/-- The values are written, and what the cell then holds is answered. -/
def fillCode : List α → Code (Option α) (Option α)
  | [] => .access id fun cell => .done cell
  | a :: as => .access (fun _ => some a) fun _ => fillCode as

/-- A call. -/
def lazyCode (values : List α) : Code (Option α) (Option α) :=
  .access id fun cell => fillCode (cell.elim values fun _ => [])

/-- Calls without a lock. -/
def lazyMonitor (values : List α) : Monitor Unit (Option α) (Option α) where
  guarded _ := false
  code _ := lazyCode values

@[simp] theorem exec_fillCode (values : List α) (cell : Option α) :
    (fillCode values).exec cell = (values.getLast?.or cell, values.getLast?.or cell) := by
  induction values generalizing cell with
  | nil => rfl
  | cons a values ih =>
      rw [fillCode, Code.exec_access, ih, List.getLast?_cons]
      cases values.getLast? <;> rfl

/-- A call that is not interrupted fills the cell with the last value, if it is
empty. -/
@[simp] theorem exec_lazyCode (values : List α) (cell : Option α) :
    (lazyCode values).exec cell = (cell.or values.getLast?, cell.or values.getLast?) := by
  rw [lazyCode, Code.exec_access, exec_fillCode]
  cases cell with
  | none => simp
  | some a => rfl

/-! ## what a call can find -/

/-- An answer that the cell has held. -/
def Held (values : List α) (answer : Option α) : Prop :=
  (∃ a ∈ values, answer = some a) ∨ answer = none ∧ values = []

/-- What can be left of a call while the cell holds `cell`. -/
inductive Filling (values : List α) (cell : Option α) : Code (Option α) (Option α) → Prop
  | call : Filling values cell (lazyCode values)
  | fill (rest : List α) (hsuffix : rest <:+ values) (hcell : rest = values ∨ cell ≠ none) :
      Filling values cell (fillCode rest)
  | done (answer : Option α) (hheld : Held values answer) (hcell : cell = none → answer = none) :
      Filling values cell (.done answer)

theorem Filling.write {cell : Option α} {code : Code (Option α) (Option α)}
    (h : Filling values cell code) (a : α) : Filling values (some a) code := by
  cases h with
  | call => exact .call
  | fill rest hsuffix _ => exact .fill rest hsuffix (Or.inr (Option.some_ne_none a))
  | done answer hheld _ =>
      exact .done answer hheld fun hnone => absurd hnone (Option.some_ne_none a)

theorem fillCode_ne_lazyCode (a : α) (rest : List α) :
    fillCode (a :: rest) ≠ lazyCode values := by
  intro h
  have hupdate := (Code.access.inj h).1
  exact nomatch congrFun hupdate none

/-- **Inversion** of an access: it reads the cell, or it writes the next value. -/
theorem Filling.access_cases {cell : Option α} {update : Option α → Option α}
    {next : Option α → Code (Option α) (Option α)} (h : Filling values cell (.access update next))
    (hmem : ∀ a, cell = some a → a ∈ values) :
    ((∀ a rest, .access update next ≠ fillCode (a :: rest)) ∧ update cell = cell ∧
        Filling values cell (next cell)) ∨
      ∃ a rest, a :: rest <:+ values ∧ update cell = some a ∧ next cell = fillCode rest := by
  generalize hcode : Code.access update next = code at h
  cases h with
  | call =>
      obtain ⟨rfl, rfl⟩ := Code.access.inj hcode
      refine Or.inl ⟨fun a rest heq => fillCode_ne_lazyCode a rest heq.symm, rfl, ?_⟩
      cases cell with
      | none => exact .fill values (List.suffix_refl values) (Or.inl rfl)
      | some a => exact .fill [] List.nil_suffix (Or.inr (Option.some_ne_none a))
  | fill rest hsuffix hcell =>
      cases rest with
      | nil =>
          obtain ⟨rfl, rfl⟩ := Code.access.inj hcode
          refine Or.inl ⟨fun a rest heq => ?_, rfl, .done cell ?_ id⟩
          · exact nomatch congrFun (Code.access.inj heq).1 none
          · cases cell with
            | some a => exact Or.inl ⟨a, hmem a rfl, rfl⟩
            | none => exact Or.inr ⟨rfl, (hcell.resolve_right fun h => h rfl).symm⟩
      | cons a rest =>
          obtain ⟨rfl, rfl⟩ := Code.access.inj hcode
          exact Or.inr ⟨a, rest, hsuffix, rfl, rfl⟩
  | done answer hheld hcell => exact nomatch hcode

theorem Filling.held {cell answer : Option α} (h : Filling values cell (.done answer)) :
    Held values answer ∧ (cell = none → answer = none) := by
  generalize hcode : Code.done answer = code at h
  cases h with
  | call => exact nomatch hcode
  | fill rest hsuffix hcell => cases rest <;> exact nomatch hcode
  | done answer' hheld hcell =>
      obtain rfl := Code.done.inj hcode
      exact ⟨hheld, hcell⟩

/-- The thread is about to write values, down to the last. -/
def Writing (values : List α) (thread : Thread Unit (Option α) (Option α)) : Prop :=
  ∃ op a rest, thread.active = some (op, fillCode (a :: rest)) ∧ a :: rest <:+ values

/-- What holds of threads that call. -/
structure LazyInv (values : List α) (s : State τ Unit (Option α) (Option α)) : Prop where
  cell : ∀ a, s.shared = some a → a ∈ values
  active : ∀ t op code, (s.threads t).active = some (op, code) → Filling values s.shared code
  answered : ∀ entry ∈ s.answered, Held values entry.2.2
  /-- A value that is not the last is going to be replaced. -/
  settled : s.shared = values.getLast? ∨ (s.shared = none ∧ s.answered = []) ∨
    ∃ t, Writing values (s.threads t)

theorem lazyInv_start (values : List α) (programs : τ → List Unit) :
    LazyInv values (start none programs) where
  cell _ h := nomatch h
  active _ _ _ h := nomatch h
  answered _ h := nomatch h
  settled := Or.inr (Or.inl ⟨rfl, rfl⟩)

variable [DecidableEq τ] {s s' : State τ Unit (Option α) (Option α)}

/-- The threads that do not move are left as they were. -/
theorem LazyInv.active_of_move (hs : LazyInv values s) {t : τ}
    (hmove : (lazyMonitor values).Move s t s') {cell : Option α}
    (hcell : ∀ code, Filling values s.shared code → Filling values cell code)
    (hself : ∀ op code, (s'.threads t).active = some (op, code) → Filling values cell code)
    (u : τ) (op : Unit) (code : Code (Option α) (Option α))
    (h : (s'.threads u).active = some (op, code)) : Filling values cell code := by
  by_cases hu : u = t
  · subst hu
    exact hself op code h
  · rw [(lazyMonitor values).threads_of_move hmove hu] at h
    exact hcell code (hs.active u op code h)

/-- A thread that is about to write stays so while another one moves. -/
theorem Writing.of_move {u t : τ} (hu : Writing values (s.threads u))
    (ht : ¬ Writing values (s.threads t)) (hmove : (lazyMonitor values).Move s t s') :
    Writing values (s'.threads u) := by
  have hut : u ≠ t := by
    rintro rfl
    exact ht hu
  rwa [(lazyMonitor values).threads_of_move hmove hut]

/-- A move that neither writes nor answers. -/
theorem LazyInv.of_read (hs : LazyInv values s) {t : τ} (hmove : (lazyMonitor values).Move s t s')
    (hshared : s'.shared = s.shared) (hanswered : s'.answered = s.answered)
    (ht : ¬ Writing values (s.threads t))
    (hself : ∀ op code, (s'.threads t).active = some (op, code) → Filling values s.shared code) :
    LazyInv values s' where
  cell := by rw [hshared]; exact hs.cell
  active := by rw [hshared]; exact hs.active_of_move hmove (fun _ h => h) hself
  answered := by rw [hanswered]; exact hs.answered
  settled := by
    rw [hshared, hanswered]
    obtain hlast | hempty | ⟨u, hu⟩ := hs.settled
    · exact Or.inl hlast
    · exact Or.inr (Or.inl hempty)
    · exact Or.inr (Or.inr ⟨u, hu.of_move ht hmove⟩)

/-- A move that writes the next value. -/
theorem LazyInv.of_write (hs : LazyInv values s) {t : τ} {op : Unit} {a : α} {left : List α}
    (hmove : (lazyMonitor values).Move s t s') (hsuffix : a :: left <:+ values)
    (hshared : s'.shared = some a) (hanswered : s'.answered = s.answered)
    (hthread : (s'.threads t).active = some (op, fillCode left)) : LazyInv values s' where
  cell a' h := by
    rw [hshared] at h
    obtain rfl := Option.some.inj h
    exact hsuffix.mem List.mem_cons_self
  active := by
    rw [hshared]
    refine hs.active_of_move hmove (fun _ h => h.write a) fun op' code h => ?_
    obtain ⟨rfl, rfl⟩ : op = op' ∧ fillCode left = code := by simpa [hthread] using h
    exact .fill left ((List.suffix_cons a left).trans hsuffix) (Or.inr (Option.some_ne_none a))
  answered := by rw [hanswered]; exact hs.answered
  settled := by
    cases left with
    | nil =>
        obtain ⟨pre, hpre⟩ := hsuffix
        rw [hshared, ← hpre]
        simp
    | cons b left =>
        exact Or.inr (Or.inr ⟨t, op, b, left, hthread, (List.suffix_cons a _).trans hsuffix⟩)

/-- A move that answers. -/
theorem LazyInv.of_leave (hs : LazyInv values s) {t : τ} {op : Unit} {answer : Option α}
    {rest : List Unit} (hthread : s.threads t = ⟨some (op, .done answer), rest⟩)
    (hmove : (lazyMonitor values).Move s t ((lazyMonitor values).leave s t op answer rest)) :
    LazyInv values ((lazyMonitor values).leave s t op answer rest) := by
  obtain ⟨hheld, hnone⟩ := (hs.active t op (.done answer) (by rw [hthread])).held
  have ht : ¬ Writing values (s.threads t) := by
    rintro ⟨op', a, rest', hactive, -⟩
    simp [hthread, fillCode] at hactive
  refine ⟨hs.cell, hs.active_of_move hmove (fun _ h => h) fun op' code h => ?_, ?_, ?_⟩
  · simp at h
  · simp only [leave, List.forall_mem_append, List.forall_mem_singleton]
    exact ⟨hs.answered, hheld⟩
  · obtain hlast | ⟨hempty, -⟩ | ⟨u, hu⟩ := hs.settled
    · exact Or.inl hlast
    · -- an empty cell was answered, so nothing is ever written
      refine Or.inl ?_
      obtain ⟨a, -, hsome⟩ | ⟨-, hnil⟩ := hheld
      · exact absurd (hsome.symm.trans (hnone hempty)) (Option.some_ne_none a)
      · rw [show ((lazyMonitor values).leave s t op answer rest).shared = none from hempty, hnil]
        rfl
    · exact Or.inr (Or.inr ⟨u, hu.of_move ht hmove⟩)

theorem LazyInv.of_move (hs : LazyInv values s) {t : τ} (hmove : (lazyMonitor values).Move s t s') :
    LazyInv values s' := by
  have hmoved := hmove
  cases hmove with
  | stay => exact hs
  | enter op rest hthread hfree =>
      refine hs.of_read hmoved rfl rfl ?_ fun op' code h => ?_
      · rintro ⟨op', a, rest', hactive, -⟩
        simp [hthread] at hactive
      · obtain ⟨rfl, rfl⟩ : op = op' ∧ (lazyMonitor values).code op = code := by simpa using h
        exact .call
  | perform op update next rest hthread =>
      have hcode := hs.active t op (.access update next) (by rw [hthread])
      obtain ⟨hread, hsame, hnext⟩ | ⟨a, left, hsuffix, hwrite, hnext⟩ :=
        hcode.access_cases hs.cell
      · refine hs.of_read hmoved hsame rfl ?_ fun op' code h => ?_
        · rintro ⟨op', a, rest', hactive, -⟩
          rw [hthread] at hactive
          exact hread a rest' (Prod.mk.inj (Option.some.inj hactive)).2
        · obtain ⟨rfl, rfl⟩ : op = op' ∧ next s.shared = code := by simpa using h
          exact hnext
      · exact hs.of_write hmoved hsuffix hwrite rfl (by rw [threads_perform_self, hnext])
  | leave op answer rest hthread => exact hs.of_leave hthread hmoved

/-! ## threads that call -/

variable (values) in
/-- What a schedule of calls on an empty cell leads to. -/
def lazyThreads (programs : τ → List Unit) (schedule : List τ) :
    State τ Unit (Option α) (Option α) :=
  (lazyMonitor values).machine.run (start none programs) schedule

variable (values) in
theorem lazyInv_run (programs : τ → List Unit) (schedule : List τ) :
    LazyInv values (lazyThreads values programs schedule) :=
  (lazyMonitor values).machine.run_of_step
    (fun s t hs => hs.of_move ((lazyMonitor values).move_cases s t)) (lazyInv_start values programs)
    schedule

variable {programs : τ → List Unit}

/-- Every answer is a value that is written. -/
theorem held_of_lazyThreads (schedule : List τ) :
    ∀ answer ∈ answers (lazyThreads values programs schedule), Held values answer := by
  intro answer hanswer
  obtain ⟨entry, hentry, rfl⟩ := List.mem_map.1 hanswer
  exact (lazyInv_run values programs schedule).answered entry hentry

/-- When no call is under way any more, the cell holds the last value. -/
theorem lazyThreads_settled (schedule : List τ)
    (hidle : ∀ t, ((lazyThreads values programs schedule).threads t).active = none)
    (hanswered : (lazyThreads values programs schedule).answered ≠ []) :
    (lazyThreads values programs schedule).shared = values.getLast? := by
  obtain hlast | ⟨-, hempty⟩ | ⟨t, op, a, rest, hactive, -⟩ :=
    (lazyInv_run values programs schedule).settled
  · exact hlast
  · exact absurd hempty hanswered
  · exact absurd (hactive.symm.trans (hidle t)) (Option.some_ne_none _)

variable (values) in
/-- A thread that writes can be stopped after any value. -/
theorem exists_run_write {t : τ} {op : Unit} {pre post : List α} {a : α} {rest : List Unit}
    (hthread : s.threads t = ⟨some (op, fillCode (pre ++ a :: post)), rest⟩) :
    ∃ schedule, let s' := (lazyMonitor values).machine.run s schedule
      s'.shared = some a ∧ s'.holder = s.holder ∧ ∀ u, u ≠ t → s'.threads u = s.threads u := by
  induction pre generalizing s with
  | nil =>
      have hmove : (lazyMonitor values).move s t =
          perform s t op (fun _ => some a) (fun _ => fillCode post) rest := by
        simp [move, hthread, fillCode]
      refine ⟨[t], ?_, ?_, fun u hu => ?_⟩
      · simp [hmove, perform]
      · simp [hmove, perform]
      · simp [hmove, perform, hu]
  | cons b pre ih =>
      have hmove : (lazyMonitor values).move s t =
          perform s t op (fun _ => some b) (fun _ => fillCode (pre ++ a :: post)) rest := by
        simp [move, hthread, fillCode]
      obtain ⟨schedule, hshared, hholder, hthreads⟩ :=
        ih (s := (lazyMonitor values).move s t) (by rw [hmove, threads_perform_self])
      refine ⟨t :: schedule, hshared, ?_, fun u hu => ?_⟩
      · rw [Machine.run_cons, next_machine, hholder, hmove]
        rfl
      · rw [Machine.run_cons, next_machine, hthreads u hu,
          (lazyMonitor values).threads_of_move ((lazyMonitor values).move_cases s t) hu]

/-- With two threads, every value can be answered: the first is stopped after it
wrote the value, and the second finds it. -/
theorem exists_answer {t u : τ} (htu : t ≠ u) (ht : programs t ≠ []) (hu : programs u ≠ [])
    {a : α} (ha : a ∈ values) :
    ∃ schedule, some a ∈ answers (lazyThreads values programs schedule) := by
  obtain ⟨op, rest, hprogram⟩ := List.exists_cons_of_ne_nil ht
  obtain ⟨op', rest', hprogram'⟩ := List.exists_cons_of_ne_nil hu
  obtain ⟨pre, post, hsplit⟩ := List.append_of_mem ha
  -- `t` finds the cell empty
  have hstart : (start none programs : State τ Unit (Option α) (Option α)).threads t =
      ⟨none, op :: rest⟩ := congrArg (Thread.mk none) hprogram
  have hread := run_first_access (M := lazyMonitor values) rfl hstart rfl
  -- and writes up to the value
  have hfilling : ((lazyMonitor values).machine.run (start none programs) [t, t]).threads t =
      ⟨some (op, fillCode (pre ++ a :: post)), rest⟩ := by
    rw [hread, threads_perform_self, ← hsplit]
    rfl
  obtain ⟨first, hshared, hholder, hthreads⟩ := exists_run_write values hfilling
  generalize hmid : (lazyMonitor values).machine.run
    ((lazyMonitor values).machine.run (start none programs) [t, t]) first = mid
    at hshared hholder hthreads
  -- `u` finds it
  have hother : mid.threads u = ⟨none, op' :: rest'⟩ := by
    rw [hthreads u htu.symm, hread]
    simp [perform, enter, htu.symm, start, hprogram']
  have henter : (lazyMonitor values).move mid u = (lazyMonitor values).enter mid u op' rest' := by
    simp [move, hother, lazyMonitor]
  obtain ⟨last, hlast⟩ := exists_run_active (M := lazyMonitor values)
    ((lazyMonitor values).threads_enter_self mid u op' rest')
  refine ⟨[t, t] ++ first ++ u :: last, ?_⟩
  have hrun : lazyThreads values programs ([t, t] ++ first ++ u :: last) =
      (lazyMonitor values).machine.run ((lazyMonitor values).enter mid u op' rest') last := by
    rw [lazyThreads, Machine.run_append, Machine.run_append, hmid, Machine.run_cons,
      next_machine, henter]
  have hanswer : (((lazyMonitor values).code op').exec
      ((lazyMonitor values).enter mid u op' rest').shared).2 = some a := by
    rw [show ((lazyMonitor values).enter mid u op' rest').shared = some a from hshared]
    rw [show (lazyMonitor values).code op' = lazyCode values from rfl, exec_lazyCode]
    rfl
  rw [hrun, hlast, hanswer]
  simp [answers, leave]

/-- Calls that are not interrupted all answer the last value. -/
theorem outs_atomic {cell : Option α} (hcell : cell = none ∨ cell = values.getLast?)
    (calls : List Unit) :
    ∀ answer ∈ (lazyMonitor values).atomic.outs cell calls, answer = values.getLast? := by
  have hfilled : cell.or values.getLast? = values.getLast? := by
    obtain rfl | rfl := hcell
    · rfl
    · cases values.getLast? <;> rfl
  have hstep : ∀ call, (lazyMonitor values).atomic.step cell call =
      (values.getLast?, values.getLast?) := by
    intro call
    rw [← hfilled]
    exact exec_lazyCode values cell
  induction calls generalizing cell with
  | nil => exact fun _ h => nomatch h
  | cons call calls ih =>
      rw [Machine.outs_cons, List.forall_mem_cons, Machine.out, Machine.next, hstep]
      refine ⟨rfl, ih (Or.inr rfl) ?_ ?_⟩
      · cases values.getLast? <;> rfl
      · intro call
        have h := exec_lazyCode values values.getLast?
        rw [show values.getLast?.or values.getLast? = values.getLast? by
          cases values.getLast? <;> rfl] at h
        exact h

/-- Only threads that call are answered. -/
theorem programs_ne_nil_of_answered {schedule : List τ} {entry : τ × Unit × Option α}
    (h : entry ∈ (lazyThreads values programs schedule).answered) : programs entry.1 ≠ [] := by
  have hmem : entry.2.1 ∈ answeredBy (lazyThreads values programs schedule).answered entry.1 :=
    List.mem_map.2 ⟨entry, List.mem_filter.2 ⟨h, by simp⟩, rfl⟩
  have hissued := (lazyMonitor values).issued_run none programs schedule entry.1
  rw [← hissued, issued]
  exact List.ne_nil_of_mem (List.mem_append_left _ (List.mem_append_left _ hmem))

/-- The calls of one thread are not interrupted. -/
theorem answers_of_one {t : τ} (hone : ∀ u, u ≠ t → programs u = []) (schedule : List τ) :
    ∀ answer ∈ answers (lazyThreads values programs schedule), answer = values.getLast? := by
  have halone : (lazyMonitor values).Alone (fun _ => True) none t
      (lazyThreads values programs schedule) :=
    alone_run trivial (fun op _ => Code.keeps_true _)
      (fun u hu op hop => by rw [hone u hu] at hop; exact nomatch hop) schedule
  intro answer hanswer
  obtain ⟨entry, hentry, rfl⟩ := List.mem_map.1 hanswer
  have hthread : entry.1 = t := by
    by_contra h
    exact programs_ne_nil_of_answered hentry (hone entry.1 h)
  refine outs_atomic (Or.inl rfl)
    (answeredBy (lazyThreads values programs schedule).answered t) entry.2.2 ?_
  rw [← halone.answers_eq]
  exact List.mem_map.2 ⟨entry, List.mem_filter.2 ⟨hentry, by simp [hthread]⟩, rfl⟩

/-- **Who may share the cell**: in every schedule every answer is the last
value, exactly when only one thread calls or no other value is written. -/
theorem lazy_answers_iff :
    (∀ schedule, ∀ answer ∈ answers (lazyThreads values programs schedule),
        answer = values.getLast?) ↔
      (∀ t u, programs t ≠ [] → programs u ≠ [] → t = u) ∨
        ∀ a ∈ values, values.getLast? = some a := by
  constructor
  · intro h
    by_cases htwo : ∃ t u, t ≠ u ∧ programs t ≠ [] ∧ programs u ≠ []
    · obtain ⟨t, u, htu, ht, hu⟩ := htwo
      refine Or.inr fun a ha => ?_
      obtain ⟨schedule, hanswer⟩ := exists_answer htu ht hu ha
      exact (h schedule _ hanswer).symm
    · refine Or.inl fun t u ht hu => ?_
      by_contra htu
      exact htwo ⟨t, u, htu, ht, hu⟩
  · intro h schedule answer hanswer
    obtain hone | hlast := h
    · obtain ⟨entry, hentry, -⟩ := List.mem_map.1 hanswer
      refine answers_of_one (t := entry.1) (fun u hu => ?_) schedule answer hanswer
      by_contra hcalls
      exact hu (hone u entry.1 hcalls (programs_ne_nil_of_answered hentry))
    · obtain ⟨a, ha, rfl⟩ | ⟨rfl, hnil⟩ := held_of_lazyThreads schedule answer hanswer
      · exact (hlast a ha).symm
      · rw [hnil]
        rfl

end Lib
