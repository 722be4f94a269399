import GFBGraph.Lib.Monitor

/-!
# Fields that own a heap value

A field of a structure holds `NULL` or a pointer to a heap value of its own.  A
*read* of the field hands the value to a function; a *write* frees the old value
and then assigns a new one, and between these two accesses the field dangles.

Threads may do both at any time when the field has no lock of its own.  No
schedule makes them use a freed value exactly when no thread writes the field
while another uses it (`fault_eq_false_iff`), and then each thread is answered
as if it were alone (`answersTo_of_not_conflict`).
-/

namespace Lib

/-- A pointer. -/
inductive HeapPtr (β : Type*) where
  | null
  | live (value : β)
  /-- It points to a value that has been freed. -/
  | dangling
  deriving DecidableEq, Repr

/-- A pointer field, and whether a freed value has been used or freed again. -/
structure HeapField (β : Type*) where
  ptr : HeapPtr β
  fault : Bool := false
  deriving DecidableEq, Repr

namespace HeapField

variable {β : Type*}

/-- The field with a value of its own, or `NULL`. -/
def own (value : Option β) : HeapField β := ⟨value.elim .null .live, false⟩

/-- The value is freed. -/
def free (field : HeapField β) : HeapField β :=
  match field.ptr with
  | .null => field
  | .live _ => { field with ptr := .dangling }
  | .dangling => { field with fault := true }

/-- A value of its own is assigned to the field. -/
def store (value : Option β) (field : HeapField β) : HeapField β :=
  match value with
  | none => { field with ptr := .null }
  | some value => { field with ptr := .live value }

/-- The value is handed to a function that uses it. -/
def touch (field : HeapField β) : HeapField β :=
  match field.ptr with
  | .dangling => { field with fault := true }
  | _ => field

/-- What such a function is given. -/
def value (field : HeapField β) : Option β :=
  match field.ptr with
  | .live value => some value
  | _ => none

/-- A freed value has been used. -/
def Bad (field : HeapField β) : Prop := field.fault = true

@[simp] theorem value_own (v : Option β) : (own v).value = v := by cases v <;> rfl

@[simp] theorem touch_own (v : Option β) : (own v).touch = own v := by cases v <;> rfl

@[simp] theorem store_free_own (v w : Option β) : (own v).free.store w = own w := by
  cases v <;> cases w <;> rfl

theorem not_bad_own (v : Option β) : ¬(own v).Bad := Bool.false_ne_true

variable {field : HeapField β}

theorem Bad.free (h : field.Bad) : field.free.Bad := by
  unfold HeapField.free
  split <;> simp_all [Bad]

theorem Bad.store (h : field.Bad) (value : Option β) : (field.store value).Bad := by
  cases value <;> exact h

theorem Bad.touch (h : field.Bad) : field.touch.Bad := by
  unfold HeapField.touch
  split <;> simp_all [Bad]

end HeapField

open HeapField (own)

/-! ## operations on a field -/

/-- An operation on a field. -/
inductive FieldOp (β α : Type*) where
  /-- The field is not accessed. -/
  | skip (answer : α)
  | read (answer : Option β → α)
  | write (value : Option β) (answer : α)

namespace FieldOp

variable {β α : Type*}

/-- The operation, access by access. -/
def code : FieldOp β α → Code (HeapField β) α
  | skip answer => .done answer
  | read answer => .access HeapField.touch fun field => .done (answer field.value)
  | write value answer =>
      .access HeapField.free fun _ => .access (HeapField.store value) fun _ => .done answer

/-- The operation on the value behind the field. -/
def serve (v : Option β) : FieldOp β α → Option β × α
  | skip answer => (v, answer)
  | read answer => (v, answer v)
  | write value answer => (value, answer)

/-- It replaces the value. -/
def writes : FieldOp β α → Bool
  | write _ _ => true
  | _ => false

/-- It accesses the field. -/
def uses : FieldOp β α → Bool
  | skip _ => false
  | _ => true

variable {op : FieldOp β α}

/-- Run without interruption, the accesses do what the operation does. -/
@[simp] theorem exec_code (op : FieldOp β α) (v : Option β) :
    op.code.exec (own v) = (own (op.serve v).1, (op.serve v).2) := by
  cases op with
  | skip answer => rfl
  | read answer => simp [code, serve]
  | write value answer => simp [code, serve]

/-- A fault stays. -/
theorem keeps_bad (op : FieldOp β α) : op.code.Keeps HeapField.Bad := by
  cases op with
  | skip answer => trivial
  | read answer => exact ⟨fun _ h => h.touch, fun _ => trivial⟩
  | write value answer =>
      exact ⟨fun _ h => h.free, fun _ => ⟨fun _ h => h.store value, fun _ => trivial⟩⟩

/-- An operation that does not write leaves the field alone, access by access. -/
theorem keeps_own (h : op.writes = false) (v : Option β) :
    op.code.Keeps fun field => field = own v := by
  cases op with
  | skip answer => trivial
  | read answer =>
      refine ⟨fun field hfield => ?_, fun _ => trivial⟩
      rw [hfield, HeapField.touch_own]
  | write value answer => contradiction

theorem code_of_not_uses (h : op.uses = false) : ∃ answer, op.code = .done answer := by
  cases op with
  | skip answer => exact ⟨answer, rfl⟩
  | read answer => contradiction
  | write value answer => contradiction

/-- So it does not matter to it what the field holds. -/
theorem keeps_of_not_uses (h : op.uses = false) (Q : HeapField β → Prop) : op.code.Keeps Q := by
  obtain ⟨answer, hcode⟩ := code_of_not_uses h
  rw [hcode]
  trivial

/-- Using the field begins with an access that a dangling one does not survive. -/
theorem code_of_uses (h : op.uses = true) :
    ∃ update next, op.code = .access update next ∧ (update ⟨.dangling, false⟩).Bad := by
  cases op with
  | skip answer => contradiction
  | read answer => exact ⟨_, _, rfl, rfl⟩
  | write value answer => exact ⟨_, _, rfl, rfl⟩

end FieldOp

/-! ## threads that share a field -/

section

variable {τ ι β α : Type*} (guarded : ι → Bool) (op : ι → FieldOp β α)

/-- Operations on one field, some of them under a mutex. -/
def fieldMonitor : Monitor ι (HeapField β) α := ⟨guarded, fun i => (op i).code⟩

/-- The same operations on the value behind the field. -/
def fieldMachine : Machine (Option β) ι α := ⟨fun v i => (op i).serve v⟩

/-- Operations run one after the other do with the field what they do with its
value. -/
theorem atomic_run_own (v : Option β) (is : List ι) :
    (fieldMonitor guarded op).atomic.run (own v) is = own ((fieldMachine op).run v is) :=
  Machine.run_of_step_eq (fun v i => (op i).exec_code v) v is

theorem atomic_outs_own (v : Option β) (is : List ι) :
    (fieldMonitor guarded op).atomic.outs (own v) is = (fieldMachine op).outs v is :=
  Machine.outs_of_step_eq (fun v i => (op i).exec_code v) v is

/-- Some thread writes the field while another thread uses it. -/
def FieldConflict (programs : τ → List ι) : Prop :=
  ∃ t u, t ≠ u ∧ (∃ i ∈ programs t, (op i).writes = true) ∧ ∃ i ∈ programs u, (op i).uses = true

variable [DecidableEq τ]

/-- What a schedule of threads that share the field leads to. -/
def fieldThreads (v : Option β) (programs : τ → List ι) (schedule : List τ) :
    Monitor.State τ ι (HeapField β) α :=
  (fieldMonitor guarded op).machine.run (Monitor.start (own v) programs) schedule

variable {guarded op} {programs : τ → List ι}

/-! ### threads that do not conflict -/

/-- If no thread writes the field, every thread is alone with it. -/
theorem alone_of_forall_not_writes (v : Option β)
    (h : ∀ t, ∀ i ∈ programs t, (op i).writes = false) (schedule : List τ) (t : τ) :
    (fieldMonitor guarded op).Alone (fun field => field = own v) (own v) t
      (fieldThreads guarded op v programs schedule) := by
  refine Monitor.alone_run (Q := fun field => field = own v) rfl
    (fun i hi => FieldOp.keeps_own (h t i hi) v) ?_ schedule
  intro u _ i hi field hfield
  rw [hfield]
  exact FieldOp.keeps_own (h u i hi) v

/-- If no other thread uses the field, a thread is alone with it. -/
theorem alone_of_forall_not_uses (v : Option β) {t : τ}
    (h : ∀ u, u ≠ t → ∀ i ∈ programs u, (op i).uses = false) (schedule : List τ) :
    (fieldMonitor guarded op).Alone (fun _ => True) (own v) t
      (fieldThreads guarded op v programs schedule) := by
  exact Monitor.alone_run trivial (fun i _ => (op i).code.keeps_true)
    (fun u hu i hi field _ => FieldOp.keeps_of_not_uses (h u hu i hi) _) schedule

/-- A thread that is alone with the field never meets a freed value. -/
theorem not_bad_of_alone {Q : HeapField β → Prop} {v : Option β} {t : τ} {schedule : List τ}
    (h : (fieldMonitor guarded op).Alone Q (own v) t
      (fieldThreads guarded op v programs schedule)) :
    ¬(fieldThreads guarded op v programs schedule).shared.Bad := by
  have hrespects : (fieldMonitor guarded op).Respects HeapField.Bad
      (fieldThreads guarded op v programs schedule) :=
    (Monitor.respects_start fun _ i _ => (op i).keeps_bad).run schedule
  intro hbad
  cases hactive : ((fieldThreads guarded op v programs schedule).threads t).active with
  | none =>
      rw [h.idle hactive, atomic_run_own] at hbad
      exact HeapField.not_bad_own _ hbad
  | some entry =>
      -- a fault would last until the operation ends
      have hend := ((hrespects t).active entry.1 entry.2 hactive).exec hbad
      rw [h.busy entry.1 entry.2 hactive, atomic_run_own] at hend
      rw [show (fieldMonitor guarded op).code entry.1 = (op entry.1).code from rfl,
        FieldOp.exec_code] at hend
      exact HeapField.not_bad_own _ hend

omit [DecidableEq τ] in
/-- Where a thread writes, no other uses the field. -/
theorem not_uses_of_not_conflict (h : ¬FieldConflict op programs) {t : τ}
    (hwrites : ∃ i ∈ programs t, (op i).writes = true) :
    ∀ u, u ≠ t → ∀ i ∈ programs u, (op i).uses = false := by
  intro u hu i hi
  rw [← Bool.not_eq_true]
  exact fun huses => h ⟨t, u, hu.symm, hwrites, i, hi, huses⟩

omit [DecidableEq τ] in
/-- The threads do not write, or one of them has the field for itself. -/
theorem not_conflict_cases (h : ¬FieldConflict op programs) :
    (∀ t, ∀ i ∈ programs t, (op i).writes = false) ∨
      ∃ t, ∀ u, u ≠ t → ∀ i ∈ programs u, (op i).uses = false := by
  by_cases hwrites : ∃ t, ∃ i ∈ programs t, (op i).writes = true
  · obtain ⟨t, ht⟩ := hwrites
    exact .inr ⟨t, not_uses_of_not_conflict h ht⟩
  · refine .inl fun t i hi => ?_
    rw [← Bool.not_eq_true]
    exact fun hi' => hwrites ⟨t, i, hi, hi'⟩

theorem not_bad_of_not_conflict (h : ¬FieldConflict op programs) (v : Option β)
    (schedule : List τ) : ¬(fieldThreads guarded op v programs schedule).shared.Bad := by
  cases not_conflict_cases h with
  | inl hreads =>
      have hrespects : (fieldMonitor guarded op).Respects (fun field => field = own v)
          (Monitor.start (own v) programs) :=
        Monitor.respects_start fun t i hi => FieldOp.keeps_own (hreads t i hi) v
      have hsame : (fieldThreads guarded op v programs schedule).shared = own v :=
        hrespects.shared_run rfl schedule
      rw [hsame]
      exact HeapField.not_bad_own v
  | inr hone =>
      obtain ⟨t, ht⟩ := hone
      exact not_bad_of_alone (alone_of_forall_not_uses v ht schedule)

/-- **Threads that do not conflict do not notice each other**: each is answered
as if it had the value to itself. -/
theorem answersTo_of_not_conflict (h : ¬FieldConflict op programs) (v : Option β)
    (schedule : List τ) (t : τ) :
    Monitor.answersTo (fieldThreads guarded op v programs schedule).answered t =
      (fieldMachine op).outs v
        (Monitor.answeredBy (fieldThreads guarded op v programs schedule).answered t) := by
  rw [← atomic_outs_own guarded]
  cases not_conflict_cases h with
  | inl hreads => exact (alone_of_forall_not_writes v hreads schedule t).answers_eq
  | inr hone =>
      obtain ⟨u, hu⟩ := hone
      by_cases ht : t = u
      · rw [ht]
        exact (alone_of_forall_not_uses v hu schedule).answers_eq
      · exact Monitor.answersTo_of_done
          (fun i hi => FieldOp.code_of_not_uses (hu t ht i hi)) schedule

/-! ### threads that conflict -/

omit [DecidableEq τ] in
/-- The first operation of a program that meets a test. -/
theorem exists_first (p : ι → Bool) {is : List ι} (h : ∃ i ∈ is, p i = true) :
    ∃ pre i post, is = pre ++ i :: post ∧ p i = true ∧ ∀ earlier ∈ pre, p earlier = false := by
  obtain ⟨i, hfind⟩ := Option.isSome_iff_exists.1 (List.find?_isSome.2 h)
  obtain ⟨hp, pre, post, hsplit, hpre⟩ := List.find?_eq_some_iff_append.1 hfind
  exact ⟨pre, i, post, hsplit, hp, fun earlier hmem => by simpa using hpre earlier hmem⟩

omit [DecidableEq τ] in
/-- Operations that each keep a state keep it one after the other. -/
theorem atomic_run_of_keeps {field : HeapField β} {is : List ι}
    (h : ∀ i ∈ is, (op i).code.Keeps fun field' => field' = field) :
    (fieldMonitor guarded op).atomic.run field is = field := by
  induction is with
  | nil => rfl
  | cons i is ih =>
      rw [List.forall_mem_cons] at h
      have hnext : (fieldMonitor guarded op).atomic.next field i = field := h.1.exec rfl
      rw [Machine.run_cons, hnext, ih h.2]

section

variable {s : Monitor.State τ ι (HeapField β) α} {t : τ} {pre post : List ι} {i : ι}

/-- A thread runs up to its first write and is stopped there after it freed the
value. -/
theorem exists_run_freed (hfree : s.holder = none) {value : β}
    (hshared : s.shared = own (some value)) (hthread : s.threads t = ⟨none, pre ++ i :: post⟩)
    (hpre : ∀ earlier ∈ pre, (op earlier).writes = false) (hi : (op i).writes = true)
    (hguarded : guarded i = false) :
    ∃ schedule, let s' := (fieldMonitor guarded op).machine.run s schedule
      s'.shared = ⟨.dangling, false⟩ ∧ s'.holder = none ∧
        ∀ u, u ≠ t → s'.threads u = s.threads u := by
  obtain ⟨first, answered, hfirst⟩ :=
    Monitor.exists_run_ops (M := fieldMonitor guarded op) hfree hthread
  rw [hshared, atomic_run_of_keeps fun earlier hmem =>
    FieldOp.keeps_own (hpre earlier hmem) (some value)] at hfirst
  obtain ⟨value', answer, hop⟩ : ∃ value' answer, op i = .write value' answer := by
    cases hop : op i with
    | write value' answer => exact ⟨value', answer, rfl⟩
    | skip answer => simp [hop, FieldOp.writes] at hi
    | read answer => simp [hop, FieldOp.writes] at hi
  have hcode : (fieldMonitor guarded op).code i = (FieldOp.write value' answer).code :=
    congrArg FieldOp.code hop
  have hunguarded : (fieldMonitor guarded op).guarded i = false := hguarded
  have hfreed := Monitor.run_first_access (M := fieldMonitor guarded op)
    (s := (fieldMonitor guarded op).machine.run s first) (t := t) (by rw [hfirst])
    (by rw [hfirst]; exact Function.update_self t _ _) hcode
  refine ⟨first ++ [t, t], ?_⟩
  rw [Machine.run_append, hfreed, hfirst]
  refine ⟨rfl, by simp [Monitor.perform, Monitor.enter, hunguarded], fun u hu => ?_⟩
  simp [Monitor.perform, Monitor.enter, hu]

/-- A thread that runs up to its first use while the field dangles uses the freed
value. -/
theorem exists_run_bad (hfree : s.holder = none) (hshared : s.shared = ⟨.dangling, false⟩)
    (hthread : s.threads t = ⟨none, pre ++ i :: post⟩)
    (hpre : ∀ earlier ∈ pre, (op earlier).uses = false) (hi : (op i).uses = true) :
    ∃ schedule, ((fieldMonitor guarded op).machine.run s schedule).shared.Bad := by
  obtain ⟨first, answered, hfirst⟩ :=
    Monitor.exists_run_ops (M := fieldMonitor guarded op) hfree hthread
  rw [hshared, atomic_run_of_keeps fun earlier hmem =>
    FieldOp.keeps_of_not_uses (hpre earlier hmem) _] at hfirst
  obtain ⟨update, next, hcode, hbad⟩ := FieldOp.code_of_uses hi
  have hused := Monitor.run_first_access (M := fieldMonitor guarded op)
    (s := (fieldMonitor guarded op).machine.run s first) (t := t) (by rw [hfirst])
    (by rw [hfirst]; exact Function.update_self t _ _) hcode
  refine ⟨first ++ [t, t], ?_⟩
  rw [Machine.run_append, hused, hfirst]
  exact hbad

end

/-- Threads that conflict have a schedule that uses a freed value: one is stopped
in the middle of a write, and the other one goes on. -/
theorem exists_bad_of_conflict (hguarded : ∀ i, (op i).writes = true → guarded i = false)
    (h : FieldConflict op programs) (value : β) :
    ∃ schedule, (fieldThreads guarded op (some value) programs schedule).shared.Bad := by
  obtain ⟨t, u, htu, hwrite, huse⟩ := h
  obtain ⟨pre, writer, post, hprogram, hwriter, hpre⟩ :=
    exists_first (fun i => (op i).writes) hwrite
  obtain ⟨pre', user, post', hprogram', huser, hpre'⟩ := exists_first (fun i => (op i).uses) huse
  obtain ⟨first, hshared, hholder, hothers⟩ := exists_run_freed
    (s := Monitor.start (own (some value)) programs) (t := t) rfl rfl
    (congrArg (Monitor.Thread.mk none) hprogram) hpre hwriter (hguarded writer hwriter)
  obtain ⟨last, hbad⟩ := exists_run_bad hholder hshared
    ((hothers u htu.symm).trans (congrArg (Monitor.Thread.mk none) hprogram')) hpre' huser
  refine ⟨first ++ last, ?_⟩
  rw [fieldThreads, Machine.run_append]
  exact hbad

/-- **Who may share a field**: where writes take no mutex, threads never use a
freed value, in any schedule, exactly when no thread writes the field while
another uses it. -/
theorem fault_eq_false_iff (hguarded : ∀ i, (op i).writes = true → guarded i = false) (value : β) :
    (∀ schedule, (fieldThreads guarded op (some value) programs schedule).shared.fault = false) ↔
      ¬FieldConflict op programs := by
  constructor
  · intro hsafe hconflict
    obtain ⟨schedule, hbad⟩ := exists_bad_of_conflict hguarded hconflict value
    exact absurd (hbad.symm.trans (hsafe schedule)) Bool.noConfusion
  · intro hconflict schedule
    exact Bool.eq_false_iff.2 (not_bad_of_not_conflict hconflict (some value) schedule)

end

end Lib
