import GFBGraph.Async
import GFBGraph.Lib.RefCount

/-!
# GFBGraph.Async.Lifetime

The objects behind asynchronous operations.  A `GSimpleAsyncResult` holds a
reference to its source object, and the operation data of a list one to the
authorizer, until the result is finalized.  A client may therefore drop its own
references right after it started an operation.

What the operations deliver are objects as well, each with one reference, which
goes to the client with the object.  The destroy notify of
`gfbgraph_user_get_me_async` drops it nevertheless, so such a user has a
reference less than it has holders; those of the lists never drop it, so the
nodes of a list that nobody asked for are not finalized any more.
-/

namespace GFBGraph

open Lib

/-! ## operations on objects -/

/-- An asynchronous operation, on objects that are known by their pointers. -/
inductive AsyncCall (κ : Type) where
  | userGetMe (authorizer : κ)
  | userGetAlbums (user authorizer : κ)
  | nodeGetConnectionNodes (node : κ) (nodeType : GType) (authorizer : κ)
  deriving DecidableEq

namespace AsyncCall

variable {κ : Type}

/-- The source object, which `g_simple_async_result_new` refs. -/
def sourceObject : AsyncCall κ → κ
  | userGetMe authorizer => authorizer
  | userGetAlbums user _ => user
  | nodeGetConnectionNodes node _ _ => node

/-- What the operation data is given references to. -/
def dataRefs : AsyncCall κ → List κ
  | userGetMe _ => []
  | userGetAlbums _ authorizer => [authorizer]
  | nodeGetConnectionNodes _ _ authorizer => [authorizer]

/-- What the destroy notify of the operation data unrefs, for the objects of the
result in the data: `gfbgraph_user_async_data_free`,
`gfbgraph_user_connection_async_data_free` and
`gfbgraph_node_connection_async_data_free`. -/
def dataUnrefs : AsyncCall κ → List κ → List κ
  | userGetMe _, user => user
  | userGetAlbums _ authorizer, _ => [authorizer]
  | nodeGetConnectionNodes _ _ authorizer, _ => [authorizer]

/-- What the thread hands to the synchronous function. -/
def threadArguments : AsyncCall κ → List κ
  | userGetMe authorizer => [authorizer]
  | userGetAlbums user authorizer => [user, authorizer]
  | nodeGetConnectionNodes node _ authorizer => [node, authorizer]

/-- The operation as a task whose results are objects.  A `GSimpleAsyncResult`
that is finalized calls the destroy notify and unrefs its source object. -/
def objectTask (call : AsyncCall κ) : TaskKind (List κ) κ GError where
  empty := []
  items result := result
  items_empty := rfl
  finish result := (result, result)
  destroy result := call.dataUnrefs result ++ [call.sourceObject]
  cancelled := .cancelled

/-- The destroy notify drops the reference that went with the result. -/
def unrefsResult : AsyncCall κ → Bool
  | userGetMe _ => true
  | userGetAlbums _ _ => false
  | nodeGetConnectionNodes _ _ _ => false

/-- The references that are held for a pending operation. -/
def holds (call : AsyncCall κ) : List κ := call.sourceObject :: call.dataRefs

theorem threadArguments_subset (call : AsyncCall κ) : call.threadArguments ⊆ call.holds := by
  cases call <;> simp [threadArguments, holds, sourceObject, dataRefs]

/-- Finalizing the result drops what is held, and perhaps the result. -/
theorem count_destroy [DecidableEq κ] (call : AsyncCall κ) (result : List κ) (k : κ) :
    (call.objectTask.destroy result).count k =
      call.holds.count k + if call.unrefsResult then result.count k else 0 := by
  cases call with
  | userGetMe authorizer =>
      simp [objectTask, dataUnrefs, holds, unrefsResult, sourceObject, dataRefs, Nat.add_comm]
  | _ =>
      simp [objectTask, dataUnrefs, holds, unrefsResult, sourceObject, dataRefs, List.count_cons,
        Nat.add_comm]

end AsyncCall

/-- The objects among the items of a result, `object` being where they are. -/
def itemObjects {κ : Type} (object : AsyncItem → Option κ) (items : List AsyncItem) : List κ :=
  items.filterMap object

/-- **Refinement** of the tasks: where the cells of a list are no objects, the
destroy notifies unref the objects of the items they release. -/
theorem dataUnrefs_itemObjects {κ : Type} (object : AsyncItem → Option κ) (authorizer : κ)
    (hcell : ∀ k, object (.cell k) = none) (hauthorizer : object .authorizer = some authorizer)
    (user : Option Node) (nodes : List (Option Node)) (source : κ) (nodeType : GType) :
    itemObjects object (userGetMeTask.destroy user) =
        (AsyncCall.userGetMe authorizer).dataUnrefs
          (itemObjects object (userGetMeTask.items user)) ∧
      itemObjects object (userGetAlbumsTask.destroy nodes) =
        (AsyncCall.userGetAlbums source authorizer).dataUnrefs
          (itemObjects object (userGetAlbumsTask.items nodes)) ∧
      itemObjects object (nodeGetConnectionNodesTask.destroy nodes) =
        (AsyncCall.nodeGetConnectionNodes source nodeType authorizer).dataUnrefs
          (itemObjects object (nodeGetConnectionNodesTask.items nodes)) := by
  have hcells : itemObjects object (cellItems nodes) = [] := by
    rw [itemObjects, List.filterMap_eq_nil_iff]
    intro item hitem
    obtain ⟨k, -, rfl⟩ := mem_cellItems.1 hitem
    exact hcell k
  refine ⟨rfl, ?_, ?_⟩
  · simp [itemObjects, userGetAlbumsTask, AsyncCall.dataUnrefs, hauthorizer]
  · rw [itemObjects] at hcells
    simp [itemObjects, nodeGetConnectionNodesTask, AsyncCall.dataUnrefs, hauthorizer, hcells]

/-- Asynchronous operations hold references to what their threads use. -/
def asyncHolding (κ : Type) : Holding (AsyncCall κ) κ GError where
  kind := AsyncCall.objectTask
  holds := AsyncCall.holds
  empty_kind _ := rfl

/-! ## who holds an object -/

section

variable {κ : Type}

/-- An operation that was started. -/
abbrev AsyncEntry (κ : Type) := Holding.Entry (AsyncCall κ) κ GError

/-- What is held for an operation until it is finalized: its source object and
its authorizer, and the objects of the result, unless they have been handed over
and the destroy notify leaves them alone. -/
def AsyncEntry.held (entry : AsyncEntry κ) : List κ :=
  if entry.task.phase = .destroyed then []
  else entry.op.holds ++
    if entry.op.unrefsResult ∨ entry.task.handed = none then entry.task.produced else []

/-- The nodes of a list that was finalized without being handed over. -/
def AsyncEntry.lost (entry : AsyncEntry κ) : List κ :=
  if entry.task.phase = .destroyed ∧ entry.op.unrefsResult = false ∧ entry.task.handed = none then
    entry.task.produced
  else []

/-- The user that `gfbgraph_user_get_me_async_finish` returned. -/
def AsyncEntry.returnedUser (entry : AsyncEntry κ) : List κ :=
  if entry.op.unrefsResult then entry.task.handed.getD [] else []

/-- The operation has gone through the events of its task. -/
def AsyncEntry.Ran (entry : AsyncEntry κ) : Prop :=
  ∃ events, entry.task =
    (Task.machine entry.op.objectTask).run (Task.scheduled entry.op.objectTask) events

/-- What is handed over is the result, and stays in the data. -/
theorem AsyncEntry.Ran.handed_cases {entry : AsyncEntry κ} (h : entry.Ran) :
    entry.task.slot = entry.task.produced ∧
      (entry.task.handed = none ∨ entry.task.handed = some entry.task.produced) := by
  obtain ⟨events, hevents⟩ := h
  have haccounted := Task.accounted_run entry.op.objectTask events
  rw [← hevents] at haccounted
  by_cases hnone : entry.task.handed = none
  · exact ⟨haccounted.slot_of_none hnone, Or.inl hnone⟩
  · exact ⟨haccounted.slot_of_some hnone, Or.inr (haccounted.handed_of_some hnone)⟩

/-- Nothing is released before an operation is finalized. -/
theorem AsyncEntry.Ran.released_eq {entry : AsyncEntry κ} (h : entry.Ran) :
    entry.task.released =
      if entry.task.phase = .destroyed then entry.op.objectTask.destroy entry.task.produced
      else [] := by
  have hslot := h.handed_cases.1
  obtain ⟨events, hevents⟩ := h
  have hunspent := Task.unspent_run entry.op.objectTask events
  have haccounted := Task.accounted_run entry.op.objectTask events
  rw [← hevents] at hunspent haccounted
  by_cases hphase : entry.task.phase = .destroyed
  · rw [if_pos hphase, haccounted.released_of_destroyed hphase, hslot]
  · have hrank : entry.task.phase.rank < 4 := by
      cases hphase' : entry.task.phase with
      | destroyed => exact absurd hphase' hphase
      | _ => decide
    rw [if_neg hphase, hunspent.released_of_rank hrank]

variable [DecidableEq κ]

/-- What an operation has taken and not given away is held or lost, but for the
reference of a user that was returned. -/
theorem AsyncEntry.Ran.count_eq {entry : AsyncEntry κ} (h : entry.Ran) (k : κ) :
    ((asyncHolding κ).taken entry).count k + entry.returnedUser.count k =
      (Holding.given entry).count k + entry.held.count k + entry.lost.count k := by
  have htaken : ((asyncHolding κ).taken entry).count k =
      entry.op.holds.count k + entry.task.produced.count k := List.count_append
  have hdestroy := entry.op.count_destroy entry.task.produced k
  rw [htaken, Holding.given, List.count_append, h.released_eq, returnedUser, held, lost]
  obtain hnone | hsome := h.handed_cases.2
  · by_cases hphase : entry.task.phase = .destroyed
    · rw [if_pos hphase, hdestroy]
      cases entry.op.unrefsResult <;> simp [hnone, hphase]
    · cases entry.op.unrefsResult <;> simp [hnone, hphase]
  · by_cases hphase : entry.task.phase = .destroyed
    · rw [if_pos hphase, hdestroy]
      cases entry.op.unrefsResult <;> simp [hsome, hphase]
      all_goals omega
    · cases entry.op.unrefsResult <;> simp [hsome, hphase]
      all_goals omega

/-- What is held for the operations that have been started. -/
def heldRefs (s : Holding.State (AsyncCall κ) κ GError) : List κ :=
  s.entries.flatMap AsyncEntry.held

/-- The nodes that will not be finalized any more. -/
def lostNodes (s : Holding.State (AsyncCall κ) κ GError) : List κ :=
  s.entries.flatMap AsyncEntry.lost

/-- The users that were returned. -/
def returnedUsers (s : Holding.State (AsyncCall κ) κ GError) : List κ :=
  s.entries.flatMap AsyncEntry.returnedUser

/-- The same of all operations. -/
theorem count_entries {entries : List (AsyncEntry κ)}
    (h : ∀ entry ∈ entries, entry.Ran) (k : κ) :
    (entries.flatMap (asyncHolding κ).taken).count k +
        (entries.flatMap AsyncEntry.returnedUser).count k =
      (entries.flatMap Holding.given).count k + (entries.flatMap AsyncEntry.held).count k +
        (entries.flatMap AsyncEntry.lost).count k := by
  induction entries with
  | nil => rfl
  | cons entry entries ih =>
      rw [List.forall_mem_cons] at h
      have hentry := h.1.count_eq k
      have hrest := ih h.2
      simp only [List.flatMap_cons, List.count_append]
      omega

/-- **Reference counts around asynchronous operations**: in every interleaving of
a client that makes, refs and unrefs objects, starts operations on living ones and
finishes them, with the threads, the cancellations and the ends of these
operations, the count of an object is the number of references that the client
holds and that are held for operations, with one more for a node of a list that
was lost and one less for a user that was returned.  So an object that is no such
user is alive exactly as long as the client or an operation holds it, or it was
lost; and the thread of a pending operation finds it alive, also after the
client has dropped it. -/
theorem async_objects_alive {events : List (Holding.Event (AsyncCall κ) κ GError)}
    (hevents : (asyncHolding κ).machine.Always (asyncHolding κ).Enabled Holding.empty events) :
    let state := (asyncHolding κ).machine.run Holding.empty events
    (∀ k, state.refCount k =
      state.client k + (heldRefs state).count k + (lostNodes state).count k -
        (returnedUsers state).count k) ∧
    (∀ k ∉ returnedUsers state, (0 < state.refCount k ↔
      0 < state.client k ∨ k ∈ heldRefs state ∨ k ∈ lostNodes state)) ∧
    ∀ entry ∈ state.entries, entry.task.phase ≠ .destroyed →
      ∀ k ∈ entry.op.threadArguments, k ∉ returnedUsers state → 0 < state.refCount k := by
  have hbooked := Holding.booked_run hevents
  generalize (asyncHolding κ).machine.run Holding.empty events = state at hbooked
  have hcount : ∀ k, state.refCount k =
      state.client k + (heldRefs state).count k + (lostNodes state).count k -
        (returnedUsers state).count k := by
    intro k
    have hentries := count_entries hbooked.entries k
    rw [hbooked.refCount k, heldRefs, lostNodes, returnedUsers]
    omega
  have halive : ∀ k ∉ returnedUsers state, (0 < state.refCount k ↔
      0 < state.client k ∨ k ∈ heldRefs state ∨ k ∈ lostNodes state) := by
    intro k hk
    rw [hcount k, List.count_eq_zero.2 hk, ← List.count_pos_iff, ← List.count_pos_iff]
    omega
  refine ⟨hcount, halive, fun entry hentry hphase k hk hreturned => ?_⟩
  refine (halive k hreturned).2 (Or.inr (Or.inl ?_))
  refine List.mem_flatMap.2 ⟨entry, hentry, ?_⟩
  rw [AsyncEntry.held, if_neg hphase]
  exact List.mem_append_left _ (entry.op.threadArguments_subset hk)

end

/-- A client that drops a user and an authorizer as soon as it has asked for the
albums. -/
def droppedEarly : List (Holding.Event (AsyncCall Bool) Bool GError) :=
  [.new true, .new false, .launch (.userGetAlbums true false), .unref true, .unref false,
    .task 0 .start]

/-- A client that asks for the current user. -/
def askedMe : List (Holding.Event (AsyncCall Bool) Bool GError) :=
  [.new false, .launch (.userGetMe false), .task 0 .start, .task 0 (.work [true] none),
    .task 0 .finish, .task 0 .destroy]

/-- The thread finds the user and the authorizer of the first client alive; the
user that is returned to the second one is not alive after the operation. -/
theorem async_objects_alive_dropped :
    (let state := (asyncHolding Bool).machine.run Holding.empty droppedEarly
     0 < state.refCount true ∧ 0 < state.refCount false) ∧
    let state := (asyncHolding Bool).machine.run Holding.empty askedMe
    state.client true = 1 ∧ state.refCount true = 0 := by
  have hdropped : (asyncHolding Bool).machine.Always (asyncHolding Bool).Enabled Holding.empty
      droppedEarly := by
    simp only [droppedEarly, Machine.always_cons, Machine.always_nil, and_true]
    decide
  have hasked : (asyncHolding Bool).machine.Always (asyncHolding Bool).Enabled Holding.empty
      askedMe := by
    simp only [askedMe, Machine.always_cons, Machine.always_nil, and_true]
    decide
  have halive := (async_objects_alive hdropped).2.2
    ⟨.userGetAlbums true false, { phase := .running, slot := [], produced := [] }⟩
    List.mem_cons_self (by decide)
  have hcount := (async_objects_alive hasked).1 true
  exact ⟨⟨halive true (by decide) (by decide), halive false (by decide) (by decide)⟩, rfl,
    hcount.trans (by decide)⟩

end GFBGraph
