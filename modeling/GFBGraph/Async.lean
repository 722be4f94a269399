import GFBGraph.Lib.Task
import GFBGraph.Graph

/-!
# GFBGraph.Async

The three asynchronous operations of the library over a `GSimpleAsyncResult`:
each keeps the result of its worker in an operation data record, which its
`_finish` function reads and its destroy notify frees.  They are three kinds
of task (`Lib.Task`); what differs is what the destroy notify releases.

`_finish` returns the result and leaves it in the record as well, so each kind
is settled along some of its complete runs only.  The laws hold whatever the
workers store; what they do store is the outcome of the synchronous functions.
-/

namespace GFBGraph

open Lib Lib.Task

/-! ## what a result is made of -/

/-- Something an operation must see released: the user, the cells and nodes of
a list by position, or the reference to the authorizer. -/
inductive AsyncItem where
  | user
  | cell (k : Nat)
  | node (k : Nat)
  | authorizer
  deriving DecidableEq, Repr

/-- The user object, if there is one. -/
def userItems (user : Option Node) : List AsyncItem :=
  match user with
  | none => []
  | some _ => [.user]

/-- The cells of a `GList`. -/
def cellItems (list : List (Option Node)) : List AsyncItem :=
  (List.range list.length).map .cell

/-- The nodes a `GList` points to. -/
def nodeItems (list : List (Option Node)) : List AsyncItem :=
  (List.range list.length).filterMap fun k =>
    match list[k]? with
    | some (some _) => some (.node k)
    | _ => none

/-- The cells and nodes of a `GList`. -/
def listItems (list : List (Option Node)) : List AsyncItem := cellItems list ++ nodeItems list

/-! ## the operations -/

/-- `gfbgraph_user_get_me_async`.  `gfbgraph_user_async_data_free` unrefs the
user, `gfbgraph_user_get_me_async_finish` returns it. -/
def userGetMeTask : TaskKind (Option Node) AsyncItem GError where
  empty := none
  items := userItems
  items_empty := rfl
  finish user := (user, user)
  destroy user := userItems user
  cancelled := .cancelled

/-- `gfbgraph_user_get_albums_async`.  `gfbgraph_user_connection_async_data_free`
unrefs the authorizer only. -/
def userGetAlbumsTask : TaskKind (List (Option Node)) AsyncItem GError where
  empty := []
  items := listItems
  items_empty := rfl
  finish nodes := (nodes, nodes)
  destroy _ := [.authorizer]
  cancelled := .cancelled

/-- `gfbgraph_node_get_connection_nodes_async`.
`gfbgraph_node_connection_async_data_free` frees the cells with `g_list_free`
and unrefs the authorizer. -/
def nodeGetConnectionNodesTask : TaskKind (List (Option Node)) AsyncItem GError where
  empty := []
  items := listItems
  items_empty := rfl
  finish list := (list, list)
  destroy list := cellItems list ++ [.authorizer]
  cancelled := .cancelled

/-! ## the workers -/

/-- `gfbgraph_user_get_me_async_thread`. -/
def userGetMeAsyncThread (env : Env) (authorizer : Authorizer) : Event (Option Node) GError :=
  let result := userGetMe env authorizer
  .work result.node result.error

/-- `gfbgraph_user_get_albums_async_thread`. -/
def userGetAlbumsAsyncThread (env : Env) (user : Node) (authorizer : Authorizer) :
    Event (List (Option Node)) GError :=
  let result := userGetAlbums env user authorizer
  .work result.nodes result.error

/-- `gfbgraph_node_get_connection_nodes_async_thread`. -/
def nodeGetConnectionNodesAsyncThread (env : Env) (node : Node) (nodeType : GType)
    (authorizer : Authorizer) : Event (List (Option Node)) GError :=
  let result := nodeGetConnectionNodes env node nodeType authorizer
  .work result.nodes result.error

/-! ## items of a list -/

theorem mem_cellItems {list : List (Option Node)} {item : AsyncItem} :
    item ∈ cellItems list ↔ ∃ k, k < list.length ∧ item = .cell k := by
  simp [cellItems, eq_comm]

theorem mem_nodeItems {list : List (Option Node)} {item : AsyncItem} :
    item ∈ nodeItems list ↔ ∃ k node, list[k]? = some (some node) ∧ item = .node k := by
  unfold nodeItems
  rw [List.mem_filterMap]
  constructor
  · intro h
    obtain ⟨k, -, hk⟩ := h
    split at hk
    · next node hnode => exact ⟨k, node, hnode, (Option.some.inj hk).symm⟩
    · contradiction
  · intro h
    obtain ⟨k, node, hnode, hitem⟩ := h
    have hlt : k < list.length := (List.getElem?_eq_some_iff.1 hnode).1
    exact ⟨k, List.mem_range.2 hlt, by rw [hnode, hitem]⟩

/-- The first cell of a list that is not empty. -/
theorem cell_zero_mem {list : List (Option Node)} (h : list ≠ []) :
    AsyncItem.cell 0 ∈ listItems list :=
  List.mem_append_left _ (mem_cellItems.2 ⟨0, List.length_pos_iff.2 h, rfl⟩)

theorem count_cell {list : List (Option Node)} {k : Nat} (h : k < list.length) :
    (cellItems list ++ [AsyncItem.authorizer]).count (.cell k) = 1 := by
  have hnodup : (cellItems list ++ [AsyncItem.authorizer]).Nodup := by
    have hcells : (cellItems list).Nodup :=
      List.Nodup.map (fun i j hij => AsyncItem.cell.inj hij) List.nodup_range
    simpa [List.nodup_append, hcells] using fun item hitem => by
      obtain ⟨j, -, hj⟩ := mem_cellItems.1 hitem
      simp [hj]
  have hmem : AsyncItem.cell k ∈ cellItems list ++ [AsyncItem.authorizer] :=
    List.mem_append_left _ (mem_cellItems.2 ⟨k, h, rfl⟩)
  exact List.count_eq_one_of_mem hnodup hmem

theorem count_node (list : List (Option Node)) (k : Nat) :
    (cellItems list ++ [AsyncItem.authorizer]).count (.node k) = 0 := by
  rw [List.count_eq_zero, List.mem_append, mem_cellItems]
  simp

/-! ## what the destroy notifies fit -/

theorem releasesKept_getMe (user : Option Node) : ReleasesKept userGetMeTask user := by
  intro item hitem
  cases user with
  | none => contradiction
  | some node =>
      cases List.mem_singleton.1 hitem
      rfl

/-- A user handed over is released nevertheless. -/
theorem releasesLeft_getMe_iff (user : Option Node) :
    ReleasesLeft userGetMeTask user ↔ user = none := by
  cases user with
  | none => simp [ReleasesLeft, userGetMeTask, userItems]
  | some node => simp [ReleasesLeft, userGetMeTask, userItems]

/-- Nothing of a list is released. -/
theorem releasesKept_getAlbums_iff (nodes : List (Option Node)) :
    ReleasesKept userGetAlbumsTask nodes ↔ nodes = [] := by
  constructor
  · intro h
    by_contra hne
    have hcount := h _ (cell_zero_mem hne)
    contradiction
  · intro h item hitem
    rw [h] at hitem
    contradiction

theorem releasesLeft_getAlbums (nodes : List (Option Node)) :
    ReleasesLeft userGetAlbumsTask nodes := by
  intro item hitem
  refine Or.inl ⟨hitem, ?_⟩
  have hne : item ≠ .authorizer := by
    intro heq
    cases List.mem_append.1 hitem with
    | inl hcell =>
        obtain ⟨k, -, hk⟩ := mem_cellItems.1 hcell
        rw [heq] at hk
        contradiction
    | inr hnode =>
        obtain ⟨k, node, -, hk⟩ := mem_nodeItems.1 hnode
        rw [heq] at hk
        contradiction
  exact List.count_eq_zero.2 (by simpa [userGetAlbumsTask] using hne)

/-- The cells of a list are released, the nodes are not. -/
theorem releasesKept_getConnectionNodes_iff (list : List (Option Node)) :
    ReleasesKept nodeGetConnectionNodesTask list ↔ ∀ node ∈ list, node = none := by
  constructor
  · intro h node hmem
    cases node with
    | none => rfl
    | some node =>
        obtain ⟨k, hk⟩ := List.mem_iff_getElem?.1 hmem
        have hitem : AsyncItem.node k ∈ listItems list :=
          List.mem_append_right _ (mem_nodeItems.2 ⟨k, node, hk, rfl⟩)
        have hcount := h _ hitem
        have hzero := count_node list k
        exact absurd (hzero.symm.trans hcount) (by decide)
  · intro h item hitem
    cases List.mem_append.1 hitem with
    | inl hcell =>
        obtain ⟨k, hlt, hk⟩ := mem_cellItems.1 hcell
        rw [hk]
        exact count_cell hlt
    | inr hnode =>
        obtain ⟨k, node, hnode, -⟩ := mem_nodeItems.1 hnode
        have hnone := h _ (List.mem_of_getElem? hnode)
        contradiction

/-- The cells of a list handed over are released nevertheless. -/
theorem releasesLeft_getConnectionNodes_iff (list : List (Option Node)) :
    ReleasesLeft nodeGetConnectionNodesTask list ↔ list = [] := by
  constructor
  · intro h
    by_contra hne
    have hcell := cell_zero_mem hne
    have hone : (nodeGetConnectionNodesTask.destroy list).count (.cell 0) = 1 :=
      count_cell (List.length_pos_iff.2 hne)
    cases h _ hcell with
    | inl hhanded => exact absurd (hone.symm.trans hhanded.2) (by decide)
    | inr hleft => exact hleft.1 hcell
  · intro h item hitem
    rw [h] at hitem
    contradiction

/-! ## settled operations -/

/-- **Ownership of asynchronous results**, over every complete run.  The user
of `gfbgraph_user_get_me_async` has one owner exactly when it is not handed
over; the list of `gfbgraph_user_get_albums_async` exactly when it is handed
over or empty; the list of `gfbgraph_node_get_connection_nodes_async` exactly
when it is empty, or not handed over and made of `NULL` nodes. -/
theorem async_settled_iff (getMe : CompleteRun userGetMeTask)
    (getAlbums : CompleteRun userGetAlbumsTask)
    (getNodes : CompleteRun nodeGetConnectionNodesTask) :
    (Settled userGetMeTask getMe.task ↔
      ∀ user, Produces userGetMeTask getMe.events user →
        user = none ∨ ¬ HandsOver userGetMeTask getMe.events) ∧
    (Settled userGetAlbumsTask getAlbums.task ↔
      ∀ nodes, Produces userGetAlbumsTask getAlbums.events nodes →
        nodes = [] ∨ HandsOver userGetAlbumsTask getAlbums.events) ∧
    (Settled nodeGetConnectionNodesTask getNodes.task ↔
      ∀ list, Produces nodeGetConnectionNodesTask getNodes.events list →
        list = [] ∨ (¬ HandsOver nodeGetConnectionNodesTask getNodes.events ∧
          ∀ node ∈ list, node = none)) := by
  refine ⟨?_, ?_, ?_⟩
  · rw [settled_run_iff]
    refine forall_congr' fun user => imp_congr_right fun _ => ?_
    rw [releasesLeft_getMe_iff, or_comm, ← imp_iff_not_or]
    exact and_iff_left fun _ => releasesKept_getMe user
  · rw [settled_run_iff]
    refine forall_congr' fun nodes => imp_congr_right fun _ => ?_
    rw [releasesKept_getAlbums_iff, or_comm, or_iff_not_imp_left]
    exact and_iff_right fun _ => releasesLeft_getAlbums nodes
  · rw [settled_run_iff]
    refine forall_congr' fun list => imp_congr_right fun _ => ?_
    have hnil : list = [] → ∀ node ∈ list, node = none := by
      intro h
      simp [h]
    rw [releasesLeft_getConnectionNodes_iff, releasesKept_getConnectionNodes_iff]
    by_cases hhands : HandsOver nodeGetConnectionNodesTask getNodes.events
    · simp [hhands]
    · simp only [hhands, false_imp_iff, not_false_iff, true_imp_iff, true_and]
      exact ⟨Or.inr, fun h => h.elim hnil id⟩

/-! ### violations -/

/-- The text of a list of one album. -/
def albumListText : String := "\x7b\"data\": [\x7b\x7d]\x7d"

/-- A json-glib that knows that text and refuses others. -/
def albumListJson : JsonGlib :=
  { emptyContainersJson with
    loadFromData := fun text =>
      if text = albumListText then
        { root := some (.object [("data", .array [.object []])]), error := none }
      else { root := none, error := some ⟨0, "Parse error"⟩ } }

/-- A server that answers every request with that list. -/
def albumListEnv : Env := { Env.answering albumListText with json := albumListJson }

/-- The user that `_finish` returned is unreffed under the caller; an album of
a list that is never asked for is not released; the cells of a list of
connected nodes are freed under the caller. -/
theorem async_not_settled :
    ¬ Settled userGetMeTask ((machine userGetMeTask).run (scheduled userGetMeTask)
      [.start, userGetMeAsyncThread (.answering "{}") .anonymous, .finish, .destroy]) ∧
    ¬ Settled userGetAlbumsTask ((machine userGetAlbumsTask).run (scheduled userGetAlbumsTask)
      [.start, userGetAlbumsAsyncThread albumListEnv (gObjectNew typeUser) .anonymous, .destroy]) ∧
    ¬ Settled nodeGetConnectionNodesTask ((machine nodeGetConnectionNodesTask).run
      (scheduled nodeGetConnectionNodesTask)
      [.start, nodeGetConnectionNodesAsyncThread albumListEnv (gObjectNew typeUser) typeAlbum
        .anonymous, .finish, .destroy]) := by
  decide

end GFBGraph
