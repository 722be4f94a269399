import GFBGraph.Graph.Ids
import GFBGraph.Lib.HeapField

/-!
# GFBGraph.Graph.Threads

A node that several threads use.  The worker of an asynchronous listing runs
`gfbgraph_node_get_connection_nodes`, which prints `priv->id` into the path of
its request, while the client is free to set the id of the node or to append it
to another one; both free the old id, and a node has no lock.

Which threads may share a node is `node_threads_safe_iff`.
-/

namespace GFBGraph

open Lib

/-! ## what an operation does with the id -/

/-- Nothing stops an instance of `type` from being connected to a node of type
`nodeType`, so that `gfbgraph_node_get_connection_nodes` and
`gfbgraph_node_append_connection` get as far as the path of their request. -/
def TypeRegistry.connects (types : TypeRegistry) (type nodeType : GType) : Bool :=
  types.isA nodeType typeNode && types.isA type typeNode &&
    types.isConnectable (gObjectNew type) &&
    connectableIsConnectableTo types (gObjectNew type) nodeType

/-- The node with this id. -/
def Node.withId (node : Node) (id : Option String) : Node :=
  { node with priv := nodeSetProperty node.priv (.id id) }

section

variable (env : Env) (node : Node)

/-- The operation prints the id of the node into a path. -/
def readsId : NodeOp → Bool
  | .getConnectionNodes _ nodeType _ => env.types.connects nodeType node.gtype
  | .appendConnection _ connectNode _ => env.types.connects connectNode.gtype node.gtype
  | _ => false

/-- What an operation does with `priv->id`. -/
def nodeIdOp (op : NodeOp) : FieldOp String NodeAnswer :=
  match idWrite env node op with
  | some id => .write id ((nodeMachine env).out node op)
  | none =>
      if readsId env node op then .read fun id => (nodeMachine env).out (node.withId id) op
      else .skip ((nodeMachine env).out node op)

/-- An operation that does not write the id. -/
theorem nodeIdOp_of_none {op : NodeOp} (h : idWrite env node op = none) :
    nodeIdOp env node op =
      if readsId env node op then .read fun id => (nodeMachine env).out (node.withId id) op
      else .skip ((nodeMachine env).out node op) := by
  rw [nodeIdOp, h]

theorem writes_nodeIdOp (op : NodeOp) :
    (nodeIdOp env node op).writes = (idWrite env node op).isSome := by
  unfold nodeIdOp
  cases idWrite env node op with
  | some id => rfl
  | none => cases hreads : readsId env node op <;> simp [FieldOp.writes]

theorem uses_nodeIdOp (op : NodeOp) :
    (nodeIdOp env node op).uses = ((idWrite env node op).isSome || readsId env node op) := by
  unfold nodeIdOp
  cases idWrite env node op with
  | some id => rfl
  | none => cases hreads : readsId env node op <;> simp [FieldOp.uses]

variable {τ : Type}

/-- Some thread writes the id while another thread writes it or prints it. -/
def IdConflict (programs : τ → List NodeOp) : Prop :=
  ∃ t u, t ≠ u ∧ (∃ op ∈ programs t, (idWrite env node op).isSome = true) ∧
    ∃ op ∈ programs u, (idWrite env node op).isSome = true ∨ readsId env node op = true

theorem fieldConflict_iff (programs : τ → List NodeOp) :
    FieldConflict (nodeIdOp env node) programs ↔ IdConflict env node programs := by
  simp only [FieldConflict, IdConflict, writes_nodeIdOp, uses_nodeIdOp, Bool.or_eq_true]

/-- What threads that share the node do to its id, under a schedule. -/
def nodeThreads [DecidableEq τ] (programs : τ → List NodeOp) (schedule : List τ) :
    Monitor.State τ NodeOp (HeapField String) NodeAnswer :=
  fieldThreads (fun _ => false) (nodeIdOp env node) node.priv.id programs schedule

end

/-- The POST parameters of an instance do not show what `GFBGraphNode` stores:
its id, its link and its times. -/
def PostsNoPrivate (types : TypeRegistry) (node : Node) : Prop :=
  ∀ priv nodeType, connectableGetConnectionPostParams types { node with priv } nodeType =
    connectableGetConnectionPostParams types node nodeType

/-- Those of an album or a photo do not. -/
theorem postsNoPrivate_of_iface {types : TypeRegistry} {node : Node}
    (h : types.iface node.gtype = none ∨ types.iface node.gtype = some albumConnectableIface ∨
      types.iface node.gtype = some photoConnectableIface) : PostsNoPrivate types node := by
  intro priv nodeType
  have hguards : connectablePostParamsGuards types { node with priv } nodeType =
      connectablePostParamsGuards types node nodeType := rfl
  unfold connectableGetConnectionPostParams
  rw [hguards]
  obtain hnone | halbum | hphoto := h
  · simp [hnone]
  · simp only [halbum]
    rfl
  · simp only [hphoto]
    rfl

/-! ## the operation and the id alone -/

section

variable (env : Env) (node : Node)

/-- A listing that is stopped is refused. -/
theorem getConnectionNodes_of_not_connects {nodeType : GType} (authorizer : Authorizer)
    (h : env.types.connects nodeType node.gtype = false) :
    ∃ error, nodeGetConnectionNodes env node nodeType authorizer = { nodes := [], error } := by
  simp only [TypeRegistry.connects, Bool.and_eq_false_iff] at h
  unfold nodeGetConnectionNodes
  split
  · exact ⟨_, rfl⟩
  split
  · exact ⟨_, rfl⟩
  dsimp only
  split
  · exact ⟨_, rfl⟩
  split
  · exact ⟨_, rfl⟩
  simp_all [TypeRegistry.isNode]

/-- So is a connection. -/
theorem appendConnection_of_not_connects (connectNode : Node) (authorizer : Authorizer)
    (h : env.types.connects connectNode.gtype node.gtype = false) :
    ∃ error, nodeAppendConnection env node connectNode authorizer =
      { success := false, connectNode, error } := by
  simp only [TypeRegistry.connects, Bool.and_eq_false_iff, TypeRegistry.isConnectable,
    connectableIsConnectableTo, gObjectNew] at h
  unfold nodeAppendConnection
  split
  · exact ⟨_, rfl⟩
  split
  · exact ⟨_, rfl⟩
  split
  · exact ⟨_, rfl⟩
  split
  · exact ⟨_, rfl⟩
  simp_all [TypeRegistry.isNode, TypeRegistry.isConnectable, connectableIsConnectableTo]

/-- Otherwise the `POST` decides. -/
theorem appendConnection_of_connects (connectNode : Node) (authorizer : Authorizer)
    (h : env.types.connects connectNode.gtype node.gtype = true) :
    nodeAppendConnection env node connectNode authorizer =
      sendPost env connectNode (appendCall env authorizer node connectNode) := by
  simp only [TypeRegistry.connects, Bool.and_eq_true] at h
  obtain ⟨⟨⟨hnode, htype⟩, hiface⟩, hconnectable⟩ := h
  have hiface' : env.types.isConnectable connectNode = true := hiface
  have hconnectable' : connectableIsConnectableTo env.types connectNode node.gtype = true :=
    hconnectable
  simp [nodeAppendConnection, TypeRegistry.isNode, hnode, htype, hiface', hconnectable']

variable {node}

theorem nodeSetId_priv (priv : NodePrivate) (id : Option String) :
    ∃ priv', nodeSetId { node with priv } id = { node with priv := priv' } := by
  cases id <;> exact ⟨_, rfl⟩

/-- Being appended issues, answers and assigns the same whatever the instance
stores, and leaves everything else of it as it is. -/
theorem appendConnection_priv (hparams : PostsNoPrivate env.types node) (parent : Node)
    (authorizer : Authorizer) (priv : NodePrivate) :
    let result := nodeAppendConnection env parent { node with priv } authorizer
    let result' := nodeAppendConnection env parent node authorizer
    result.requests = result'.requests ∧ result.success = result'.success ∧
      result.assigned = result'.assigned ∧
      ∃ priv', result.connectNode = { node with priv := priv' } := by
  intro result result'
  cases hconnects : env.types.connects node.gtype parent.gtype with
  | false =>
      obtain ⟨error, hresult⟩ :=
        appendConnection_of_not_connects env parent { node with priv } authorizer hconnects
      obtain ⟨error', hresult'⟩ :=
        appendConnection_of_not_connects env parent node authorizer hconnects
      rw [show result = _ from hresult, show result' = _ from hresult']
      exact ⟨rfl, rfl, rfl, priv, rfl⟩
  | true =>
      have hresult :=
        appendConnection_of_connects env parent { node with priv } authorizer hconnects
      have hcall : appendCall env authorizer parent { node with priv } =
          appendCall env authorizer parent node := by
        unfold appendCall
        rw [hparams priv]
        rfl
      rw [hcall] at hresult
      rw [show result = _ from hresult,
        show result' = _ from appendConnection_of_connects env parent node authorizer hconnects]
      unfold sendPost
      cases env.restProxyCallSync (appendCall env authorizer parent node) with
      | error e => exact ⟨rfl, rfl, rfl, priv, rfl⟩
      | ok payload => exact ⟨rfl, rfl, rfl, nodeSetId_priv priv _⟩

/-- A refused listing and a refused connection do not look at the private struct. -/
theorem out_listing_refused {nodeType : GType}
    (h : env.types.connects nodeType node.gtype = false)
    (server : RestProxyCall → Except LibError String) (authorizer : Authorizer)
    (priv : NodePrivate) :
    (nodeMachine env).out { node with priv } (.getConnectionNodes server nodeType authorizer) =
      (nodeMachine env).out node (.getConnectionNodes server nodeType authorizer) := by
  obtain ⟨error, hresult⟩ :=
    getConnectionNodes_of_not_connects (env.withServer server) node authorizer h
  obtain ⟨error', hresult'⟩ :=
    getConnectionNodes_of_not_connects (env.withServer server) { node with priv } authorizer h
  simp only [nodeMachine, Machine.out, nodeStep, hresult, hresult']

theorem out_connection_refused {connectNode : Node}
    (h : env.types.connects connectNode.gtype node.gtype = false)
    (server : RestProxyCall → Except LibError String) (authorizer : Authorizer)
    (priv : NodePrivate) :
    (nodeMachine env).out { node with priv } (.appendConnection server connectNode authorizer) =
      (nodeMachine env).out node (.appendConnection server connectNode authorizer) := by
  obtain ⟨error, hresult⟩ :=
    appendConnection_of_not_connects (env.withServer server) node connectNode authorizer h
  obtain ⟨error', hresult'⟩ := appendConnection_of_not_connects (env.withServer server)
    { node with priv } connectNode authorizer h
  simp only [nodeMachine, Machine.out, nodeStep, hresult, hresult']

end

section

variable {env : Env} {node : Node} (hparams : PostsNoPrivate env.types node)

include hparams

theorem idWrite_priv (priv : NodePrivate) (op : NodeOp) :
    idWrite env { node with priv } op = idWrite env node op := by
  cases op with
  | appendTo server parent authorizer =>
      have hassigned :=
        (appendConnection_priv (env.withServer server) hparams parent authorizer priv).2.2.1
      exact congrArg (Option.map some) hassigned
  | setProperty property => cases property <;> rfl
  | setId id => cases id <;> rfl
  | getConnectionNodes server nodeType authorizer => rfl
  | appendConnection server connectNode authorizer => rfl

/-- An operation keeps everything but the private struct of `GFBGraphNode`. -/
theorem nodeMachine_next_priv (priv : NodePrivate) (op : NodeOp) :
    ∃ priv', (nodeMachine env).next { node with priv } op = { node with priv := priv' } := by
  cases op with
  | setProperty property => exact ⟨_, rfl⟩
  | setId id => exact nodeSetId_priv priv id
  | getConnectionNodes server nodeType authorizer => exact ⟨_, rfl⟩
  | appendConnection server connectNode authorizer => exact ⟨_, rfl⟩
  | appendTo server parent authorizer =>
      exact (appendConnection_priv (env.withServer server) hparams parent authorizer priv).2.2.2

/-- What an operation answers depends on the id only, and only if it reads it. -/
theorem nodeMachine_out_priv (priv : NodePrivate) (op : NodeOp) :
    (nodeMachine env).out { node with priv } op = ((nodeIdOp env node op).serve priv.id).2 := by
  cases op with
  | setProperty property => cases property <;> rfl
  | setId id => cases id <;> rfl
  | getConnectionNodes server nodeType authorizer =>
      rw [nodeIdOp_of_none env node rfl, readsId]
      cases hconnects : env.types.connects nodeType node.gtype with
      | true => rfl
      | false => exact out_listing_refused env hconnects server authorizer priv
  | appendConnection server connectNode authorizer =>
      rw [nodeIdOp_of_none env node rfl, readsId]
      cases hconnects : env.types.connects connectNode.gtype node.gtype with
      | true => rfl
      | false => exact out_connection_refused env hconnects server authorizer priv
  | appendTo server parent authorizer =>
      obtain ⟨hrequests, hsuccess, -, -⟩ :=
        appendConnection_priv (env.withServer server) hparams parent authorizer priv
      have hout : (nodeMachine env).out { node with priv } (.appendTo server parent authorizer) =
          (nodeMachine env).out node (.appendTo server parent authorizer) := by
        simp only [nodeMachine, Machine.out, nodeStep, hrequests, hsuccess]
      rw [hout, nodeIdOp]
      cases idWrite env node (.appendTo server parent authorizer) <;> rfl

/-- **Step lemma**: on the id, an operation does what `nodeIdOp` does. -/
theorem nodeMachine_next_id (priv : NodePrivate) (op : NodeOp) :
    ∃ priv', (nodeMachine env).next { node with priv } op = { node with priv := priv' } ∧
      priv'.id = ((nodeIdOp env node op).serve priv.id).1 := by
  obtain ⟨priv', hnext⟩ := nodeMachine_next_priv hparams priv op
  have hid : priv'.id = (idWrite env node op).getD priv.id := by
    have hget := (idRegister env).get_next { node with priv } op
    rw [hnext] at hget
    rw [← idWrite_priv hparams priv op]
    exact hget
  refine ⟨priv', hnext, ?_⟩
  rw [hid]
  cases hwrite : idWrite env node op with
  | some id => simp [nodeIdOp, hwrite, FieldOp.serve]
  | none =>
      rw [nodeIdOp_of_none env node hwrite]
      split <;> rfl

/-- **Run lemma**: a run of the node answers as operations on its id. -/
theorem outs_nodeIdOp (priv : NodePrivate) (ops : List NodeOp) :
    (fieldMachine (nodeIdOp env node)).outs priv.id ops =
      (nodeMachine env).outs { node with priv } ops := by
  induction ops generalizing priv with
  | nil => rfl
  | cons op ops ih =>
      obtain ⟨priv', hnext, hid⟩ := nodeMachine_next_id hparams priv op
      rw [Machine.outs_cons, Machine.outs_cons, hnext, ← ih priv', hid,
        nodeMachine_out_priv hparams priv op]
      rfl

end

/-- **Who may share a node**: threads that share a node with an id never use a
freed id, in any schedule, exactly when no thread writes the id (sets it,
or appends the node and is answered one) while another writes it or prints it
into a path; then every thread is answered as if it were alone with the node. -/
theorem node_threads_safe_iff {τ : Type} [DecidableEq τ] (env : Env) (node : Node) {id : String}
    (hid : node.priv.id = some id) (hparams : PostsNoPrivate env.types node)
    (programs : τ → List NodeOp) :
    ((∀ schedule, (nodeThreads env node programs schedule).shared.fault = false) ↔
      ¬IdConflict env node programs) ∧
    (¬IdConflict env node programs → ∀ schedule t,
      Monitor.answersTo (nodeThreads env node programs schedule).answered t =
        (nodeMachine env).outs node
          (Monitor.answeredBy (nodeThreads env node programs schedule).answered t)) := by
  rw [← fieldConflict_iff]
  constructor
  · unfold nodeThreads
    rw [hid]
    exact fault_eq_false_iff (fun _ _ => rfl) id
  · intro hconflict schedule t
    rw [← outs_nodeIdOp hparams node.priv]
    exact answersTo_of_not_conflict hconflict node.priv.id schedule t

/-- A worker lists the albums of a user, and the client sets the id. -/
def listWhileSetting : Bool → List NodeOp
  | true => [.getConnectionNodes (fun _ => .ok "") typeAlbum .anonymous]
  | false => [.setId (some "me")]

/-- Some schedule lets the worker print a freed id. -/
theorem node_threads_safe_iff_listing :
    ¬∀ schedule, (nodeThreads (.answering "{}") (nodeSetId (gObjectNew typeUser) (some "4"))
      listWhileSetting schedule).shared.fault = false := by
  rw [(node_threads_safe_iff (.answering "{}") (nodeSetId (gObjectNew typeUser) (some "4")) rfl
    (postsNoPrivate_of_iface (Or.inl (by decide))) listWhileSetting).1, not_not]
  exact ⟨false, true, by decide, ⟨_, List.mem_singleton_self _, rfl⟩,
    ⟨_, List.mem_singleton_self _, Or.inr (by decide)⟩⟩

end GFBGraph
