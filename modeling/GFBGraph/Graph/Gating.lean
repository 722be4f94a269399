import GFBGraph.Graph

/-!
# GFBGraph.Graph.Gating

Which connection requests go out, and where to.  Both request builders are
first reduced to the one question `TypeRegistry.connection` answers — does the
connected type have an entry for the name of the node's type — by a spec lemma
for each answer; gating, routing and what subtyping does and does not carry
over follow from these.
-/

namespace GFBGraph

/-- The error is `GFBGRAPH_NODE_ERROR_NO_CONNECTABLE`. -/
def IsNoConnectable (error : Option GError) : Prop :=
  ∃ message, error = some (noConnectable message)

/-- What the requests of an operation on `node` are, given the path under
which the other side connects to it: none without a path, and with a path
exactly one, sent to that path below the node's id. -/
def RoutedBy (connection : Option String) (node : Node) (requests : List RestProxyCall) : Prop :=
  (requests ≠ [] ↔ ∃ path, connection = some path) ∧
    ∀ path, connection = some path →
      ∃ request, requests = [request] ∧
        request.function = some (printfString node.priv.id ++ "/" ++ path)

/-- No path and no request. -/
theorem routedBy_none (node : Node) : RoutedBy none node [] := by
  constructor
  · simp
  · intro path h
    contradiction

/-- A path and the one request to it. -/
theorem routedBy_some {path : String} {node : Node} {request : RestProxyCall}
    (h : request.function = some (printfString node.priv.id ++ "/" ++ path)) :
    RoutedBy (some path) node [request] := by
  constructor
  · simp
  · intro path' hpath
    rw [← Option.some.inj hpath]
    exact ⟨request, rfl, h⟩

/-! ## spec lemmas of the request builders -/

section

variable {env : Env} (authorizer : Authorizer)

@[simp] theorem function_connectionCall (method : String) (node : Node) (path : String) :
    (connectionCall authorizer method node (some path)).function =
      some (printfString node.priv.id ++ "/" ++ path) := rfl

/-- Adding parameters leaves the function path of a call alone. -/
theorem function_foldl_addParam (entries : List (String × Option String)) (call : RestProxyCall) :
    (entries.foldl (fun call entry => restProxyCallAddParam call entry.1 entry.2) call).function =
      call.function := by
  induction entries generalizing call with
  | nil => rfl
  | cons entry entries ih => rw [List.foldl_cons, ih, function_addParam]

@[simp] theorem function_addPostParams (params : Option (GHashTable (Option String)))
    (call : RestProxyCall) : (addPostParams env params call).function = call.function := by
  cases params with
  | none => rfl
  | some params =>
      rw [addPostParams]
      split
      · exact function_foldl_addParam _ _
      · rfl

/-- Listing is refused before any request, or the `GET` decides. -/
theorem getConnectionNodes_cases (node : Node) (nodeType : GType) :
    (∃ error, nodeGetConnectionNodes env node nodeType authorizer = { nodes := [], error }) ∨
      nodeGetConnectionNodes env node nodeType authorizer =
        sendGet env (gObjectNew nodeType) (connectionCall authorizer "GET" node
          (connectableGetConnectionPath env.types (gObjectNew nodeType) node.gtype)) := by
  unfold nodeGetConnectionNodes
  split
  · exact Or.inl ⟨_, rfl⟩
  split
  · exact Or.inl ⟨_, rfl⟩
  dsimp only
  split
  · exact Or.inl ⟨_, rfl⟩
  split
  · exact Or.inl ⟨_, rfl⟩
  · exact Or.inr rfl

/-- Appending is refused before any request, or the `POST` decides. -/
theorem appendConnection_cases (node connectNode : Node) :
    (∃ error, nodeAppendConnection env node connectNode authorizer =
        { success := false, connectNode, error }) ∨
      nodeAppendConnection env node connectNode authorizer =
        sendPost env connectNode (appendCall env authorizer node connectNode) := by
  unfold nodeAppendConnection
  split
  · exact Or.inl ⟨_, rfl⟩
  split
  · exact Or.inl ⟨_, rfl⟩
  split
  · exact Or.inl ⟨_, rfl⟩
  split
  · exact Or.inl ⟨_, rfl⟩
  · exact Or.inr rfl

/-- The connected type has no entry for the node: refused before any request. -/
theorem getConnectionNodes_of_none {node : env.types.NodeInstance} {nodeType : env.types.NodeType}
    (h : env.types.connection nodeType.gtype node.node.gtype = none) :
    ∃ message, nodeGetConnectionNodes env node.node nodeType.gtype authorizer =
      { nodes := [], error := some (noConnectable message), requests := [] } := by
  have hnode : env.types.isA node.node.gtype typeNode = true := node.isNode
  have hconn := isConnectableTo_eq (gObjectNew nodeType.gtype) hnode
  have hfalse : connectableIsConnectableTo env.types (gObjectNew nodeType.gtype)
      node.node.gtype = false := by
    rw [hconn]
    change (env.types.connection nodeType.gtype node.node.gtype).isSome = false
    rw [h, Option.isSome_none]
  unfold nodeGetConnectionNodes
  rw [node.isNode, nodeType.isNode]
  by_cases himpl : env.types.isConnectable (gObjectNew nodeType.gtype) = true
  · exact ⟨_, by simp [himpl, hfalse]; rfl⟩
  · exact ⟨_, by simp [himpl]; rfl⟩

/-- The connected type has an entry: one `GET` on that path. -/
theorem getConnectionNodes_of_some {node : env.types.NodeInstance} {nodeType : env.types.NodeType}
    {path : String} (h : env.types.connection nodeType.gtype node.node.gtype = some path) :
    nodeGetConnectionNodes env node.node nodeType.gtype authorizer =
      sendGet env (gObjectNew nodeType.gtype)
        (connectionCall authorizer "GET" node.node (some path)) := by
  have hnode : env.types.isA node.node.gtype typeNode = true := node.isNode
  have hself : env.types.connection (gObjectNew nodeType.gtype).gtype node.node.gtype =
      some path := h
  have himpl := isConnectable_of_connection hself
  have htrue : connectableIsConnectableTo env.types (gObjectNew nodeType.gtype)
      node.node.gtype = true := by
    rw [isConnectableTo_eq _ hnode, hself, Option.isSome_some]
  have hpath : connectableGetConnectionPath env.types (gObjectNew nodeType.gtype)
      node.node.gtype = some path := by
    rw [getConnectionPath_eq _ hnode, hself]
  unfold nodeGetConnectionNodes
  rw [node.isNode, nodeType.isNode]
  simp [himpl, htrue, hpath]

/-- The node to append has no entry for the node: refused before any request. -/
theorem appendConnection_of_none {node connectNode : env.types.NodeInstance}
    (h : env.types.connection connectNode.node.gtype node.node.gtype = none) :
    ∃ message, nodeAppendConnection env node.node connectNode.node authorizer =
      { success := false, connectNode := connectNode.node
        error := some (noConnectable message), requests := [] } := by
  have hnode : env.types.isA node.node.gtype typeNode = true := node.isNode
  have hfalse : connectableIsConnectableTo env.types connectNode.node node.node.gtype = false := by
    rw [isConnectableTo_eq _ hnode, h, Option.isSome_none]
  unfold nodeAppendConnection
  rw [node.isNode, connectNode.isNode]
  by_cases himpl : env.types.isConnectable connectNode.node = true
  · exact ⟨_, by simp [himpl, hfalse]; rfl⟩
  · exact ⟨_, by simp [himpl]; rfl⟩

/-- The node to append has an entry: one `POST`, whose response decides the
rest. -/
theorem appendConnection_of_some {node connectNode : env.types.NodeInstance} {path : String}
    (h : env.types.connection connectNode.node.gtype node.node.gtype = some path) :
    nodeAppendConnection env node.node connectNode.node authorizer =
      sendPost env connectNode.node (appendCall env authorizer node.node connectNode.node) := by
  have hnode : env.types.isA node.node.gtype typeNode = true := node.isNode
  have himpl := isConnectable_of_connection h
  have htrue : connectableIsConnectableTo env.types connectNode.node node.node.gtype = true := by
    rw [isConnectableTo_eq _ hnode, h, Option.isSome_some]
  unfold nodeAppendConnection
  rw [node.isNode, connectNode.isNode]
  simp [himpl, htrue]

/-- The `POST` goes to the connection's path. -/
theorem function_appendCall {node connectNode : env.types.NodeInstance} {path : String}
    (h : env.types.connection connectNode.node.gtype node.node.gtype = some path) :
    (appendCall env authorizer node.node connectNode.node).function =
      some (printfString node.node.priv.id ++ "/" ++ path) := by
  have hpath := getConnectionPath_eq connectNode.node node.isNode
  rw [appendCall, function_addPostParams, hpath, h, function_connectionCall]

end

/-! ## gating and routing -/

/-- **Connection requests are gated and routed by the connection table.**
Listing connected nodes and appending a connection issue a request exactly when
the connected type has an entry for the name of the node's own type, and then
to the path of that entry; without one they fail with
`GFBGRAPH_NODE_ERROR_NO_CONNECTABLE` and leave everything alone.  The three
functions that consult the table agree on every pair of types. -/
theorem connection_requests_gated (env : Env) (node : env.types.NodeInstance)
    (authorizer : Authorizer) :
    (∀ nodeType : env.types.NodeType,
      let connection := env.types.connection nodeType.gtype node.node.gtype
      let result := nodeGetConnectionNodes env node.node nodeType.gtype authorizer
      RoutedBy connection node.node result.requests ∧
        (connection = none → result.nodes = [] ∧ IsNoConnectable result.error)) ∧
    (∀ connectNode : env.types.NodeInstance,
      let connection := env.types.connection connectNode.node.gtype node.node.gtype
      let result := nodeAppendConnection env node.node connectNode.node authorizer
      RoutedBy connection node.node result.requests ∧
        (connection = none → result.success = false ∧ result.connectNode = connectNode.node ∧
          IsNoConnectable result.error)) ∧
    (∀ (self : Node) (nodeType : env.types.NodeType),
      (connectableIsConnectableTo env.types self nodeType.gtype = true ↔
        connectableGetConnectionPath env.types self nodeType.gtype ≠ none) ∧
      (connectableGetConnectionPath env.types self nodeType.gtype ≠ none ↔
        connectablePostParamsGuards env.types self nodeType.gtype = true)) := by
  refine ⟨fun nodeType => ?_, fun connectNode => ?_, fun self nodeType => ?_⟩
  · dsimp only
    cases hconn : env.types.connection nodeType.gtype node.node.gtype with
    | none =>
        obtain ⟨message, hresult⟩ := getConnectionNodes_of_none authorizer hconn
        rw [hresult]
        exact ⟨routedBy_none _, fun _ => ⟨rfl, message, rfl⟩⟩
    | some path =>
        rw [getConnectionNodes_of_some authorizer hconn, requests_sendGet]
        exact ⟨routedBy_some rfl, fun h => nomatch h⟩
  · dsimp only
    cases hconn : env.types.connection connectNode.node.gtype node.node.gtype with
    | none =>
        obtain ⟨message, hresult⟩ := appendConnection_of_none authorizer hconn
        rw [hresult]
        exact ⟨routedBy_none _, fun _ => ⟨rfl, rfl, message, rfl⟩⟩
    | some path =>
        have hfunction := function_appendCall authorizer hconn
        rw [appendConnection_of_some authorizer hconn, requests_sendPost]
        exact ⟨routedBy_some hfunction, fun h => nomatch h⟩
  · rw [isConnectableTo_eq self nodeType.isNode, getConnectionPath_eq self nodeType.isNode,
      postParamsGuards_eq self nodeType.isNode, Option.isSome_iff_ne_none]
    exact ⟨Iff.rfl, Iff.rfl⟩

end GFBGraph
