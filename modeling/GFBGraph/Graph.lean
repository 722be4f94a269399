import GFBGraph.Rest
import GFBGraph.Types

/-!
# GFBGraph.Graph

The synchronous operations against the Graph API: single-node fetches, the
list of connected nodes, and appending a connection.  Each is a function of
the environment the process runs in, returns what the C function returns
together with the `GError` it set, and records the requests it issued.
-/

namespace GFBGraph

/-- What a process runs against.  A request is answered by a payload or by the
error of a failed transport or HTTP status; a hash-table iterator yields the
entries in some order of its own. -/
structure Env where
  types : TypeRegistry
  json : JsonGlib
  /-- `g_hash_table_iter_next`, called until it returns `FALSE`. -/
  iter : GHashTable (Option String) → List (String × Option String)
  iter_perm : ∀ table, (iter table).Perm table.pairs
  /-- `rest_proxy_call_sync`, then `rest_proxy_call_get_payload`. -/
  restProxyCallSync : RestProxyCall → Except LibError String

/-- A process with the built-in classes only, whose server answers every
request with the same payload. -/
def Env.answering (payload : String) : Env where
  types := .builtin
  json := emptyContainersJson
  iter := GHashTable.pairs
  iter_perm _ := List.Perm.refl _
  restProxyCallSync _ := .ok payload

/-- The same process, with a server that answers every request with `payload`,
the text of an object of these members. -/
def Env.answeringObject (env : Env) (payload : String) (members : JsonObject) : Env :=
  { env with
    json := { env.json with
      loadFromData := fun text =>
        if text = payload then { root := some (.object members), error := none }
        else env.json.loadFromData text }
    restProxyCallSync := fun _ => .ok payload }

@[simp] theorem loadFromData_answeringObject (env : Env) (payload : String)
    (members : JsonObject) :
    (env.answeringObject payload members).json.loadFromData payload =
      { root := some (.object members), error := none } := if_pos rfl

/-- What a fetch of one node returns, sets and issues. -/
structure NodeResult where
  node : Option Node
  error : Option GError := none
  requests : List RestProxyCall := []

/-- What a fetch of connected nodes returns, sets and issues. -/
structure NodesResult where
  nodes : List (Option Node)
  error : Option GError := none
  requests : List RestProxyCall := []

/-- What appending a connection returns, sets and issues: `connectNode` is the
node it was given as the call leaves it, and `assigned` the id handed to
`g_object_set`, if that was called. -/
structure AppendResult where
  success : Bool
  connectNode : Node
  assigned : Option String := none
  error : Option GError := none
  requests : List RestProxyCall := []

/-! ## single nodes -/

/-- The tail `gfbgraph_node_new_from_id` and `gfbgraph_user_get_me` share: send
the call and decode its payload as an object of the given type. -/
def fetchNode (env : Env) (restCall : RestProxyCall) (nodeType : GType) : NodeResult :=
  match env.restProxyCallSync restCall with
  | .error e => { node := none, error := some (.rest e), requests := [restCall] }
  | .ok payload =>
      let jparser := env.json.loadFromData payload
      if jparser.loaded then
        { node := jsonGobjectDeserialize env.json nodeType jparser.root, requests := [restCall] }
      else
        { node := none, error := jparser.error.map .json, requests := [restCall] }

/-- The call of `gfbgraph_node_new_from_id`. -/
def newFromIdCall (authorizer : Authorizer) (id : String) : RestProxyCall :=
  restProxyCallSetFunction (restProxyCallSetMethod (newRestCall authorizer) "GET") id

/-- `gfbgraph_node_new_from_id`. -/
def nodeNewFromId (env : Env) (authorizer : Authorizer) (id : String) (nodeType : GType) :
    NodeResult :=
  if id.length = 0 then { node := none }
  else if env.types.isA nodeType typeNode = false then { node := none }
  else fetchNode env (newFromIdCall authorizer id) nodeType

/-- The call of `gfbgraph_user_get_me`. -/
def getMeCall (authorizer : Authorizer) : RestProxyCall :=
  let restCall := restProxyCallSetFunction (newRestCall authorizer) "me"
  restProxyCallAddParam (restProxyCallSetMethod restCall "GET") "fields" (some "name,email")

/-- `gfbgraph_user_get_me`. -/
def userGetMe (env : Env) (authorizer : Authorizer) : NodeResult :=
  fetchNode env (getMeCall authorizer) typeUser

/-! ## connected nodes -/

/-- `GFBGRAPH_NODE_ERROR_NO_CONNECTABLE`. -/
def noConnectable (message : String) : GError := .node .noConnectable message

/-- A call on the connection `path` of `node`. -/
def connectionCall (authorizer : Authorizer) (method : String) (node : Node)
    (path : Option String) : RestProxyCall :=
  restProxyCallSetFunction (restProxyCallSetMethod (newRestCall authorizer) method)
    (gStrdupPrintfPath node.priv.id path)

/-- `gfbgraph_node_get_connection_nodes` from sending the call on: the payload
goes to the parser of the dummy instance. -/
def sendGet (env : Env) (connectedNode : Node) (restCall : RestProxyCall) : NodesResult :=
  match env.restProxyCallSync restCall with
  | .error e => { nodes := [], error := some (.rest e), requests := [restCall] }
  | .ok payload =>
      let parsed := connectableParseConnectedData env.types connectedNode env.json payload
      { nodes := parsed.nodes, error := parsed.error, requests := [restCall] }

/-- `gfbgraph_node_get_connection_nodes`. -/
def nodeGetConnectionNodes (env : Env) (node : Node) (nodeType : GType)
    (authorizer : Authorizer) : NodesResult :=
  if env.types.isNode node = false then { nodes := [] }
  else if env.types.isA nodeType typeNode = false then { nodes := [] }
  else
    let connectedNode := gObjectNew nodeType
    if env.types.isConnectable connectedNode = false then
      { nodes := []
        error := noConnectable ("The given node type (" ++ gTypeName nodeType ++
          ") doesn't implement connectable interface") }
    else if connectableIsConnectableTo env.types connectedNode node.gtype = false then
      { nodes := []
        error := noConnectable ("The given node type (" ++ gTypeName nodeType ++
          ") can't connect with the node") }
    else
      sendGet env connectedNode (connectionCall authorizer "GET" node
        (connectableGetConnectionPath env.types connectedNode node.gtype))

/-- `gfbgraph_user_get_albums`. -/
def userGetAlbums (env : Env) (user : Node) (authorizer : Authorizer) : NodesResult :=
  if env.types.isUser user = false then { nodes := [] }
  else nodeGetConnectionNodes env user typeAlbum authorizer

/-! ## appending -/

/-- The loop that adds the post parameters to a call. -/
def addPostParams (env : Env) (params : Option (GHashTable (Option String)))
    (restCall : RestProxyCall) : RestProxyCall :=
  match params with
  | none => restCall
  | some params =>
      if gHashTableSize (some params) > 0 then
        (env.iter params).foldl (fun call entry => restProxyCallAddParam call entry.1 entry.2)
          restCall
      else restCall

/-- The call of `gfbgraph_node_append_connection`. -/
def appendCall (env : Env) (authorizer : Authorizer) (node connectNode : Node) : RestProxyCall :=
  addPostParams env (connectableGetConnectionPostParams env.types connectNode node.gtype)
    (connectionCall authorizer "POST" node
      (connectableGetConnectionPath env.types connectNode node.gtype))

/-- The id the response to a POST is read for: the string at the first element
of its root. -/
def responseId (jparser : JsonParser) : Option String :=
  jsonReaderGetStringValue (jsonReaderReadElement (jsonReaderNew jparser.root) 0)

/-- `gfbgraph_node_append_connection` from sending the call on: whatever the
parser reports, the id read from its root is set and the call succeeds. -/
def sendPost (env : Env) (connectNode : Node) (restCall : RestProxyCall) : AppendResult :=
  match env.restProxyCallSync restCall with
  | .error e => { success := false, connectNode, error := some (.rest e), requests := [restCall] }
  | .ok payload =>
      let jparser := env.json.loadFromData payload
      let id := responseId jparser
      { success := true
        connectNode := nodeSetId connectNode id
        assigned := id
        error := jparser.error.map .json
        requests := [restCall] }

/-- `gfbgraph_node_append_connection`. -/
def nodeAppendConnection (env : Env) (node connectNode : Node) (authorizer : Authorizer) :
    AppendResult :=
  if env.types.isNode node = false then { success := false, connectNode }
  else if env.types.isNode connectNode = false then { success := false, connectNode }
  else if env.types.isConnectable connectNode = false then
    { success := false, connectNode
      error := noConnectable ("The given node type (" ++ gTypeName connectNode.gtype ++
        ") doesn't implement connectable interface") }
  else if connectableIsConnectableTo env.types connectNode node.gtype = false then
    { success := false, connectNode
      error := noConnectable ("The given node type (" ++ gTypeName node.gtype ++
        ") can't append a " ++ gTypeName connectNode.gtype ++ " connection") }
  else sendPost env connectNode (appendCall env authorizer node connectNode)

/-! ## requests sent -/

@[simp] theorem requests_sendGet (env : Env) (connectedNode : Node) (restCall : RestProxyCall) :
    (sendGet env connectedNode restCall).requests = [restCall] := by
  unfold sendGet
  cases env.restProxyCallSync restCall <;> rfl

@[simp] theorem requests_sendPost (env : Env) (connectNode : Node) (restCall : RestProxyCall) :
    (sendPost env connectNode restCall).requests = [restCall] := by
  unfold sendPost
  cases env.restProxyCallSync restCall <;> rfl

end GFBGraph
