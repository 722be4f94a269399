import GFBGraph.Async
import GFBGraph.Graph.Gating
import GFBGraph.Photo.Download

/-!
# GFBGraph.Graph.Ownership

The synchronous functions once more, with the references they keep in their
local variables.  Each is the function of `GFBGraph.Graph`, statement by
statement as the source has it, and returns the same result
(`ApiCall.sameValue`); what it adds are the actions on the references.

`references_of_session` holds of every session of such calls: nothing is
released twice or after it was given away, and what is never released is the
call of every `gfbgraph_user_get_me`, the test node of every list of connected
nodes that is refused for want of a connection, the parameters of every
connection that is appended, and the session of every download that fails.
-/

namespace GFBGraph

open Lib
open Owning (acquire release give giveNew)

/-- The local variables that hold references, and what a result is made of. -/
inductive RefVar where
  | proxy
  | restCall
  | functionPath
  | jparser
  | jreader
  | params
  | connectedNode
  | result (item : AsyncItem)
  | download (var : DownloadRef)
  deriving DecidableEq, Repr

/-- A list that is returned, its cells and its nodes. -/
def giveList (nodes : List (Option Node)) : Owning RefVar Unit :=
  giveNew ((listItems nodes).map .result)

/-- A node that is returned. -/
def giveNode (node : Option Node) : Owning RefVar Unit := giveNew ((userItems node).map .result)

/-! ## the functions -/

/-- `gfbgraph_new_rest_call`. -/
def newRestCallOwning (authorizer : Authorizer) : Owning RefVar RestProxyCall := do
  acquire .proxy
  acquire .restCall
  let restCall := authorizer.processCall restProxyNewCall
  release .proxy
  return restCall

/-- What `gfbgraph_node_new_from_id` and `gfbgraph_user_get_me` make of a parsed
payload. -/
def decodeNodeOwning (env : Env) (restCall : RestProxyCall) (nodeType : GType)
    (jparser : JsonParser) : Owning RefVar NodeResult :=
  if jparser.loaded then do
    let node := jsonGobjectDeserialize env.json nodeType jparser.root
    giveNode node
    return { node, requests := [restCall] }
  else return { node := none, error := jparser.error.map .json, requests := [restCall] }

/-- `gfbgraph_node_new_from_id` and `gfbgraph_user_get_me`, sending the call. -/
def fetchNodeOwning (env : Env) (restCall : RestProxyCall) (nodeType : GType) :
    Owning RefVar NodeResult :=
  match env.restProxyCallSync restCall with
  | .error e => return { node := none, error := some (.rest e), requests := [restCall] }
  | .ok payload => do
      acquire .jparser
      let result ← decodeNodeOwning env restCall nodeType (env.json.loadFromData payload)
      release .jparser
      return result

/-- `gfbgraph_node_new_from_id`. -/
def nodeNewFromIdOwning (env : Env) (authorizer : Authorizer) (id : String) (nodeType : GType) :
    Owning RefVar NodeResult :=
  if id.length = 0 then pure { node := none }
  else if env.types.isA nodeType typeNode = false then pure { node := none }
  else do
    let restCall ← newRestCallOwning authorizer
    let restCall := restProxyCallSetFunction (restProxyCallSetMethod restCall "GET") id
    let result ← fetchNodeOwning env restCall nodeType
    release .restCall
    return result

/-- `gfbgraph_user_get_me`.  The call is not unreffed. -/
def userGetMeOwning (env : Env) (authorizer : Authorizer) : Owning RefVar NodeResult := do
  let restCall ← newRestCallOwning authorizer
  let restCall := restProxyCallSetMethod (restProxyCallSetFunction restCall "me") "GET"
  let restCall := restProxyCallAddParam restCall "fields" (some "name,email")
  fetchNodeOwning env restCall typeUser

/-- A call on the connection `path` of `node`. -/
def connectionCallOwning (authorizer : Authorizer) (method : String) (node : Node)
    (path : Option String) : Owning RefVar RestProxyCall := do
  let restCall ← newRestCallOwning authorizer
  acquire .functionPath
  let restCall := restProxyCallSetFunction (restProxyCallSetMethod restCall method)
    (gStrdupPrintfPath node.priv.id path)
  release .functionPath
  return restCall

/-- `gfbgraph_node_get_connection_nodes`, sending the call. -/
def sendGetOwning (env : Env) (connectedNode : Node) (restCall : RestProxyCall) :
    Owning RefVar NodesResult :=
  match env.restProxyCallSync restCall with
  | .error e => pure { nodes := [], error := some (.rest e), requests := [restCall] }
  | .ok payload => do
      let parsed := connectableParseConnectedData env.types connectedNode env.json payload
      giveList parsed.nodes
      pure { nodes := parsed.nodes, error := parsed.error, requests := [restCall] }

/-- `gfbgraph_node_get_connection_nodes`.  The two refusals return without
unreffing the test node. -/
def nodeGetConnectionNodesOwning (env : Env) (node : Node) (nodeType : GType)
    (authorizer : Authorizer) : Owning RefVar NodesResult :=
  if env.types.isNode node = false then pure { nodes := [] }
  else if env.types.isA nodeType typeNode = false then pure { nodes := [] }
  else do
    acquire .connectedNode
    let connectedNode := gObjectNew nodeType
    if env.types.isConnectable connectedNode = false then
      pure { nodes := []
             error := noConnectable ("The given node type (" ++ gTypeName nodeType ++
               ") doesn't implement connectable interface") }
    else if connectableIsConnectableTo env.types connectedNode node.gtype = false then
      pure { nodes := []
             error := noConnectable ("The given node type (" ++ gTypeName nodeType ++
               ") can't connect with the node") }
    else do
      let restCall ← connectionCallOwning authorizer "GET" node
        (connectableGetConnectionPath env.types connectedNode node.gtype)
      let result ← sendGetOwning env connectedNode restCall
      release .connectedNode
      release .restCall
      return result

/-- `gfbgraph_user_get_albums`. -/
def userGetAlbumsOwning (env : Env) (user : Node) (authorizer : Authorizer) :
    Owning RefVar NodesResult :=
  if env.types.isUser user = false then pure { nodes := [] }
  else nodeGetConnectionNodesOwning env user typeAlbum authorizer

/-- A table of parameters that is returned to us, if there is one. -/
def takeParams (params : Option (GHashTable (Option String))) : Owning RefVar Unit :=
  if params.isSome then acquire .params else pure ()

/-- `gfbgraph_node_append_connection`, sending the call. -/
def sendPostOwning (env : Env) (connectNode : Node) (restCall : RestProxyCall) :
    Owning RefVar AppendResult :=
  match env.restProxyCallSync restCall with
  | .error e =>
      pure { success := false, connectNode, error := some (.rest e), requests := [restCall] }
  | .ok payload => do
      acquire .jparser
      let jparser := env.json.loadFromData payload
      acquire .jreader
      let id := responseId jparser
      release .jreader
      release .jparser
      pure { success := true
             connectNode := nodeSetId connectNode id
             assigned := id
             error := jparser.error.map .json
             requests := [restCall] }

/-- `gfbgraph_node_append_connection`.  The table of parameters is not
unreffed. -/
def nodeAppendConnectionOwning (env : Env) (node connectNode : Node) (authorizer : Authorizer) :
    Owning RefVar AppendResult :=
  if env.types.isNode node = false then pure { success := false, connectNode }
  else if env.types.isNode connectNode = false then pure { success := false, connectNode }
  else if env.types.isConnectable connectNode = false then
    pure { success := false, connectNode
           error := noConnectable ("The given node type (" ++ gTypeName connectNode.gtype ++
             ") doesn't implement connectable interface") }
  else if connectableIsConnectableTo env.types connectNode node.gtype = false then
    pure { success := false, connectNode
           error := noConnectable ("The given node type (" ++ gTypeName node.gtype ++
             ") can't append a " ++ gTypeName connectNode.gtype ++ " connection") }
  else do
    let restCall ← connectionCallOwning authorizer "POST" node
      (connectableGetConnectionPath env.types connectNode node.gtype)
    let params := connectableGetConnectionPostParams env.types connectNode node.gtype
    takeParams params
    let restCall := addPostParams env params restCall
    let result ← sendPostOwning env connectNode restCall
    release .restCall
    return result

/-- What the default parser makes of a parsed payload. -/
def decodeNodesOwning (json : JsonGlib) (self : Node) (jparser : JsonParser) :
    Owning RefVar ParsedNodes :=
  if jparser.loaded then do
    let mainJobject := jsonNodeGetObject jparser.root
    let nodesJarray := jsonObjectGetArrayMember mainJobject "data"
    let nodes := parseLoop json self.gtype nodesJarray
    giveList nodes
    return { nodes, error := none }
  else return { nodes := [], error := jparser.error.map .json }

/-- `gfbgraph_connectable_default_parse_connected_data`. -/
def connectableDefaultParseConnectedDataOwning (json : JsonGlib) (self : Node)
    (payload : String) : Owning RefVar ParsedNodes := do
  acquire .jparser
  let parsed ← decodeNodesOwning json self (json.loadFromData payload)
  release .jparser
  return parsed

/-! ## the results -/

section

variable (env : Env) (authorizer : Authorizer)

theorem value_fetchNodeOwning (restCall : RestProxyCall) (nodeType : GType) :
    (fetchNodeOwning env restCall nodeType).value = fetchNode env restCall nodeType := by
  unfold fetchNodeOwning fetchNode
  cases env.restProxyCallSync restCall with
  | error e => rfl
  | ok payload =>
      cases hloaded : (env.json.loadFromData payload).loaded <;> simp [decodeNodeOwning, hloaded]

theorem value_nodeNewFromIdOwning (id : String) (nodeType : GType) :
    (nodeNewFromIdOwning env authorizer id nodeType).value =
      nodeNewFromId env authorizer id nodeType := by
  unfold nodeNewFromIdOwning nodeNewFromId
  split
  · rfl
  · split
    · rfl
    · exact value_fetchNodeOwning env _ nodeType

theorem value_userGetMeOwning :
    (userGetMeOwning env authorizer).value = userGetMe env authorizer :=
  value_fetchNodeOwning env _ typeUser

theorem value_sendGetOwning (connectedNode : Node) (restCall : RestProxyCall) :
    (sendGetOwning env connectedNode restCall).value = sendGet env connectedNode restCall := by
  unfold sendGetOwning sendGet
  cases env.restProxyCallSync restCall <;> rfl

theorem value_nodeGetConnectionNodesOwning (node : Node) (nodeType : GType) :
    (nodeGetConnectionNodesOwning env node nodeType authorizer).value =
      nodeGetConnectionNodes env node nodeType authorizer := by
  unfold nodeGetConnectionNodesOwning nodeGetConnectionNodes
  split
  · rfl
  · split
    · rfl
    · dsimp only [Owning.value_bind]
      split
      · rfl
      · split
        · rfl
        · exact value_sendGetOwning env _ _

theorem value_userGetAlbumsOwning (user : Node) :
    (userGetAlbumsOwning env user authorizer).value = userGetAlbums env user authorizer := by
  unfold userGetAlbumsOwning userGetAlbums
  split
  · rfl
  · exact value_nodeGetConnectionNodesOwning env authorizer user typeAlbum

theorem value_sendPostOwning (connectNode : Node) (restCall : RestProxyCall) :
    (sendPostOwning env connectNode restCall).value = sendPost env connectNode restCall := by
  unfold sendPostOwning sendPost
  cases env.restProxyCallSync restCall <;> rfl

theorem value_nodeAppendConnectionOwning (node connectNode : Node) :
    (nodeAppendConnectionOwning env node connectNode authorizer).value =
      nodeAppendConnection env node connectNode authorizer := by
  unfold nodeAppendConnectionOwning nodeAppendConnection
  split
  · rfl
  · split
    · rfl
    · split
      · rfl
      · split
        · rfl
        · exact value_sendPostOwning env connectNode _

theorem value_defaultParseOwning (json : JsonGlib) (self : Node) (payload : String) :
    (connectableDefaultParseConnectedDataOwning json self payload).value =
      connectableDefaultParseConnectedData json self payload := by
  unfold connectableDefaultParseConnectedDataOwning connectableDefaultParseConnectedData
  cases hloaded : (json.loadFromData payload).loaded <;> simp [decodeNodesOwning, hloaded]

end

/-! ## the references -/

theorem nodup_listItems (nodes : List (Option Node)) : (listItems nodes).Nodup := by
  have hcells : (cellItems nodes).Nodup :=
    List.Nodup.map (fun i j hij => AsyncItem.cell.inj hij) List.nodup_range
  have hnodes : (nodeItems nodes).Nodup := by
    refine List.Nodup.filterMap (fun i j item hi hj => ?_) List.nodup_range
    split at hi
    · split at hj
      · exact AsyncItem.node.inj ((Option.mem_some.1 hi).trans (Option.mem_some.1 hj).symm)
      · contradiction
    · contradiction
  refine List.nodup_append.2 ⟨hcells, hnodes, fun a ha b hb hab => ?_⟩
  obtain ⟨i, -, hi⟩ := mem_cellItems.1 ha
  obtain ⟨j, node, -, hj⟩ := mem_nodeItems.1 hb
  rw [hab, hj] at hi
  contradiction

/-- No part of a result is among these references. -/
def NoResult (held : Finset RefVar) : Prop := ∀ item, RefVar.result item ∉ held

theorem settle_giveItems {held : Finset RefVar} (hheld : NoResult held) {items : List AsyncItem}
    (hitems : items.Nodup) :
    RefAction.settle held (giveNew (items.map RefVar.result)).actions = some held := by
  refine RefAction.settle_giveNew (hitems.map fun a b hab => RefVar.result.inj hab) ?_
  intro v hv
  obtain ⟨item, -, hitem⟩ := List.mem_map.1 hv
  rw [← hitem]
  exact hheld item

theorem settle_giveList {held : Finset RefVar} (hheld : NoResult held)
    (nodes : List (Option Node)) :
    RefAction.settle held (giveList nodes).actions = some held :=
  settle_giveItems hheld (nodup_listItems nodes)

theorem settle_giveNode {held : Finset RefVar} (hheld : NoResult held) (node : Option Node) :
    RefAction.settle held (giveNode node).actions = some held := by
  refine settle_giveItems hheld ?_
  cases node <;> simp [userItems]

section

variable (env : Env) (authorizer : Authorizer)

/-- What is left of a new call: the call itself. -/
theorem settle_newRestCallOwning {held : Finset RefVar} (hproxy : .proxy ∉ held)
    (hcall : .restCall ∉ held) :
    RefAction.settle held (newRestCallOwning authorizer).actions =
      some (insert .restCall held) := by
  have herase : (insert RefVar.restCall (insert RefVar.proxy held)).erase .proxy =
      insert RefVar.restCall held := by
    rw [Finset.erase_insert_of_ne (by decide), Finset.erase_insert hproxy]
  simp [newRestCallOwning, RefAction.settle, RefAction.apply, hproxy, hcall, herase]

theorem settle_connectionCallOwning (held : Finset RefVar) (hproxy : .proxy ∉ held)
    (hcall : .restCall ∉ held) (hpath : .functionPath ∉ held) (method : String) (node : Node)
    (path : Option String) :
    RefAction.settle held (connectionCallOwning authorizer method node path).actions =
      some (insert .restCall held) := by
  have hpath' : RefVar.functionPath ∉ insert RefVar.restCall held := by simp [hpath]
  exact (RefAction.settle_append (settle_newRestCallOwning authorizer hproxy hcall) _).trans
    (RefAction.settle_bracket hpath' rfl)

theorem settle_decodeNodeOwning {held : Finset RefVar} (hheld : NoResult held)
    (restCall : RestProxyCall) (nodeType : GType) (jparser : JsonParser) :
    RefAction.settle held (decodeNodeOwning env restCall nodeType jparser).actions = some held := by
  unfold decodeNodeOwning
  split
  · simpa using settle_giveNode hheld _
  · rfl

theorem settle_fetchNodeOwning (restCall : RestProxyCall) (nodeType : GType) :
    RefAction.settle {.restCall} (fetchNodeOwning env restCall nodeType).actions =
      some {.restCall} := by
  unfold fetchNodeOwning
  cases env.restProxyCallSync restCall with
  | error e => rfl
  | ok payload =>
      have hresult : NoResult (insert .jparser {.restCall}) := by simp [NoResult]
      have hdecode := settle_decodeNodeOwning env hresult restCall nodeType
      exact RefAction.settle_bracket (by decide) (hdecode (env.json.loadFromData payload))

theorem settle_nodeNewFromIdOwning (id : String) (nodeType : GType) :
    RefAction.settle ∅ (nodeNewFromIdOwning env authorizer id nodeType).actions = some ∅ := by
  unfold nodeNewFromIdOwning
  split
  · rfl
  · split
    · rfl
    · have hcall := settle_newRestCallOwning authorizer (Finset.notMem_empty _)
        (Finset.notMem_empty _)
      exact (RefAction.settle_append hcall _).trans
        (RefAction.settle_append (settle_fetchNodeOwning env _ nodeType) _)

theorem settle_userGetMeOwning :
    RefAction.settle ∅ (userGetMeOwning env authorizer).actions = some {.restCall} := by
  have hcall := settle_newRestCallOwning authorizer (Finset.notMem_empty _)
    (Finset.notMem_empty _)
  exact (RefAction.settle_append hcall _).trans (settle_fetchNodeOwning env _ typeUser)

theorem settle_sendGetOwning (held : Finset RefVar) (hheld : NoResult held) (connectedNode : Node)
    (restCall : RestProxyCall) :
    RefAction.settle held (sendGetOwning env connectedNode restCall).actions = some held := by
  unfold sendGetOwning
  cases env.restProxyCallSync restCall with
  | error e => rfl
  | ok payload => simpa using settle_giveList hheld _

/-- The test node is left exactly when the list is refused for want of a
connection. -/
theorem settle_nodeGetConnectionNodesOwning (node : Node) (nodeType : GType) :
    RefAction.settle ∅ (nodeGetConnectionNodesOwning env node nodeType authorizer).actions =
      some (if (nodeGetConnectionNodes env node nodeType authorizer).requests = [] ∧
        (nodeGetConnectionNodes env node nodeType authorizer).error ≠ none then {.connectedNode}
        else ∅) := by
  unfold nodeGetConnectionNodesOwning nodeGetConnectionNodes
  split
  · rfl
  · split
    · rfl
    · dsimp only
      split
      · rfl
      · split
        · rfl
        · have hcall := settle_connectionCallOwning authorizer {.connectedNode}
            (by decide) (by decide) (by decide) "GET" node
            (connectableGetConnectionPath env.types (gObjectNew nodeType) node.gtype)
          have hsend := settle_sendGetOwning env (insert .restCall {.connectedNode})
            (by simp [NoResult]) (gObjectNew nodeType)
          rw [if_neg (by simp)]
          exact (RefAction.settle_cons rfl _).trans
            ((RefAction.settle_append hcall _).trans (RefAction.settle_append (hsend _) _))

theorem settle_userGetAlbumsOwning (user : Node) :
    RefAction.settle ∅ (userGetAlbumsOwning env user authorizer).actions =
      some (if (userGetAlbums env user authorizer).requests = [] ∧
        (userGetAlbums env user authorizer).error ≠ none then {.connectedNode} else ∅) := by
  unfold userGetAlbumsOwning userGetAlbums
  split
  · rfl
  · exact settle_nodeGetConnectionNodesOwning env authorizer user typeAlbum

theorem settle_sendPostOwning (held : Finset RefVar) (hparser : .jparser ∉ held)
    (hreader : .jreader ∉ held) (connectNode : Node) (restCall : RestProxyCall) :
    RefAction.settle held (sendPostOwning env connectNode restCall).actions = some held := by
  unfold sendPostOwning
  cases env.restProxyCallSync restCall with
  | error e => rfl
  | ok payload =>
      have hreader' : RefVar.jreader ∉ insert RefVar.jparser held := by simp [hreader]
      have hread : RefAction.settle (insert .jparser held)
          (.acquire .jreader :: ([] ++ [.release .jreader])) = some (insert .jparser held) :=
        RefAction.settle_bracket hreader' rfl
      exact RefAction.settle_bracket hparser hread

/-- The parameters are left exactly when the request is sent with some. -/
theorem settle_nodeAppendConnectionOwning (node connectNode : Node) :
    RefAction.settle ∅ (nodeAppendConnectionOwning env node connectNode authorizer).actions =
      some (if (nodeAppendConnection env node connectNode authorizer).requests ≠ [] ∧
        (connectableGetConnectionPostParams env.types connectNode node.gtype).isSome = true then
          {.params}
        else ∅) := by
  unfold nodeAppendConnectionOwning nodeAppendConnection
  split
  · rfl
  · split
    · rfl
    · split
      · rfl
      · split
        · rfl
        · have hcall := settle_connectionCallOwning authorizer ∅
            (by decide) (by decide) (by decide) "POST" node
            (connectableGetConnectionPath env.types connectNode node.gtype)
          refine (RefAction.settle_append hcall _).trans ?_
          cases hparams : connectableGetConnectionPostParams env.types connectNode node.gtype with
          | none =>
              have hsend := settle_sendPostOwning env {.restCall} (by decide) (by decide)
                connectNode
              rw [if_neg (by simp)]
              exact RefAction.settle_append (hsend _) _
          | some params =>
              have hsend := settle_sendPostOwning env {.params, .restCall} (by decide)
                (by decide) connectNode
              rw [if_pos (by simp)]
              exact (RefAction.settle_cons rfl _).trans (RefAction.settle_append (hsend _) _)

theorem settle_defaultParseOwning (json : JsonGlib) (self : Node) (payload : String) :
    RefAction.settle ∅ (connectableDefaultParseConnectedDataOwning json self payload).actions =
      some ∅ := by
  refine RefAction.settle_bracket (by decide) ?_
  unfold decodeNodesOwning
  split
  · simpa using settle_giveList (by simp [NoResult]) _
  · rfl

end

/-! ## sessions -/

/-- A call of a synchronous function. -/
inductive ApiCall where
  | nodeNewFromId (env : Env) (authorizer : Authorizer) (id : String) (nodeType : GType)
  | userGetMe (env : Env) (authorizer : Authorizer)
  | nodeGetConnectionNodes (env : Env) (node : Node) (nodeType : GType) (authorizer : Authorizer)
  | userGetAlbums (env : Env) (user : Node) (authorizer : Authorizer)
  | nodeAppendConnection (env : Env) (node connectNode : Node) (authorizer : Authorizer)
  | defaultParseConnectedData (json : JsonGlib) (self : Node) (payload : String)
  | photoDownloadDefaultSize (types : TypeRegistry) (soup : Soup) (photo : Node)
      (authorizer : Authorizer)

namespace ApiCall

/-- With its references or without, the function returns the same. -/
def SameValue : ApiCall → Prop
  | nodeNewFromId env authorizer id nodeType =>
      (nodeNewFromIdOwning env authorizer id nodeType).value =
        GFBGraph.nodeNewFromId env authorizer id nodeType
  | userGetMe env authorizer =>
      (userGetMeOwning env authorizer).value = GFBGraph.userGetMe env authorizer
  | nodeGetConnectionNodes env node nodeType authorizer =>
      (nodeGetConnectionNodesOwning env node nodeType authorizer).value =
        GFBGraph.nodeGetConnectionNodes env node nodeType authorizer
  | userGetAlbums env user authorizer =>
      (userGetAlbumsOwning env user authorizer).value =
        GFBGraph.userGetAlbums env user authorizer
  | nodeAppendConnection env node connectNode authorizer =>
      (nodeAppendConnectionOwning env node connectNode authorizer).value =
        GFBGraph.nodeAppendConnection env node connectNode authorizer
  | defaultParseConnectedData json self payload =>
      (connectableDefaultParseConnectedDataOwning json self payload).value =
        connectableDefaultParseConnectedData json self payload
  | photoDownloadDefaultSize _ _ _ _ => True

/-- What a call does to references. -/
def actions : ApiCall → List (RefAction RefVar)
  | nodeNewFromId env authorizer id nodeType =>
      (nodeNewFromIdOwning env authorizer id nodeType).actions
  | userGetMe env authorizer => (userGetMeOwning env authorizer).actions
  | nodeGetConnectionNodes env node nodeType authorizer =>
      (nodeGetConnectionNodesOwning env node nodeType authorizer).actions
  | userGetAlbums env user authorizer => (userGetAlbumsOwning env user authorizer).actions
  | nodeAppendConnection env node connectNode authorizer =>
      (nodeAppendConnectionOwning env node connectNode authorizer).actions
  | defaultParseConnectedData json self payload =>
      (connectableDefaultParseConnectedDataOwning json self payload).actions
  | photoDownloadDefaultSize types soup photo authorizer =>
      (GFBGraph.photoDownloadDefaultSize types soup photo authorizer).actions.map
        (RefAction.rename RefVar.download)

/-- The test node of a list that was refused for want of a connection: no
request was sent, and an error set. -/
def refusedNode (result : NodesResult) : Finset RefVar :=
  if result.requests = [] ∧ result.error ≠ none then {.connectedNode} else ∅

/-- The references a call never gives back. -/
def leaves : ApiCall → Finset RefVar
  | nodeNewFromId _ _ _ _ => ∅
  | userGetMe _ _ => {.restCall}
  | nodeGetConnectionNodes env node nodeType authorizer =>
      refusedNode (GFBGraph.nodeGetConnectionNodes env node nodeType authorizer)
  | userGetAlbums env user authorizer =>
      refusedNode (GFBGraph.userGetAlbums env user authorizer)
  | nodeAppendConnection env node connectNode authorizer =>
      -- the request was sent, with a table of parameters
      if (GFBGraph.nodeAppendConnection env node connectNode authorizer).requests ≠ [] ∧
          (connectableGetConnectionPostParams env.types connectNode node.gtype).isSome = true then
        {.params}
      else ∅
  | defaultParseConnectedData _ _ _ => ∅
  | photoDownloadDefaultSize types soup photo authorizer =>
      if (GFBGraph.photoDownloadDefaultSize types soup photo authorizer).value.error = none then ∅
      else {.download .session}

theorem sameValue (call : ApiCall) : call.SameValue := by
  cases call with
  | nodeNewFromId env authorizer id nodeType =>
      exact value_nodeNewFromIdOwning env authorizer id nodeType
  | userGetMe env authorizer => exact value_userGetMeOwning env authorizer
  | nodeGetConnectionNodes env node nodeType authorizer =>
      exact value_nodeGetConnectionNodesOwning env authorizer node nodeType
  | userGetAlbums env user authorizer => exact value_userGetAlbumsOwning env authorizer user
  | nodeAppendConnection env node connectNode authorizer =>
      exact value_nodeAppendConnectionOwning env authorizer node connectNode
  | defaultParseConnectedData json self payload =>
      exact value_defaultParseOwning json self payload
  | photoDownloadDefaultSize types soup photo authorizer => trivial

/-- **Spec lemma** of one call. -/
theorem settle_actions (call : ApiCall) :
    RefAction.settle ∅ call.actions = some call.leaves := by
  cases call with
  | nodeNewFromId env authorizer id nodeType =>
      exact settle_nodeNewFromIdOwning env authorizer id nodeType
  | userGetMe env authorizer => exact settle_userGetMeOwning env authorizer
  | nodeGetConnectionNodes env node nodeType authorizer =>
      exact settle_nodeGetConnectionNodesOwning env authorizer node nodeType
  | userGetAlbums env user authorizer => exact settle_userGetAlbumsOwning env authorizer user
  | nodeAppendConnection env node connectNode authorizer =>
      exact settle_nodeAppendConnectionOwning env authorizer node connectNode
  | defaultParseConnectedData json self payload =>
      exact settle_defaultParseOwning json self payload
  | photoDownloadDefaultSize types soup photo authorizer =>
      have hinj : Function.Injective RefVar.download := fun u v huv => RefVar.download.inj huv
      have hrenamed := RefAction.settle_rename hinj (Finset.notMem_empty <| RefVar.download ·)
        (settle_photoDownloadDefaultSize types soup photo authorizer)
      rw [Finset.image_empty, Finset.empty_union, Finset.union_empty] at hrenamed
      rw [actions, leaves, hrenamed]
      split <;> simp

end ApiCall

/-- **References over a session**: whatever synchronous calls a client makes,
no reference is released twice, released after it was given to the caller, or
overwritten; and those that are never given back are, for each call, the ones
`ApiCall.leaves` names. -/
theorem references_of_session (calls : List ApiCall) :
    (∀ call ∈ calls, call.SameValue) ∧
    ∃ held, RefAction.settle ∅ (RefAction.session ApiCall.actions calls) = some held ∧
      ∀ i v, (i, v) ∈ held ↔ ∃ call, calls[i]? = some call ∧ v ∈ call.leaves :=
  ⟨fun call _ => call.sameValue, RefAction.settle_session _ ApiCall.settle_actions calls⟩

end GFBGraph
