import GFBGraph.Graph.Errors
import GFBGraph.Lib.Register

/-!
# GFBGraph.Graph.Ids

The ids of nodes: which id a request is issued for, and which id an appended
node adopts.

A node is driven by id writes and connection requests in any order.  Its id is
a register (`Lib.Register`) of that machine; the request builders print it into
the path whatever it holds, so requests are issued for an id exactly where the
register holds one.  An appended node takes its id from the first member of the
response and not from the `id` member, so what it adopts hangs on the order of
the members.
-/

namespace GFBGraph

open Lib

/-! ## the ids that requests are issued for -/

/-- The node has an id that can stand in a path. -/
def HasId (node : Node) : Prop := ∃ id, node.priv.id = some id ∧ id ≠ ""

/-- Every request goes to `path` below the id of the node; and for a node
without an id there is no request, and the call returned `NULL` or `FALSE`. -/
def IssuedForId (node : Node) (path : String) (requests : List RestProxyCall)
    (returnsNull : Bool) : Prop :=
  (∀ request ∈ requests, ∃ id, node.priv.id = some id ∧ id ≠ "" ∧
    request.function = some (id ++ "/" ++ path)) ∧
  (¬ HasId node → requests = [] ∧ returnsNull = true)

/-- What can happen to a node: writes of its properties, and the connection
requests it takes part in, each with the answers of the server at that time. -/
inductive NodeOp where
  | setProperty (property : NodeProperty)
  | setId (id : Option String)
  | getConnectionNodes (server : RestProxyCall → Except LibError String) (nodeType : GType)
      (authorizer : Authorizer)
  /-- Another node is appended to it. -/
  | appendConnection (server : RestProxyCall → Except LibError String) (connectNode : Node)
      (authorizer : Authorizer)
  /-- It is appended to another node. -/
  | appendTo (server : RestProxyCall → Except LibError String) (node : Node)
      (authorizer : Authorizer)

/-- What an operation issues, and whether it returns `NULL` or `FALSE`. -/
structure NodeAnswer where
  requests : List RestProxyCall := []
  returnsNull : Bool := false

/-- The process with the server as it answers at some time. -/
def Env.withServer (env : Env) (server : RestProxyCall → Except LibError String) : Env :=
  { env with restProxyCallSync := server }

section

variable (env : Env)

/-- One operation on a node. -/
def nodeStep (node : Node) : NodeOp → Node × NodeAnswer
  | .setProperty property => ({ node with priv := nodeSetProperty node.priv property }, {})
  | .setId id => (nodeSetId node id, {})
  | .getConnectionNodes server nodeType authorizer =>
      let result := nodeGetConnectionNodes (env.withServer server) node nodeType authorizer
      (node, { requests := result.requests, returnsNull := result.nodes.isEmpty })
  | .appendConnection server connectNode authorizer =>
      let result := nodeAppendConnection (env.withServer server) node connectNode authorizer
      (node, { requests := result.requests, returnsNull := !result.success })
  | .appendTo server parent authorizer =>
      let result := nodeAppendConnection (env.withServer server) parent node authorizer
      (result.connectNode, { requests := result.requests, returnsNull := !result.success })

/-- A node as a machine. -/
def nodeMachine : Machine Node NodeOp NodeAnswer := ⟨nodeStep env⟩

/-- The node whose id a request is issued for, and the type that connects to
it. -/
def NodeOp.target (node : Node) : NodeOp → Option (Node × GType)
  | .getConnectionNodes _ nodeType _ => some (node, nodeType)
  | .appendConnection _ connectNode _ => some (node, connectNode.gtype)
  | .appendTo _ parent _ => some (parent, node.gtype)
  | _ => none

/-- Both are types of nodes, and nodes of `type` connect to those of `nodeType`
under `path`. -/
def ConnectsUnder (nodeType type : GType) (path : String) : Prop :=
  env.types.isA nodeType typeNode = true ∧ env.types.isA type typeNode = true ∧
    env.types.connection type nodeType = some path

/-- If this operation is a request of a connectable pair, it is issued for the
id of its node. -/
def RequestsNamed (node : Node) (op : NodeOp) : Prop :=
  ∀ target type path, op.target node = some (target, type) →
    ConnectsUnder env target.gtype type path →
    let answer := (nodeMachine env).out node op
    IssuedForId target path answer.requests answer.returnsNull

/-- If this operation is a request of a connectable pair, its node has an id. -/
def IdPresent (node : Node) (op : NodeOp) : Prop :=
  ∀ target type path, op.target node = some (target, type) →
    ConnectsUnder env target.gtype type path → HasId target

variable {env}

/-- One request with the id printed into its path is issued for the id exactly
if there is one. -/
theorem issuedForId_singleton_iff {node : Node} {path : String} {request : RestProxyCall}
    (h : request.function = some (printfString node.priv.id ++ "/" ++ path))
    (returnsNull : Bool) : IssuedForId node path [request] returnsNull ↔ HasId node := by
  constructor
  · intro hissued
    by_contra hno
    have hempty := (hissued.2 hno).1
    contradiction
  · intro hid
    refine ⟨fun request' hmem => ?_, fun hno => absurd hid hno⟩
    obtain ⟨id, hsome, hne⟩ := hid
    rw [List.mem_singleton.1 hmem]
    refine ⟨id, hsome, hne, ?_⟩
    rw [h, hsome]
    rfl

/-- A connectable pair is listed with one request, whatever the server is. -/
theorem issuedForId_getConnectionNodes_iff {node : Node} {nodeType : GType} {path : String}
    (h : ConnectsUnder env node.gtype nodeType path)
    (server : RestProxyCall → Except LibError String) (authorizer : Authorizer)
    (returnsNull : Bool) :
    IssuedForId node path
        (nodeGetConnectionNodes (env.withServer server) node nodeType authorizer).requests
        returnsNull ↔ HasId node := by
  obtain ⟨hnode, htype, hconn⟩ := h
  let node' : (env.withServer server).types.NodeInstance := ⟨node, hnode⟩
  let nodeType' : (env.withServer server).types.NodeType := ⟨nodeType, htype⟩
  have hconn' : (env.withServer server).types.connection nodeType'.gtype node'.node.gtype =
      some path := hconn
  have hrequests : (nodeGetConnectionNodes (env.withServer server) node nodeType
      authorizer).requests = [connectionCall authorizer "GET" node (some path)] := by
    rw [getConnectionNodes_of_some authorizer hconn', requests_sendGet]
  rw [hrequests]
  exact issuedForId_singleton_iff (function_connectionCall authorizer "GET" node path) _

/-- And connected with one request. -/
theorem issuedForId_appendConnection_iff {node connectNode : Node} {path : String}
    (h : ConnectsUnder env node.gtype connectNode.gtype path)
    (server : RestProxyCall → Except LibError String) (authorizer : Authorizer)
    (returnsNull : Bool) :
    IssuedForId node path
        (nodeAppendConnection (env.withServer server) node connectNode authorizer).requests
        returnsNull ↔ HasId node := by
  obtain ⟨hnode, htype, hconn⟩ := h
  let node' : (env.withServer server).types.NodeInstance := ⟨node, hnode⟩
  let connectNode' : (env.withServer server).types.NodeInstance := ⟨connectNode, htype⟩
  have hconn' : (env.withServer server).types.connection connectNode'.node.gtype
      node'.node.gtype = some path := hconn
  have hrequests : (nodeAppendConnection (env.withServer server) node connectNode
      authorizer).requests = [appendCall (env.withServer server) authorizer node connectNode] := by
    rw [appendConnection_of_some authorizer hconn', requests_sendPost]
  rw [hrequests]
  exact issuedForId_singleton_iff (function_appendCall authorizer hconn') _

/-- **Step lemma**: an operation issues its requests for an id exactly if its
node has one. -/
theorem requestsNamed_iff (node : Node) (op : NodeOp) :
    RequestsNamed env node op ↔ IdPresent env node op := by
  unfold RequestsNamed IdPresent
  refine forall_congr' fun target => forall_congr' fun type => forall_congr' fun path =>
    forall_congr' fun htarget => forall_congr' fun hconnects => ?_
  cases op with
  | setProperty property => contradiction
  | setId id => contradiction
  | getConnectionNodes server nodeType authorizer =>
      cases htarget
      exact issuedForId_getConnectionNodes_iff hconnects server authorizer _
  | appendConnection server connectNode authorizer =>
      cases htarget
      exact issuedForId_appendConnection_iff hconnects server authorizer _
  | appendTo server parent authorizer =>
      cases htarget
      exact issuedForId_appendConnection_iff hconnects server authorizer _

variable (env)

/-! ### the id as a register -/

/-- The id an operation writes, if it writes one. -/
def idWrite (node : Node) : NodeOp → Option (Option String)
  | .setProperty (.id id) => some id
  | .setId (some id) => some (some id)
  | .appendTo server parent authorizer =>
      (nodeAppendConnection (env.withServer server) parent node authorizer).assigned.map some
  | _ => none

/-- What appending hands to `gfbgraph_node_set_id` is what it writes. -/
theorem id_appendConnection (node connectNode : Node) (authorizer : Authorizer) :
    (nodeAppendConnection env node connectNode authorizer).connectNode.priv.id =
      ((nodeAppendConnection env node connectNode authorizer).assigned.map some).getD
        connectNode.priv.id := by
  cases appendConnection_cases authorizer node connectNode with
  | inl hrefused =>
      obtain ⟨error, hresult⟩ := hrefused
      rw [hresult]
      rfl
  | inr hsent =>
      rw [hsent, sendPost]
      cases env.restProxyCallSync (appendCall env authorizer node connectNode) with
      | error e => rfl
      | ok payload =>
          dsimp only
          cases responseId (env.json.loadFromData payload) <;> rfl

/-- The id of a node is a register. -/
def idRegister : (nodeMachine env).Register (Option String) where
  get node := node.priv.id
  write := idWrite env
  get_next node op := by
    cases op with
    | setProperty property => cases property <;> rfl
    | setId id => cases id <;> rfl
    | getConnectionNodes server nodeType authorizer => rfl
    | appendConnection server connectNode authorizer => rfl
    | appendTo server parent authorizer =>
        exact id_appendConnection (env.withServer server) parent node authorizer

/-- **Requests are issued for an id where there is one.**  Along every run of a
node, each request of a connectable pair goes to its path below the id of its
node, and none goes out without an id, exactly when every such request finds
an id; and after a run the node has one exactly when the last write of its id
wrote one, or it had one and none was written. -/
theorem requests_named_iff (node : Node) (ops : List NodeOp) :
    ((nodeMachine env).Always (RequestsNamed env) node ops ↔
      (nodeMachine env).Always (IdPresent env) node ops) ∧
    (HasId ((nodeMachine env).run node ops) ↔
      ∃ id, id ≠ "" ∧ ((idRegister env).LastWrite node ops (some id) ∨
        ((idRegister env).Quiet node ops ∧ node.priv.id = some id))) := by
  constructor
  · exact (nodeMachine env).always_congr requestsNamed_iff node ops
  · have hlast := fun id => (idRegister env).get_run_iff node ops (some id)
    constructor
    · intro h
      obtain ⟨id, hid, hne⟩ := h
      exact ⟨id, hne, (hlast id).1 hid⟩
    · intro h
      obtain ⟨id, hne, hid⟩ := h
      exact ⟨id, (hlast id).2 hid, hne⟩

end

/-- The albums of a new user are asked for at `(null)/albums`. -/
theorem new_user_requested :
    ¬ (nodeMachine (.answering "{}")).Always (RequestsNamed (.answering "{}"))
      (gObjectNew typeUser) [.getConnectionNodes (fun _ => .ok "{}") typeAlbum .anonymous] := by
  intro h
  have hissued := h.1 (gObjectNew typeUser) typeAlbum "albums" rfl
    ⟨by decide, by decide, by decide⟩
  have hno : ¬ HasId (gObjectNew typeUser) := by
    intro hid
    obtain ⟨id, hsome, -⟩ := hid
    contradiction
  have hrequests := (hissued.2 hno).1
  contradiction

/-! ## the id an appended node adopts -/

/-- The server answers this call with a JSON object of these members. -/
def AnswersObject (env : Env) (restCall : RestProxyCall) (members : JsonObject) : Prop :=
  ∃ payload, env.restProxyCallSync restCall = .ok payload ∧
    env.json.loadFromData payload = { root := some (.object members), error := none }

/-- The id of a node after a response of these members: the first of them, if
it is a string. -/
def adoptedId (members : JsonObject) (id : Option String) : Option String :=
  match members with
  | (_, .string s) :: _ => some s
  | _ => id

/-- The member is the string `id`, or it is no string and the node had that id
before. -/
def AdoptsAs (id : String) (before : Option String) (jnode : JsonNode) : Prop :=
  jnode = .string id ∨ ((∀ s, jnode ≠ .string s) ∧ before = some id)

theorem adoptedId_cons_eq_some_iff (name : String) (jnode : JsonNode) (members : JsonObject)
    (before : Option String) (id : String) :
    adoptedId ((name, jnode) :: members) before = some id ↔ AdoptsAs id before jnode := by
  cases jnode <;> simp [adoptedId, AdoptsAs]

/-- Any member can be brought to the front. -/
theorem exists_perm_cons {members : JsonObject} {member : String × JsonNode}
    (h : member ∈ members) : ∃ rest, (member :: rest).Perm members := by
  obtain ⟨pre, post, hsplit⟩ := List.append_of_mem h
  rw [hsplit]
  exact ⟨pre ++ post, List.perm_middle.symm⟩

/-- Where every member is such a one, any order of them adopts the id. -/
theorem adoptedId_of_perm {members members' : JsonObject} {before : Option String} {id : String}
    (hne : members ≠ []) (h : ∀ member ∈ members, AdoptsAs id before member.2)
    (hperm : members'.Perm members) : adoptedId members' before = some id := by
  cases members' with
  | nil => exact absurd hperm.nil_eq.symm hne
  | cons member members' =>
      obtain ⟨name, jnode⟩ := member
      have hfirst := h (name, jnode) (hperm.mem_iff.1 List.mem_cons_self)
      exact (adoptedId_cons_eq_some_iff name jnode members' before id).2 hfirst

/-- Only then do all orders agree, if one of the members is the string `id`. -/
theorem adoptedId_perm_iff {members : JsonObject} {id : String}
    (hmem : ("id", JsonNode.string id) ∈ members) (before : Option String) :
    (∀ members' members'' : JsonObject, members'.Perm members → members''.Perm members →
        adoptedId members' before = adoptedId members'' before) ↔
      ∀ member ∈ members, AdoptsAs id before member.2 := by
  constructor
  · intro hsame member hmember
    obtain ⟨name, jnode⟩ := member
    obtain ⟨rest, hperm⟩ := exists_perm_cons hmember
    obtain ⟨rest', hperm'⟩ := exists_perm_cons hmem
    have heq := hsame _ _ hperm hperm'
    exact (adoptedId_cons_eq_some_iff name jnode rest before id).1 heq
  · intro hall members' members'' hperm hperm'
    have hne : members ≠ [] := List.ne_nil_of_mem hmem
    rw [adoptedId_of_perm hne hall hperm, adoptedId_of_perm hne hall hperm']

/-- Reading an object, the parser's first element is its first member. -/
theorem responseId_object (members : JsonObject) (error : Option LibError) :
    responseId { root := some (.object members), error } =
      match members with
      | (_, .string s) :: _ => some s
      | _ => none := by
  cases members with
  | nil => rfl
  | cons member members =>
      obtain ⟨name, jnode⟩ := member
      cases jnode <;> rfl

/-- What appending leaves as the id, for a response that is an object. -/
theorem id_appendConnection_of_answersObject {env : Env} {node connectNode : env.types.NodeInstance}
    (authorizer : Authorizer) {path : String}
    (hconn : env.types.connection connectNode.node.gtype node.node.gtype = some path)
    {members : JsonObject}
    (hanswer : AnswersObject env (appendCall env authorizer node.node connectNode.node) members) :
    (nodeAppendConnection env node.node connectNode.node authorizer).connectNode.priv.id =
      adoptedId members connectNode.node.priv.id := by
  obtain ⟨payload, hsync, hload⟩ := hanswer
  rw [appendConnection_of_some authorizer hconn, sendPost, hsync]
  simp only [hload, responseId_object]
  cases members with
  | nil => rfl
  | cons member members =>
      obtain ⟨name, jnode⟩ := member
      cases jnode <;> rfl

theorem answersObject_answeringObject (env : Env) (payload : String) (members : JsonObject)
    (restCall : RestProxyCall) :
    AnswersObject (env.answeringObject payload members) restCall members :=
  ⟨payload, rfl, loadFromData_answeringObject env payload members⟩

theorem id_appendConnection_answeringObject {env : Env} (node connectNode : env.types.NodeInstance)
    (authorizer : Authorizer) {path : String}
    (hconn : env.types.connection connectNode.node.gtype node.node.gtype = some path)
    (payload : String) (members : JsonObject) :
    (nodeAppendConnection (env.answeringObject payload members) node.node connectNode.node
        authorizer).connectNode.priv.id =
      adoptedId members connectNode.node.priv.id := by
  let node' : (env.answeringObject payload members).types.NodeInstance := ⟨node.node, node.isNode⟩
  let connectNode' : (env.answeringObject payload members).types.NodeInstance :=
    ⟨connectNode.node, connectNode.isNode⟩
  have hconn' : (env.answeringObject payload members).types.connection connectNode'.node.gtype
      node'.node.gtype = some path := hconn
  exact id_appendConnection_of_answersObject authorizer hconn'
    (answersObject_answeringObject env payload members _)

/-- **The adopted id and the order of members.**  A response that is an object
with a string member `id` leaves the appended node with that id exactly when its
first member is the same string, or is no string while the node had that id
already; and responses with the members in any two orders leave the node with
the same id exactly when each member is such a one. -/
theorem adopted_id_iff (env : Env) (node connectNode : env.types.NodeInstance)
    (authorizer : Authorizer) {path : String}
    (hconn : env.types.connection connectNode.node.gtype node.node.gtype = some path)
    {members : JsonObject} {id : String} (hid : members.lookup "id" = some (.string id)) :
    (AnswersObject env (appendCall env authorizer node.node connectNode.node) members →
      ((nodeAppendConnection env node.node connectNode.node authorizer).connectNode.priv.id =
          some id ↔
        ∀ first, members.head? = some first →
          AdoptsAs id connectNode.node.priv.id first.2)) ∧
    ((∀ (members' members'' : JsonObject), members'.Perm members → members''.Perm members →
        ∀ payload' payload'' : String,
          (nodeAppendConnection (env.answeringObject payload' members') node.node
              connectNode.node authorizer).connectNode.priv.id =
            (nodeAppendConnection (env.answeringObject payload'' members'') node.node
              connectNode.node authorizer).connectNode.priv.id) ↔
      ∀ member ∈ members, AdoptsAs id connectNode.node.priv.id member.2) := by
  have hmem : ("id", JsonNode.string id) ∈ members := by
    obtain ⟨pre, post, hsplit, -⟩ := List.lookup_eq_some_iff.1 hid
    rw [hsplit]
    exact List.mem_append_right _ List.mem_cons_self
  constructor
  · intro hanswer
    rw [id_appendConnection_of_answersObject authorizer hconn hanswer]
    cases members with
    | nil => contradiction
    | cons member members =>
        obtain ⟨name, jnode⟩ := member
        rw [adoptedId_cons_eq_some_iff]
        simp
  · simp only [id_appendConnection_answeringObject node connectNode authorizer hconn,
      forall_const]
    exact adoptedId_perm_iff hmem connectNode.node.priv.id

/-- A response with the member `id` before another one, and its text. -/
def idAndSuccess : JsonObject := [("id", .string "7"), ("success", .boolean true)]

def idAndSuccessText : String := "\x7b\"id\": \"7\", \"success\": true\x7d"

/-- A server that answers every request with it. -/
def idAndSuccessEnv : Env := (Env.answering "").answeringObject idAndSuccessText idAndSuccess

/-- A new album appended to a user adopts the id, but not in every order of the
members. -/
theorem adopted_id_first_member :
    (nodeAppendConnection idAndSuccessEnv knownUser holidayAlbum .anonymous).connectNode.priv.id =
        some "7" ∧
      ¬ ∀ members' members'' : JsonObject, members'.Perm idAndSuccess →
        members''.Perm idAndSuccess → ∀ payload' payload'' : String,
          (nodeAppendConnection (idAndSuccessEnv.answeringObject payload' members') knownUser
              holidayAlbum .anonymous).connectNode.priv.id =
            (nodeAppendConnection (idAndSuccessEnv.answeringObject payload'' members'') knownUser
              holidayAlbum .anonymous).connectNode.priv.id := by
  let user : idAndSuccessEnv.types.NodeInstance := ⟨knownUser, TypeRegistry.isA_typeUser⟩
  let album : idAndSuccessEnv.types.NodeInstance := ⟨holidayAlbum, TypeRegistry.isA_typeAlbum⟩
  have hconn : idAndSuccessEnv.types.connection album.node.gtype user.node.gtype =
      some "albums" := rfl
  have hid : idAndSuccess.lookup "id" = some (.string "7") := rfl
  have hiff := adopted_id_iff idAndSuccessEnv user album .anonymous hconn hid
  have hanswer := answersObject_answeringObject (Env.answering "") idAndSuccessText idAndSuccess
    (appendCall idAndSuccessEnv .anonymous user.node album.node)
  constructor
  · refine (hiff.1 hanswer).2 ?_
    intro first hfirst
    cases hfirst
    exact Or.inl rfl
  · intro hsame
    -- the other member is no string, and the album had no id
    obtain hstring | ⟨-, hbefore⟩ := hiff.2.1 hsame ("success", .boolean true)
      (List.mem_cons_of_mem _ List.mem_cons_self)
    · contradiction
    · contradiction

/-- The member `success` before the member `id`: the album is left without an
id. -/
theorem success_before_id_not_adopted :
    List.lookup "id" [("success", JsonNode.boolean true), ("id", .string "7")] =
        some (.string "7") ∧
      ¬ (nodeAppendConnection ((Env.answering "").answeringObject
          "\x7b\"success\": true, \"id\": \"7\"\x7d"
          [("success", .boolean true), ("id", .string "7")]) knownUser holidayAlbum
        .anonymous).connectNode.priv.id = some "7" :=
  ⟨rfl, by decide⟩

end GFBGraph
