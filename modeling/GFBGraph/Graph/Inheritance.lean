import GFBGraph.Graph.PostParams
import GFBGraph.Graph.Subtyping

/-!
# GFBGraph.Graph.Inheritance

Client classes derived from a connectable class.  The interface of a class is
inherited, so a derived class that brings no connection table of its own stands
wherever its base does: it connects to the same types and sends the same
requests.  The exact name decides on the other side only, that of the node it
connects to.  And whatever classes are registered later, those that are there
behave as before.
-/

namespace GFBGraph

open Lib

/-! ## inheriting the interface -/

/-- `type` derives from `base`, and no class on the way brings a connection
table of its own. -/
structure Inherits (types : TypeRegistry) (type base : GType) : Prop where
  isA : types.isA type base = true
  noTable : ∀ between : GType, types.isA type between = true → types.isA between base = true →
    between ≠ base → Hierarchy.own types.classes (gTypeName between) = none

section

variable {types : TypeRegistry} {type base : GType}

theorem Inherits.iface_eq (h : Inherits types type base) :
    types.iface type = types.iface base := by
  refine Hierarchy.iface_eq_of_isA types.registered h.isA fun name hbelow habove hne => ?_
  exact h.noTable ⟨name⟩ hbelow habove fun heq => hne (congrArg gTypeName heq)

theorem Inherits.connection_eq (h : Inherits types type base) (nodeType : GType) :
    types.connection type nodeType = types.connection base nodeType := by
  rw [TypeRegistry.connection, h.iface_eq, TypeRegistry.connection]

/-- A type that inherits from one that uses the default parser uses it too. -/
def DefaultConnectable.derived (base : DefaultConnectable types)
    (h : Inherits types type base.gtype) : DefaultConnectable types where
  gtype := type
  isNode := TypeRegistry.isA_trans h.isA base.isNode
  iface := base.iface
  iface_eq := h.iface_eq.trans base.iface_eq
  parse_eq := base.parse_eq

/-- The same private structs in an instance of the type. -/
def DefaultConnectable.instance (base : DefaultConnectable types)
    (connectNode : types.NodeInstance) : types.NodeInstance where
  node := { connectNode.node with gtype := base.gtype }
  isNode := base.isNode

end

/-! ## the lists -/

/-- The elements of the `data` array that the server answers a call with. -/
def answerElements (env : Env) (restCall : RestProxyCall) : List JsonNode :=
  match env.restProxyCallSync restCall with
  | .error _ => []
  | .ok payload =>
      let jparser := env.json.loadFromData payload
      if jparser.loaded then
        jsonArrayElements (jsonObjectGetArrayMember (jsonNodeGetObject jparser.root) "data")
      else []

/-- The elements decoded one by one to instances of the type. -/
def decodeElements (json : JsonGlib) (type : GType) (elements : List JsonNode) :
    List (Option Node) :=
  elements.map fun jnode => jsonGobjectDeserialize json type (some jnode)

/-- Both lists are decoded from the same elements, in their order, one to
instances of `type` and the other of `base`. -/
structure DecodedAs (json : JsonGlib) (type base : GType) (elements : List JsonNode)
    (derived nodes : List (Option Node)) : Prop where
  derived_eq : derived = decodeElements json type elements
  nodes_eq : nodes = decodeElements json base elements
  /-- The same elements are no objects. -/
  isSome_eq : derived.map Option.isSome = nodes.map Option.isSome
  gtype_eq : ∀ node, some node ∈ derived → node.gtype = type

theorem decodedAs_decodeElements (json : JsonGlib) (type base : GType)
    (elements : List JsonNode) :
    DecodedAs json type base elements (decodeElements json type elements)
      (decodeElements json base elements) where
  derived_eq := rfl
  nodes_eq := rfl
  isSome_eq := by
    unfold decodeElements
    rw [List.map_map, List.map_map]
    apply List.map_congr_left
    intro jnode _
    cases jnode <;> rfl
  gtype_eq node hmem := by
    obtain ⟨jnode, -, hjnode⟩ := List.mem_map.1 hmem
    exact gtype_of_deserialize hjnode

section

variable {env : Env} {base : DefaultConnectable env.types} {type : GType}

/-- The default parser decodes the elements of the answer. -/
theorem nodes_sendGet_default (base : DefaultConnectable env.types) (restCall : RestProxyCall) :
    (sendGet env (gObjectNew base.gtype) restCall).nodes =
      decodeElements env.json base.gtype (answerElements env restCall) := by
  unfold sendGet answerElements
  cases env.restProxyCallSync restCall with
  | error e => rfl
  | ok payload =>
      simp only [parse_defaultConnectable]
      cases herror : (env.json.loadFromData payload).error with
      | some e => simp [defaultParse_of_error herror, JsonParser.loaded, herror, decodeElements]
      | none =>
          rw [defaultParse_of_loaded herror]
          simp [JsonParser.loaded, herror, decodeElements, gObjectNew]

/-- It answers the same error for all types. -/
theorem error_sendGet_derived (h : Inherits env.types type base.gtype)
    (restCall : RestProxyCall) :
    (sendGet env (gObjectNew type) restCall).error =
      (sendGet env (gObjectNew base.gtype) restCall).error := by
  have hderived : ∀ payload, connectableParseConnectedData env.types (gObjectNew type) env.json
      payload = connectableDefaultParseConnectedData env.json (gObjectNew type) payload :=
    parse_defaultConnectable (base.derived h) env.json
  unfold sendGet
  cases env.restProxyCallSync restCall with
  | error e => rfl
  | ok payload =>
      simp only [hderived, parse_defaultConnectable]
      rw [error_defaultParse, error_defaultParse]

end

/-! ## errors -/

/-- One fails exactly when the other does, and with the same error once a request
was sent.  A refusal names the type, so the texts of two refusals may differ. -/
def FailsAlike (derived error : Option GError) (requests : List RestProxyCall) : Prop :=
  (derived = none ↔ error = none) ∧ (requests ≠ [] → derived = error)

theorem failsAlike_of_eq {derived error : Option GError} (h : derived = error)
    {requests : List RestProxyCall} : FailsAlike derived error requests :=
  ⟨by rw [h], fun _ => h⟩

theorem failsAlike_of_refused {derived error : GError} :
    FailsAlike (some derived) (some error) [] :=
  ⟨by simp, fun h => absurd rfl h⟩

/-! ## appending -/

/-- A response is read in the same way into an instance of another type. -/
theorem sendPost_gtype (env : Env) (connectNode : Node) (base : GType)
    (restCall : RestProxyCall) :
    let derived := sendPost env connectNode restCall
    let result := sendPost env { connectNode with gtype := base } restCall
    derived.success = result.success ∧ derived.assigned = result.assigned ∧
      derived.error = result.error ∧
      derived.connectNode = { result.connectNode with gtype := connectNode.gtype } := by
  have hset : ∀ id, nodeSetId connectNode id =
      { nodeSetId { connectNode with gtype := base } id with gtype := connectNode.gtype } := by
    intro id
    cases id <;> rfl
  unfold sendPost
  cases env.restProxyCallSync restCall with
  | error e => exact ⟨rfl, rfl, rfl, rfl⟩
  | ok payload => exact ⟨rfl, rfl, rfl, hset _⟩

/-- The albums and the photos do not look at the type of an instance. -/
theorem getConnectionPostParams_derived {types : TypeRegistry} {type base : GType}
    (hbase : base = typeAlbum ∨ base = typePhoto) (h : Inherits types type base)
    {connectNode : Node} (hnode : connectNode.gtype = type) {nodeType : GType}
    (htype : types.isA nodeType typeNode = true) :
    connectableGetConnectionPostParams types connectNode nodeType =
      connectableGetConnectionPostParams types { connectNode with gtype := base } nodeType := by
  rw [connectableGetConnectionPostParams, connectableGetConnectionPostParams,
    postParamsGuards_eq _ htype, postParamsGuards_eq _ htype, hnode, h.connection_eq, h.iface_eq]
  cases hbase with
  | inl halbum =>
      rw [halbum, TypeRegistry.iface_typeAlbum]
      rfl
  | inr hphoto =>
      rw [hphoto, TypeRegistry.iface_typePhoto]
      rfl

section

variable {env : Env} {base : DefaultConnectable env.types} {type : GType}
  (h : Inherits env.types type base.gtype) (node : env.types.NodeInstance)
  (authorizer : Authorizer)

include h

/-- **Spec lemma** of listing a derived type. -/
theorem getConnectionNodes_derived :
    let derived := nodeGetConnectionNodes env node.node type authorizer
    let result := nodeGetConnectionNodes env node.node base.gtype authorizer
    derived.requests = result.requests ∧ FailsAlike derived.error result.error result.requests ∧
      DecodedAs env.json type base.gtype (result.requests.flatMap (answerElements env))
        derived.nodes result.nodes := by
  have hderived : env.types.connection (base.derived h).gtype node.node.gtype =
      env.types.connection base.gtype node.node.gtype := h.connection_eq node.node.gtype
  cases hconn : env.types.connection base.gtype node.node.gtype with
  | none =>
      obtain ⟨message, hresult⟩ := getConnectionNodes_of_none authorizer hconn
      rw [hconn] at hderived
      obtain ⟨message', hresult'⟩ := getConnectionNodes_of_none authorizer hderived
      have hrefused : nodeGetConnectionNodes env node.node type authorizer =
          { nodes := [], error := some (noConnectable message'), requests := [] } := hresult'
      dsimp only
      rw [hresult, hrefused]
      exact ⟨rfl, failsAlike_of_refused, decodedAs_decodeElements env.json type base.gtype []⟩
  | some path =>
      have hresult := getConnectionNodes_of_some authorizer hconn
      rw [hconn] at hderived
      have hresult' : nodeGetConnectionNodes env node.node type authorizer =
          sendGet env (gObjectNew type) (connectionCall authorizer "GET" node.node (some path)) :=
        getConnectionNodes_of_some authorizer hderived
      have helements : ∀ restCall, [restCall].flatMap (answerElements env) =
          answerElements env restCall := List.flatMap_singleton _
      have hnodes : ∀ restCall, (sendGet env (gObjectNew type) restCall).nodes =
          decodeElements env.json type (answerElements env restCall) :=
        nodes_sendGet_default (base.derived h)
      dsimp only
      rw [hresult, hresult', requests_sendGet, requests_sendGet, helements]
      refine ⟨rfl, failsAlike_of_eq (error_sendGet_derived h _), ?_⟩
      rw [nodes_sendGet_default base, hnodes]
      exact decodedAs_decodeElements env.json type base.gtype _

/-- **Spec lemma** of appending an instance of a derived type. -/
theorem appendConnection_derived (hbase : base.gtype = typeAlbum ∨ base.gtype = typePhoto)
    {connectNode : env.types.NodeInstance} (hnode : connectNode.node.gtype = type) :
    let derived := nodeAppendConnection env node.node connectNode.node authorizer
    let result := nodeAppendConnection env node.node (base.instance connectNode).node authorizer
    derived.requests = result.requests ∧ FailsAlike derived.error result.error result.requests ∧
      derived.success = result.success ∧ derived.assigned = result.assigned ∧
      derived.connectNode = { result.connectNode with gtype := type } := by
  have hderivedConn : env.types.connection connectNode.node.gtype node.node.gtype =
      env.types.connection (base.instance connectNode).node.gtype node.node.gtype := by
    rw [hnode, h.connection_eq]
    rfl
  dsimp only
  cases hconn : env.types.connection (base.instance connectNode).node.gtype node.node.gtype with
  | none =>
      rw [hconn] at hderivedConn
      obtain ⟨message, hderived⟩ := appendConnection_of_none authorizer hderivedConn
      obtain ⟨message', hresult⟩ := appendConnection_of_none authorizer hconn
      rw [hderived, hresult]
      exact ⟨rfl, failsAlike_of_refused, rfl, rfl, by rw [← hnode]; rfl⟩
  | some path =>
      have hcall : appendCall env authorizer node.node connectNode.node =
          appendCall env authorizer node.node (base.instance connectNode).node := by
        have hparams := getConnectionPostParams_derived hbase h hnode node.isNode
        rw [appendCall, appendCall, getConnectionPath_eq _ node.isNode,
          getConnectionPath_eq _ node.isNode, hderivedConn, hparams]
        rfl
      rw [hconn] at hderivedConn
      rw [appendConnection_of_some authorizer hderivedConn,
        appendConnection_of_some authorizer hconn, requests_sendPost, requests_sendPost, hcall]
      obtain ⟨hsuccess, hassigned, herror, hleft⟩ := sendPost_gtype env connectNode.node base.gtype
        (appendCall env authorizer node.node (base.instance connectNode).node)
      exact ⟨rfl, failsAlike_of_eq herror, hsuccess, hassigned, by rw [hleft, hnode]; rfl⟩

end

/-- **Derived classes connect as their base does**: for every client class that
inherits the interface of the albums or of the photos, at any depth, and every
node, the lists and the appended connections send the requests those of the base
send and fail alike, the lists are the elements of the answer's `data` array
decoded to instances of the two classes, and an appended instance is left with
the same id. -/
theorem derived_class_connects (env : Env) (base : DefaultConnectable env.types)
    (hbase : base.gtype = typeAlbum ∨ base.gtype = typePhoto) {type : GType}
    (h : Inherits env.types type base.gtype) (node : env.types.NodeInstance)
    (authorizer : Authorizer) :
    (let derived := nodeGetConnectionNodes env node.node type authorizer
     let result := nodeGetConnectionNodes env node.node base.gtype authorizer
     derived.requests = result.requests ∧ FailsAlike derived.error result.error result.requests ∧
       DecodedAs env.json type base.gtype (result.requests.flatMap (answerElements env))
         derived.nodes result.nodes) ∧
    ∀ connectNode : env.types.NodeInstance, connectNode.node.gtype = type →
      let derived := nodeAppendConnection env node.node connectNode.node authorizer
      let result := nodeAppendConnection env node.node (base.instance connectNode).node authorizer
      derived.requests = result.requests ∧ FailsAlike derived.error result.error result.requests ∧
        derived.success = result.success ∧ derived.assigned = result.assigned ∧
        derived.connectNode = { result.connectNode with gtype := type } :=
  ⟨getConnectionNodes_derived h node authorizer,
    fun _ hnode => appendConnection_derived h node authorizer hbase hnode⟩

/-! ### an album of an application -/

/-- A client class derived from `GFBGraphAlbum`. -/
def typeAppAlbum : GType := ⟨"AppAlbum"⟩

/-- A process that registers that class. -/
def appAlbumTypes : TypeRegistry where
  clients := [⟨gTypeName typeAppAlbum, gTypeName typeAlbum, none⟩]
  registered := by simp [Hierarchy.Registered, builtinClasses, Hierarchy.names, gTypeName,
    typeNode, typeUser, typeAlbum, typePhoto, typeAppAlbum, gObjectName]

/-- The same process, with a server that answers a list of an object and a
number. -/
def appAlbumEnv : Env :=
  { (Env.answering "").answeringObject "\x7b\"data\": [\x7b\x7d, 1]\x7d"
      [("data", .array [.object [], .int 1])] with
    types := appAlbumTypes }

/-- The class inherits the interface of the albums. -/
theorem inherits_appAlbum : Inherits appAlbumTypes typeAppAlbum typeAlbum where
  isA := by decide
  noTable between hbelow _ hne := by
    have hname : "GFBGraphAlbum" ≠ between.name := by
      intro hname
      cases between
      exact hne (congrArg GType.mk hname.symm)
    -- the other classes above it
    have habove : "AppAlbum" = between.name ∨ "GFBGraphNode" = between.name ∨
        "GObject" = between.name := by
      simpa [TypeRegistry.isA, TypeRegistry.classes, appAlbumTypes, builtinClasses,
        Hierarchy.isA, gTypeName, typeAppAlbum, typeAlbum, typePhoto, typeUser, typeNode,
        gObjectName, hname] using hbelow
    rw [gTypeName]
    obtain happ | hnode | hobject := habove
    · rw [← happ]
      decide
    · rw [← hnode]
      decide
    · rw [← hobject]
      decide

/-- A user lists the albums of the application under the path of the albums, and
one of the two elements is decoded. -/
theorem derived_class_connects_appAlbum :
    let user := nodeSetId (gObjectNew typeUser) (some "4")
    let derived := nodeGetConnectionNodes appAlbumEnv user typeAppAlbum .anonymous
    let result := nodeGetConnectionNodes appAlbumEnv user typeAlbum .anonymous
    derived.requests = result.requests ∧ derived.nodes = [some (gObjectNew typeAppAlbum), none] ∧
      result.nodes = [some (gObjectNew typeAlbum), none] := by
  let user : appAlbumEnv.types.NodeInstance :=
    ⟨nodeSetId (gObjectNew typeUser) (some "4"), TypeRegistry.isA_typeUser⟩
  obtain ⟨hrequests, -, hdecoded⟩ := (derived_class_connects appAlbumEnv (albumConnectable _)
    (Or.inl rfl) inherits_appAlbum user .anonymous).1
  exact ⟨hrequests, hdecoded.derived_eq, hdecoded.nodes_eq⟩

/-! ## classes registered later -/

/-- The registry after a client registers further classes. -/
def TypeRegistry.register (types : TypeRegistry) (later : List (ClassInfo ConnectableInterface))
    (h : Hierarchy.Registered gObjectName (later ++ types.classes)) : TypeRegistry where
  clients := later ++ types.clients
  registered := by
    rw [List.append_assoc]
    exact h

section

variable {types : TypeRegistry} {later : List (ClassInfo ConnectableInterface)}
  (h : Hierarchy.Registered gObjectName (later ++ types.classes)) {type : GType}
  (htype : gTypeName type ∉ Hierarchy.names later)

include htype

theorem isA_register (isAType : GType) :
    (types.register later h).isA type isAType = types.isA type isAType := by
  rw [TypeRegistry.isA, TypeRegistry.classes, TypeRegistry.register, List.append_assoc]
  exact Hierarchy.isA_append_of_notMem htype _ _

theorem iface_register : (types.register later h).iface type = types.iface type := by
  rw [TypeRegistry.iface, TypeRegistry.classes, TypeRegistry.register, List.append_assoc]
  exact Hierarchy.iface_append_of_notMem htype _

end

section

variable {types : TypeRegistry} {later : List (ClassInfo ConnectableInterface)}
  (h : Hierarchy.Registered gObjectName (later ++ types.classes)) {self : Node} {nodeType : GType}
  (hself : gTypeName self.gtype ∉ Hierarchy.names later)
  (hnodeType : gTypeName nodeType ∉ Hierarchy.names later)

include hself hnodeType

theorem isConnectableTo_register :
    connectableIsConnectableTo (types.register later h) self nodeType =
      connectableIsConnectableTo types self nodeType := by
  rw [connectableIsConnectableTo, iface_register h hself, isA_register h hnodeType]
  rfl

theorem getConnectionPath_register :
    connectableGetConnectionPath (types.register later h) self nodeType =
      connectableGetConnectionPath types self nodeType := by
  rw [connectableGetConnectionPath, iface_register h hself, isA_register h hnodeType,
    isConnectableTo_register h hself hnodeType]
  rfl

theorem getConnectionPostParams_register :
    connectableGetConnectionPostParams (types.register later h) self nodeType =
      connectableGetConnectionPostParams types self nodeType := by
  rw [connectableGetConnectionPostParams, connectablePostParamsGuards, TypeRegistry.isConnectable,
    iface_register h hself, isA_register h hnodeType, isConnectableTo_register h hself hnodeType]
  rfl

end

/-- The same process after a client registers further classes. -/
def Env.register (env : Env) (later : List (ClassInfo ConnectableInterface))
    (h : Hierarchy.Registered gObjectName (later ++ env.types.classes)) : Env :=
  { env with types := env.types.register later h }

theorem types_register (env : Env) (later : List (ClassInfo ConnectableInterface))
    (h : Hierarchy.Registered gObjectName (later ++ env.types.classes)) :
    (env.register later h).types = env.types.register later h := rfl

section

variable {env : Env} {later : List (ClassInfo ConnectableInterface)}
  (h : Hierarchy.Registered gObjectName (later ++ env.types.classes)) (authorizer : Authorizer)

theorem sendGet_register {connectedNode : Node}
    (hself : gTypeName connectedNode.gtype ∉ Hierarchy.names later) (restCall : RestProxyCall) :
    sendGet (env.register later h) connectedNode restCall = sendGet env connectedNode restCall := by
  unfold sendGet connectableParseConnectedData
  rw [types_register, iface_register h hself]
  rfl

theorem getConnectionNodes_register {node : Node} {nodeType : GType}
    (hnode : gTypeName node.gtype ∉ Hierarchy.names later)
    (hnodeType : gTypeName nodeType ∉ Hierarchy.names later) :
    nodeGetConnectionNodes (env.register later h) node nodeType authorizer =
      nodeGetConnectionNodes env node nodeType authorizer := by
  have hnew : gTypeName (gObjectNew nodeType).gtype ∉ Hierarchy.names later := hnodeType
  unfold nodeGetConnectionNodes
  simp only [types_register, TypeRegistry.isNode, TypeRegistry.isConnectable,
    isA_register h hnode, isA_register h hnodeType, iface_register h hnew,
    isConnectableTo_register h hnew hnode, getConnectionPath_register h hnew hnode,
    sendGet_register h hnew]
  rfl

theorem appendConnection_register {node connectNode : Node}
    (hnode : gTypeName node.gtype ∉ Hierarchy.names later)
    (hconnectNode : gTypeName connectNode.gtype ∉ Hierarchy.names later) :
    nodeAppendConnection (env.register later h) node connectNode authorizer =
      nodeAppendConnection env node connectNode authorizer := by
  have hcall : appendCall (env.register later h) authorizer node connectNode =
      appendCall env authorizer node connectNode := by
    unfold appendCall
    rw [types_register, getConnectionPath_register h hconnectNode hnode,
      getConnectionPostParams_register h hconnectNode hnode]
    rfl
  unfold nodeAppendConnection
  simp only [types_register, TypeRegistry.isNode, TypeRegistry.isConnectable,
    isA_register h hnode, isA_register h hconnectNode, iface_register h hconnectNode,
    isConnectableTo_register h hconnectNode hnode, hcall]
  rfl

end

/-- **Classes registered later** change nothing: with instances and types that are
not of the new classes, every function of the Graph API returns what it returned
before, sets the same error and sends the same requests. -/
theorem register_keeps_results (env : Env) (later : List (ClassInfo ConnectableInterface))
    (h : Hierarchy.Registered gObjectName (later ++ env.types.classes)) (authorizer : Authorizer) :
    let env' := env.register later h
    (∀ id nodeType, gTypeName nodeType ∉ Hierarchy.names later →
      nodeNewFromId env' authorizer id nodeType = nodeNewFromId env authorizer id nodeType) ∧
    userGetMe env' authorizer = userGetMe env authorizer ∧
    (∀ node nodeType, gTypeName node.gtype ∉ Hierarchy.names later →
      gTypeName nodeType ∉ Hierarchy.names later →
      nodeGetConnectionNodes env' node nodeType authorizer =
        nodeGetConnectionNodes env node nodeType authorizer) ∧
    (∀ user, gTypeName user.gtype ∉ Hierarchy.names later →
      userGetAlbums env' user authorizer = userGetAlbums env user authorizer) ∧
    ∀ node connectNode, gTypeName node.gtype ∉ Hierarchy.names later →
      gTypeName connectNode.gtype ∉ Hierarchy.names later →
      nodeAppendConnection env' node connectNode authorizer =
        nodeAppendConnection env node connectNode authorizer := by
  have halbum : gTypeName typeAlbum ∉ Hierarchy.names later := by
    apply Hierarchy.notMem_of_registered_append h
    simp [Hierarchy.names, TypeRegistry.classes, builtinClasses]
  have hnodes : ∀ node nodeType, gTypeName node.gtype ∉ Hierarchy.names later →
      gTypeName nodeType ∉ Hierarchy.names later →
      nodeGetConnectionNodes (env.register later h) node nodeType authorizer =
        nodeGetConnectionNodes env node nodeType authorizer :=
    fun node nodeType hnode hnodeType => getConnectionNodes_register h authorizer hnode hnodeType
  refine ⟨fun id nodeType hnodeType => ?_, rfl, hnodes, fun user huser => ?_,
    fun node connectNode hnode hconnectNode => appendConnection_register h authorizer hnode
      hconnectNode⟩
  · unfold nodeNewFromId
    rw [types_register, isA_register h hnodeType]
    rfl
  · unfold userGetAlbums
    rw [types_register, TypeRegistry.isUser, isA_register h huser,
      hnodes user typeAlbum huser halbum]
    rfl

/-- The class of the application changes nothing for the albums. -/
theorem register_keeps_results_appAlbum :
    nodeGetConnectionNodes ((Env.answering "{}").register appAlbumTypes.clients
      appAlbumTypes.registered) (gObjectNew typeUser) typeAlbum .anonymous =
    nodeGetConnectionNodes (Env.answering "{}") (gObjectNew typeUser) typeAlbum .anonymous :=
  (register_keeps_results (Env.answering "{}") appAlbumTypes.clients appAlbumTypes.registered
    .anonymous).2.2.1 _ _ (by decide) (by decide)

end GFBGraph
