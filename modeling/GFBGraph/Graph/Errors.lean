import GFBGraph.Graph.Gating

/-!
# GFBGraph.Graph.Errors

The `GError` convention of the operations that read a single object: a failed
call sets an error and changes nothing, a call that succeeds sets none.  A
response can fail at three layers — the request, the JSON text, the shape of
the JSON tree — and the shape sets no error of its own, so each operation
keeps the convention exactly along the responses whose shape it expects.
-/

namespace GFBGraph

/-! ## fetching one node -/

/-- The convention for a fetch of a node of the given type: `NULL` is returned
exactly with an error, and a node is of that type. -/
def FetchContract (result : NodeResult) (nodeType : GType) : Prop :=
  (result.node = none ↔ result.error.isSome = true) ∧
    ∀ node, result.node = some node → node.gtype = nodeType ∧ result.error = none

/-- The request fails, or the JSON parser refuses the payload, or the payload
is a JSON object. -/
def ObjectOrError (env : Env) (restCall : RestProxyCall) : Prop :=
  ∀ payload, env.restProxyCallSync restCall = .ok payload →
    (env.json.loadFromData payload).error.isSome = true ∨
      ∃ members, (env.json.loadFromData payload).root = some (.object members)

/-- A failure with its error keeps the convention. -/
theorem fetchContract_of_error {result : NodeResult} (nodeType : GType)
    (hnode : result.node = none) (herror : result.error.isSome = true) :
    FetchContract result nodeType := by
  refine ⟨⟨fun _ => herror, fun _ => hnode⟩, fun node h => ?_⟩
  rw [hnode] at h
  contradiction

/-- What is decoded without an error keeps the convention exactly when it is
an object. -/
theorem fetchContract_deserialize_iff (json : JsonGlib) (nodeType : GType) (root : Option JsonNode)
    (requests : List RestProxyCall) :
    FetchContract { node := jsonGobjectDeserialize json nodeType root, requests } nodeType ↔
      ∃ members, root = some (.object members) := by
  constructor
  · intro h
    have hnode : jsonGobjectDeserialize json nodeType root ≠ none := by
      intro hnone
      have herror := h.1.1 hnone
      contradiction
    exact (deserialize_isSome_iff json nodeType).1 (Option.isSome_iff_ne_none.2 hnode)
  · intro h
    have hsome := (deserialize_isSome_iff json nodeType).2 h
    obtain ⟨node, hnode⟩ := Option.isSome_iff_exists.1 hsome
    constructor
    · simp [hnode]
    · exact fun node h => ⟨gtype_of_deserialize h, rfl⟩

/-- **Spec lemma** of the tail both fetches share. -/
theorem fetchContract_fetchNode_iff (env : Env) (restCall : RestProxyCall) (nodeType : GType) :
    FetchContract (fetchNode env restCall nodeType) nodeType ↔ ObjectOrError env restCall := by
  unfold fetchNode ObjectOrError
  cases hsync : env.restProxyCallSync restCall with
  | error e => simp [fetchContract_of_error]
  | ok payload =>
      cases herror : (env.json.loadFromData payload).error with
      | some e =>
          have hfailed : FetchContract (NodeResult.mk none (some (.json e)) [restCall]) nodeType :=
            fetchContract_of_error nodeType rfl rfl
          simpa [JsonParser.loaded, herror] using hfailed
      | none =>
          have hdecoded := fetchContract_deserialize_iff env.json nodeType
            (env.json.loadFromData payload).root [restCall]
          simpa [JsonParser.loaded, herror] using hdecoded

/-- **Single-node fetches**: `gfbgraph_node_new_from_id` and
`gfbgraph_user_get_me` keep the `GError` convention exactly when a payload that
is JSON is a JSON object. -/
theorem fetch_contract_iff (env : Env) (authorizer : Authorizer) :
    (∀ (id : String) (nodeType : env.types.NodeType), id ≠ "" →
      (FetchContract (nodeNewFromId env authorizer id nodeType.gtype) nodeType.gtype ↔
        ObjectOrError env (newFromIdCall authorizer id))) ∧
    (FetchContract (userGetMe env authorizer) typeUser ↔
      ObjectOrError env (getMeCall authorizer)) := by
  refine ⟨fun id nodeType hid => ?_, fetchContract_fetchNode_iff _ _ _⟩
  have hlength : id.length ≠ 0 := fun h => hid (String.length_eq_zero_iff.1 h)
  unfold nodeNewFromId
  rw [if_neg hlength, nodeType.isNode]
  exact fetchContract_fetchNode_iff _ _ _

/-- The convention is kept for a user fetched by the id `4` and answered by
`{}`. -/
theorem fetch_contract_user_four :
    FetchContract (nodeNewFromId (.answering "{}") .anonymous "4" typeUser) typeUser := by
  let user : (Env.answering "{}").types.NodeType := ⟨typeUser, TypeRegistry.isA_typeUser⟩
  have hid : "4" ≠ "" := by decide
  refine ((fetch_contract_iff (.answering "{}") .anonymous).1 "4" user hid).2 ?_
  intro payload hpayload
  cases hpayload
  exact Or.inr ⟨[], rfl⟩

/-- A response that is an array: `NULL` without an error. -/
theorem fetch_array_no_error :
    ¬ FetchContract (userGetMe (.answering "[]") .anonymous) typeUser := by
  intro h
  have hnode : (userGetMe (.answering "[]") .anonymous).node = none := by decide
  exact absurd (h.1.1 hnode) (by decide)

/-! ## appending a connection -/

/-- The convention for appending `connectNode` to `node`: on success no error
is set and the id of `connectNode` is a string of the response; on failure an
error is set and that id is as before. -/
def AppendContract (env : Env) (node connectNode : Node) (authorizer : Authorizer) : Prop :=
  let result := nodeAppendConnection env node connectNode authorizer
  (result.success = true → result.error = none ∧
    ∃ payload root id,
      env.restProxyCallSync (appendCall env authorizer node connectNode) = .ok payload ∧
      (env.json.loadFromData payload).root = some root ∧ root.HasString id ∧
      result.assigned = some id ∧ result.connectNode.priv.id = some id) ∧
  (result.success = false →
    result.error.isSome = true ∧ result.connectNode.priv.id = connectNode.priv.id)

/-- The text is JSON, and its first element or member is the string `id`. -/
def JsonParser.BeginsWith (parser : JsonParser) (id : String) : Prop :=
  parser.error = none ∧
    ((∃ elements, parser.root = some (.array (.string id :: elements))) ∨
      ∃ name members, parser.root = some (.object ((name, .string id) :: members)))

/-- The id read from a response is its first element or member, when that is a
string. -/
theorem responseId_eq_some_iff {parser : JsonParser} {id : String} :
    responseId parser = some id ↔
      (∃ elements, parser.root = some (.array (.string id :: elements))) ∨
        ∃ name members, parser.root = some (.object ((name, .string id) :: members)) := by
  unfold responseId jsonReaderReadElement jsonReaderNew
  cases hroot : parser.root with
  | none => simp [JsonReader.moveTo, jsonReaderGetStringValue]
  | some root =>
      cases root with
      | array elements =>
          cases elements with
          | nil => simp [JsonReader.moveTo, jsonReaderGetStringValue]
          | cons jnode elements =>
              cases jnode <;> simp [JsonReader.moveTo, jsonReaderGetStringValue]
      | object members =>
          cases members with
          | nil => simp [JsonReader.moveTo, jsonReaderGetStringValue]
          | cons member members =>
              obtain ⟨name, jnode⟩ := member
              cases jnode <;> simp [JsonReader.moveTo, jsonReaderGetStringValue]
      | _ => simp [JsonReader.moveTo, jsonReaderGetStringValue]

/-- The id of a response is one of its strings. -/
theorem hasString_of_beginsWith {parser : JsonParser} {id : String} (h : parser.BeginsWith id) :
    ∃ root, parser.root = some root ∧ root.HasString id := by
  cases h.2 with
  | inl harray =>
      obtain ⟨elements, hroot⟩ := harray
      exact ⟨_, hroot, .element List.mem_cons_self .here⟩
  | inr hobject =>
      obtain ⟨name, members, hroot⟩ := hobject
      exact ⟨_, hroot, .member List.mem_cons_self .here⟩

/-- **Appending a connection**: the convention is kept exactly when the
connection is refused, or the `POST` fails, or the response is JSON whose first
element or member is a string. -/
theorem append_contract_iff (env : Env) (node connectNode : env.types.NodeInstance)
    (authorizer : Authorizer) :
    AppendContract env node.node connectNode.node authorizer ↔
      ∀ path payload,
        env.types.connection connectNode.node.gtype node.node.gtype = some path →
        env.restProxyCallSync (appendCall env authorizer node.node connectNode.node) =
          .ok payload →
        ∃ id, (env.json.loadFromData payload).BeginsWith id := by
  unfold AppendContract
  cases hconn : env.types.connection connectNode.node.gtype node.node.gtype with
  | none =>
      obtain ⟨message, hresult⟩ := appendConnection_of_none authorizer hconn
      simp [hresult]
  | some path =>
      rw [appendConnection_of_some authorizer hconn, sendPost]
      cases hsync : env.restProxyCallSync
          (appendCall env authorizer node.node connectNode.node) with
      | error e => simp
      | ok payload =>
          constructor
          · intro h path' payload' _ hpayload
            cases hpayload
            obtain ⟨herror, _, _, id, -, -, -, hassigned, -⟩ := h.1 rfl
            exact ⟨id, Option.map_eq_none_iff.1 herror, responseId_eq_some_iff.1 hassigned⟩
          · intro h
            obtain ⟨id, hbegins⟩ := h path payload rfl rfl
            obtain ⟨root, hroot, hstring⟩ := hasString_of_beginsWith hbegins
            have hid : responseId (env.json.loadFromData payload) = some id :=
              responseId_eq_some_iff.2 hbegins.2
            refine ⟨fun _ => ⟨?_, payload, root, id, rfl, hroot, hstring, hid, ?_⟩, fun h => ?_⟩
            · simp [hbegins.1]
            · simp [hid]
            · contradiction

/-- A user with an id. -/
def knownUser : Node := nodeSetId (gObjectNew typeUser) (some "4")

/-- A new album with a name. -/
def holidayAlbum : Node := { gObjectNew typeAlbum with album := { name := some "Holidays" } }

/-- A response `{}`: an album is appended to a user with success, and is left
without an id. -/
theorem append_empty_object_no_id :
    ¬ AppendContract (.answering "{}") knownUser holidayAlbum .anonymous := by
  intro h
  obtain ⟨-, payload, root, id, -, -, -, hassigned, -⟩ := h.1 (by decide)
  have hnone : (nodeAppendConnection (.answering "{}") knownUser holidayAlbum
      .anonymous).assigned = none := by decide
  rw [hnone] at hassigned
  contradiction

end GFBGraph
