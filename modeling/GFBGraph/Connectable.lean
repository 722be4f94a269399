import GFBGraph.Object

/-!
# GFBGraph.Connectable

The `GFBGraphConnectable` interface and the parser most implementations share,
`gfbgraph_connectable_default_parse_connected_data`.
-/

namespace GFBGraph

/-- What a list parser returns: a `GList` of nodes, `NULL` elements included,
and the error it set. -/
structure ParsedNodes where
  nodes : List (Option Node)
  error : Option GError

/-- `GFBGraphConnectableInterface`, filled in by an implementation.  The table
is not empty: `get_connections` asserts it on every use. -/
structure ConnectableInterface where
  /-- From the name of a node type to the path of the connection. -/
  connections : GHashTable String
  connections_pos : 0 < gHashTableSize (some connections)
  getConnectionPostParams : Node → GType → Option (GHashTable (Option String))
  parseConnectedData : JsonGlib → Node → String → ParsedNodes

/-- The append loop of the default parser. -/
def parseLoop (json : JsonGlib) (nodeType : GType) (nodesJarray : Option JsonArray) :
    List (Option Node) :=
  (jsonArrayElements nodesJarray).foldl
    (fun nodesList jnode => nodesList ++ [jsonGobjectDeserialize json nodeType (some jnode)]) []

/-- `gfbgraph_connectable_default_parse_connected_data`. -/
def connectableDefaultParseConnectedData (json : JsonGlib) (self : Node) (payload : String) :
    ParsedNodes :=
  let jparser := json.loadFromData payload
  if jparser.loaded then
    let mainJobject := jsonNodeGetObject jparser.root
    let nodesJarray := jsonObjectGetArrayMember mainJobject "data"
    { nodes := parseLoop json self.gtype nodesJarray, error := none }
  else
    { nodes := [], error := jparser.error.map .json }

/-! ## what the default parser returns -/

theorem foldl_deserialize (json : JsonGlib) (nodeType : GType) (elements : List JsonNode)
    (nodesList : List (Option Node)) :
    elements.foldl (fun nodesList jnode =>
        nodesList ++ [jsonGobjectDeserialize json nodeType (some jnode)]) nodesList =
      nodesList ++ elements.map fun jnode => jsonGobjectDeserialize json nodeType (some jnode) := by
  induction elements generalizing nodesList with
  | nil => simp
  | cons jnode elements ih =>
      rw [List.foldl_cons, ih, List.map_cons, List.append_assoc, List.singleton_append]

/-- The loop decodes the elements one by one, in order. -/
theorem parseLoop_eq_map (json : JsonGlib) (nodeType : GType) (nodesJarray : Option JsonArray) :
    parseLoop json nodeType nodesJarray =
      (jsonArrayElements nodesJarray).map fun jnode =>
        jsonGobjectDeserialize json nodeType (some jnode) := by
  rw [parseLoop, foldl_deserialize, List.nil_append]

theorem defaultParse_of_error {json : JsonGlib} {payload : String} {e : LibError}
    (h : (json.loadFromData payload).error = some e) (self : Node) :
    connectableDefaultParseConnectedData json self payload =
      { nodes := [], error := some (.json e) } := by
  simp [connectableDefaultParseConnectedData, JsonParser.loaded, h]

theorem defaultParse_of_loaded {json : JsonGlib} {payload : String}
    (h : (json.loadFromData payload).error = none) (self : Node) :
    connectableDefaultParseConnectedData json self payload =
      { nodes := (jsonArrayElements (jsonObjectGetArrayMember
          (jsonNodeGetObject (json.loadFromData payload).root) "data")).map fun jnode =>
            jsonGobjectDeserialize json self.gtype (some jnode)
        error := none } := by
  simp [connectableDefaultParseConnectedData, JsonParser.loaded, h, parseLoop_eq_map]

/-- The default parser reports nothing but what the JSON parser does. -/
theorem error_defaultParse (json : JsonGlib) (self : Node) (payload : String) :
    (connectableDefaultParseConnectedData json self payload).error =
      (json.loadFromData payload).error.map .json := by
  cases herror : (json.loadFromData payload).error with
  | none => rw [defaultParse_of_loaded herror, Option.map_none]
  | some e => rw [defaultParse_of_error herror, Option.map_some]

end GFBGraph
