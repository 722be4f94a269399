import GFBGraph.Graph.Parsing
import Mathlib.Algebra.Group.Nat.Defs

/-!
# GFBGraph.Graph.Lists

Lists of connected nodes from the response to the caller.  The append loop of
the default parser counts with an `int` up to a `guint` length; for every
length an `int` can count to, it makes the same list as the walk over the
elements that `parseLoop` is.  What dispatch through the dummy instance adds is
the type of the nodes, and nothing else of that instance.
-/

namespace GFBGraph

/-! ## the loop in machine integers -/

/-- An index that is not the last a `guint` has counts up. -/
theorem toNat_toUInt32_succ {i : Int32} (h : i.toUInt32.toNat + 1 < 2 ^ 32) :
    (i + 1).toUInt32.toNat = i.toUInt32.toNat + 1 := by
  have hone : (1 : Int32).toUInt32.toNat = 1 := rfl
  rw [Int32.toUInt32_add, UInt32.toNat_add, hone, Nat.mod_eq_of_lt h]

section

variable (json : JsonGlib) (nodeType : GType) (nodesJarray : JsonArray)

/-- The append loop of `gfbgraph_connectable_default_parse_connected_data` with
its index `i`, an `int` that the comparison and the array access convert to a
`guint`. -/
def parseIndexLoop (i : Int32) (nodesList : List (Option Node)) : List (Option Node) :=
  if i.toUInt32 < UInt32.ofNat nodesJarray.length then
    let jnode := nodesJarray[i.toUInt32.toNat]?
    parseIndexLoop (i + 1) (nodesList ++ [jsonGobjectDeserialize json nodeType jnode])
  else nodesList
  termination_by (UInt32.ofNat nodesJarray.length).toNat - i.toUInt32.toNat
  decreasing_by
    have hlt := UInt32.lt_iff_toNat_lt.1 ‹i.toUInt32 < UInt32.ofNat nodesJarray.length›
    have hbound := (UInt32.ofNat nodesJarray.length).toNat_lt
    rw [toNat_toUInt32_succ (by omega)]
    omega

/-- The loop from the `k`-th element on decodes the elements from there on. -/
theorem parseIndexLoop_eq_map (hlength : nodesJarray.length < 2 ^ 31) {k : Nat} {i : Int32}
    (hi : i.toUInt32.toNat = k) (hk : k ≤ nodesJarray.length) (nodesList : List (Option Node)) :
    parseIndexLoop json nodeType nodesJarray i nodesList =
      nodesList ++ (nodesJarray.drop k).map fun jnode =>
        jsonGobjectDeserialize json nodeType (some jnode) := by
  have hcount : (UInt32.ofNat nodesJarray.length).toNat = nodesJarray.length :=
    UInt32.toNat_ofNat_of_lt' (Nat.lt_trans hlength (by decide))
  -- on the number of elements that are left
  induction hleft : nodesJarray.length - k generalizing k i nodesList with
  | zero =>
      have hend : ¬ i.toUInt32 < UInt32.ofNat nodesJarray.length := by
        rw [UInt32.lt_iff_toNat_lt, hcount, hi]
        omega
      rw [parseIndexLoop, if_neg hend, List.drop_eq_nil_of_le (by omega)]
      simp
  | succ left ih =>
      have hlt : k < nodesJarray.length := by omega
      have hgo : i.toUInt32 < UInt32.ofNat nodesJarray.length := by
        rw [UInt32.lt_iff_toNat_lt, hcount, hi]
        exact hlt
      have hnext : (i + 1).toUInt32.toNat = k + 1 := by
        rw [toNat_toUInt32_succ (by omega), hi]
      rw [parseIndexLoop, if_pos hgo]
      simp only [hi, List.getElem?_eq_getElem hlt]
      rw [ih hnext hlt _ (by omega), List.drop_eq_getElem_cons hlt, List.map_cons,
        List.append_assoc, List.singleton_append]

/-- The loop of the parser is this one, as far as an `int` counts. -/
theorem parseLoop_eq_parseIndexLoop (hlength : nodesJarray.length < 2 ^ 31) :
    parseLoop json nodeType (some nodesJarray) =
      parseIndexLoop json nodeType nodesJarray 0 [] := by
  have hzero : (0 : Int32).toUInt32.toNat = 0 := rfl
  rw [parseIndexLoop_eq_map json nodeType nodesJarray hlength hzero (Nat.zero_le _) [],
    parseLoop_eq_map]
  simp [jsonArrayElements]

end

/-! ## from the response to the caller -/

section

variable {env : Env} {type : DefaultConnectable env.types}

/-- The dummy instance counts for its type only. -/
theorem sendGet_eq_of_gtype {dummy : Node} (h : dummy.gtype = type.gtype)
    (restCall : RestProxyCall) :
    sendGet env dummy restCall = sendGet env (gObjectNew type.gtype) restCall := by
  have hparse : ∀ payload, connectableParseConnectedData env.types dummy env.json payload =
      connectableParseConnectedData env.types (gObjectNew type.gtype) env.json payload := by
    intro payload
    have hiface : env.types.iface dummy.gtype = some type.iface := by rw [h, type.iface_eq]
    rw [parse_defaultConnectable, connectableParseConnectedData, hiface]
    simp only [type.parse_eq, connectableDefaultParseConnectedData, h]
    rfl
  unfold sendGet
  simp only [hparse]

/-- A response with a `data` array comes back decoded element by element. -/
theorem getConnectionNodes_of_holdsData {node : env.types.NodeInstance} {authorizer : Authorizer}
    {path payload : String} {elements : List JsonNode}
    (hconn : env.types.connection type.gtype node.node.gtype = some path)
    (hsync : env.restProxyCallSync (connectionCall authorizer "GET" node.node (some path)) =
      .ok payload)
    (hdata : (env.json.loadFromData payload).HoldsData elements) :
    nodeGetConnectionNodes env node.node type.gtype authorizer =
      { nodes := elements.map fun jnode =>
          jsonGobjectDeserialize env.json type.gtype (some jnode)
        error := none
        requests := [connectionCall authorizer "GET" node.node (some path)] } := by
  rw [getConnectionNodes_of_some authorizer hconn, sendGet, hsync]
  simp only [parse_defaultConnectable, defaultParse_of_holdsData _ hdata]
  rfl

end

/-- An array of objects decodes in each place to a node of the type. -/
theorem getElem?_map_deserialize (json : JsonGlib) (nodeType : GType) {elements : List JsonNode}
    (hobjects : JsonParser.AllObjects elements) {k : Nat} {jnode : JsonNode}
    (hk : elements[k]? = some jnode) :
    ∃ decoded, (elements.map fun jnode =>
        jsonGobjectDeserialize json nodeType (some jnode))[k]? = some (some decoded) ∧
      jsonGobjectDeserialize json nodeType (some jnode) = some decoded ∧
      decoded.gtype = nodeType := by
  obtain ⟨members, hmembers⟩ := hobjects jnode (List.mem_of_getElem? hk)
  have hdecodes : (jsonGobjectDeserialize json nodeType (some jnode)).isSome = true :=
    (deserialize_isSome_iff json nodeType).2 ⟨members, by rw [hmembers]⟩
  obtain ⟨decoded, hdecoded⟩ := Option.isSome_iff_exists.1 hdecodes
  refine ⟨decoded, ?_, hdecoded, gtype_of_deserialize hdecoded⟩
  rw [List.getElem?_map, hk, Option.map_some, hdecoded]

/-- **Connection lists are complete and ordered.**  For a node type that uses
the default parser and connects to the node, and a response with a `data` array
of as many objects as an `int` can count, `gfbgraph_node_get_connection_nodes`
sets no error and returns the list the loop makes: one node for each element,
in order, of exactly the requested type, and decoded from that element.  Any
other dummy instance of the type would have led to the same result. -/
theorem connection_lists_complete (env : Env) (node : env.types.NodeInstance)
    (type : DefaultConnectable env.types) (authorizer : Authorizer) {path payload : String}
    {elements : List JsonNode}
    (hconn : env.types.connection type.gtype node.node.gtype = some path)
    (hsync : env.restProxyCallSync (connectionCall authorizer "GET" node.node (some path)) =
      .ok payload)
    (hdata : (env.json.loadFromData payload).HoldsData elements)
    (hobjects : JsonParser.AllObjects elements) (hlength : elements.length ≤ 2 ^ 31 - 1) :
    let result := nodeGetConnectionNodes env node.node type.gtype authorizer
    result.error = none ∧
      result.nodes.length = elements.length ∧
      result.nodes = parseIndexLoop env.json type.gtype elements 0 [] ∧
      (∀ (k : Nat) (jnode : JsonNode), elements[k]? = some jnode →
        ∃ decoded, result.nodes[k]? = some (some decoded) ∧
          jsonGobjectDeserialize env.json type.gtype (some jnode) = some decoded ∧
          decoded.gtype = type.gtype) ∧
      ∀ dummy : Node, dummy.gtype = type.gtype →
        sendGet env dummy (connectionCall authorizer "GET" node.node (some path)) = result := by
  have hresult := getConnectionNodes_of_holdsData hconn hsync hdata
  have hloop := parseLoop_eq_parseIndexLoop env.json type.gtype elements (by omega)
  rw [parseLoop_eq_map] at hloop
  dsimp only
  refine ⟨by rw [hresult], by rw [hresult, List.length_map], ?_, ?_, ?_⟩
  · rw [hresult, ← hloop]
    rfl
  · intro k jnode hk
    rw [hresult]
    exact getElem?_map_deserialize env.json type.gtype hobjects hk
  · intro dummy hdummy
    rw [getConnectionNodes_of_some authorizer hconn]
    exact sendGet_eq_of_gtype hdummy _

/-- The text of a list of two albums. -/
def twoAlbumsText : String := "\x7b\"data\": [\x7b\x7d, \x7b\x7d]\x7d"

/-- A server that answers every request with that list. -/
def twoAlbumsEnv : Env :=
  (Env.answering "").answeringObject twoAlbumsText [("data", .array [.object [], .object []])]

/-- The two albums of a user with the id `4`. -/
theorem connection_lists_two_albums :
    (nodeGetConnectionNodes twoAlbumsEnv (nodeSetId (gObjectNew typeUser) (some "4")) typeAlbum
      .anonymous).nodes.length = 2 := by
  let user : twoAlbumsEnv.types.NodeInstance :=
    ⟨nodeSetId (gObjectNew typeUser) (some "4"), TypeRegistry.isA_typeUser⟩
  have hdata : (twoAlbumsEnv.json.loadFromData twoAlbumsText).HoldsData
      [.object [], .object []] := by
    rw [twoAlbumsEnv, loadFromData_answeringObject]
    exact ⟨rfl, _, rfl, rfl⟩
  have hobjects : JsonParser.AllObjects [.object [], .object []] := by
    intro jnode hjnode
    simp at hjnode
    exact ⟨[], hjnode⟩
  exact (connection_lists_complete twoAlbumsEnv user (albumConnectable _) .anonymous rfl rfl hdata
    hobjects (by decide)).2.1

end GFBGraph
