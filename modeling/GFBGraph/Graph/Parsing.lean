import GFBGraph.Graph.Gating

/-!
# GFBGraph.Graph.Parsing

Which connection responses `gfbgraph_connectable_default_parse_connected_data`
reports as malformed.  A response can be malformed at any of its levels — the
text, the root, the `data` member, the array, an element — but the parser
looks at the first level only: below it every accessor answers `NULL` without
a `GError`, so a response of another shape comes out as an empty list, and an
element of another shape as a `NULL` node.
-/

namespace GFBGraph

/-! ## well-formed responses -/

namespace JsonParser

variable (parser : JsonParser)

/-- The text is a JSON object whose `data` member is the array `elements`. -/
def HoldsData (elements : List JsonNode) : Prop :=
  parser.error = none ∧ ∃ members, parser.root = some (.object members) ∧
    members.lookup "data" = some (.array elements)

/-- Each of these elements is a JSON object. -/
def AllObjects (elements : List JsonNode) : Prop :=
  ∀ jnode ∈ elements, ∃ members, jnode = .object members

/-- The text is a JSON object with a `data` array of objects. -/
def WellFormed : Prop := ∃ elements, parser.HoldsData elements ∧ AllObjects elements

/-- The ways a response can be malformed, level by level. -/
inductive Malformed : Prop
  | text {e} : parser.error = some e → Malformed
  | noRoot : parser.root = none → Malformed
  | notObject {jnode} : parser.root = some jnode → (∀ members, jnode ≠ .object members) → Malformed
  | noData {members} : parser.root = some (.object members) → members.lookup "data" = none →
      Malformed
  | notArray {members jnode} : parser.root = some (.object members) →
      members.lookup "data" = some jnode → (∀ elements, jnode ≠ .array elements) → Malformed
  | element {members elements jnode} : parser.root = some (.object members) →
      members.lookup "data" = some (.array elements) → jnode ∈ elements →
      (∀ members, jnode ≠ .object members) → Malformed

variable {parser}

/-- A response is malformed at one of its levels, or it is well formed. -/
theorem malformed_or_wellFormed (parser : JsonParser) : parser.Malformed ∨ parser.WellFormed := by
  cases herror : parser.error with
  | some e => exact Or.inl (.text herror)
  | none =>
      cases hroot : parser.root with
      | none => exact Or.inl (.noRoot hroot)
      | some root =>
          by_cases hobject : ∃ members, root = .object members
          · obtain ⟨members, rfl⟩ := hobject
            cases hdata : members.lookup "data" with
            | none => exact Or.inl (.noData hroot hdata)
            | some data =>
                by_cases harray : ∃ elements, data = .array elements
                · obtain ⟨elements, rfl⟩ := harray
                  by_cases hall : AllObjects elements
                  · exact Or.inr ⟨elements, ⟨herror, members, hroot, hdata⟩, hall⟩
                  · obtain ⟨jnode, hmem, hjnode⟩ := not_forall₂.1 hall
                    exact Or.inl (.element hroot hdata hmem (not_exists.1 hjnode))
                · exact Or.inl (.notArray hroot hdata (not_exists.1 harray))
          · exact Or.inl (.notObject hroot (not_exists.1 hobject))

/-- Never both. -/
theorem not_malformed_of_wellFormed (h : parser.WellFormed) : ¬ parser.Malformed := by
  obtain ⟨elements, ⟨herror, members, hroot, hdata⟩, hall⟩ := h
  intro hmalformed
  cases hmalformed with
  | text he => simp [herror] at he
  | noRoot hnone => simp [hroot] at hnone
  | notObject hjnode hne => exact hne members (Option.some.inj (hjnode.symm.trans hroot))
  | noData hobject hnone =>
      cases hroot.symm.trans hobject
      simp [hdata] at hnone
  | notArray hobject hjnode hne =>
      cases hroot.symm.trans hobject
      exact hne elements (Option.some.inj (hjnode.symm.trans hdata))
  | element hobject harray hmem hne =>
      cases hroot.symm.trans hobject
      cases hdata.symm.trans harray
      obtain ⟨ms, hms⟩ := hall _ hmem
      exact hne ms hms

/-- A response holds one `data` array at most. -/
theorem HoldsData.unique {elements elements' : List JsonNode} (h : parser.HoldsData elements)
    (h' : parser.HoldsData elements') : elements = elements' := by
  obtain ⟨-, members, hroot, hdata⟩ := h
  obtain ⟨-, members', hroot', hdata'⟩ := h'
  cases hroot.symm.trans hroot'
  cases hdata.symm.trans hdata'
  rfl

/-- The chain of accessors reaches an array exactly in responses that hold
one. -/
theorem getArrayMember_eq_some {elements : List JsonNode} (herror : parser.error = none) :
    jsonObjectGetArrayMember (jsonNodeGetObject parser.root) "data" = some elements ↔
      parser.HoldsData elements := by
  unfold HoldsData jsonObjectGetArrayMember jsonNodeGetObject
  constructor
  · intro h
    split at h
    · next data hdata =>
        cases h
        obtain ⟨members, hmembers, hlookup⟩ := Option.bind_eq_some_iff.1 hdata
        split at hmembers
        · next ms hroot =>
            cases hmembers
            exact ⟨herror, members, hroot, hlookup⟩
        · contradiction
    · contradiction
  · intro h
    obtain ⟨-, members, hroot, hlookup⟩ := h
    rw [hroot]
    simp [hlookup]

end JsonParser

/-! ## the default parser -/

section

variable {json : JsonGlib} {payload : String}

/-- A response with a `data` array is decoded element by element. -/
theorem defaultParse_of_holdsData {elements : List JsonNode} (self : Node)
    (h : (json.loadFromData payload).HoldsData elements) :
    connectableDefaultParseConnectedData json self payload =
      { nodes := elements.map fun jnode => jsonGobjectDeserialize json self.gtype (some jnode)
        error := none } := by
  rw [defaultParse_of_loaded h.1, (JsonParser.getArrayMember_eq_some h.1).2 h, jsonArrayElements,
    Option.getD_some]

/-- Any other response comes out as the empty list, under whatever error the
JSON parser reported. -/
theorem nodes_defaultParse_of_not_holdsData (self : Node)
    (h : ∀ elements, ¬ (json.loadFromData payload).HoldsData elements) :
    (connectableDefaultParseConnectedData json self payload).nodes = [] := by
  cases herror : (json.loadFromData payload).error with
  | some e => rw [defaultParse_of_error herror]
  | none =>
      cases harray : jsonObjectGetArrayMember
          (jsonNodeGetObject (json.loadFromData payload).root) "data" with
      | none => rw [defaultParse_of_loaded herror, harray]; rfl
      | some elements => exact absurd ((JsonParser.getArrayMember_eq_some herror).1 harray) (h _)

/-- An element decodes to `NULL` when it is not an object. -/
theorem none_mem_map_deserialize_iff {type : GType} {elements : List JsonNode} :
    none ∈ (elements.map fun jnode => jsonGobjectDeserialize json type (some jnode)) ↔
      ¬ JsonParser.AllObjects elements := by
  unfold JsonParser.AllObjects
  rw [List.mem_map, not_forall₂]
  refine exists_congr fun jnode => ?_
  rw [exists_prop]
  refine and_congr_right fun _ => ?_
  rw [← Option.not_isSome_iff_eq_none, deserialize_isSome_iff]
  simp

/-- The default parser lists a `NULL` node exactly when `data` has an element
that is not an object. -/
theorem none_mem_defaultParse_iff (self : Node) :
    none ∈ (connectableDefaultParseConnectedData json self payload).nodes ↔
      ∃ elements, (json.loadFromData payload).HoldsData elements ∧
        ¬ JsonParser.AllObjects elements := by
  by_cases hdata : ∃ elements, (json.loadFromData payload).HoldsData elements
  · obtain ⟨elements, helements⟩ := hdata
    rw [defaultParse_of_holdsData self helements, none_mem_map_deserialize_iff]
    constructor
    · exact fun h => ⟨elements, helements, h⟩
    · intro h
      obtain ⟨elements', helements', hnot⟩ := h
      rwa [helements.unique helements']
  · rw [nodes_defaultParse_of_not_holdsData self (not_exists.1 hdata)]
    constructor
    · intro h
      contradiction
    · intro h
      obtain ⟨elements, helements, -⟩ := h
      exact absurd ⟨elements, helements⟩ hdata

end

/-! ## malformed responses -/

/-- What a caller may rely on to tell a malformed response from an empty list:
`NULL` without an error means an empty `data` array, a malformed response is
`NULL` with an error, and no node of a list is `NULL`. -/
def ParseReported (json : JsonGlib) (self : Node) (payload : String) : Prop :=
  let parser := json.loadFromData payload
  let result := connectableDefaultParseConnectedData json self payload
  (result.nodes = [] ∧ result.error = none → parser.HoldsData []) ∧
    (parser.Malformed → result.nodes = [] ∧ result.error.isSome = true) ∧
    none ∉ result.nodes

/-- On a well-formed response the parser does what callers rely on. -/
theorem parseReported_of_wellFormed {json : JsonGlib} {self : Node} {payload : String}
    (h : (json.loadFromData payload).WellFormed) : ParseReported json self payload := by
  obtain ⟨elements, hdata, hall⟩ := h
  have hresult := defaultParse_of_holdsData self hdata
  refine ⟨?_, ?_, ?_⟩
  · intro hempty
    have hnil := hempty.1
    rw [hresult] at hnil
    have helements : elements = [] := List.map_eq_nil_iff.1 hnil
    rwa [helements] at hdata
  · intro hmalformed
    exact absurd hmalformed (JsonParser.not_malformed_of_wellFormed ⟨elements, hdata, hall⟩)
  · rw [hresult, none_mem_map_deserialize_iff]
    exact not_not_intro hall

/-- And on a text that is no JSON. -/
theorem parseReported_of_error {json : JsonGlib} {self : Node} {payload : String}
    (h : (json.loadFromData payload).error.isSome = true) : ParseReported json self payload := by
  obtain ⟨e, he⟩ := Option.isSome_iff_exists.1 h
  rw [ParseReported, defaultParse_of_error he]
  simp

/-- A connectable type that leaves parsing to the default parser. -/
structure DefaultConnectable (types : TypeRegistry) extends types.NodeType where
  iface : ConnectableInterface
  iface_eq : types.iface gtype = some iface
  parse_eq : iface.parseConnectedData = connectableDefaultParseConnectedData

/-- `GFBGraphAlbum` is one. -/
def albumConnectable (types : TypeRegistry) : DefaultConnectable types where
  gtype := typeAlbum
  isNode := TypeRegistry.isA_typeAlbum
  iface := albumConnectableIface
  iface_eq := TypeRegistry.iface_typeAlbum
  parse_eq := rfl

/-- The dummy instance of such a type parses with the default parser. -/
theorem parse_defaultConnectable {types : TypeRegistry} (type : DefaultConnectable types)
    (json : JsonGlib) (payload : String) :
    connectableParseConnectedData types (gObjectNew type.gtype) json payload =
      connectableDefaultParseConnectedData json (gObjectNew type.gtype) payload := by
  have hiface : types.iface (gObjectNew type.gtype).gtype = some type.iface := type.iface_eq
  rw [connectableParseConnectedData, hiface]
  exact congrFun (congrFun (congrFun type.parse_eq _) _) _

/-- The callers of `gfbgraph_node_get_connection_nodes` are handed a `NULL` node
exactly when the response lists something that is not an object. -/
theorem none_mem_getConnectionNodes_iff {env : Env} (node : env.types.NodeInstance)
    (type : DefaultConnectable env.types) (authorizer : Authorizer) :
    none ∈ (nodeGetConnectionNodes env node.node type.gtype authorizer).nodes ↔
      ∃ path payload elements, env.types.connection type.gtype node.node.gtype = some path ∧
        env.restProxyCallSync (connectionCall authorizer "GET" node.node (some path)) =
          .ok payload ∧
        (env.json.loadFromData payload).HoldsData elements ∧
        ¬ JsonParser.AllObjects elements := by
  cases hconn : env.types.connection type.gtype node.node.gtype with
  | none =>
      obtain ⟨message, hresult⟩ := getConnectionNodes_of_none authorizer hconn
      simp [hresult]
  | some path =>
      have hresult := getConnectionNodes_of_some authorizer hconn
      rw [hresult, sendGet]
      cases hsync : env.restProxyCallSync
          (connectionCall authorizer "GET" node.node (some path)) with
      | error e => simp [hsync]
      | ok payload =>
          dsimp only
          rw [parse_defaultConnectable, none_mem_defaultParse_iff]
          simp [hsync]

/-- **Malformed responses are reported only at the level of the text**: the
default parser meets its callers' expectations exactly on the texts the JSON
parser refuses and on the well-formed responses; and the list of connected
nodes is free of `NULL` exactly when every element of `data` is an object. -/
theorem malformed_reported_iff (env : Env) :
    (∀ (self : Node) (payload : String),
      ParseReported env.json self payload ↔
        (env.json.loadFromData payload).error.isSome = true ∨
          (env.json.loadFromData payload).WellFormed) ∧
    (∀ (node : env.types.NodeInstance) (type : DefaultConnectable env.types)
        (authorizer : Authorizer),
      none ∉ (nodeGetConnectionNodes env node.node type.gtype authorizer).nodes ↔
        ∀ path payload elements, env.types.connection type.gtype node.node.gtype = some path →
          env.restProxyCallSync (connectionCall authorizer "GET" node.node (some path)) =
            .ok payload →
          (env.json.loadFromData payload).HoldsData elements →
          JsonParser.AllObjects elements) := by
  refine ⟨fun self payload => ⟨fun h => ?_, fun h => ?_⟩, fun node type authorizer => ?_⟩
  · cases JsonParser.malformed_or_wellFormed (env.json.loadFromData payload) with
    | inl hbad =>
        have herror := (h.2.1 hbad).2
        rw [error_defaultParse, Option.isSome_map] at herror
        exact Or.inl herror
    | inr hgood => exact Or.inr hgood
  · cases h with
    | inl herror => exact parseReported_of_error herror
    | inr hgood => exact parseReported_of_wellFormed hgood
  · rw [none_mem_getConnectionNodes_iff]
    simp only [not_exists, not_and, not_not]

/-! ### an object without data -/

/-- `{}` is read as an empty list of albums, without an error. -/
theorem empty_object_not_reported :
    ¬ ParseReported emptyContainersJson (gObjectNew typeAlbum) "{}" := by
  intro h
  have hmalformed : (emptyContainersJson.loadFromData "{}").Malformed :=
    JsonParser.Malformed.noData rfl rfl
  exact absurd (h.2.1 hmalformed).2 (by decide)

end GFBGraph
