import GFBGraph.Json

/-!
# GFBGraph.Object

Node instances: the private structs of the four classes, the `set_property`
function of each class, and the instance record that holds them.

An instance carries the private struct of every class, zeroed as
`g_object_new` zeroes them; only those of its own class and its ancestors are
ever reached.  A `set_property` call is a property identifier together with
the `GValue` it is given, already of the property's type.
-/

namespace GFBGraph

/-! ## GFBGraphNode -/

/-- `GFBGraphNodePrivate`. -/
structure NodePrivate where
  id : Option String := none
  link : Option String := none
  createdTime : Option String := none
  updatedTime : Option String := none
  deriving DecidableEq, Repr

/-- A property of `GFBGraphNode` with the value written to it. -/
inductive NodeProperty where
  | id (value : Option String)
  | link (value : Option String)
  | createdTime (value : Option String)
  | updatedTime (value : Option String)

/-- `gfbgraph_node_set_property`. -/
def nodeSetProperty (priv : NodePrivate) : NodeProperty → NodePrivate
  | .id value => { priv with id := value }
  | .link value => { priv with link := value }
  | .createdTime value => { priv with createdTime := value }
  | .updatedTime value => { priv with updatedTime := value }

/-! ## GFBGraphUser -/

/-- `GFBGraphUserPrivate`. -/
structure UserPrivate where
  name : Option String := none
  email : Option String := none
  deriving DecidableEq, Repr

/-- A property of `GFBGraphUser` with the value written to it. -/
inductive UserProperty where
  | name (value : Option String)
  | email (value : Option String)

/-- `gfbgraph_user_set_property`. -/
def userSetProperty (priv : UserPrivate) : UserProperty → UserPrivate
  | .name value => { priv with name := value }
  | .email value => { priv with email := value }

/-! ## GFBGraphAlbum -/

/-- `GFBGraphAlbumPrivate`. -/
structure AlbumPrivate where
  name : Option String := none
  description : Option String := none
  coverPhoto : Option String := none
  count : UInt32 := 0
  deriving DecidableEq, Repr

/-- A property of `GFBGraphAlbum` with the value written to it. -/
inductive AlbumProperty where
  | name (value : Option String)
  | description (value : Option String)
  | coverPhoto (value : Option String)
  | count (value : UInt32)

/-- `gfbgraph_album_set_property`. -/
def albumSetProperty (priv : AlbumPrivate) : AlbumProperty → AlbumPrivate
  | .name value => { priv with name := value }
  | .description value => { priv with description := value }
  | .coverPhoto value => { priv with coverPhoto := value }
  | .count value => { priv with count := value }

/-! ## GFBGraphPhoto -/

/-- `GFBGraphPhotoImage`. -/
structure PhotoImage where
  width : UInt32
  height : UInt32
  source : Option String
  deriving DecidableEq, Repr

/-- A `GFBGraphPhotoImage *`: the address of the allocation and what is stored
there.  Two images with the same contents are still two pointers. -/
structure PhotoImagePtr where
  addr : Nat
  image : PhotoImage
  deriving DecidableEq, Repr

/-- `GFBGraphPhotoPrivate`. -/
structure PhotoPrivate where
  name : Option String := none
  source : Option String := none
  width : UInt32 := 0
  height : UInt32 := 0
  images : List PhotoImagePtr := []
  hiresImage : Option PhotoImagePtr := none
  deriving DecidableEq, Repr

/-- A property of `GFBGraphPhoto` with the value written to it. -/
inductive PhotoProperty where
  | name (value : Option String)
  | source (value : Option String)
  | width (value : UInt32)
  | height (value : UInt32)
  | images (value : List PhotoImagePtr)

/-- `gfbgraph_photo_set_property`. -/
def photoSetProperty (priv : PhotoPrivate) : PhotoProperty → PhotoPrivate
  | .name value => { priv with name := value }
  | .source value => { priv with source := value }
  | .width value => { priv with width := value }
  | .height value => { priv with height := value }
  | .images value => { priv with images := value }

/-! ## instances -/

/-- `GFBGRAPH_TYPE_NODE`. -/
def typeNode : GType := ⟨"GFBGraphNode"⟩

/-- `GFBGRAPH_TYPE_USER`. -/
def typeUser : GType := ⟨"GFBGraphUser"⟩

/-- `GFBGRAPH_TYPE_ALBUM`. -/
def typeAlbum : GType := ⟨"GFBGraphAlbum"⟩

/-- `GFBGRAPH_TYPE_PHOTO`. -/
def typePhoto : GType := ⟨"GFBGraphPhoto"⟩

/-- An instance of `GFBGraphNode` or of a class derived from it. -/
structure Node where
  gtype : GType
  priv : NodePrivate := {}
  user : UserPrivate := {}
  album : AlbumPrivate := {}
  photo : PhotoPrivate := {}
  deriving DecidableEq, Repr

/-- `g_object_new (type, NULL)`. -/
def gObjectNew (type : GType) : Node := { gtype := type }

/-- `gfbgraph_node_set_id`: a `NULL` id is refused by a guard, any other is
written through the `id` property. -/
def nodeSetId (node : Node) (id : Option String) : Node :=
  match id with
  | none => node
  | some id => { node with priv := nodeSetProperty node.priv (.id (some id)) }

@[simp] theorem id_nodeSetId_some (node : Node) (id : String) :
    (nodeSetId node (some id)).priv.id = some id := rfl

/-! ## decoding -/

/-- The json-glib a process is linked with: what its parser makes of a text,
and the instance `json_gobject_deserialize` builds from the members of an
object, which is of the requested type. -/
structure JsonGlib where
  loadFromData : String → JsonParser
  gobjectNew : GType → JsonObject → Node
  gtype_gobjectNew : ∀ type members, (gobjectNew type members).gtype = type

/-- `json_gobject_deserialize`: `NULL`, with no error, on anything that is not
a JSON object. -/
def jsonGobjectDeserialize (json : JsonGlib) (type : GType) : Option JsonNode → Option Node
  | some (.object members) => some (json.gobjectNew type members)
  | _ => none

/-- A json-glib that knows the two empty containers and refuses other texts. -/
def emptyContainersJson : JsonGlib where
  loadFromData text :=
    if text = "{}" then { root := some (.object []), error := none }
    else if text = "[]" then { root := some (.array []), error := none }
    else { root := none, error := some ⟨0, "Parse error"⟩ }
  gobjectNew type _ := gObjectNew type
  gtype_gobjectNew _ _ := rfl

theorem gtype_of_deserialize {json : JsonGlib} {type : GType} {jnode : Option JsonNode}
    {node : Node} (h : jsonGobjectDeserialize json type jnode = some node) :
    node.gtype = type := by
  unfold jsonGobjectDeserialize at h
  split at h
  · rw [← Option.some.inj h, json.gtype_gobjectNew]
  · contradiction

/-- Only objects decode. -/
theorem deserialize_isSome_iff (json : JsonGlib) (type : GType) {jnode : Option JsonNode} :
    (jsonGobjectDeserialize json type jnode).isSome = true ↔
      ∃ members, jnode = some (.object members) := by
  constructor
  · intro h
    unfold jsonGobjectDeserialize at h
    split at h
    · exact ⟨_, rfl⟩
    · contradiction
  · intro h
    obtain ⟨members, hobject⟩ := h
    rw [hobject]
    rfl

end GFBGraph
