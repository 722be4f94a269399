import GFBGraph.Lib.Hierarchy
import GFBGraph.Connectable

/-!
# GFBGraph.Types

The type system a process runs with: the four classes of the library, with the
connectable interfaces of Album and Photo, below any classes a client has
registered.  Over it stand the type checks of GObject and the connectable
functions that consult the connection table of a type.

`TypeRegistry.connection` says what all of those functions are about: the path
under which a type connects to another, if it does.
-/

namespace GFBGraph

open Lib

/-! ## the built-in classes -/

/-- `gfbgraph_album_get_connection_post_params`. -/
def albumGetConnectionPostParams (self : Node) (_nodeType : GType) :
    Option (GHashTable (Option String)) :=
  let params := gHashTableInsert gHashTableNew "name" self.album.name
  match self.album.description with
  | none => some params
  | some description => some (gHashTableInsert params "message" (some description))

/-- `gfbgraph_photo_get_connection_post_params`. -/
def photoGetConnectionPostParams (self : Node) (_nodeType : GType) :
    Option (GHashTable (Option String)) :=
  some (gHashTableInsert gHashTableNew "message" self.photo.name)

/-- `gfbgraph_album_connectable_iface_init`. -/
def albumConnectableIface : ConnectableInterface where
  connections := gHashTableInsert gHashTableNew (gTypeName typeUser) "albums"
  connections_pos := by decide
  getConnectionPostParams := albumGetConnectionPostParams
  parseConnectedData := connectableDefaultParseConnectedData

/-- `gfbgraph_photo_connectable_iface_init`. -/
def photoConnectableIface : ConnectableInterface where
  connections := gHashTableInsert gHashTableNew (gTypeName typeAlbum) "photos"
  connections_pos := by decide
  getConnectionPostParams := photoGetConnectionPostParams
  parseConnectedData := connectableDefaultParseConnectedData

/-- The root of every hierarchy. -/
def gObjectName : String := "GObject"

/-- The classes of the library, newest first. -/
def builtinClasses : List (ClassInfo ConnectableInterface) :=
  [⟨gTypeName typePhoto, gTypeName typeNode, some photoConnectableIface⟩,
    ⟨gTypeName typeAlbum, gTypeName typeNode, some albumConnectableIface⟩,
    ⟨gTypeName typeUser, gTypeName typeNode, none⟩,
    ⟨gTypeName typeNode, gObjectName, none⟩]

/-! ## the registry -/

/-- The classes of a process: any client classes over the built-in ones. -/
structure TypeRegistry where
  clients : List (ClassInfo ConnectableInterface)
  registered : Hierarchy.Registered gObjectName (clients ++ builtinClasses)

namespace TypeRegistry

variable (types : TypeRegistry)

/-- Every class, newest first. -/
def classes : List (ClassInfo ConnectableInterface) := types.clients ++ builtinClasses

/-- The registry of a process that registers no class of its own. -/
def builtin : TypeRegistry where
  clients := []
  registered := by simp [Hierarchy.Registered, builtinClasses, Hierarchy.names, gTypeName,
    typeNode, typeUser, typeAlbum, typePhoto, gObjectName]

/-- `g_type_is_a`. -/
def isA (type isAType : GType) : Bool :=
  Hierarchy.isA types.classes (gTypeName type) (gTypeName isAType)

/-- `GFBGRAPH_CONNECTABLE_GET_IFACE` of an instance of this type; `none` when
the type does not implement the interface. -/
def iface (type : GType) : Option ConnectableInterface :=
  Hierarchy.iface types.classes (gTypeName type)

/-- `GFBGRAPH_IS_CONNECTABLE`. -/
def isConnectable (node : Node) : Bool := (types.iface node.gtype).isSome

/-- `GFBGRAPH_IS_NODE`. -/
def isNode (node : Node) : Bool := types.isA node.gtype typeNode

/-- `GFBGRAPH_IS_USER`. -/
def isUser (node : Node) : Bool := types.isA node.gtype typeUser

/-- The path under which `type` connects to nodes of type `nodeType`: the entry
its connection table has under that type's name. -/
def connection (type nodeType : GType) : Option String :=
  (types.iface type).bind fun iface => gHashTableLookup iface.connections (gTypeName nodeType)

/-- A type that is `GFBGRAPH_TYPE_NODE` or derives from it. -/
structure NodeType where
  gtype : GType
  isNode : types.isA gtype typeNode = true

/-- An instance of `GFBGRAPH_TYPE_NODE` or of a class derived from it. -/
structure NodeInstance where
  node : Node
  isNode : types.isNode node = true

variable {types}

/-- Client classes change nothing for the built-in ones. -/
theorem notMem_clients {type : GType} (h : gTypeName type ∈ Hierarchy.names builtinClasses) :
    gTypeName type ∉ Hierarchy.names types.clients :=
  Hierarchy.notMem_of_registered_append types.registered h

@[simp] theorem iface_typeAlbum : types.iface typeAlbum = some albumConnectableIface :=
  Hierarchy.iface_append_of_notMem (notMem_clients (by decide)) _

@[simp] theorem iface_typePhoto : types.iface typePhoto = some photoConnectableIface :=
  Hierarchy.iface_append_of_notMem (notMem_clients (by decide)) _

@[simp] theorem isA_typeAlbum : types.isA typeAlbum typeNode = true :=
  Hierarchy.isA_append_of_notMem (notMem_clients (by decide)) _ _

@[simp] theorem isA_typeUser : types.isA typeUser typeNode = true :=
  Hierarchy.isA_append_of_notMem (notMem_clients (by decide)) _ _

theorem isA_trans {t u v : GType} (htu : types.isA t u = true) (huv : types.isA u v = true) :
    types.isA t v = true := Hierarchy.isA_trans types.registered htu huv

end TypeRegistry

/-! ## the connectable functions -/

section

variable (types : TypeRegistry) (self : Node) (nodeType : GType)

/-- `gfbgraph_connectable_is_connectable_to`. -/
def connectableIsConnectableTo : Bool :=
  match types.iface self.gtype with
  | none => false
  | some iface =>
      if types.isA nodeType typeNode then
        gHashTableContains iface.connections (gTypeName nodeType)
      else false

/-- `gfbgraph_connectable_get_connection_path`. -/
def connectableGetConnectionPath : Option String :=
  match types.iface self.gtype with
  | none => none
  | some iface =>
      if types.isA nodeType typeNode && connectableIsConnectableTo types self nodeType then
        gHashTableLookup iface.connections (gTypeName nodeType)
      else none

/-- The guards of `gfbgraph_connectable_get_connection_post_params`. -/
def connectablePostParamsGuards : Bool :=
  types.isConnectable self && types.isA nodeType typeNode &&
    connectableIsConnectableTo types self nodeType

/-- `gfbgraph_connectable_get_connection_post_params`. -/
def connectableGetConnectionPostParams : Option (GHashTable (Option String)) :=
  if connectablePostParamsGuards types self nodeType then
    (types.iface self.gtype).bind fun iface => iface.getConnectionPostParams self nodeType
  else none

/-- `gfbgraph_connectable_parse_connected_data`. -/
def connectableParseConnectedData (json : JsonGlib) (payload : String) : ParsedNodes :=
  match types.iface self.gtype with
  | none => { nodes := [], error := none }
  | some iface => iface.parseConnectedData json self payload

end

/-! ### what they decide -/

section

variable {types : TypeRegistry} {nodeType : GType}

/-- The membership test asks whether there is a connection. -/
theorem isConnectableTo_eq (self : Node) (h : types.isA nodeType typeNode = true) :
    connectableIsConnectableTo types self nodeType =
      (types.connection self.gtype nodeType).isSome := by
  unfold connectableIsConnectableTo TypeRegistry.connection
  cases types.iface self.gtype with
  | none => rfl
  | some iface =>
      rw [Option.bind_some]
      simp only [h, if_true]
      exact gHashTableContains_eq_isSome _ _

/-- The lookup finds the connection. -/
theorem getConnectionPath_eq (self : Node) (h : types.isA nodeType typeNode = true) :
    connectableGetConnectionPath types self nodeType = types.connection self.gtype nodeType := by
  unfold connectableGetConnectionPath
  rw [isConnectableTo_eq self h, h, Bool.true_and]
  unfold TypeRegistry.connection
  cases types.iface self.gtype with
  | none => rfl
  | some iface =>
      rw [Option.bind_some]
      cases hlookup : gHashTableLookup iface.connections (gTypeName nodeType) with
      | none => simp
      | some path => simpa using hlookup

/-- A type with a connection implements the interface. -/
theorem isConnectable_of_connection {self : Node} {path : String}
    (h : types.connection self.gtype nodeType = some path) :
    types.isConnectable self = true := by
  obtain ⟨iface, hiface, -⟩ := Option.bind_eq_some_iff.1 h
  rw [TypeRegistry.isConnectable, hiface, Option.isSome_some]

/-- The guards of the post parameters let through exactly the connections. -/
theorem postParamsGuards_eq (self : Node) (h : types.isA nodeType typeNode = true) :
    connectablePostParamsGuards types self nodeType =
      (types.connection self.gtype nodeType).isSome := by
  rw [connectablePostParamsGuards, isConnectableTo_eq self h, h, Bool.and_true]
  cases hconn : types.connection self.gtype nodeType with
  | none => simp
  | some path => simp [isConnectable_of_connection hconn]

end

end GFBGraph
