import GFBGraph.Graph.Parsing

/-!
# GFBGraph.Graph.Subtyping

What deriving a node type does to connectability.  The connection table is
looked up by the exact name of a type, so a derived type connects through an
entry of its own and not through one of its ancestors; in particular the guard
of `gfbgraph_user_get_albums` lets through users that have no connection.
-/

namespace GFBGraph

open Lib

/-! ## the albums of a user -/

/-- An instance the guard of `gfbgraph_user_get_albums` lets through. -/
structure UserInstance (types : TypeRegistry) where
  node : Node
  isUser : types.isUser node = true

/-- Users are nodes. -/
def UserInstance.toNodeInstance {types : TypeRegistry} (user : UserInstance types) :
    types.NodeInstance where
  node := user.node
  isNode := TypeRegistry.isA_trans user.isUser TypeRegistry.isA_typeUser

/-- The albums connect to `GFBGraphUser` in every hierarchy. -/
theorem connection_album_user (types : TypeRegistry) :
    types.connection typeAlbum typeUser = some "albums" := by
  rw [TypeRegistry.connection, TypeRegistry.iface_typeAlbum]
  rfl

/-- And to nothing else. -/
theorem connection_album_of_ne (types : TypeRegistry) {type : GType} (h : type ≠ typeUser) :
    types.connection typeAlbum type = none := by
  have hname : gTypeName type ≠ gTypeName typeUser := by
    intro hname
    cases type
    exact h (congrArg GType.mk hname)
  rw [TypeRegistry.connection, TypeRegistry.iface_typeAlbum, Option.bind_some]
  have hlookup := gHashTableLookup_insert_ne gHashTableNew "albums" hname
  rw [gHashTableLookup_new] at hlookup
  exact hlookup

/-- Once past the guards a list of albums reports transport and parse errors. -/
theorem error_sendGet_album (env : Env) (restCall : RestProxyCall) :
    (sendGet env (gObjectNew typeAlbum) restCall).error =
      match env.restProxyCallSync restCall with
      | .error e => some (.rest e)
      | .ok payload => (env.json.loadFromData payload).error.map .json := by
  unfold sendGet
  cases env.restProxyCallSync restCall with
  | error e => rfl
  | ok payload =>
      have hparse := parse_defaultConnectable (albumConnectable env.types) env.json payload
      have herror := congrArg ParsedNodes.error hparse
      rw [error_defaultParse] at herror
      exact herror

/-- It never reports `GFBGRAPH_NODE_ERROR_NO_CONNECTABLE`. -/
theorem not_isNoConnectable_sendGet_album (env : Env) (restCall : RestProxyCall) :
    ¬ IsNoConnectable (sendGet env (gObjectNew typeAlbum) restCall).error := by
  intro h
  obtain ⟨message, hmessage⟩ := h
  rw [error_sendGet_album] at hmessage
  cases hsync : env.restProxyCallSync restCall with
  | error e =>
      rw [hsync] at hmessage
      cases hmessage
  | ok payload =>
      rw [hsync] at hmessage
      obtain ⟨e, -, he⟩ := Option.map_eq_some_iff.1 hmessage
      cases he

/-- Among the users the guard accepts, those of a derived class are refused. -/
theorem isNoConnectable_getAlbums_iff {env : Env} (user : UserInstance env.types)
    (authorizer : Authorizer) :
    IsNoConnectable (userGetAlbums env user.node authorizer).error ↔
      user.node.gtype ≠ typeUser := by
  let album : env.types.NodeType := ⟨typeAlbum, TypeRegistry.isA_typeAlbum⟩
  rw [userGetAlbums, user.isUser]
  change IsNoConnectable (nodeGetConnectionNodes env user.toNodeInstance.node album.gtype
    authorizer).error ↔ _
  by_cases htype : user.node.gtype = typeUser
  · have hconn : env.types.connection album.gtype user.toNodeInstance.node.gtype =
        some "albums" := by
      rw [show user.toNodeInstance.node.gtype = typeUser from htype]
      exact connection_album_user env.types
    have hnever := not_isNoConnectable_sendGet_album env
      (connectionCall authorizer "GET" user.node (some "albums"))
    rw [getConnectionNodes_of_some authorizer hconn]
    exact ⟨fun h => absurd h hnever, fun h => absurd htype h⟩
  · have hconn : env.types.connection album.gtype user.toNodeInstance.node.gtype = none :=
      connection_album_of_ne env.types htype
    obtain ⟨message, hresult⟩ := getConnectionNodes_of_none authorizer hconn
    rw [hresult]
    exact ⟨fun _ => htype, fun _ => ⟨message, rfl⟩⟩

/-! ## connectability by exact name -/

/-- **Connectability is decided by the exact type.**  Where a type connects to
`nodeType`, it connects to a type derived from it exactly when its table has an
entry for the derived type as well, and then under the path of that entry; and
among the users `gfbgraph_user_get_albums` accepts, exactly those of a derived
class fail with `GFBGRAPH_NODE_ERROR_NO_CONNECTABLE`. -/
theorem connectable_by_own_entry (env : Env) :
    (∀ (self : Node) (nodeType derived : env.types.NodeType),
      env.types.isA derived.gtype nodeType.gtype = true →
      connectableIsConnectableTo env.types self nodeType.gtype = true →
        connectableIsConnectableTo env.types self derived.gtype =
          (env.types.connection self.gtype derived.gtype).isSome ∧
        connectableGetConnectionPath env.types self derived.gtype =
          env.types.connection self.gtype derived.gtype) ∧
    (∀ (user : UserInstance env.types) (authorizer : Authorizer),
      IsNoConnectable (userGetAlbums env user.node authorizer).error ↔
        user.node.gtype ≠ typeUser) := by
  refine ⟨fun self nodeType derived _ _ => ?_, fun user authorizer => ?_⟩
  · exact ⟨isConnectableTo_eq self derived.isNode, getConnectionPath_eq self derived.isNode⟩
  · exact isNoConnectable_getAlbums_iff user authorizer

/-! ### a derived user -/

/-- A client class derived from `GFBGraphUser`. -/
def typeAppUser : GType := ⟨"AppUser"⟩

/-- A process that registers that class. -/
def appUserTypes : TypeRegistry where
  clients := [⟨gTypeName typeAppUser, gTypeName typeUser, none⟩]
  registered := by simp [Hierarchy.Registered, builtinClasses, Hierarchy.names, gTypeName,
    typeNode, typeUser, typeAlbum, typePhoto, typeAppUser, gObjectName]

/-- The same process, with a server behind it. -/
def appUserEnv : Env := { Env.answering "{}" with types := appUserTypes }

/-- A client class of nodes that connect to users and to users of the derived
class, under different paths. -/
def typeAppNote : GType := ⟨"AppNote"⟩

def appNoteIface : ConnectableInterface where
  connections := gHashTableInsert (gHashTableInsert gHashTableNew (gTypeName typeUser) "notes")
    (gTypeName typeAppUser) "appnotes"
  connections_pos := by decide
  getConnectionPostParams _ _ := none
  parseConnectedData := connectableDefaultParseConnectedData

/-- A process that registers it as well. -/
def appNoteTypes : TypeRegistry where
  clients := ⟨gTypeName typeAppNote, gTypeName typeNode, some appNoteIface⟩ :: appUserTypes.clients
  registered := by simp [Hierarchy.Registered, builtinClasses, Hierarchy.names, gTypeName,
    typeNode, typeUser, typeAlbum, typePhoto, typeAppUser, typeAppNote, gObjectName, appUserTypes]

/-- The albums do not connect to the derived class; the notes, which have an
entry for it, do, and under its path. -/
theorem connectable_by_own_entry_appUser :
    connectableIsConnectableTo appUserTypes (gObjectNew typeAlbum) typeAppUser = false ∧
      connectableIsConnectableTo appNoteTypes (gObjectNew typeAppNote) typeAppUser = true ∧
      connectableGetConnectionPath appNoteTypes (gObjectNew typeAppNote) typeAppUser =
        some "appnotes" := by
  let appNoteEnv : Env := { appUserEnv with types := appNoteTypes }
  let user : appUserEnv.types.NodeType := ⟨typeUser, TypeRegistry.isA_typeUser⟩
  let appUser : appUserEnv.types.NodeType := ⟨typeAppUser, by decide⟩
  let user' : appNoteEnv.types.NodeType := ⟨typeUser, TypeRegistry.isA_typeUser⟩
  let appUser' : appNoteEnv.types.NodeType := ⟨typeAppUser, by decide⟩
  have halbum := (connectable_by_own_entry appUserEnv).1 (gObjectNew typeAlbum) user appUser
    (by decide) (by decide)
  have hnote := (connectable_by_own_entry appNoteEnv).1 (gObjectNew typeAppNote) user' appUser'
    (by decide) (by decide)
  exact ⟨halbum.1.trans (by decide), hnote.1.trans (by decide), hnote.2.trans (by decide)⟩

/-- The derived class is a kind of user, the albums connect to users, and they
do not connect to the derived class: listing the albums of such a user passes
the guard and fails. -/
theorem derived_user_not_connectable :
    appUserTypes.isA typeAppUser typeUser = true ∧
      connectableIsConnectableTo appUserTypes (gObjectNew typeAlbum) typeUser = true ∧
      connectableIsConnectableTo appUserTypes (gObjectNew typeAlbum) typeAppUser = false ∧
      appUserTypes.isUser (gObjectNew typeAppUser) = true ∧
      IsNoConnectable (userGetAlbums appUserEnv (gObjectNew typeAppUser) .anonymous).error := by
  refine ⟨by decide, by decide, by decide, by decide, ?_⟩
  exact ⟨"The given node type (GFBGraphAlbum) can't connect with the node", by decide⟩

end GFBGraph
