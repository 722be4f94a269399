import GFBGraph.Lib.Record
import GFBGraph.Types
import Mathlib.Data.List.TakeWhile

/-!
# GFBGraph.Object.Properties

The properties of nodes, users and albums: the `GParamSpec`s that the class
initializers install, how GObject finds one by name, and how reading and
writing them is dispatched to the class that owns the property.

These three types do not implement `JsonSerializable`.  json-glib converts
their values itself and leaves out those that are the default of the property.
-/

namespace GFBGraph

open Lib

/-! ## param specs -/

/-- The canonical form of a property name, with `-` for `_`. -/
def gParamSpecCanonicalName (name : String) : String :=
  name.map fun c => if c = '_' then '-' else c

/-- Canonical names are compared character by character. -/
theorem gParamSpecCanonicalName_eq_iff (name other : String) :
    gParamSpecCanonicalName name = gParamSpecCanonicalName other ↔
      (name.toList.map fun c => if c = '_' then '-' else c) =
        other.toList.map fun c => if c = '_' then '-' else c := by
  rw [← String.toList_inj, gParamSpecCanonicalName, gParamSpecCanonicalName, String.toList_map,
    String.toList_map]

theorem gParamSpecCanonicalName_idem (name : String) :
    gParamSpecCanonicalName (gParamSpecCanonicalName name) = gParamSpecCanonicalName name := by
  unfold gParamSpecCanonicalName
  rw [String.map_map]
  congr 1
  funext c
  by_cases h : c = '_'
  · simp [h]
  · simp [h]

/-- The value types of the properties of nodes, users and albums. -/
inductive GParamType where
  | string
  | uint
  deriving DecidableEq, Repr

/-- What a `GValue` of the type holds. -/
abbrev GParamType.Value : GParamType → Type
  | .string => Option String
  | .uint => UInt32

instance (type : GParamType) : DecidableEq type.Value :=
  match type with
  | .string => inferInstanceAs (DecidableEq (Option String))
  | .uint => inferInstanceAs (DecidableEq UInt32)

/-- A `GParamSpec` that may be read and written.  Its name is kept in the
canonical form. -/
structure GParamSpec where
  name : String
  type : GParamType
  default : type.Value
  canonical : gParamSpecCanonicalName name = name

/-- `g_param_spec_string (name, …, default, G_PARAM_READWRITE)`. -/
def gParamSpecString (name : String) (default : Option String) : GParamSpec where
  name := gParamSpecCanonicalName name
  type := .string
  default := default
  canonical := gParamSpecCanonicalName_idem name

/-- `g_param_spec_uint (name, …, 0, G_MAXUINT, default, G_PARAM_READWRITE)`. -/
def gParamSpecUint (name : String) (default : UInt32) : GParamSpec where
  name := gParamSpecCanonicalName name
  type := .uint
  default := default
  canonical := gParamSpecCanonicalName_idem name

@[simp] theorem name_gParamSpecString (name : String) (default : Option String) :
    (gParamSpecString name default).name = gParamSpecCanonicalName name := rfl

@[simp] theorem name_gParamSpecUint (name : String) (default : UInt32) :
    (gParamSpecUint name default).name = gParamSpecCanonicalName name := rfl

/-! ## finding a property -/

/-- `Type::name` as the type and the name, split at the first colon. -/
def typePrefix (name : String) : Option (String × String) :=
  match name.toList.dropWhile (· ≠ ':') with
  | ':' :: ':' :: rest =>
      some (String.ofList (name.toList.takeWhile (· ≠ ':')), String.ofList rest)
  | _ => none

/-- The name without the type it may be qualified with. -/
def unqualifiedName (name : String) : String := (typePrefix name).elim name Prod.snd

/-- A name without a colon is not qualified. -/
theorem typePrefix_of_notMem {name : String} (h : ':' ∉ name.toList) : typePrefix name = none := by
  have hdrop : name.toList.dropWhile (· ≠ ':') = [] := by
    rw [List.dropWhile_eq_nil_iff]
    intro c hc
    have hne : c ≠ ':' := fun heq => h (heq ▸ hc)
    simpa using hne
  rw [typePrefix, hdrop]

theorem unqualifiedName_of_notMem {name : String} (h : ':' ∉ name.toList) :
    unqualifiedName name = name := by
  rw [unqualifiedName, typePrefix_of_notMem h]
  rfl

/-- The canonical form of a name has a colon if the name has one. -/
theorem colon_mem_canonicalName {name : String} (h : ':' ∈ name.toList) :
    ':' ∈ (gParamSpecCanonicalName name).toList := by
  rw [gParamSpecCanonicalName, String.toList_map, List.mem_map]
  exact ⟨':', h, by decide⟩

/-- A class with the properties of its instances.  `ancestry` names its type and
those it derives from, the nearest first, and `owner` the one among them that
installed a property. -/
structure GObjectClass (π : Type) where
  ancestry : List String
  listed : List π
  pspecName : π → String
  owner : π → String
  mem_listed : ∀ property, property ∈ listed
  owner_mem : ∀ property, owner property ∈ ancestry
  nodup_names : (listed.map pspecName).Nodup
  canonical : ∀ property, gParamSpecCanonicalName (pspecName property) = pspecName property
  unqualified : ∀ property, ':' ∉ (pspecName property).toList

namespace GObjectClass

variable {π : Type} (klass : GObjectClass π)

/-- The property of that name that one of the types installed. -/
def installed (types : List String) (name : String) : Option π :=
  types.findSome? fun type =>
    klass.listed.find? fun property =>
      klass.owner property = type ∧ klass.pspecName property = name

/-- `param_spec_ht_lookup`: by the name as it is, else by its canonical form. -/
def paramSpecHtLookup (types : List String) (name : String) : Option π :=
  klass.installed types name <|> klass.installed types (gParamSpecCanonicalName name)

end GObjectClass

/-- `g_object_class_find_property`: the name may be qualified with the type, or
with one it derives from, and then names a property that instances of that type
have. -/
def gObjectClassFindProperty {π : Type} (klass : GObjectClass π) (name : String) : Option π :=
  klass.paramSpecHtLookup klass.ancestry name <|>
    (typePrefix name).bind fun (type, rest) =>
      klass.paramSpecHtLookup (klass.ancestry.dropWhile (· ≠ type)) rest

namespace GObjectClass

variable {π : Type} {klass : GObjectClass π} {types : List String} {name : String} {property : π}

/-- Properties have different names. -/
theorem eq_of_pspecName_eq {other : π}
    (h : klass.pspecName property = klass.pspecName other) : property = other :=
  List.inj_on_of_nodup_map klass.nodup_names (klass.mem_listed property) (klass.mem_listed other) h

theorem installed_eq_some_iff :
    klass.installed types name = some property ↔
      klass.owner property ∈ types ∧ klass.pspecName property = name := by
  constructor
  · intro h
    obtain ⟨type, htype, hfind⟩ := List.exists_of_findSome?_eq_some h
    have hfound : klass.owner property = type ∧ klass.pspecName property = name := by
      simpa using List.find?_some hfind
    exact ⟨hfound.1 ▸ htype, hfound.2⟩
  · rintro ⟨howner, rfl⟩
    cases hfound : klass.installed types (klass.pspecName property) with
    | none =>
        have hnone := List.findSome?_eq_none_iff.1 hfound _ howner
        simpa using List.find?_eq_none.1 hnone property (klass.mem_listed property)
    | some other =>
        obtain ⟨type, -, hfind⟩ := List.exists_of_findSome?_eq_some hfound
        have hname : klass.owner other = type ∧
            klass.pspecName other = klass.pspecName property := by
          simpa using List.find?_some hfind
        rw [eq_of_pspecName_eq hname.2]

/-- A lookup among some types finds the property they installed whose name is
the canonical form. -/
theorem paramSpecHtLookup_eq_some_iff :
    klass.paramSpecHtLookup types name = some property ↔
      klass.owner property ∈ types ∧ klass.pspecName property = gParamSpecCanonicalName name := by
  rw [paramSpecHtLookup, ← installed_eq_some_iff]
  cases hexact : klass.installed types name with
  | none => rfl
  | some other =>
      -- a name that is found as it is, is canonical
      obtain ⟨-, hother⟩ := installed_eq_some_iff.1 hexact
      rw [← hother, klass.canonical, hother, hexact]
      rfl

end GObjectClass

section

variable {π : Type} {klass : GObjectClass π} {name : String} {property : π}

/-- **Spec lemma** of finding a property: the name is that of the property up to
`_` and `-`, or it is so after the name of a type that has the property. -/
theorem findProperty_eq_some_iff :
    gObjectClassFindProperty klass name = some property ↔
      klass.pspecName property = gParamSpecCanonicalName name ∨
        ∃ type rest, typePrefix name = some (type, rest) ∧
          klass.owner property ∈ klass.ancestry.dropWhile (· ≠ type) ∧
          klass.pspecName property = gParamSpecCanonicalName rest := by
  unfold gObjectClassFindProperty
  cases hlookup : klass.paramSpecHtLookup klass.ancestry name with
  | some other =>
      obtain ⟨-, hother⟩ := GObjectClass.paramSpecHtLookup_eq_some_iff.1 hlookup
      -- such a name has no colon
      have hcolon : ':' ∉ name.toList := by
        intro hmem
        exact klass.unqualified other (hother ▸ colon_mem_canonicalName hmem)
      rw [typePrefix_of_notMem hcolon, ← hother]
      constructor
      · intro h
        obtain rfl := Option.some.inj h
        exact Or.inl rfl
      · rintro (hname | ⟨type, rest, hprefix, -⟩)
        · exact congrArg some (GObjectClass.eq_of_pspecName_eq hname.symm)
        · contradiction
  | none =>
      have hname : klass.pspecName property ≠ gParamSpecCanonicalName name := by
        intro hname
        have hfound := GObjectClass.paramSpecHtLookup_eq_some_iff.2
          ⟨klass.owner_mem property, hname⟩
        rw [hlookup] at hfound
        contradiction
      rw [or_iff_right hname]
      cases typePrefix name with
      | none => simp
      | some qualified =>
          obtain ⟨type, rest⟩ := qualified
          simpa using GObjectClass.paramSpecHtLookup_eq_some_iff

variable (klass) in
/-- Properties are found under their own names. -/
theorem findProperty_pspecName (property : π) :
    gObjectClassFindProperty klass (klass.pspecName property) = some property :=
  findProperty_eq_some_iff.2 (Or.inl (klass.canonical property).symm)

/-- A name finds no property but the one whose name is the canonical form of its
last part. -/
theorem canonicalName_of_findProperty (h : gObjectClassFindProperty klass name = some property) :
    gParamSpecCanonicalName (unqualifiedName name) = klass.pspecName property := by
  obtain hname | ⟨type, rest, hprefix, -, hname⟩ := findProperty_eq_some_iff.1 h
  · have hcolon : ':' ∉ name.toList := by
      intro hmem
      exact klass.unqualified property (hname ▸ colon_mem_canonicalName hmem)
    rw [unqualifiedName_of_notMem hcolon, hname]
  · rw [unqualifiedName, hprefix, hname]
    rfl

end

/-! ## classes -/

/-- The properties of a class, which have different names, and the types that
installed them, which are the class or among those it derives from. -/
structure ClassProperties (π : Type) where
  ancestry : List String
  pspec : π → GParamSpec
  owner : π → String
  listed : List π
  mem_listed : ∀ property, property ∈ listed
  owner_mem : ∀ property, owner property ∈ ancestry
  nodup_names : (listed.map fun property => (pspec property).name).Nodup
  unqualified : ∀ property, ':' ∉ (pspec property).name.toList

namespace ClassProperties

variable {π π' : Type}

/-- What a `GValue` of the property's type holds. -/
abbrev Value (properties : ClassProperties π) (property : π) : Type :=
  (properties.pspec property).type.Value

/-- The class as the lookup of properties sees it. -/
def gObjectClass (properties : ClassProperties π) : GObjectClass π where
  ancestry := properties.ancestry
  listed := properties.listed
  pspecName property := (properties.pspec property).name
  owner := properties.owner
  mem_listed := properties.mem_listed
  owner_mem := properties.owner_mem
  nodup_names := properties.nodup_names
  canonical property := (properties.pspec property).canonical
  unqualified := properties.unqualified

/-- The properties of a derived class: those of its parent and its own. -/
def inherit (parent : ClassProperties π) (own : ClassProperties π')
    (hne : ∀ property other, (parent.pspec property).name ≠ (own.pspec other).name)
    (hsub : parent.ancestry ⊆ own.ancestry) : ClassProperties (π ⊕ π') where
  ancestry := own.ancestry
  pspec := Sum.elim parent.pspec own.pspec
  owner := Sum.elim parent.owner own.owner
  listed := parent.listed.map .inl ++ own.listed.map .inr
  mem_listed property := by
    cases property with
    | inl property =>
        exact List.mem_append_left _ (List.mem_map_of_mem (parent.mem_listed property))
    | inr property =>
        exact List.mem_append_right _ (List.mem_map_of_mem (own.mem_listed property))
  owner_mem property := by
    cases property with
    | inl property => exact hsub (parent.owner_mem property)
    | inr property => exact own.owner_mem property
  nodup_names := by
    rw [List.map_append, List.map_map, List.map_map]
    refine List.Nodup.append parent.nodup_names own.nodup_names ?_
    intro name hparent hown
    obtain ⟨property, -, hproperty⟩ := List.mem_map.1 hparent
    obtain ⟨other, -, hother⟩ := List.mem_map.1 hown
    exact hne property other (hproperty.trans hother.symm)
  unqualified property := by
    cases property with
    | inl property => exact parent.unqualified property
    | inr property => exact own.unqualified property

end ClassProperties

/-- `json_serialize_pspec` and `json_deserialize_pspec`. -/
structure JsonPspec where
  serialize : (type : GParamType) → type.Value → JsonNode
  deserialize : (type : GParamType) → JsonNode → Option type.Value

/-- What json-glib does with the properties of a class that does not implement
`JsonSerializable`. -/
def ClassProperties.gobjectFormat {π : Type} (properties : ClassProperties π)
    (json : JsonPspec) : Format π properties.Value String JsonNode where
  name property := (properties.pspec property).name
  find := gObjectClassFindProperty properties.gObjectClass
  find_name property := findProperty_pspecName properties.gObjectClass property
  readable _ := true
  writable _ := true
  write property value :=
    if value = (properties.pspec property).default then none
    else some (json.serialize (properties.pspec property).type value)
  read property jnode := json.deserialize (properties.pspec property).type jnode

/-- A type that the setters keep, decoding keeps. -/
theorem gtype_decode_of_set {π : Type} {ν : π → Type} {format : Format π ν String JsonNode}
    {record : Record Node π ν}
    (hset : ∀ node property value, (record.set node property value).gtype = node.gtype)
    (init : Node) (members : JsonObject) :
    (format.decode record init members).gtype = init.gtype := by
  have hkept : ∀ node property value, node.gtype = init.gtype →
      (record.set node property value).gtype = init.gtype :=
    fun node property value hnode => (hset node property value).trans hnode
  exact Format.decode_of_set hkept rfl members

/-! ## GFBGraphNode -/

/-- The properties of `GFBGraphNode`. -/
inductive NodePropertyId where
  | id
  | link
  | createdTime
  | updatedTime
  deriving DecidableEq, Repr

/-- The `GParamSpec`s of `gfbgraph_node_class_init`. -/
def NodePropertyId.pspec : NodePropertyId → GParamSpec
  | .id => gParamSpecString "id" none
  | .link => gParamSpecString "link" none
  | .createdTime => gParamSpecString "created-time" none
  | .updatedTime => gParamSpecString "updated-time" none

/-- What `gfbgraph_node_class_init` installs. -/
def nodeClassInit : ClassProperties NodePropertyId where
  ancestry := [gTypeName typeNode, gObjectName]
  pspec := NodePropertyId.pspec
  owner _ := gTypeName typeNode
  listed := [.id, .link, .createdTime, .updatedTime]
  mem_listed property := by cases property <;> decide
  owner_mem _ := List.mem_cons_self
  nodup_names := by simp [NodePropertyId.pspec, gParamSpecCanonicalName_eq_iff]
  unqualified property := by
    cases property <;> simp [NodePropertyId.pspec, gParamSpecCanonicalName]

/-- `gfbgraph_node_get_property`. -/
def nodeGetProperty (priv : NodePrivate) :
    (property : NodePropertyId) → property.pspec.type.Value
  | .id => priv.id
  | .link => priv.link
  | .createdTime => priv.createdTime
  | .updatedTime => priv.updatedTime

/-- `g_object_set_property`, for a property that `GFBGraphNode` owns. -/
def nodeObjectSetProperty (node : Node) :
    (property : NodePropertyId) → property.pspec.type.Value → Node
  | .id, value => { node with priv := nodeSetProperty node.priv (.id value) }
  | .link, value => { node with priv := nodeSetProperty node.priv (.link value) }
  | .createdTime, value => { node with priv := nodeSetProperty node.priv (.createdTime value) }
  | .updatedTime, value => { node with priv := nodeSetProperty node.priv (.updatedTime value) }

/-- A node as a record of its properties. -/
def nodeRecord : Record Node NodePropertyId fun property => property.pspec.type.Value where
  get node property := nodeGetProperty node.priv property
  set := nodeObjectSetProperty
  get_set _ property _ := by cases property <;> rfl
  get_set_ne node property value other h := by
    cases property <;> cases other <;> first | rfl | contradiction

/-! ## GFBGraphUser -/

/-- The properties that `GFBGraphUser` adds. -/
inductive UserPropertyId where
  | name
  | email
  deriving DecidableEq, Repr

/-- The `GParamSpec`s of `gfbgraph_user_class_init`. -/
def UserPropertyId.pspec : UserPropertyId → GParamSpec
  | .name => gParamSpecString "name" none
  | .email => gParamSpecString "email" none

/-- What `gfbgraph_user_class_init` installs. -/
def userClassInit : ClassProperties UserPropertyId where
  ancestry := [gTypeName typeUser, gTypeName typeNode, gObjectName]
  pspec := UserPropertyId.pspec
  owner _ := gTypeName typeUser
  listed := [.name, .email]
  mem_listed property := by cases property <;> decide
  owner_mem _ := List.mem_cons_self
  nodup_names := by simp [UserPropertyId.pspec, gParamSpecCanonicalName_eq_iff]
  unqualified property := by
    cases property <;> simp [UserPropertyId.pspec, gParamSpecCanonicalName]

/-- `gfbgraph_user_get_property`. -/
def userGetProperty (priv : UserPrivate) :
    (property : UserPropertyId) → property.pspec.type.Value
  | .name => priv.name
  | .email => priv.email

/-- `g_object_set_property`, for a property that `GFBGraphUser` owns. -/
def userObjectSetProperty (user : Node) :
    (property : UserPropertyId) → property.pspec.type.Value → Node
  | .name, value => { user with user := userSetProperty user.user (.name value) }
  | .email, value => { user with user := userSetProperty user.user (.email value) }

/-- A user as a record of the properties of its own class. -/
def ownUserRecord : Record Node UserPropertyId fun property => property.pspec.type.Value where
  get user property := userGetProperty user.user property
  set := userObjectSetProperty
  get_set _ property _ := by cases property <;> rfl
  get_set_ne user property value other h := by
    cases property <;> cases other <;> first | rfl | contradiction

/-! ## GFBGraphAlbum -/

/-- The properties that `GFBGraphAlbum` adds. -/
inductive AlbumPropertyId where
  | name
  | description
  | coverPhoto
  | count
  deriving DecidableEq, Repr

/-- The `GParamSpec`s of `gfbgraph_album_class_init`. -/
def AlbumPropertyId.pspec : AlbumPropertyId → GParamSpec
  | .name => gParamSpecString "name" (some "")
  | .description => gParamSpecString "description" (some "")
  | .coverPhoto => gParamSpecString "cover_photo" (some "")
  | .count => gParamSpecUint "count" 0

/-- What `gfbgraph_album_class_init` installs. -/
def albumClassInit : ClassProperties AlbumPropertyId where
  ancestry := [gTypeName typeAlbum, gTypeName typeNode, gObjectName]
  pspec := AlbumPropertyId.pspec
  owner _ := gTypeName typeAlbum
  listed := [.name, .description, .coverPhoto, .count]
  mem_listed property := by cases property <;> decide
  owner_mem _ := List.mem_cons_self
  nodup_names := by simp [AlbumPropertyId.pspec, gParamSpecCanonicalName_eq_iff]
  unqualified property := by
    cases property <;> simp [AlbumPropertyId.pspec, gParamSpecCanonicalName]

/-- `gfbgraph_album_get_property`. -/
def albumGetProperty (priv : AlbumPrivate) :
    (property : AlbumPropertyId) → property.pspec.type.Value
  | .name => priv.name
  | .description => priv.description
  | .coverPhoto => priv.coverPhoto
  | .count => priv.count

/-- `g_object_set_property`, for a property that `GFBGraphAlbum` owns. -/
def albumObjectSetProperty (album : Node) :
    (property : AlbumPropertyId) → property.pspec.type.Value → Node
  | .name, value => { album with album := albumSetProperty album.album (.name value) }
  | .description, value =>
      { album with album := albumSetProperty album.album (.description value) }
  | .coverPhoto, value => { album with album := albumSetProperty album.album (.coverPhoto value) }
  | .count, value => { album with album := albumSetProperty album.album (.count value) }

/-- An album as a record of the properties of its own class. -/
def ownAlbumRecord : Record Node AlbumPropertyId fun property => property.pspec.type.Value where
  get album property := albumGetProperty album.album property
  set := albumObjectSetProperty
  get_set _ property _ := by cases property <;> rfl
  get_set_ne album property value other h := by
    cases property <;> cases other <;> first | rfl | contradiction

/-! ## derived classes -/

/-- No class adds a property with the name of an inherited one. -/
theorem user_name_ne (property : NodePropertyId) (other : UserPropertyId) :
    property.pspec.name ≠ other.pspec.name := by
  cases property <;> cases other <;>
    simp [NodePropertyId.pspec, UserPropertyId.pspec, gParamSpecCanonicalName_eq_iff]

theorem album_name_ne (property : NodePropertyId) (other : AlbumPropertyId) :
    property.pspec.name ≠ other.pspec.name := by
  cases property <;> cases other <;>
    simp [NodePropertyId.pspec, AlbumPropertyId.pspec, gParamSpecCanonicalName_eq_iff]

/-- The properties of a user. -/
def userProperties : ClassProperties (NodePropertyId ⊕ UserPropertyId) :=
  nodeClassInit.inherit userClassInit user_name_ne (List.subset_cons_self _ _)

/-- The properties of an album. -/
def albumProperties : ClassProperties (NodePropertyId ⊕ AlbumPropertyId) :=
  nodeClassInit.inherit albumClassInit album_name_ne (List.subset_cons_self _ _)

/-- The functions of `GFBGraphUser` leave what a node has alone, and those of
`GFBGraphNode` what a user has. -/
theorem apart_user : Record.Apart userProperties.Value nodeRecord ownUserRecord where
  get_own _ property _ _ := by cases property <;> rfl
  get_parent _ other _ _ := by cases other <;> rfl
  set_comm _ property _ other _ := by cases property <;> cases other <;> rfl

theorem apart_album : Record.Apart albumProperties.Value nodeRecord ownAlbumRecord where
  get_own _ property _ _ := by cases property <;> rfl
  get_parent _ other _ _ := by cases other <;> rfl
  set_comm _ property _ other _ := by cases property <;> cases other <;> rfl

/-- A user as a record of its properties, each dispatched to its class. -/
def userRecord : Record Node (NodePropertyId ⊕ UserPropertyId) userProperties.Value :=
  Record.inherit apart_user

/-- An album as a record of its properties, each dispatched to its class. -/
def albumRecord : Record Node (NodePropertyId ⊕ AlbumPropertyId) albumProperties.Value :=
  Record.inherit apart_album

end GFBGraph
