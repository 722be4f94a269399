import GFBGraph.Object.Decoding

/-!
# GFBGraph.Object.RoundTrip

What is left of a node, a user or an album that was serialized and decoded
again.  These types do not implement `JsonSerializable`, so json-glib leaves
out every value that is the default of its property.  The decoded instance then
has what `g_object_new` put there, which is the default as well for nodes and
users; for the strings of an album it is `NULL`, and the default is `""`.
-/

namespace GFBGraph

open Lib

/-- What `json_serialize_pspec` makes of a value, `json_deserialize_pspec`
reads back. -/
structure JsonPspec.Lawful (json : JsonPspec) : Prop where
  deserialize_serialize : ∀ type (value : type.Value),
    json.deserialize type (json.serialize type value) = some value

/-- So do the conversions of json-glib. -/
theorem lawful_jsonGlibPspec : jsonGlibPspec.Lawful where
  deserialize_serialize type value := by
    cases type with
    | string =>
        have hstring : ∀ value : Option String,
            jsonGlibDefault.deserializeString (value.elim .null .string) = some value := by
          intro value
          cases value <;> rfl
        exact hstring value
    | uint =>
        have huint : ∀ value : UInt32, value.toUInt64.toInt64.toUInt64.toUInt32 = value := by
          simp
        exact congrArg some (huint value)

/-! ## property by property -/

section

variable {π : Type} {properties : ClassProperties π} {json : JsonPspec}
  {record : Record Node π properties.Value}

variable (properties json record) in
/-- `json_gobject_serialize`, and what it may become on the way: the members in
any order, with members of other names among them. -/
def IsSerialized (node : Node) (members : JsonObject) : Prop :=
  (properties.gobjectFormat json).IsDocument record properties.listed node members

/-- A value that is not the default comes back; for the default, the new
instance keeps its own. -/
theorem get_decode_serialized (hjson : json.Lawful) (hcomm : record.SetsCommute)
    {node : Node} {members : JsonObject} (h : IsSerialized properties json record node members)
    (init : Node) (property : π) :
    record.get ((properties.gobjectFormat json).decode record init members) property =
      if record.get node property = (properties.pspec property).default then
        record.get init property
      else record.get node property := by
  have hnodup : properties.listed.Nodup := List.Nodup.of_map _ properties.nodup_names
  rw [Format.get_decode_document hcomm hnodup (properties.mem_listed property) h init]
  have hreadable : (properties.gobjectFormat json).readable property = true := rfl
  have hwritable : (properties.gobjectFormat json).writable property = true := rfl
  rw [Format.written, if_pos hreadable]
  by_cases hdefault : record.get node property = (properties.pspec property).default
  · have hwrite : (properties.gobjectFormat json).write property (record.get node property) =
        none := if_pos hdefault
    rw [hwrite, if_pos hdefault]
    rfl
  · have hwrite : (properties.gobjectFormat json).write property (record.get node property) =
        some (json.serialize _ (record.get node property)) := if_neg hdefault
    have hread : (properties.gobjectFormat json).read property
        (json.serialize _ (record.get node property)) = some (record.get node property) :=
      hjson.deserialize_serialize _ _
    rw [hwrite, if_neg hdefault, Format.taken, if_pos hwritable, hread, Option.getD_some]

/-- So a node comes back exactly when the new instance has the default wherever
the node has it. -/
theorem readsBack_iff (hjson : json.Lawful) (hcomm : record.SetsCommute)
    {node : Node} {members : JsonObject} (h : IsSerialized properties json record node members)
    (init : Node) :
    (∀ property, record.get ((properties.gobjectFormat json).decode record init members) property =
        record.get node property) ↔
      ∀ property, record.get node property = (properties.pspec property).default →
        record.get init property = (properties.pspec property).default := by
  refine forall_congr' fun property => ?_
  rw [get_decode_serialized hjson hcomm h]
  by_cases hdefault : record.get node property = (properties.pspec property).default
  · rw [if_pos hdefault, hdefault]
    exact ⟨fun hinit _ => hinit, fun hinit => hinit rfl⟩
  · rw [if_neg hdefault]
    exact ⟨fun _ heq => absurd heq hdefault, fun _ => rfl⟩

end

/-! ## the three types -/

/-- A new instance has the default in every property of `GFBGraphNode`. -/
theorem node_default_new (type : GType) (property : NodePropertyId) :
    nodeRecord.get (gObjectNew type) property = property.pspec.default := by
  cases property <;> rfl

/-- So has it in those of `GFBGraphUser`. -/
theorem user_default_new (type : GType) (property : UserPropertyId) :
    ownUserRecord.get (gObjectNew type) property = property.pspec.default := by
  cases property <;> rfl

/-- The string properties of an album are not empty. -/
structure NoEmptyString (album : Node) : Prop where
  name : album.album.name ≠ some ""
  description : album.album.description ≠ some ""
  coverPhoto : album.album.coverPhoto ≠ some ""

/-- In those of `GFBGraphAlbum` an instance has a default that a new one has
not exactly when it has an empty string. -/
theorem noEmptyString_iff (album : Node) :
    NoEmptyString album ↔ ∀ property : AlbumPropertyId,
      ownAlbumRecord.get album property = property.pspec.default →
        ownAlbumRecord.get (gObjectNew typeAlbum) property = property.pspec.default := by
  have hempty : (none : Option String) ≠ some "" := nofun
  constructor
  · intro h property hdefault
    cases property with
    | name => exact absurd hdefault h.name
    | description => exact absurd hdefault h.description
    | coverPhoto => exact absurd hdefault h.coverPhoto
    | count => rfl
  · intro h
    exact {
      name := fun hname => hempty (h .name hname)
      description := fun hdescription => hempty (h .description hdescription)
      coverPhoto := fun hcoverPhoto => hempty (h .coverPhoto hcoverPhoto) }

/-- An instance of the type is decoded from `members`, with the properties of
`node`. -/
def ReadsBack {π : Type} {ν : π → Type} (glib : JsonGlib) (record : Record Node π ν)
    (type : GType) (node : Node) (members : JsonObject) : Prop :=
  ∃ decoded, jsonGobjectDeserialize glib type (some (.object members)) = some decoded ∧
    ∀ property, record.get decoded property = record.get node property

section

variable {π : Type} {properties : ClassProperties π} {json : JsonPspec}
  {record : Record Node π properties.Value}

variable (properties) in
/-- A json-glib that builds the type property by property reads back what the
new instance lets it. -/
theorem readsBack_gobjectNew_iff (hjson : json.Lawful) (hcomm : record.SetsCommute)
    (glib : JsonGlib) (type : GType) {node : Node} {members : JsonObject}
    (hnew : glib.gobjectNew type members =
      (properties.gobjectFormat json).decode record (gObjectNew type) members)
    (h : IsSerialized properties json record node members) :
    ReadsBack glib record type node members ↔
      ∀ property, record.get node property = (properties.pspec property).default →
        record.get (gObjectNew type) property = (properties.pspec property).default := by
  rw [← readsBack_iff hjson hcomm h]
  constructor
  · intro hback
    obtain ⟨decoded, hdecoded, hsame⟩ := hback
    obtain rfl := Option.some.inj hdecoded
    rwa [hnew] at hsame
  · intro hsame
    refine ⟨_, rfl, ?_⟩
    rwa [hnew]

end

/-- **Round trips of nodes, users and albums**: from its members in any order
and among members of other names, every node and every user is read back, and
an album exactly when none of its strings is empty. -/
theorem object_round_trip_iff (json : JsonPspec) (hjson : json.Lawful) (glib : JsonGlib)
    (default : JsonSerializableDefault) (alloc : Nat → Nat) :
    (∀ node members, IsSerialized nodeClassInit json nodeRecord node members →
      ReadsBack (glib.decodingNodes json default alloc) nodeRecord typeNode node members) ∧
    (∀ user members, IsSerialized userProperties json userRecord user members →
      ReadsBack (glib.decodingNodes json default alloc) userRecord typeUser user members) ∧
    ∀ album members, IsSerialized albumProperties json albumRecord album members →
      (ReadsBack (glib.decodingNodes json default alloc) albumRecord typeAlbum album members ↔
        NoEmptyString album) := by
  refine ⟨fun node members h => ?_, fun user members h => ?_, fun album members h => ?_⟩
  · have hback := readsBack_gobjectNew_iff nodeClassInit hjson setsCommute_node
      (glib.decodingNodes json default alloc) typeNode rfl h
    exact hback.2 fun property _ => node_default_new typeNode property
  · have hback := readsBack_gobjectNew_iff userProperties hjson setsCommute_user
      (glib.decodingNodes json default alloc) typeUser rfl h
    refine hback.2 fun property _ => ?_
    cases property with
    | inl property => exact node_default_new typeUser property
    | inr property => exact user_default_new typeUser property
  · have hback := readsBack_gobjectNew_iff albumProperties hjson setsCommute_album
      (glib.decodingNodes json default alloc) typeAlbum rfl h
    rw [hback, noEmptyString_iff]
    constructor
    · exact fun hall property => hall (.inr property)
    · intro hown property hdefault
      cases property with
      | inl property => exact node_default_new typeAlbum property
      | inr property => exact hown property hdefault

/-- An album without a description, as the Graph API may report it. -/
def undescribedAlbum : Node :=
  { gObjectNew typeAlbum with album := { name := some "Holidays", description := some "" } }

/-- It does not come back from what it was serialized to. -/
theorem object_round_trip_undescribed :
    ¬ ReadsBack (emptyContainersJson.decodingNodes jsonGlibPspec jsonGlibDefault id) albumRecord
      typeAlbum undescribedAlbum ((albumProperties.gobjectFormat jsonGlibPspec).encode albumRecord
        albumProperties.listed undescribedAlbum) := by
  intro hback
  obtain ⟨-, -, halbum⟩ := object_round_trip_iff jsonGlibPspec lawful_jsonGlibPspec
    emptyContainersJson jsonGlibDefault id
  have hstrings := (halbum undescribedAlbum _ (Format.isDocument_encode _ _)).1 hback
  exact hstrings.description rfl

end GFBGraph
