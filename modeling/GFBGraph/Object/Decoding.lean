import GFBGraph.Photo.RoundTrip

/-!
# GFBGraph.Object.Decoding

The order of the members of a JSON object has no say in the node that is
decoded from it, for any of the four types, as long as no two members name the
same property.  The setters commute: each writes the one field of its property,
also across the classes of a type.

GObject finds a property by its name up to `_` and `-`, and also by that name
after a type that has the property, so members with different names may name
the same one (`decoding_order_qualified`).  A name finds no property but the one
whose name is the canonical form of its last part.
-/

namespace GFBGraph

open Lib

/-! ## names -/

/-- No two members have names that are the same up to `_` and `-` and the types
they may be qualified with. -/
def DistinctNames (members : JsonObject) : Prop :=
  (members.map fun member => gParamSpecCanonicalName (unqualifiedName member.1)).Nodup

section

variable {π : Type} {ν : π → Type} {format : Format π ν String JsonNode}

variable (format) in
/-- A name finds no property but the one whose name is the canonical form of its
last part. -/
def FindsCanonical : Prop :=
  ∀ name property, format.find name = some property →
    gParamSpecCanonicalName (unqualifiedName name) = format.name property

/-- Distinct names name different properties. -/
theorem namedApart_of_distinctNames (hfind : FindsCanonical format) {members : JsonObject}
    (h : DistinctNames members) : format.NamedApart members := by
  have hpairwise := List.pairwise_map.1 h
  refine hpairwise.imp fun hne property hproperty hproperty' => ?_
  exact hne ((hfind _ _ hproperty).trans (hfind _ _ hproperty').symm)

end

/-- A class finds by canonical form. -/
theorem findsCanonical_gobjectFormat {π : Type} (properties : ClassProperties π)
    (json : JsonPspec) : FindsCanonical (properties.gobjectFormat json) :=
  fun _ _ h => canonicalName_of_findProperty h

/-- So does the implementation of a photo. -/
theorem findsCanonical_photo (default : JsonSerializableDefault) (alloc : Nat → Nat) :
    FindsCanonical (photoSerializableIface default alloc) :=
  fun _ _ h => canonicalName_of_findProperty h

/-! ## setters -/

/-- Each case of `gfbgraph_node_set_property` writes its own field. -/
theorem setsCommute_node : nodeRecord.SetsCommute := by
  intro node property value other value' h
  cases property <;> cases other <;> first | rfl | contradiction

/-- So does each of `gfbgraph_user_set_property`, beside those of a node. -/
theorem setsCommute_user : userRecord.SetsCommute := by
  refine Record.setsCommute_inherit apart_user setsCommute_node ?_
  intro user property value other value' h
  cases property <;> cases other <;> first | rfl | contradiction

theorem setsCommute_album : albumRecord.SetsCommute := by
  refine Record.setsCommute_inherit apart_album setsCommute_node ?_
  intro album property value other value' h
  cases property <;> cases other <;> first | rfl | contradiction

theorem setsCommute_photo : photoRecord.SetsCommute := by
  intro photo property value other value' h
  cases property <;> cases other <;> first | rfl | contradiction

/-! ## the order of the members -/

/-- What is decoded does not depend on the order of members that name different
properties: a member sets the property it names to the value it is read as, or
leaves the node as it was. -/
structure OrderFree {π : Type} {ν : π → Type} (format : Format π ν String JsonNode)
    (record : Record Node π ν) : Prop where
  namedApart : ∀ members, DistinctNames members → format.NamedApart members
  perm : ∀ init members members', format.NamedApart members → members'.Perm members →
    format.decode record init members' = format.decode record init members
  unnamed : ∀ node name jnode, format.find name = none →
    format.readMember record node (name, jnode) = node
  refused : ∀ node name jnode property, format.find name = some property →
    format.read property jnode = none → format.readMember record node (name, jnode) = node
  accepted : ∀ init members member property value, format.NamedApart members →
    member ∈ members → format.Sets member property value →
      record.get (format.decode record init members) property = value
  untouched : ∀ init members property,
    (∀ member ∈ members, ∀ value, ¬ format.Sets member property value) →
      record.get (format.decode record init members) property = record.get init property

/-- Setters that commute leave no say to the order. -/
theorem orderFree_of_setsCommute {π : Type} {ν : π → Type}
    {format : Format π ν String JsonNode} {record : Record Node π ν}
    (hfind : FindsCanonical format) (hcomm : record.SetsCommute) : OrderFree format record where
  namedApart _ hdistinct := namedApart_of_distinctNames hfind hdistinct
  perm init _ _ hnamed hperm := Format.decode_of_perm hcomm hnamed hperm init
  unnamed node name jnode hnone := by
    refine Format.readMember_of_not_sets (fun property value hsets => ?_) node
    rw [hsets.find_eq] at hnone
    contradiction
  refused node name jnode property hproperty hnone := by
    refine Format.readMember_of_not_sets (fun other value hsets => ?_) node
    obtain rfl := Option.some.inj (hproperty.symm.trans hsets.find_eq)
    rw [hsets.read_eq] at hnone
    contradiction
  accepted init _ _ _ _ hnamed hmem hsets := Format.get_decode_of_sets hnamed hmem hsets init
  untouched init members property h := Format.get_decode_of_not_sets h init

theorem orderFree_node (json : JsonPspec) :
    OrderFree (nodeClassInit.gobjectFormat json) nodeRecord :=
  orderFree_of_setsCommute (findsCanonical_gobjectFormat _ json) setsCommute_node

theorem orderFree_user (json : JsonPspec) :
    OrderFree (userProperties.gobjectFormat json) userRecord :=
  orderFree_of_setsCommute (findsCanonical_gobjectFormat _ json) setsCommute_user

theorem orderFree_album (json : JsonPspec) :
    OrderFree (albumProperties.gobjectFormat json) albumRecord :=
  orderFree_of_setsCommute (findsCanonical_gobjectFormat _ json) setsCommute_album

theorem orderFree_photo (default : JsonSerializableDefault) (alloc : Nat → Nat) :
    OrderFree (photoSerializableIface default alloc) photoRecord :=
  orderFree_of_setsCommute (findsCanonical_photo default alloc) setsCommute_photo

/-- **The order of JSON members** that name different properties does not matter
to any of the four types. -/
theorem decoding_order_free (json : JsonPspec) (default : JsonSerializableDefault)
    (alloc : Nat → Nat) :
    OrderFree (nodeClassInit.gobjectFormat json) nodeRecord ∧
      OrderFree (userProperties.gobjectFormat json) userRecord ∧
      OrderFree (albumProperties.gobjectFormat json) albumRecord ∧
      OrderFree (photoSerializableIface default alloc) photoRecord :=
  ⟨orderFree_node json, orderFree_user json, orderFree_album json, orderFree_photo default alloc⟩

/-- A name that is qualified with the type of the property names it as well, and
of two members the last one counts. -/
theorem decoding_order_qualified :
    ¬ ∀ members members' : JsonObject,
      (members.map fun member => gParamSpecCanonicalName member.1).Nodup →
      members'.Perm members →
      (nodeClassInit.gobjectFormat jsonGlibPspec).decode nodeRecord (gObjectNew typeNode) members' =
        (nodeClassInit.gobjectFormat jsonGlibPspec).decode nodeRecord (gObjectNew typeNode)
          members := by
  intro h
  have hplain : (nodeClassInit.gobjectFormat jsonGlibPspec).find "id" = some .id :=
    findProperty_eq_some_iff.2 (Or.inl rfl)
  have hqualified : (nodeClassInit.gobjectFormat jsonGlibPspec).find "GFBGraphNode::id" =
      some .id :=
    findProperty_eq_some_iff.2 (Or.inr ⟨"GFBGraphNode", "id", rfl, by decide, rfl⟩)
  have hread : ∀ {name}, (nodeClassInit.gobjectFormat jsonGlibPspec).find name = some .id →
      ∀ node id, (nodeClassInit.gobjectFormat jsonGlibPspec).readMember nodeRecord node
        (name, .string id) = nodeRecord.set node .id (some id) :=
    fun hfind _ _ => Format.readMember_of_sets ⟨hfind, rfl, rfl⟩ _
  have hsame := h [("id", .string "1"), ("GFBGraphNode::id", .string "2")]
    [("GFBGraphNode::id", .string "2"), ("id", .string "1")]
    (by simp [gParamSpecCanonicalName_eq_iff]) (List.Perm.swap _ _ [])
  simp only [Format.decode, List.foldl_cons, List.foldl_nil, hread hplain,
    hread hqualified] at hsame
  have hids : (some "1" : Option String) = some "2" :=
    congrArg (fun node : Node => node.priv.id) hsame
  contradiction

/-! ## deserializing -/

section

variable {π : Type} {ν : π → Type}

/-- A json-glib that builds the instances of one type property by property. -/
def JsonGlib.decoding (glib : JsonGlib) (type : GType) (format : Format π ν String JsonNode)
    (record : Record Node π ν)
    (hgtype : ∀ node property value, (record.set node property value).gtype = node.gtype) :
    JsonGlib where
  loadFromData := glib.loadFromData
  gobjectNew type' members :=
    if type' = type then format.decode record (gObjectNew type) members
    else glib.gobjectNew type' members
  gtype_gobjectNew type' members := by
    by_cases h : type' = type
    · rw [if_pos h, h]
      exact gtype_decode_of_set hgtype (gObjectNew type) members
    · rw [if_neg h]
      exact glib.gtype_gobjectNew type' members

/-- What is deserialized does not depend on the order of the members. -/
def JsonGlib.OrderFree (glib : JsonGlib) (type : GType) : Prop :=
  ∀ members members', DistinctNames members → members'.Perm members →
    jsonGobjectDeserialize glib type (some (.object members')) =
      jsonGobjectDeserialize glib type (some (.object members))

/-- Building one type in this way adds it to those whose order is free. -/
theorem orderFree_decoding {glib : JsonGlib} {type type' : GType}
    {format : Format π ν String JsonNode} {record : Record Node π ν}
    (hgtype : ∀ node property value, (record.set node property value).gtype = node.gtype)
    (hformat : OrderFree format record) (h : type' ≠ type → glib.OrderFree type') :
    (glib.decoding type format record hgtype).OrderFree type' := by
  intro members members' hdistinct hperm
  by_cases htype : type' = type
  · simp only [jsonGobjectDeserialize, JsonGlib.decoding, if_pos htype]
    rw [hformat.perm _ members members' (hformat.namedApart members hdistinct) hperm]
  · simp only [jsonGobjectDeserialize, JsonGlib.decoding, if_neg htype]
    exact h htype members members' hdistinct hperm

end

/-! ### the four types -/

theorem gtype_set_node (node : Node) (property : NodePropertyId) (value) :
    (nodeRecord.set node property value).gtype = node.gtype := by
  cases property <;> rfl

theorem gtype_set_user (user : Node) (property : NodePropertyId ⊕ UserPropertyId) (value) :
    (userRecord.set user property value).gtype = user.gtype := by
  cases property with
  | inl property => exact gtype_set_node user property value
  | inr property => cases property <;> rfl

theorem gtype_set_album (album : Node) (property : NodePropertyId ⊕ AlbumPropertyId) (value) :
    (albumRecord.set album property value).gtype = album.gtype := by
  cases property with
  | inl property => exact gtype_set_node album property value
  | inr property => cases property <;> rfl

section

variable (glib : JsonGlib) (json : JsonPspec) (default : JsonSerializableDefault)
  (alloc : Nat → Nat)

/-- A json-glib that builds nodes, users, albums and photos in this way. -/
def JsonGlib.decodingNodes : JsonGlib :=
  (((glib.decodingPhotos default alloc).decoding typeNode
    (nodeClassInit.gobjectFormat json) nodeRecord gtype_set_node).decoding typeUser
    (userProperties.gobjectFormat json) userRecord gtype_set_user).decoding typeAlbum
    (albumProperties.gobjectFormat json) albumRecord gtype_set_album

theorem decodingPhotos_eq :
    glib.decodingPhotos default alloc =
      glib.decoding typePhoto (photoSerializableIface default alloc) photoRecord gtype_set_photo :=
  rfl

/-- **Deserializing** one of the four types yields the same node for every
order of the members. -/
theorem orderFree_decodingNodes {type : GType}
    (h : type ∈ [typeNode, typeUser, typeAlbum, typePhoto]) :
    (glib.decodingNodes json default alloc).OrderFree type := by
  refine orderFree_decoding gtype_set_album (orderFree_album json) fun hneAlbum => ?_
  refine orderFree_decoding gtype_set_user (orderFree_user json) fun hneUser => ?_
  refine orderFree_decoding gtype_set_node (orderFree_node json) fun hneNode => ?_
  rw [decodingPhotos_eq]
  refine orderFree_decoding gtype_set_photo (orderFree_photo default alloc) fun hnePhoto => ?_
  simp [hneAlbum, hneUser, hneNode, hnePhoto] at h

end

end GFBGraph
