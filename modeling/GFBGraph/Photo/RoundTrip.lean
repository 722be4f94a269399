import GFBGraph.Photo.Serializable

/-!
# GFBGraph.Photo.RoundTrip

What is left of a photo that was serialized and decoded again.  The law of
`Lib.Record` decides it property by property: all properties that take part on
both sides come back; `height` cannot be read and `images` is not written, so
these two are left as `gfbgraph_photo_new` makes them.
-/

namespace GFBGraph

open Lib

section

variable (default : JsonSerializableDefault) (alloc : Nat → Nat)

/-- `json_gobject_serialize`. -/
def jsonGobjectSerialize (photo : Node) : JsonNode :=
  .object ((photoSerializableIface default alloc).encode photoRecord
    photoSerializableListProperties photo)

/-- The instance `json_gobject_deserialize` builds for `GFBGRAPH_TYPE_PHOTO`. -/
def photoGobjectNew (members : JsonObject) : Node :=
  (photoSerializableIface default alloc).decode photoRecord photoNew members

/-- Setting properties keeps the type of an instance. -/
theorem gtype_set_photo (photo : Node) (property : PhotoPropertyId) (value : property.Value) :
    (photoRecord.set photo property value).gtype = photo.gtype := by
  cases property <;> rfl

/-- A json-glib that builds photos in this way. -/
def JsonGlib.decodingPhotos (json : JsonGlib) : JsonGlib where
  loadFromData := json.loadFromData
  gobjectNew type members :=
    if type = typePhoto then photoGobjectNew default alloc members
    else json.gobjectNew type members
  gtype_gobjectNew type members := by
    by_cases h : type = typePhoto
    · rw [if_pos h, h]
      exact gtype_decode_of_set gtype_set_photo photoNew members
    · rw [if_neg h]
      exact json.gtype_gobjectNew type members

/-- The two photos agree in every property; two images are the same if they
have the same contents. -/
structure SamePhoto (decoded photo : Node) : Prop where
  id : decoded.priv.id = photo.priv.id
  link : decoded.priv.link = photo.priv.link
  createdTime : decoded.priv.createdTime = photo.priv.createdTime
  updatedTime : decoded.priv.updatedTime = photo.priv.updatedTime
  name : decoded.photo.name = photo.photo.name
  source : decoded.photo.source = photo.photo.source
  width : decoded.photo.width = photo.photo.width
  height : decoded.photo.height = photo.photo.height
  images : (decoded.photo.images.map fun ptr => ptr.image) =
    photo.photo.images.map fun ptr => ptr.image

/-- Decoding what a photo was serialized to yields the same photo. -/
def RoundTrips (json : JsonGlib) (photo : Node) : Prop :=
  ∃ decoded, jsonGobjectDeserialize (json.decodingPhotos default alloc) typePhoto
      (some (jsonGobjectSerialize default alloc photo)) = some decoded ∧
    SamePhoto decoded photo

/-- The photo that comes back. -/
def roundTrip (photo : Node) : Node :=
  photoGobjectNew default alloc ((photoSerializableIface default alloc).encode photoRecord
    photoSerializableListProperties photo)

variable {default alloc}

theorem deserialize_serialize (json : JsonGlib) (photo : Node) :
    jsonGobjectDeserialize (json.decodingPhotos default alloc) typePhoto
        (some (jsonGobjectSerialize default alloc photo)) =
      some (roundTrip default alloc photo) := by
  simp [jsonGobjectSerialize, jsonGobjectDeserialize, JsonGlib.decodingPhotos, roundTrip]

/-! ## property by property -/

theorem nodup_listProperties : photoSerializableListProperties.Nodup := by decide

theorem mem_listProperties (property : PhotoPropertyId) :
    property ∈ photoSerializableListProperties := by
  cases property <;> decide

/-- All properties but two are written faithfully. -/
theorem faithful_of_ne {property : PhotoPropertyId} (hheight : property ≠ .height)
    (himages : property ≠ .images) :
    (photoSerializableIface default alloc).Faithful property
      (photoRecord.get photoNew property) := by
  cases property with
  | height => contradiction
  | images => contradiction
  | width =>
      exact ⟨rfl, rfl, default.deserialize_serializeUint, default.uint_of_omitted⟩
  | _ => exact ⟨rfl, rfl, default.deserialize_serializeString, default.string_of_omitted⟩

theorem get_roundTrip_of_ne (photo : Node) {property : PhotoPropertyId}
    (hheight : property ≠ .height) (himages : property ≠ .images) :
    photoRecord.get (roundTrip default alloc photo) property = photoRecord.get photo property :=
  Format.get_roundTrip_of_faithful nodup_listProperties (mem_listProperties property)
    (faithful_of_ne hheight himages) photo

variable (default alloc)

/-- The height is not read. -/
theorem height_roundTrip (photo : Node) : (roundTrip default alloc photo).photo.height = 0 := by
  have hunwritten : (photoSerializableIface default alloc).written photoRecord photo .height =
      none := rfl
  exact Format.get_roundTrip_of_unwritten nodup_listProperties (mem_listProperties .height)
    photoNew hunwritten

/-- The images are not written. -/
theorem images_roundTrip (photo : Node) : (roundTrip default alloc photo).photo.images = [] := by
  have hunwritten : (photoSerializableIface default alloc).written photoRecord photo .images =
      none := rfl
  exact Format.get_roundTrip_of_unwritten nodup_listProperties (mem_listProperties .images)
    photoNew hunwritten

end

/-- **Serializing a photo**: every photo comes back from JSON as it was exactly
when it has no images and its height is 0. -/
theorem photo_round_trip_iff (default : JsonSerializableDefault) (alloc : Nat → Nat)
    (json : JsonGlib) (photo : Node) :
    RoundTrips default alloc json photo ↔
      photo.photo.images = [] ∧ photo.photo.height = 0 := by
  unfold RoundTrips
  rw [deserialize_serialize]
  have hheight := height_roundTrip default alloc photo
  have himages := images_roundTrip default alloc photo
  constructor
  · intro h
    obtain ⟨decoded, hdecoded, hsame⟩ := h
    cases hdecoded
    have himages' := hsame.images
    rw [himages, List.map_nil, eq_comm, List.map_eq_nil_iff] at himages'
    exact ⟨himages', hsame.height.symm.trans hheight⟩
  · intro h
    have hback : ∀ property : PhotoPropertyId, property ≠ .height → property ≠ .images →
        photoRecord.get (roundTrip default alloc photo) property =
          photoRecord.get photo property :=
      fun property => get_roundTrip_of_ne photo
    refine ⟨_, rfl, ?_⟩
    exact {
      id := hback .id (by decide) (by decide)
      link := hback .link (by decide) (by decide)
      createdTime := hback .createdTime (by decide) (by decide)
      updatedTime := hback .updatedTime (by decide) (by decide)
      name := hback .name (by decide) (by decide)
      source := hback .source (by decide) (by decide)
      width := hback .width (by decide) (by decide)
      height := hheight.trans h.2.symm
      images := by rw [himages, h.1] }

/-- A photo with one image comes back without it. -/
theorem round_trip_loses_images :
    ¬ RoundTrips jsonGlibDefault id emptyContainersJson
      { photoNew with photo := { images := [⟨1, ⟨100, 80, some "photo.jpg"⟩⟩] } } := by
  intro h
  obtain ⟨decoded, hdecoded, hsame⟩ := h
  have himages := hsame.images
  rw [deserialize_serialize] at hdecoded
  rw [← Option.some.inj hdecoded, images_roundTrip] at himages
  contradiction

end GFBGraph
