import GFBGraph.Object.Properties
import GFBGraph.Photo

/-!
# GFBGraph.Photo.Serializable

The `JsonSerializable` implementation of a photo, and what json-glib makes of
it: `json_gobject_serialize` and `json_gobject_deserialize` are the two walks
of `Lib.Record` over the properties of `GFBGraphNode` and `GFBGraphPhoto`.

Only `images` is treated by the implementation itself.  Its decoder looks at
the kind of the value and not at its elements, so what it stores describes the
JSON for `ImageObject` elements only.
-/

namespace GFBGraph

open Lib

/-! ## the properties -/

/-- The properties of a photo. -/
inductive PhotoPropertyId where
  | id
  | link
  | createdTime
  | updatedTime
  | name
  | source
  | height
  | width
  | images
  deriving DecidableEq, Repr

/-- What a `GValue` of the property's type holds. -/
abbrev PhotoPropertyId.Value : PhotoPropertyId → Type
  | .height | .width => UInt32
  | .images => List PhotoImagePtr
  | _ => Option String

/-- The name in the `GParamSpec`. -/
def PhotoPropertyId.pspecName : PhotoPropertyId → String
  | .id => "id"
  | .link => "link"
  | .createdTime => "created-time"
  | .updatedTime => "updated-time"
  | .name => "name"
  | .source => "source"
  | .height => "height"
  | .width => "width"
  | .images => "images"

/-- `G_PARAM_READABLE`. -/
def PhotoPropertyId.readable : PhotoPropertyId → Bool
  | .height => false
  | _ => true

/-- `G_PARAM_WRITABLE`. -/
def PhotoPropertyId.writable : PhotoPropertyId → Bool := fun _ => true

/-- `gfbgraph_photo_serializable_list_properties`: those of the parent class
first, each class by property number. -/
def photoSerializableListProperties : List PhotoPropertyId :=
  [.id, .link, .createdTime, .updatedTime, .name, .source, .height, .width, .images]

/-- The class that installed the property. -/
def PhotoPropertyId.owner : PhotoPropertyId → String
  | .id | .link | .createdTime | .updatedTime => gTypeName typeNode
  | .name | .source | .height | .width | .images => gTypeName typePhoto

/-- `GFBGraphPhotoClass`, as the lookup of properties sees it. -/
def photoObjectClass : GObjectClass PhotoPropertyId where
  ancestry := [gTypeName typePhoto, gTypeName typeNode, gObjectName]
  listed := photoSerializableListProperties
  pspecName := PhotoPropertyId.pspecName
  owner := PhotoPropertyId.owner
  mem_listed property := by cases property <;> decide
  owner_mem property := by cases property <;> decide
  nodup_names := by decide
  canonical property := by
    cases property <;>
      simp [PhotoPropertyId.pspecName, gParamSpecCanonicalName, ← String.toList_inj]
  unqualified property := by cases property <;> decide

/-- `gfbgraph_photo_serializable_find_property`. -/
def photoSerializableFindProperty (name : String) : Option PhotoPropertyId :=
  gObjectClassFindProperty photoObjectClass name

/-- `gfbgraph_photo_serializable_get_property`. -/
def photoSerializableGetProperty (photo : Node) : (property : PhotoPropertyId) → property.Value
  | .id => photo.priv.id
  | .link => photo.priv.link
  | .createdTime => photo.priv.createdTime
  | .updatedTime => photo.priv.updatedTime
  | .name => photo.photo.name
  | .source => photo.photo.source
  | .height => photo.photo.height
  | .width => photo.photo.width
  | .images => photo.photo.images

/-- `gfbgraph_photo_serializable_set_property`. -/
def photoSerializableSetProperty (photo : Node) :
    (property : PhotoPropertyId) → property.Value → Node
  | .id, value => { photo with priv := nodeSetProperty photo.priv (.id value) }
  | .link, value => { photo with priv := nodeSetProperty photo.priv (.link value) }
  | .createdTime, value => { photo with priv := nodeSetProperty photo.priv (.createdTime value) }
  | .updatedTime, value => { photo with priv := nodeSetProperty photo.priv (.updatedTime value) }
  | .name, value => { photo with photo := photoSetProperty photo.photo (.name value) }
  | .source, value => { photo with photo := photoSetProperty photo.photo (.source value) }
  | .height, value => { photo with photo := photoSetProperty photo.photo (.height value) }
  | .width, value => { photo with photo := photoSetProperty photo.photo (.width value) }
  | .images, value => { photo with photo := photoSetProperty photo.photo (.images value) }

/-- A photo as a record of its properties. -/
def photoRecord : Record Node PhotoPropertyId PhotoPropertyId.Value where
  get := photoSerializableGetProperty
  set := photoSerializableSetProperty
  get_set _ property _ := by cases property <;> rfl
  get_set_ne photo property value other h := by
    cases property <;> cases other <;> first | rfl | contradiction

/-! ## the implementation -/

/-- `json_serializable_default_serialize_property` and its inverse, on the two
types of property they are used for.  A value may be left out where it is the
default of its property. -/
structure JsonSerializableDefault where
  serializeString : Option String → Option JsonNode
  serializeUint : UInt32 → Option JsonNode
  deserializeString : JsonNode → Option (Option String)
  deserializeUint : JsonNode → Option UInt32
  deserialize_serializeString : ∀ value jnode,
    serializeString value = some jnode → deserializeString jnode = some value
  deserialize_serializeUint : ∀ value jnode,
    serializeUint value = some jnode → deserializeUint jnode = some value
  string_of_omitted : ∀ value, serializeString value = none → value = none
  uint_of_omitted : ∀ value, serializeUint value = none → value = 0

/-- `gfbgraph_photo_serializable_serialize_property`. -/
def photoSerializableSerializeProperty (default : JsonSerializableDefault) :
    (property : PhotoPropertyId) → property.Value → Option JsonNode
  | .images, _ => none
  | .height, value => default.serializeUint value
  | .width, value => default.serializeUint value
  | .id, value | .link, value | .createdTime, value | .updatedTime, value
  | .name, value | .source, value => default.serializeString value

/-- The image an element of the images array is read as.  A dimension is read
as a `gint64` and stored as a `guint`. -/
def imageOfElement (element : JsonNode) : PhotoImage :=
  let imageObject := jsonNodeGetObject (some element)
  { width := (jsonObjectGetIntMember imageObject "width").toUInt64.toUInt32
    height := (jsonObjectGetIntMember imageObject "height").toUInt64.toUInt32
    source := jsonObjectGetStringMember imageObject "source" }

/-- The append loop of the images decoder; `alloc i` is where the image at `i`
is allocated. -/
def imagesLoop (alloc : Nat → Nat) : JsonArray → Nat → List PhotoImagePtr → List PhotoImagePtr
  | [], _, images => images
  | element :: jarray, i, images =>
      imagesLoop alloc jarray (i + 1) (images ++ [⟨alloc i, imageOfElement element⟩])

/-- `gfbgraph_photo_serializable_deserialize_property`; `none` is `FALSE`. -/
def photoSerializableDeserializeProperty (default : JsonSerializableDefault) (alloc : Nat → Nat) :
    (property : PhotoPropertyId) → JsonNode → Option property.Value
  | .images, .array jarray => some (imagesLoop alloc jarray 0 [])
  | .images, _ => none
  | .height, propertyNode => default.deserializeUint propertyNode
  | .width, propertyNode => default.deserializeUint propertyNode
  | .id, propertyNode | .link, propertyNode | .createdTime, propertyNode
  | .updatedTime, propertyNode | .name, propertyNode | .source, propertyNode =>
      default.deserializeString propertyNode

/-- `gfbgraph_photo_serializable_iface_init`. -/
def photoSerializableIface (default : JsonSerializableDefault) (alloc : Nat → Nat) :
    Format PhotoPropertyId PhotoPropertyId.Value String JsonNode where
  name := PhotoPropertyId.pspecName
  find := photoSerializableFindProperty
  find_name := findProperty_pspecName photoObjectClass
  readable := PhotoPropertyId.readable
  writable := PhotoPropertyId.writable
  write := photoSerializableSerializeProperty default
  read := photoSerializableDeserializeProperty default alloc

/-- The defaults of json-glib: default values are left out, `null` is a `NULL`
string, and integers are 64 bits wide. -/
def jsonGlibDefault : JsonSerializableDefault where
  serializeString value := value.map .string
  serializeUint value := if value = 0 then none else some (.int value.toUInt64.toInt64)
  deserializeString
    | .string s => some (some s)
    | .null => some none
    | _ => none
  deserializeUint
    | .int i => some i.toUInt64.toUInt32
    | _ => none
  deserialize_serializeString value jnode h := by
    obtain ⟨s, hs, hjnode⟩ := Option.map_eq_some_iff.1 h
    rw [hs, ← hjnode]
  deserialize_serializeUint value jnode h := by
    by_cases hzero : value = 0
    · rw [if_pos hzero] at h
      contradiction
    · rw [if_neg hzero] at h
      rw [← Option.some.inj h]
      simp
  string_of_omitted value h := Option.map_eq_none_iff.1 h
  uint_of_omitted value h := by
    by_contra hne
    rw [if_neg hne] at h
    contradiction

/-- Its conversions where the class does not implement `JsonSerializable`. -/
def jsonGlibPspec : JsonPspec where
  serialize
    | .string, value => (value : Option String).elim .null .string
    | .uint, value => .int (value : UInt32).toUInt64.toInt64
  deserialize
    | .string, jnode => jsonGlibDefault.deserializeString jnode
    | .uint, jnode => jsonGlibDefault.deserializeUint jnode

/-! ## the images decoder -/

/-- The element is an object that describes the image: integers `width` and
`height` within 32 bits unsigned, and a string `source`. -/
def ImageObject (element : JsonNode) (image : PhotoImage) : Prop :=
  ∃ members width height source, element = .object members ∧
    members.lookup "width" = some (.int width) ∧ width.toInt = image.width.toNat ∧
    members.lookup "height" = some (.int height) ∧ height.toInt = image.height.toNat ∧
    members.lookup "source" = some (.string source) ∧ image.source = some source

/-- Given this value for `images`, the decoder answers `TRUE` only for an array
of image objects, and the photo then has the images they describe; when it
answers `FALSE`, the photo is left as it was. -/
def ImagesFaithful (default : JsonSerializableDefault) (alloc : Nat → Nat) (photo : Node)
    (propertyNode : JsonNode) : Prop :=
  let answer := photoSerializableDeserializeProperty default alloc .images propertyNode
  let after := (photoSerializableIface default alloc).readMember photoRecord photo
    ("images", propertyNode)
  (∀ images, answer = some images → after.photo.images = images ∧
    ∃ elements, propertyNode = .array elements ∧
      List.Forall₂ ImageObject elements (images.map fun ptr => ptr.image)) ∧
  (answer = none → after = photo)

/-- An integer within 32 bits unsigned is stored as it is. -/
theorem toUInt32_of_toInt_eq {i : Int64} {n : UInt32} (h : i.toInt = n.toNat) :
    i.toUInt64.toUInt32 = n := by
  have hnonneg : 0 ≤ i := by
    rw [Int64.le_iff_toInt_le, h]
    exact Int.natCast_nonneg _
  have hclamp : i.toNatClampNeg = n.toNat := by
    rw [Int64.toNatClampNeg, h, Int.toNat_natCast]
  rw [← UInt32.toNat_inj, UInt64.toNat_toUInt32, Int64.toNat_toUInt64_of_le hnonneg, hclamp]
  exact Nat.mod_eq_of_lt n.toNat_lt

/-- An image object is read as the image it describes. -/
theorem imageOfElement_of_imageObject {element : JsonNode} {image : PhotoImage}
    (h : ImageObject element image) : imageOfElement element = image := by
  obtain ⟨members, width, height, source, helement, hwidth, hwidth', hheight, hheight', hsource,
    hsource'⟩ := h
  rw [imageOfElement, helement]
  obtain ⟨imageWidth, imageHeight, imageSource⟩ := image
  simp [jsonNodeGetObject, jsonObjectGetIntMember, jsonObjectGetStringMember, hwidth, hheight,
    hsource, toUInt32_of_toInt_eq hwidth', toUInt32_of_toInt_eq hheight', ← hsource']

/-- The loop appends one image for each element, in order. -/
theorem map_image_imagesLoop (alloc : Nat → Nat) (jarray : JsonArray) (i : Nat)
    (images : List PhotoImagePtr) :
    (imagesLoop alloc jarray i images).map (fun ptr => ptr.image) =
      images.map (fun ptr => ptr.image) ++ jarray.map imageOfElement := by
  induction jarray generalizing i images with
  | nil => simp [imagesLoop]
  | cons element jarray ih =>
      rw [imagesLoop, ih, List.map_append, List.append_assoc, List.map_cons]
      rfl

/-- Read element by element, an array is described by its images exactly when
its elements are image objects. -/
theorem forall₂_imageOfElement_iff (elements : List JsonNode) :
    List.Forall₂ ImageObject elements (elements.map imageOfElement) ↔
      ∀ element ∈ elements, ∃ image, ImageObject element image := by
  rw [List.forall₂_map_right_iff, List.forall₂_same]
  constructor
  · exact fun h element hmem => ⟨_, h element hmem⟩
  · intro h element hmem
    obtain ⟨image, himage⟩ := h element hmem
    rw [imageOfElement_of_imageObject himage]
    exact himage

/-- What the decoder answers, it stores. -/
theorem readMember_images (default : JsonSerializableDefault) (alloc : Nat → Nat) (photo : Node)
    (propertyNode : JsonNode) :
    (photoSerializableIface default alloc).readMember photoRecord photo
        ("images", propertyNode) =
      (photoSerializableDeserializeProperty default alloc .images propertyNode).elim photo
        (photoSerializableSetProperty photo .images) := by
  have hfind : (photoSerializableIface default alloc).find "images" = some .images :=
    (photoSerializableIface default alloc).find_name .images
  rw [Format.readMember_of_writable hfind rfl]
  rfl

/-- **The images decoder** is faithful or refuses exactly when the value is not
an array, or is an array of image objects. -/
theorem images_faithful_iff (default : JsonSerializableDefault) (alloc : Nat → Nat)
    (photo : Node) (propertyNode : JsonNode) :
    ImagesFaithful default alloc photo propertyNode ↔
      ∀ elements, propertyNode = .array elements →
        ∀ element ∈ elements, ∃ image, ImageObject element image := by
  rw [ImagesFaithful, readMember_images]
  cases propertyNode with
  | array elements =>
      have hmap := map_image_imagesLoop alloc elements 0 []
      rw [List.map_nil, List.nil_append] at hmap
      constructor
      · intro h elements' heq
        cases heq
        obtain ⟨-, elements', heq, hall⟩ := h.1 _ rfl
        cases heq
        rw [hmap] at hall
        exact (forall₂_imageOfElement_iff elements).1 hall
      · intro h
        refine ⟨fun images himages => ?_, fun hnone => nomatch hnone⟩
        cases himages
        refine ⟨rfl, elements, rfl, ?_⟩
        rw [hmap]
        exact (forall₂_imageOfElement_iff elements).2 (h elements rfl)
  | _ =>
      refine iff_of_true ⟨?_, fun _ => rfl⟩ ?_
      · intro images himages
        contradiction
      · intro elements helements
        contradiction

/-- The images `[-1]`: an image without a source is stored for the number. -/
theorem images_number_stored :
    ¬ ImagesFaithful jsonGlibDefault id photoNew (.array [.int (-1)]) := by
  intro h
  obtain ⟨-, elements, helements, hall⟩ := h.1 _ rfl
  cases helements
  cases hall with
  | cons hnumber _ =>
      obtain ⟨members, _, _, _, hobject, -⟩ := hnumber
      contradiction

end GFBGraph
