import GFBGraph.Graph
import GFBGraph.Object.Decoding
import GFBGraph.Photo.Selection

/-!
# GFBGraph.Graph.Photos

From the response of the Graph API to the image a client is handed: fetching a
photo, decoding its members and selecting an image, one after the other.  What
the selectors answer for a fetched photo is described by the elements of its
`images` array.
-/

namespace GFBGraph

open Lib

/-! ## selecting from an array -/

/-- An image with the least difference to the target is answered, and `NULL` for
the empty array only. -/
structure NearFrom (elements : List JsonNode) (dimension : PhotoImage → UInt32) (target : UInt32)
    (answer : Option PhotoImagePtr) : Prop where
  none_iff : answer = none ↔ elements = []
  described : ∀ ptr, answer = some ptr → ∃ element ∈ elements, ImageObject element ptr.image
  least : ∀ ptr, answer = some ptr →
    ∀ element ∈ elements, ∀ image, ImageObject element image →
      gintDiff (dimension ptr.image) target ≤ gintDiff (dimension image) target

/-- The photo lists the images that the elements describe, and its selectors
answer with one of them: the hi-res image with the greatest width, unless all
widths are zero, and the others with the least difference to the target. -/
structure SelectsFrom (elements : List JsonNode) (photo : Node) : Prop where
  listed : List.Forall₂ ImageObject elements ((photoGetImages photo).map fun ptr => ptr.image)
  hires_none : (photoGetImageHires photo).2 = none ↔
    ∀ element ∈ elements, ∀ image, ImageObject element image → image.width = 0
  hires_described : ∀ ptr, (photoGetImageHires photo).2 = some ptr →
    ∃ element ∈ elements, ImageObject element ptr.image
  hires_widest : ∀ ptr, (photoGetImageHires photo).2 = some ptr →
    ∀ element ∈ elements, ∀ image, ImageObject element image → image.width ≤ ptr.image.width
  nearWidth : ∀ target,
    NearFrom elements PhotoImage.width target (photoGetImageNearWidth photo target)
  nearHeight : ∀ target,
    NearFrom elements PhotoImage.height target (photoGetImageNearHeight photo target)

section

variable {elements : List JsonNode} {images : List PhotoImagePtr}
  (hobjects : ∀ element ∈ elements, ∃ image, ImageObject element image)
  (himages : (images.map fun ptr => ptr.image) = elements.map imageOfElement)

include hobjects himages

/-- Every listed image is described by an element. -/
theorem described_of_mem {ptr : PhotoImagePtr} (h : ptr ∈ images) :
    ∃ element ∈ elements, ImageObject element ptr.image := by
  have hmem : ptr.image ∈ elements.map imageOfElement := himages ▸ List.mem_map_of_mem h
  obtain ⟨element, helement, heq⟩ := List.mem_map.1 hmem
  obtain ⟨image, himage⟩ := hobjects element helement
  rw [imageOfElement_of_imageObject himage] at heq
  exact ⟨element, helement, heq ▸ himage⟩

/-- What holds of the listed images holds of those the elements describe. -/
theorem forall_described_iff (P : PhotoImage → Prop) :
    (∀ element ∈ elements, ∀ image, ImageObject element image → P image) ↔
      ∀ ptr ∈ images, P ptr.image := by
  rw [← List.forall_mem_map (P := P), himages, List.forall_mem_map]
  constructor
  · intro h element helement
    obtain ⟨image, himage⟩ := hobjects element helement
    rw [imageOfElement_of_imageObject himage]
    exact h element helement image himage
  · intro h element helement image himage
    rw [← imageOfElement_of_imageObject himage]
    exact h element helement

/-- **Spec lemma** of the nearest-size loop over these images. -/
theorem nearFrom_nearLoop (dimension : PhotoImage → UInt32) (target : UInt32)
    (leastDiff : Int32) :
    NearFrom elements dimension target (nearLoop dimension target images leastDiff none) where
  none_iff := by
    have hlength := congrArg List.length himages
    rw [List.length_map, List.length_map] at hlength
    rw [nearLoop_eq_none_iff, ← List.length_eq_zero_iff, hlength, List.length_eq_zero_iff]
  described ptr hptr :=
    described_of_mem hobjects himages (leastDiff_of_nearLoop dimension target hptr).1
  least ptr hptr := by
    obtain ⟨-, -, hleast⟩ := leastDiff_of_nearLoop dimension target hptr
    have hall := List.forall_mem_map.1 hleast
    exact (forall_described_iff hobjects himages fun image =>
      gintDiff (dimension ptr.image) target ≤ gintDiff (dimension image) target).2 hall

/-- Nothing is found in the scan for the widest image if none has a width. -/
theorem hiresScan_eq_none_iff :
    hiresScan images = none ↔
      ∀ element ∈ elements, ∀ image, ImageObject element image → image.width = 0 := by
  rw [forall_described_iff hobjects himages, hiresScan, hiresLoop_eq_scan, Scan.scan_eq_none_iff]
  simp [← UInt32.toNat_inj]

/-- A photo that lists these images selects from the elements. -/
theorem selectsFrom_of_images {photo : Node} (hlisted : photo.photo.images = images)
    (huncached : photo.photo.hiresImage = none) : SelectsFrom elements photo := by
  have hhires : (photoGetImageHires photo).2 = hiresScan images := by
    rw [hires_of_uncached huncached, hlisted]
  have hwidest : ∀ {ptr}, (photoGetImageHires photo).2 = some ptr → FirstWidest images ptr := by
    intro ptr hptr
    rw [hhires] at hptr
    exact hiresScan_eq_some_iff.1 hptr
  exact {
    listed := by
      rw [photoGetImages, hlisted, himages]
      exact (forall₂_imageOfElement_iff elements).2 hobjects
    hires_none := by rw [hhires, hiresScan_eq_none_iff hobjects himages]
    hires_described := fun ptr hptr =>
      described_of_mem hobjects himages (hwidest hptr).mem_and_le.1
    hires_widest := fun ptr hptr =>
      (forall_described_iff hobjects himages _).2 (hwidest hptr).mem_and_le.2
    nearWidth := fun target => by
      rw [photoGetImageNearWidth, hlisted]
      exact nearFrom_nearLoop hobjects himages PhotoImage.width target _
    nearHeight := fun target => by
      rw [photoGetImageNearHeight, hlisted]
      exact nearFrom_nearLoop hobjects himages PhotoImage.height target _ }

end

/-! ## fetching -/

/-- `gfbgraph_photo_new_from_id`. -/
def photoNewFromId (env : Env) (authorizer : Authorizer) (id : String) : NodeResult :=
  nodeNewFromId env authorizer id typePhoto

section

variable {default : JsonSerializableDefault} {alloc : Nat → Nat}

/-- The `images` member is decoded to the images its elements describe. -/
theorem images_photoGobjectNew {members : JsonObject}
    (hnamed : (photoSerializableIface default alloc).NamedApart members)
    {elements : List JsonNode} (hmem : ("images", JsonNode.array elements) ∈ members) :
    (photoGobjectNew default alloc members).photo.images = imagesLoop alloc elements 0 [] := by
  have hsets : (photoSerializableIface default alloc).Sets ("images", JsonNode.array elements)
      .images (imagesLoop alloc elements 0 []) :=
    ⟨(photoSerializableIface default alloc).find_name .images, rfl, rfl⟩
  exact (orderFree_photo default alloc).accepted photoNew members _ _ _ hnamed hmem hsets

/-- A photo that was just decoded has no hi-res image cached. -/
theorem hiresImage_photoGobjectNew (members : JsonObject) :
    (photoGobjectNew default alloc members).photo.hiresImage = none := by
  have hkept : ∀ (photo : Node) (property : PhotoPropertyId) (value : property.Value),
      photo.photo.hiresImage = none →
        (photoRecord.set photo property value).photo.hiresImage = none := by
    intro photo property value hnone
    cases property <;> exact hnone
  exact Format.decode_of_set (P := fun photo : Node => photo.photo.hiresImage = none) hkept rfl
    members

end

/-- **A fetched photo**: if the response to `gfbgraph_photo_new_from_id` is an
object whose `images` are image objects, wherever they stand among members that
name other properties, then a photo is returned without an error, and its
selectors answer with images that the response describes. -/
theorem fetched_photo_selects (env : Env) (glib : JsonGlib) (default : JsonSerializableDefault)
    (alloc : Nat → Nat) (hjson : env.json = glib.decodingPhotos default alloc)
    (authorizer : Authorizer) {id payload : String} (hid : id.length ≠ 0)
    (hsync : env.restProxyCallSync (newFromIdCall authorizer id) = .ok payload)
    {members : JsonObject}
    (hroot : env.json.loadFromData payload = { root := some (.object members), error := none })
    (hnamed : (photoSerializableIface default alloc).NamedApart members)
    {elements : List JsonNode} (hmem : ("images", JsonNode.array elements) ∈ members)
    (hobjects : ∀ element ∈ elements, ∃ image, ImageObject element image) :
    ∃ photo, (photoNewFromId env authorizer id).node = some photo ∧
      (photoNewFromId env authorizer id).error = none ∧
      photo.gtype = typePhoto ∧ SelectsFrom elements photo := by
  have hphoto : env.types.isA typePhoto typeNode = true :=
    Hierarchy.isA_append_of_notMem (TypeRegistry.notMem_clients (by decide)) _ _
  have hnew : env.json.gobjectNew typePhoto members = photoGobjectNew default alloc members := by
    simp [hjson, JsonGlib.decodingPhotos]
  have hfetch : photoNewFromId env authorizer id =
      { node := some (photoGobjectNew default alloc members)
        requests := [newFromIdCall authorizer id] } := by
    rw [photoNewFromId, nodeNewFromId, if_neg hid, if_neg (by simp [hphoto]), fetchNode, hsync]
    simp [hroot, JsonParser.loaded, jsonGobjectDeserialize, hnew]
  have himages : (photoGobjectNew default alloc members).photo.images =
      imagesLoop alloc elements 0 [] := images_photoGobjectNew hnamed hmem
  have hdescribed := map_image_imagesLoop alloc elements 0 []
  refine ⟨_, by rw [hfetch], by rw [hfetch], ?_, ?_⟩
  · rw [← hnew, env.json.gtype_gobjectNew]
  · exact selectsFrom_of_images hobjects hdescribed himages (hiresImage_photoGobjectNew members)

/-- Two sizes of an image, as the Graph API reports them. -/
def smallImage : JsonNode :=
  .object [("height", .int 80), ("source", .string "small.jpg"), ("width", .int 100)]

def largeImage : JsonNode :=
  .object [("height", .int 576), ("source", .string "large.jpg"), ("width", .int 720)]

theorem imageObject_smallImage : ImageObject smallImage ⟨100, 80, some "small.jpg"⟩ :=
  ⟨_, 100, 80, "small.jpg", rfl, rfl, rfl, rfl, rfl, rfl, rfl⟩

theorem imageObject_largeImage : ImageObject largeImage ⟨720, 576, some "large.jpg"⟩ :=
  ⟨_, 720, 576, "large.jpg", rfl, rfl, rfl, rfl, rfl, rfl, rfl⟩

/-- A photo of these sizes. -/
def twoSizes : JsonObject :=
  [("id", .string "10"), ("images", .array [smallImage, largeImage])]

/-- Its text. -/
def twoSizesText : String :=
  "\x7b\"id\": \"10\", \"images\": [" ++
    "\x7b\"height\": 80, \"source\": \"small.jpg\", \"width\": 100\x7d, " ++
    "\x7b\"height\": 576, \"source\": \"large.jpg\", \"width\": 720\x7d]\x7d"

/-- A server that answers with that photo only. -/
def twoSizesEnv : Env :=
  let env := (Env.answering "").answeringObject twoSizesText twoSizes
  { env with json := env.json.decodingPhotos jsonGlibDefault id }

/-- The large image is the hi-res one, and the small one is the nearest to a width
of 90. -/
theorem fetched_photo_selects_two_sizes :
    ∃ photo, (photoNewFromId twoSizesEnv .anonymous "10").node = some photo ∧
      (∃ ptr, (photoGetImageHires photo).2 = some ptr ∧ 720 ≤ ptr.image.width) ∧
      ∃ ptr, photoGetImageNearWidth photo 90 = some ptr ∧ gintDiff ptr.image.width 90 ≤ 10 := by
  have hid : "10".length ≠ 0 := by decide
  have hsync : twoSizesEnv.restProxyCallSync (newFromIdCall .anonymous "10") =
      .ok twoSizesText := rfl
  have hroot : twoSizesEnv.json.loadFromData twoSizesText =
      { root := some (.object twoSizes), error := none } := by
    simp [twoSizesEnv, JsonGlib.decodingPhotos]
  have hdistinct : DistinctNames twoSizes := by
    have hnames : unqualifiedName "id" = "id" ∧ unqualifiedName "images" = "images" :=
      ⟨unqualifiedName_of_notMem (by decide), unqualifiedName_of_notMem (by decide)⟩
    simp [DistinctNames, twoSizes, hnames, gParamSpecCanonicalName_eq_iff]
  have hobjects : ∀ element ∈ [smallImage, largeImage], ∃ image, ImageObject element image := by
    simpa using ⟨⟨_, imageObject_smallImage⟩, ⟨_, imageObject_largeImage⟩⟩
  obtain ⟨photo, hphoto, -, -, hselects⟩ := fetched_photo_selects twoSizesEnv _ jsonGlibDefault id
    rfl .anonymous hid hsync hroot ((orderFree_photo jsonGlibDefault id).namedApart _ hdistinct)
    (List.mem_cons_of_mem _ List.mem_cons_self) hobjects
  have hsmall : smallImage ∈ [smallImage, largeImage] := List.mem_cons_self
  have hlarge : largeImage ∈ [smallImage, largeImage] := List.mem_cons_of_mem _ List.mem_cons_self
  refine ⟨photo, hphoto, ?_, ?_⟩
  · cases hhires : (photoGetImageHires photo).2 with
    | none =>
        have hzero := hselects.hires_none.1 hhires largeImage hlarge _ imageObject_largeImage
        exact absurd hzero (by decide)
    | some ptr =>
        exact ⟨ptr, rfl, hselects.hires_widest ptr hhires largeImage hlarge _
          imageObject_largeImage⟩
  · cases hnear : photoGetImageNearWidth photo 90 with
    | none => exact absurd ((hselects.nearWidth 90).none_iff.1 hnear) (List.cons_ne_nil _ _)
    | some ptr =>
        exact ⟨ptr, rfl, (hselects.nearWidth 90).least ptr hnear smallImage hsmall _
          imageObject_smallImage⟩

end GFBGraph
