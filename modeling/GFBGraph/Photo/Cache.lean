import GFBGraph.Lib.Memo
import GFBGraph.Lib.Scan
import GFBGraph.Photo

/-!
# GFBGraph.Photo.Cache

The hi-res cache over whole runs.  A photo is driven by property writes and
selector calls in any order; `photoMemo` abstracts it to a memo cell
(`Lib.Memo`) whose source is the images list and whose kept result is the
`hiresImage` field.  `gfbgraph_photo_set_property` replaces the list without
clearing the field, so the law of the memo cell applies as it stands: the
cache is transparent exactly along the runs whose writes of `images` meet
`ImagesWriteOk`.  What the scan of a list finds is the business of `Lib.Scan`.
-/

namespace GFBGraph

open Lib

/-! ## runs of a photo -/

/-- What a client can do to a photo. -/
inductive PhotoOp where
  | setNodeProperty (property : NodeProperty)
  | setProperty (property : PhotoProperty)
  | getImageHires
  | getImageNearWidth (width : UInt32)
  | getImageNearHeight (height : UInt32)
  | getImages

/-- What an operation returns to the client. -/
inductive PhotoAnswer where
  | done
  | image (image : Option PhotoImagePtr)
  | images (images : List PhotoImagePtr)
  deriving DecidableEq

/-- One operation on a photo. -/
def photoStep (photo : Node) : PhotoOp → Node × PhotoAnswer
  | .setNodeProperty property =>
      ({ photo with priv := nodeSetProperty photo.priv property }, .done)
  | .setProperty property =>
      ({ photo with photo := photoSetProperty photo.photo property }, .done)
  | .getImageHires =>
      let (photo', image) := photoGetImageHires photo
      (photo', .image image)
  | .getImageNearWidth width => (photo, .image (photoGetImageNearWidth photo width))
  | .getImageNearHeight height => (photo, .image (photoGetImageNearHeight photo height))
  | .getImages => (photo, .images (photoGetImages photo))

/-- A photo as a machine. -/
def photoMachine : Machine Node PhotoOp PhotoAnswer := ⟨photoStep⟩

/-- What `gfbgraph_photo_get_image_hires` returns on this photo with the
`hiresImage` field set to `NULL`. -/
def uncachedHires (photo : Node) : Option PhotoImagePtr :=
  (photoGetImageHires { photo with photo := { photo.photo with hiresImage := none } }).2

/-- If this operation asks for the hi-res image, it answers what the uncached
scan does, and an image it answers is in the current list. -/
def HiresTransparent (photo : Node) (op : PhotoOp) : Prop :=
  op = .getImageHires →
    photoMachine.out photo op = .image (uncachedHires photo) ∧
      ∀ image, photoMachine.out photo op = .image (some image) → image ∈ photo.photo.images

/-- The image is the first of the widest ones in the list, and its width is not
zero. -/
def FirstWidest (images : List PhotoImagePtr) (image : PhotoImagePtr) : Prop :=
  ∃ pre post, images = pre ++ image :: post ∧ 0 < image.image.width ∧
    (∀ other ∈ pre, other.image.width < image.image.width) ∧
    ∀ other ∈ post, other.image.width ≤ image.image.width

/-- If this operation writes `images`, no hi-res image is cached, or the cached
one is the first of the widest in the new list as well. -/
def ImagesWriteOk (photo : Node) (op : PhotoOp) : Prop :=
  ∀ images, op = .setProperty (.images images) →
    ∀ image, photo.photo.hiresImage = some image → FirstWidest images image

/-! ## the scan -/

/-- The recomputation behind the cache. -/
def hiresScan (images : List PhotoImagePtr) : Option PhotoImagePtr := hiresLoop images 0 none

/-- The loop is a scan for the greatest width. -/
theorem hiresLoop_eq_scan (images : List PhotoImagePtr) (biggerWidth : UInt32)
    (hiresImage : Option PhotoImagePtr) :
    hiresLoop images biggerWidth hiresImage =
      Scan.scan (fun ptr => ptr.image.width.toNat) images biggerWidth.toNat hiresImage := by
  induction images generalizing biggerWidth hiresImage with
  | nil => rfl
  | cons photoImage images ih =>
      rw [hiresLoop, Scan.scan]
      by_cases hwider : photoImage.image.width > biggerWidth
      · rw [if_pos hwider, if_pos (UInt32.lt_iff_toNat_lt.1 hwider), ih]
      · have hnot : ¬ biggerWidth.toNat < photoImage.image.width.toNat :=
          fun hlt => hwider (UInt32.lt_iff_toNat_lt.2 hlt)
        rw [if_neg hwider, if_neg hnot, ih]

/-- The first of the widest images is the first maximum of the widths. -/
theorem firstWidest_iff {images : List PhotoImagePtr} {image : PhotoImagePtr} :
    FirstWidest images image ↔
      Scan.IsFirstMax (fun ptr => ptr.image.width.toNat) 0 images image := by
  simp [FirstWidest, Scan.IsFirstMax, UInt32.lt_iff_toNat_lt, UInt32.le_iff_toNat_le]

/-- It is in the list, and no image is wider. -/
theorem FirstWidest.mem_and_le {images : List PhotoImagePtr} {image : PhotoImagePtr}
    (h : FirstWidest images image) :
    image ∈ images ∧ ∀ other ∈ images, other.image.width ≤ image.image.width := by
  obtain ⟨hmem, hle⟩ := (firstWidest_iff.1 h).mem_and_le
  exact ⟨hmem, fun other hother => UInt32.le_iff_toNat_le.2 (hle other hother)⟩

/-- The scan finds the first of the widest images. -/
theorem hiresScan_eq_some_iff {images : List PhotoImagePtr} {image : PhotoImagePtr} :
    hiresScan images = some image ↔ FirstWidest images image := by
  rw [hiresScan, hiresLoop_eq_scan, firstWidest_iff]
  exact Scan.scan_none_eq_some_iff

theorem mem_of_hiresScan {images : List PhotoImagePtr} {image : PhotoImagePtr}
    (h : hiresScan images = some image) : image ∈ images :=
  (hiresScan_eq_some_iff.1 h).mem_and_le.1

/-! ## the memo cell of a photo -/

/-- A photo is a memo cell over its images list. -/
def photoMemo (photo : Node) : Memo (List PhotoImagePtr) PhotoImagePtr :=
  ⟨photo.photo.images, photo.photo.hiresImage⟩

/-- What an operation is to the memo cell. -/
def memoOp : PhotoOp → Memo.Op (List PhotoImagePtr)
  | .setProperty (.images images) => .write images
  | .getImageHires => .read
  | _ => .other

/-- `gfbgraph_photo_get_image_hires` reads the memo cell. -/
theorem photoMemo_getImageHires (photo : Node) :
    (photoMemo (photoGetImageHires photo).1, (photoGetImageHires photo).2) =
      (photoMemo photo).read hiresScan := by
  obtain ⟨_, _, _, _, ⟨_, _, _, _, images, hiresImage⟩⟩ := photo
  cases hiresImage <;> rfl

/-- **Refinement**: every operation on a photo is one on its memo cell. -/
def photoSimulation : photoMachine.Simulation (Memo.machine hiresScan) where
  abs := photoMemo
  label := memoOp
  next_comm photo op := by
    cases op with
    | setProperty property => cases property <;> rfl
    | getImageHires => exact congrArg Prod.fst (photoMemo_getImageHires photo)
    | _ => rfl

theorem hiresTransparent_iff (photo : Node) (op : PhotoOp) :
    HiresTransparent photo op ↔ Memo.Transparent hiresScan (photoMemo photo) (memoOp op) := by
  have hread : (photoGetImageHires photo).2 = ((photoMemo photo).read hiresScan).2 :=
    congrArg Prod.snd (photoMemo_getImageHires photo)
  cases op with
  | getImageHires =>
      change (_ → PhotoAnswer.image (photoGetImageHires photo).2 = _ ∧ _) ↔
        (_ → ((photoMemo photo).read hiresScan).2 = hiresScan photo.photo.images)
      rw [← hread]
      constructor
      · exact fun h _ => PhotoAnswer.image.inj (h rfl).1
      · intro h _
        refine ⟨congrArg _ (h rfl), fun image himage => mem_of_hiresScan ?_⟩
        rw [← h rfl]
        exact PhotoAnswer.image.inj himage
  | setProperty property => cases property <;> simp [HiresTransparent, Memo.Transparent, memoOp]
  | _ => simp [HiresTransparent, Memo.Transparent, memoOp]

theorem imagesWriteOk_iff (photo : Node) (op : PhotoOp) :
    ImagesWriteOk photo op ↔ Memo.WriteOk hiresScan (photoMemo photo) (memoOp op) := by
  cases op with
  | setProperty property =>
      cases property with
      | images images =>
          have hcached : (∀ image, photo.photo.hiresImage = some image →
              FirstWidest images image) ↔
              photo.photo.hiresImage = none ∨ photo.photo.hiresImage = hiresScan images := by
            cases photo.photo.hiresImage with
            | none => simp
            | some image => simp [← hiresScan_eq_some_iff, eq_comm]
          constructor
          · intro h images' hwrite
            cases hwrite
            exact hcached.1 (h images rfl)
          · intro h images' hwrite
            cases hwrite
            exact hcached.2 (h images rfl)
      | name _ | source _ | width _ | height _ => simp [ImagesWriteOk, Memo.WriteOk, memoOp]
  | _ => simp [ImagesWriteOk, Memo.WriteOk, memoOp]

/-! ## the law of the cache -/

/-- **The hi-res cache**: along a run of a new photo every call of
`gfbgraph_photo_get_image_hires` that is made or could be made answers the
uncached scan of the current list, exactly when every write of `images` in the
run finds no cached image or one that is the first of the widest in the new
list as well. -/
theorem hires_cache_transparent_iff (ops : List PhotoOp) :
    photoMachine.Always ImagesWriteOk photoNew ops ↔
      ∀ pre, pre <+: ops →
        photoMachine.Always HiresTransparent photoNew (pre ++ [.getImageHires]) := by
  have hnew : Memo.Coherent hiresScan (photoMemo photoNew) := Or.inl rfl
  rw [photoSimulation.always_comm imagesWriteOk_iff]
  refine (Memo.transparent_iff hnew _).trans ?_
  constructor
  · intro h pre hpre
    rw [photoSimulation.always_comm hiresTransparent_iff, List.map_append]
    exact h _ (hpre.map memoOp)
  · intro h memoPre hmemoPre
    obtain ⟨pre, hpre, hmap⟩ := List.prefix_map_iff.1 hmemoPre
    have htrans := h pre hpre
    rw [photoSimulation.always_comm hiresTransparent_iff, List.map_append, ← hmap] at htrans
    exact htrans

/-- A query, a new list, a second query: the second query still answers the
image of the first list. -/
theorem hires_cache_stale :
    ¬ photoMachine.Always HiresTransparent photoNew
      [.setProperty (.images [⟨1, ⟨100, 80, none⟩⟩]), .getImageHires,
        .setProperty (.images [⟨2, ⟨200, 160, none⟩⟩]), .getImageHires] := by
  intro h
  have hsecond := (h.2.2.2.1 rfl).1
  exact absurd hsecond (by decide)

end GFBGraph
