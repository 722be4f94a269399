import GFBGraph.Object

/-!
# GFBGraph.Photo

The selectors over the images of a photo: the memoised
`gfbgraph_photo_get_image_hires` and the two nearest-size selectors.  All
arithmetic is the code's own: `guint` is 32 bits unsigned, `gint` 32 bits
signed, both wrapping.
-/

namespace GFBGraph

/-- `gfbgraph_photo_new`. -/
def photoNew : Node := gObjectNew typePhoto

/-- `gfbgraph_photo_get_images`. -/
def photoGetImages (photo : Node) : List PhotoImagePtr := photo.photo.images

/-! ## the hi-res image -/

/-- The scan of `gfbgraph_photo_get_image_hires`: `biggerWidth` is the widest
width so far and `hiresImage` the field as the loop leaves it. -/
def hiresLoop : List PhotoImagePtr → UInt32 → Option PhotoImagePtr → Option PhotoImagePtr
  | [], _, hiresImage => hiresImage
  | photoImage :: images, biggerWidth, hiresImage =>
      if photoImage.image.width > biggerWidth then
        hiresLoop images photoImage.image.width (some photoImage)
      else
        hiresLoop images biggerWidth hiresImage

/-- `gfbgraph_photo_get_image_hires`: the photo it leaves and the image it
returns. -/
def photoGetImageHires (photo : Node) : Node × Option PhotoImagePtr :=
  let priv := photo.photo
  match priv.hiresImage with
  | none =>
      let hiresImage := hiresLoop priv.images 0 none
      ({ photo with photo := { priv with hiresImage := hiresImage } }, hiresImage)
  | some hiresImage => (photo, some hiresImage)

/-- It leaves everything but the cached image alone. -/
theorem photoGetImageHires_fst (photo : Node) :
    ∃ hiresImage, (photoGetImageHires photo).1 =
      { photo with photo := { photo.photo with hiresImage := hiresImage } } := by
  obtain ⟨_, _, _, _, ⟨_, _, _, _, _, hiresImage⟩⟩ := photo
  cases hiresImage with
  | none => exact ⟨_, rfl⟩
  | some hiresImage => exact ⟨some hiresImage, rfl⟩

/-! ## the nearest-size images -/

/-- GLib's `ABS` on a `guint` operand. -/
def gAbs (a : UInt32) : UInt32 := if a < 0 then -a else a

/-- The loop of the nearest-size selectors over the dimension they compare. -/
def nearLoop (dimension : PhotoImage → UInt32) (target : UInt32) :
    List PhotoImagePtr → Int32 → Option PhotoImagePtr → Option PhotoImagePtr
  | [], _, photoImage => photoImage
  | tmpImage :: images, leastDiff, photoImage =>
      let tmpDiff := (gAbs (dimension tmpImage.image - target)).toInt32
      if photoImage = none ∨ tmpDiff < leastDiff then
        nearLoop dimension target images tmpDiff (some tmpImage)
      else
        nearLoop dimension target images leastDiff photoImage

/-- `gfbgraph_photo_get_image_near_width`. -/
def photoGetImageNearWidth (photo : Node) (width : UInt32) : Option PhotoImagePtr :=
  nearLoop PhotoImage.width width photo.photo.images (width <<< 1).toInt32 none

/-- `gfbgraph_photo_get_image_near_height`. -/
def photoGetImageNearHeight (photo : Node) (height : UInt32) : Option PhotoImagePtr :=
  nearLoop PhotoImage.height height photo.photo.images (height <<< 1).toInt32 none

end GFBGraph
