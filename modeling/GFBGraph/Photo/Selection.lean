import GFBGraph.Photo.Cache
import Mathlib.Algebra.Group.Int.Defs
import Mathlib.Algebra.Group.Nat.Defs
import Mathlib.Order.WithBot

/-!
# GFBGraph.Photo.Selection

What the images chosen by the selectors of a photo are worth, for every images
list.  Each selector is a scan (`Lib.Scan`): the hi-res one for the greatest
width, above a bound of 0, and the nearest-size ones for the least difference
to the target, as a `gint` holds it.  Neither key is the quality asked for — a
width is not a resolution, and a difference of `guint`s is not a distance — so
the chosen image is best, or nearest, for some lists only; the lists are named
by `FirstWidest` and `SafeSizes`.
-/

namespace GFBGraph

open Lib

/-! ## the hi-res image -/

/-- No image of the list is wider, and none as wide is higher. -/
def IsBest (images : List PhotoImagePtr) (image : PhotoImagePtr) : Prop :=
  image ∈ images ∧ ∀ other ∈ images, other.image.width ≤ image.image.width ∧
    (other.image.width = image.image.width → other.image.height ≤ image.image.height)

/-- `gfbgraph_photo_get_image_hires` returns a best image, or `NULL` for the
empty list. -/
def HiresBest (photo : Node) : Prop :=
  let result := (photoGetImageHires photo).2
  (result = none ↔ photo.photo.images = []) ∧
    ∀ image, result = some image → IsBest photo.photo.images image

theorem hires_of_uncached {photo : Node} (h : photo.photo.hiresImage = none) :
    (photoGetImageHires photo).2 = hiresScan photo.photo.images := by
  rw [photoGetImageHires, h]
  rfl

/-- The first of the widest images is a best one exactly when none as wide is
higher. -/
theorem isBest_of_firstWidest_iff {images : List PhotoImagePtr} {image : PhotoImagePtr}
    (h : FirstWidest images image) :
    IsBest images image ↔ ∀ other ∈ images, other.image.width = image.image.width →
      other.image.height ≤ image.image.height := by
  obtain ⟨hmem, hwidth⟩ := h.mem_and_le
  constructor
  · exact fun hbest other hother => (hbest.2 other hother).2
  · exact fun hheight => ⟨hmem, fun other hother => ⟨hwidth other hother, hheight other hother⟩⟩

/-- **The uncached hi-res image** is a best one, and `NULL` for the empty list
only, exactly when the list is empty, or its widest images have a width above 0
and the first of them is the highest of them. -/
theorem hires_best_iff (photo : Node) (h : photo.photo.hiresImage = none) :
    HiresBest photo ↔
      photo.photo.images = [] ∨ ∃ image, FirstWidest photo.photo.images image ∧
        ∀ other ∈ photo.photo.images, other.image.width = image.image.width →
          other.image.height ≤ image.image.height := by
  rw [HiresBest, hires_of_uncached h]
  simp only [← hiresScan_eq_some_iff]
  cases hscan : hiresScan photo.photo.images with
  | none => simp
  | some image =>
      have hne : photo.photo.images ≠ [] := List.ne_nil_of_mem (mem_of_hiresScan hscan)
      have hbest := isBest_of_firstWidest_iff (hiresScan_eq_some_iff.1 hscan)
      simp [hne, hbest]

/-- A photo of two sizes. -/
def twoSizesPhoto (first second : PhotoImage) : Node :=
  { photoNew with photo := { images := [⟨1, first⟩, ⟨2, second⟩] } }

/-- The smaller size first: the second image is the best one. -/
theorem hires_best_two_sizes : HiresBest (twoSizesPhoto ⟨100, 80, none⟩ ⟨200, 160, none⟩) := by
  refine (hires_best_iff _ rfl).2 (Or.inr ⟨⟨2, ⟨200, 160, none⟩⟩, ?_, by decide⟩)
  exact hiresScan_eq_some_iff.1 (by decide)

/-- Two images of the same width, the lower first: the lower one is returned. -/
theorem hires_lower_of_two : ¬ HiresBest (twoSizesPhoto ⟨100, 80, none⟩ ⟨100, 160, none⟩) := by
  intro h
  have hbest := h.2 ⟨1, ⟨100, 80, none⟩⟩ (by decide)
  have hheight := (hbest.2 ⟨2, ⟨100, 160, none⟩⟩ (by decide)).2 rfl
  exact absurd hheight (by decide)

/-! ## differences -/

/-- The difference of a size to the target as the code takes it: subtracted as
`guint`s, through `ABS`, and stored in a `gint`. -/
def gintDiff (size target : UInt32) : Int := (gAbs (size - target)).toInt32.toInt

/-- The distance between two sizes. -/
def sizeDistance (size target : UInt32) : Nat := ((size.toNat : Int) - target.toNat).natAbs

/-- `ABS` does nothing to a `guint`. -/
@[simp] theorem gAbs_eq_self (a : UInt32) : gAbs a = a := by
  have hnot : ¬ a < 0 := by
    rw [UInt32.lt_iff_toNat_lt]
    exact Nat.not_lt_zero _
  rw [gAbs, if_neg hnot]

/-- It is the mathematical difference, brought into the range of a `gint`. -/
theorem gintDiff_cases (size target : UInt32) :
    (size.toNat < 2 ^ 32 ∧ target.toNat < 2 ^ 32) ∧
      (-2 ^ 31 ≤ gintDiff size target ∧ gintDiff size target < 2 ^ 31) ∧
      (gintDiff size target = (size.toNat : Int) - target.toNat ∨
        gintDiff size target = (size.toNat : Int) - target.toNat - 2 ^ 32 ∨
        gintDiff size target = (size.toNat : Int) - target.toNat + 2 ^ 32) := by
  have hsize := size.toNat_lt
  have htarget := target.toNat_lt
  have hsub : (size - target).toNat = (2 ^ 32 - target.toNat + size.toNat) % 2 ^ 32 :=
    UInt32.toNat_sub size target
  have hdiff : gintDiff size target = ((size - target).toNat : Int).bmod (2 ^ 32) := by
    rw [gintDiff, gAbs_eq_self]
    exact BitVec.toInt_eq_toNat_bmod _
  rw [hdiff, hsub]
  simp only [Int.bmod]
  omega

/-! ### the four zones around a target -/

/-- From the target up to less than 2³¹ above it: the difference is the
distance. -/
def Above (target size : UInt32) : Prop :=
  target.toNat ≤ size.toNat ∧ size.toNat < target.toNat + 2 ^ 31

/-- Below the target by 2³¹ at most: the difference is negative. -/
def Below (target size : UInt32) : Prop :=
  size.toNat < target.toNat ∧ target.toNat ≤ size.toNat + 2 ^ 31

/-- Above the target by 2³¹ or more: the difference is negative too. -/
def FarAbove (target size : UInt32) : Prop := target.toNat + 2 ^ 31 ≤ size.toNat

/-- Below the target by more than 2³¹: the difference is positive. -/
def FarBelow (target size : UInt32) : Prop := size.toNat + 2 ^ 31 < target.toNat

/-- The lists of sizes whose least difference is at the least distance, by the
zone that difference comes from. -/
inductive SafeSizes (target : UInt32) (sizes : List UInt32) : Prop
  /-- All sizes are far above; or there is none. -/
  | farAbove : (∀ size ∈ sizes, FarAbove target size) → SafeSizes target sizes
  /-- Some size is above, and every other above as well or far below. -/
  | above (size) : size ∈ sizes → Above target size →
      (∀ other ∈ sizes, Above target other ∨ FarBelow target other) → SafeSizes target sizes
  /-- One size is below, and every other far below or above at the same
  distance or more. -/
  | below (size) : size ∈ sizes → Below target size →
      (∀ other ∈ sizes, other = size ∨ FarBelow target other ∨
        (Above target other ∧ sizeDistance size target ≤ sizeDistance other target)) →
      SafeSizes target sizes
  /-- There is one size, and it is far below. -/
  | farBelow (size) : size ∈ sizes → FarBelow target size → (∀ other ∈ sizes, other = size) →
      SafeSizes target sizes

/-- A size of the list with the least difference. -/
def LeastDiff (target : UInt32) (sizes : List UInt32) (size : UInt32) : Prop :=
  size ∈ sizes ∧ ∀ other ∈ sizes, gintDiff size target ≤ gintDiff other target

/-- Every size is in one of the zones. -/
theorem zone_cases (target size : UInt32) :
    Above target size ∨ Below target size ∨ FarAbove target size ∨ FarBelow target size := by
  unfold Above Below FarAbove FarBelow
  omega

/-- In a safe list the least difference is at the least distance. -/
theorem sizeDistance_le_of_safeSizes {target : UInt32} {sizes : List UInt32} {size : UInt32}
    (h : LeastDiff target sizes size) (hsafe : SafeSizes target sizes) :
    ∀ other ∈ sizes, sizeDistance size target ≤ sizeDistance other target := by
  intro other hother
  obtain ⟨hmem, hleast⟩ := h
  have hsize := gintDiff_cases size target
  have hle := hleast other hother
  have hdiff := gintDiff_cases other target
  unfold sizeDistance
  cases hsafe with
  | farAbove hall =>
      have hzone := hall size hmem
      have hzone' := hall other hother
      unfold FarAbove at hzone hzone'
      omega
  | above first hfirst habove hall =>
      have hle' := hleast first hfirst
      have hdiff' := gintDiff_cases first target
      have hzone := hall size hmem
      have hzone' := hall other hother
      unfold Above at habove hzone hzone'
      unfold FarBelow at hzone hzone'
      omega
  | below first hfirst hbelow hall =>
      have hle' := hleast first hfirst
      have hdiff' := gintDiff_cases first target
      cases hall size hmem with
      | inl heq =>
          subst heq
          cases hall other hother with
          | inl heq => rw [heq]
          | inr hzone =>
              unfold Above FarBelow sizeDistance at hzone
              unfold Below at hbelow
              omega
      | inr hzone =>
          unfold Above FarBelow sizeDistance at hzone
          unfold Below at hbelow
          omega
  | farBelow first hfirst hfar hall => rw [hall size hmem, hall other hother]

/-- Where `other` can be, by the zone of `size`, if neither its difference is
less nor its distance. -/
theorem zone_of_gintDiff_le {target size other : UInt32}
    (hdiff : gintDiff size target ≤ gintDiff other target)
    (hdistance : sizeDistance size target ≤ sizeDistance other target) :
    (Above target size → Above target other ∨ FarBelow target other) ∧
      (Below target size → other = size ∨ FarBelow target other ∨ Above target other) ∧
      (FarAbove target size → FarAbove target other) ∧
      (FarBelow target size → other = size) := by
  have hsize := gintDiff_cases size target
  have hother := gintDiff_cases other target
  rw [← UInt32.toNat_inj]
  unfold Above Below FarAbove FarBelow
  unfold sizeDistance at hdistance
  omega

/-- A list whose least difference is at the least distance is safe: the zone
of that difference says in which way. -/
theorem safeSizes_of_sizeDistance_le {target : UInt32} {sizes : List UInt32} {size : UInt32}
    (h : LeastDiff target sizes size)
    (hnearest : ∀ other ∈ sizes, sizeDistance size target ≤ sizeDistance other target) :
    SafeSizes target sizes := by
  obtain ⟨hmem, hleast⟩ := h
  have hzones := fun other hother =>
    zone_of_gintDiff_le (hleast other hother) (hnearest other hother)
  rcases zone_cases target size with habove | hbelow | hfar | hfar
  · exact .above size hmem habove fun other hother => (hzones other hother).1 habove
  · refine .below size hmem hbelow fun other hother => ?_
    rcases (hzones other hother).2.1 hbelow with heq | hfar | habove
    · exact .inl heq
    · exact .inr (.inl hfar)
    · exact .inr (.inr ⟨habove, hnearest other hother⟩)
  · exact .farAbove fun other hother => (hzones other hother).2.2.1 hfar
  · exact .farBelow size hmem hfar fun other hother => (hzones other hother).2.2.2 hfar

/-! ## the nearest-size images -/

/-- The image is in the list, and none has its dimension nearer to the
target. -/
def IsNearest (dimension : PhotoImage → UInt32) (target : UInt32) (images : List PhotoImagePtr)
    (image : PhotoImagePtr) : Prop :=
  image ∈ images ∧ ∀ other ∈ images,
    sizeDistance (dimension image.image) target ≤ sizeDistance (dimension other.image) target

/-- The answer is a nearest image, or `NULL` for the empty list. -/
def NearestOrNull (dimension : PhotoImage → UInt32) (target : UInt32)
    (images : List PhotoImagePtr) (answer : Option PhotoImagePtr) : Prop :=
  (answer = none ↔ images = []) ∧
    ∀ image, answer = some image → IsNearest dimension target images image

section

variable (dimension : PhotoImage → UInt32) (target : UInt32)

/-- What the nearest-size selectors maximise: the difference, least first. -/
def nearKey (ptr : PhotoImagePtr) : (WithTop Int)ᵒᵈ :=
  OrderDual.toDual (gintDiff (dimension ptr.image) target : WithTop Int)

/-- What an image has to beat: the least difference, once there is an image. -/
def nearBound (leastDiff : Int32) : Option PhotoImagePtr → (WithTop Int)ᵒᵈ
  | none => OrderDual.toDual ⊤
  | some _ => OrderDual.toDual (leastDiff.toInt : WithTop Int)

/-- The loop is a scan for the least difference. -/
theorem nearLoop_eq_scan (images : List PhotoImagePtr) (leastDiff : Int32)
    (photoImage : Option PhotoImagePtr) :
    nearLoop dimension target images leastDiff photoImage =
      Scan.scan (nearKey dimension target) images (nearBound leastDiff photoImage) photoImage := by
  induction images generalizing leastDiff photoImage with
  | nil => rfl
  | cons tmpImage images ih =>
      have hbeats : nearBound leastDiff photoImage < nearKey dimension target tmpImage ↔
          photoImage = none ∨
            (gAbs (dimension tmpImage.image - target)).toInt32 < leastDiff := by
        cases photoImage with
        | none =>
            have htop : (gintDiff (dimension tmpImage.image) target : WithTop Int) < ⊤ :=
              WithTop.coe_lt_top _
            exact iff_of_true (OrderDual.toDual_lt_toDual.2 htop) (Or.inl rfl)
        | some image =>
            simp [nearBound, nearKey, gintDiff, Int32.lt_iff_toInt_lt]
      rw [nearLoop, Scan.scan]
      by_cases h : photoImage = none ∨
          (gAbs (dimension tmpImage.image - target)).toInt32 < leastDiff
      · rw [if_pos (hbeats.2 h), if_pos h, ih]
        rfl
      · rw [if_neg (mt hbeats.1 h), if_neg h, ih]

/-- The loop leaves `NULL` for the empty list only. -/
theorem nearLoop_eq_none_iff (images : List PhotoImagePtr) (leastDiff : Int32) :
    nearLoop dimension target images leastDiff none = none ↔ images = [] := by
  rw [nearLoop_eq_scan, Scan.scan_eq_none_iff, List.eq_nil_iff_forall_not_mem]
  simp [nearBound, nearKey]

/-- The image it finds has the least difference. -/
theorem leastDiff_of_nearLoop {images : List PhotoImagePtr} {leastDiff : Int32}
    {image : PhotoImagePtr} (h : nearLoop dimension target images leastDiff none = some image) :
    image ∈ images ∧ LeastDiff target (images.map fun ptr => dimension ptr.image)
      (dimension image.image) := by
  rw [nearLoop_eq_scan] at h
  obtain ⟨hmem, hle⟩ := (Scan.scan_none_eq_some_iff.1 h).mem_and_le
  refine ⟨hmem, List.mem_map_of_mem hmem, fun other hother => ?_⟩
  obtain ⟨ptr, hptr, heq⟩ := List.mem_map.1 hother
  have hkey := hle ptr hptr
  rw [← heq]
  simpa [nearKey] using hkey

/-- **Spec lemma** of the nearest-size loop. -/
theorem nearestOrNull_nearLoop_iff (images : List PhotoImagePtr) (leastDiff : Int32) :
    NearestOrNull dimension target images (nearLoop dimension target images leastDiff none) ↔
      SafeSizes target (images.map fun ptr => dimension ptr.image) := by
  have hnone := nearLoop_eq_none_iff dimension target images leastDiff
  cases hloop : nearLoop dimension target images leastDiff none with
  | none =>
      rw [hloop] at hnone
      have hempty := hnone.1 rfl
      rw [hempty]
      refine iff_of_true ⟨by simp, fun image h => nomatch h⟩ (.farAbove (by simp))
  | some image =>
      rw [hloop] at hnone
      obtain ⟨hmem, hleast⟩ := leastDiff_of_nearLoop dimension target hloop
      constructor
      · intro h
        have hnearest := (h.2 image rfl).2
        exact safeSizes_of_sizeDistance_le hleast (List.forall_mem_map.2 hnearest)
      · intro hsafe
        have hnearest := List.forall_mem_map.1 (sizeDistance_le_of_safeSizes hleast hsafe)
        refine ⟨hnone, fun image' himage' => ?_⟩
        rw [← Option.some.inj himage']
        exact ⟨hmem, hnearest⟩

end

/-- **The nearest-size images**: for every images list and every target,
`gfbgraph_photo_get_image_near_width` and `gfbgraph_photo_get_image_near_height`
answer with a nearest image, and with `NULL` for the empty list only, exactly
when the widths, or the heights, are safe for the target. -/
theorem near_images_nearest_iff (photo : Node) (target : UInt32) :
    (NearestOrNull PhotoImage.width target photo.photo.images
        (photoGetImageNearWidth photo target) ↔
      SafeSizes target (photo.photo.images.map fun ptr => ptr.image.width)) ∧
    (NearestOrNull PhotoImage.height target photo.photo.images
        (photoGetImageNearHeight photo target) ↔
      SafeSizes target (photo.photo.images.map fun ptr => ptr.image.height)) :=
  ⟨nearestOrNull_nearLoop_iff _ _ _ _, nearestOrNull_nearLoop_iff _ _ _ _⟩

/-- The widths 130 and 50 for the target 120: the image of width 50 is
returned. -/
theorem near_width_smaller :
    ¬ NearestOrNull PhotoImage.width 120
      (twoSizesPhoto ⟨130, 100, none⟩ ⟨50, 40, none⟩).photo.images
      (photoGetImageNearWidth (twoSizesPhoto ⟨130, 100, none⟩ ⟨50, 40, none⟩) 120) := by
  intro h
  have hnearest := h.2 ⟨2, ⟨50, 40, none⟩⟩ (by decide)
  have hdistance := hnearest.2 ⟨1, ⟨130, 100, none⟩⟩ (by decide)
  exact absurd hdistance (by decide)

end GFBGraph
