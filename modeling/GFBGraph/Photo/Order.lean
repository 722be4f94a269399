import GFBGraph.Photo.Selection

/-!
# GFBGraph.Photo.Order

The selectors and the order in which the Graph API lists the representations
of a photo.  Each selector is a scan, so the key it ends with is the same for
every order (`Lib.Scan.map_key_scan_of_perm`).  The key of the hi-res scan is a
width; that of the nearest-size scans is a wrapped difference, which still
tells the sizes apart, whatever it says about their distance.
-/

namespace GFBGraph

open Lib

/-- What a `GList` of images holds, without the addresses. -/
def imageContents (images : List PhotoImagePtr) : List PhotoImage :=
  images.map fun ptr => ptr.image

/-- Two answers of a selector: both are `NULL`, or neither is and the images
have the same size. -/
def SameSize (dimension : PhotoImage → UInt32) (answer answer' : Option PhotoImagePtr) : Prop :=
  (answer = none ↔ answer' = none) ∧
    ∀ image image', answer = some image → answer' = some image' →
      dimension image.image = dimension image'.image

theorem sameSize_of_map_eq {dimension : PhotoImage → UInt32} {answer answer' : Option PhotoImagePtr}
    (h : answer.map (fun ptr => dimension ptr.image) =
      answer'.map (fun ptr => dimension ptr.image)) : SameSize dimension answer answer' := by
  constructor
  · rw [← Option.map_eq_none_iff, h, Option.map_eq_none_iff]
  · intro image image' himage himage'
    rw [himage, himage'] at h
    exact Option.some.inj h

/-- The sizes of permuted lists are permuted. -/
theorem map_perm_of_contents {images images' : List PhotoImagePtr}
    (h : (imageContents images).Perm (imageContents images')) {β : Type} (f : PhotoImage → β) :
    (images.map fun ptr => f ptr.image).Perm (images'.map fun ptr => f ptr.image) := by
  have hmap := h.map f
  rwa [imageContents, imageContents, List.map_map, List.map_map] at hmap

/-! ## differences -/

/-- A wrapped difference tells the sizes apart. -/
theorem gintDiff_injective (target : UInt32) :
    Function.Injective fun size => gintDiff size target := by
  intro size size' h
  have hdiff := gintDiff_cases size target
  have hdiff' := gintDiff_cases size' target
  rw [← UInt32.toNat_inj]
  dsimp only at h
  omega

/-! ## the selectors -/

section

variable {images images' : List PhotoImagePtr}

/-- The hi-res scan finds the same width in every order. -/
theorem width_hiresScan_of_perm (h : (imageContents images).Perm (imageContents images')) :
    (hiresScan images).map (fun ptr => ptr.image.width) =
      (hiresScan images').map (fun ptr => ptr.image.width) := by
  have hkeys := Scan.map_key_scan_of_perm (map_perm_of_contents h fun image => image.width.toNat)
    (0 : UInt32).toNat
  rw [← hiresLoop_eq_scan, ← hiresLoop_eq_scan] at hkeys
  have hinj : Function.Injective (Option.map UInt32.toNat) :=
    Option.map_injective fun _ _ heq => UInt32.toNat_inj.1 heq
  apply hinj
  rw [Option.map_map, Option.map_map]
  exact hkeys

/-- The nearest-size loop finds the same size in every order. -/
theorem dimension_nearLoop_of_perm (h : (imageContents images).Perm (imageContents images'))
    (dimension : PhotoImage → UInt32) (target : UInt32) (leastDiff : Int32) :
    (nearLoop dimension target images leastDiff none).map (fun ptr => dimension ptr.image) =
      (nearLoop dimension target images' leastDiff none).map (fun ptr => dimension ptr.image) := by
  have hsizes : (images.map (nearKey dimension target)).Perm
      (images'.map (nearKey dimension target)) :=
    map_perm_of_contents h fun image =>
      OrderDual.toDual (gintDiff (dimension image) target : WithTop Int)
  have hkeys := Scan.map_key_scan_of_perm hsizes (nearBound leastDiff none)
  rw [← nearLoop_eq_scan, ← nearLoop_eq_scan] at hkeys
  have hinj : Function.Injective (Option.map fun size =>
      (OrderDual.toDual (gintDiff size target : WithTop Int))) :=
    Option.map_injective fun _ _ heq =>
      gintDiff_injective target (WithTop.coe_injective (OrderDual.toDual.injective heq))
  apply hinj
  rw [Option.map_map, Option.map_map]
  exact hkeys

end

/-- **The selectors do not depend on the order of the images**: photos without a
cached hi-res image whose lists are permutations of each other get images of
the same width, or height, from each selector, or both get `NULL`. -/
theorem selection_of_perm (photo photo' : Node) (target : UInt32)
    (h : photo.photo.hiresImage = none) (h' : photo'.photo.hiresImage = none)
    (hperm : (imageContents photo.photo.images).Perm (imageContents photo'.photo.images)) :
    SameSize PhotoImage.width (photoGetImageNearWidth photo target)
        (photoGetImageNearWidth photo' target) ∧
      SameSize PhotoImage.height (photoGetImageNearHeight photo target)
        (photoGetImageNearHeight photo' target) ∧
      SameSize PhotoImage.width (photoGetImageHires photo).2 (photoGetImageHires photo').2 := by
  refine ⟨?_, ?_, ?_⟩
  · exact sameSize_of_map_eq (dimension_nearLoop_of_perm hperm PhotoImage.width target _)
  · exact sameSize_of_map_eq (dimension_nearLoop_of_perm hperm PhotoImage.height target _)
  · rw [hires_of_uncached h, hires_of_uncached h']
    exact sameSize_of_map_eq (width_hiresScan_of_perm hperm)

/-- Two sizes in both orders, the target between them. -/
theorem selection_of_perm_two_sizes :
    SameSize PhotoImage.width
      (photoGetImageNearWidth (twoSizesPhoto ⟨130, 100, none⟩ ⟨50, 40, none⟩) 120)
      (photoGetImageNearWidth (twoSizesPhoto ⟨50, 40, none⟩ ⟨130, 100, none⟩) 120) :=
  (selection_of_perm (twoSizesPhoto ⟨130, 100, none⟩ ⟨50, 40, none⟩)
    (twoSizesPhoto ⟨50, 40, none⟩ ⟨130, 100, none⟩) 120 rfl rfl (List.Perm.swap _ _ _)).1

end GFBGraph
