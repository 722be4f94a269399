import GFBGraph.Lib.LazyCell
import GFBGraph.Photo.Selection

/-!
# GFBGraph.Photo.Threads

`gfbgraph_photo_get_image_hires` from several threads.  The scan keeps its best
image so far in `priv->hires_image` itself, which is the cache as well: a call
that comes while another one scans takes that image for the final one.  What
such calls answer is `photo_hires_threads_iff`.
-/

namespace GFBGraph

open Lib

/-- The scan of `gfbgraph_photo_get_image_hires`, access by access. -/
def hiresLoopCode :
    List PhotoImagePtr → UInt32 → Code (Option PhotoImagePtr) (Option PhotoImagePtr)
  | [], _ => .access id fun hiresImage => .done hiresImage
  | photoImage :: images, biggerWidth =>
      if photoImage.image.width > biggerWidth then
        .access (fun _ => some photoImage) fun _ => hiresLoopCode images photoImage.image.width
      else hiresLoopCode images biggerWidth

/-- `gfbgraph_photo_get_image_hires`, access by access. -/
def hiresCode (images : List PhotoImagePtr) :
    Code (Option PhotoImagePtr) (Option PhotoImagePtr) :=
  .access id fun hiresImage =>
    match hiresImage with
    | none => hiresLoopCode images 0
    | some _ => .access id fun hiresImage => .done hiresImage

/-- The function without a lock. -/
def hiresMonitor (images : List PhotoImagePtr) :
    Monitor Unit (Option PhotoImagePtr) (Option PhotoImagePtr) where
  guarded _ := false
  code _ := hiresCode images

/-- What a schedule of threads that call it leads to; thread `t` calls it
`calls t` times. -/
def hiresThreads {τ : Type} [DecidableEq τ] (photo : Node) (calls : τ → Nat) (schedule : List τ) :
    Monitor.State τ Unit (Option PhotoImagePtr) (Option PhotoImagePtr) :=
  (hiresMonitor photo.photo.images).machine.run
    (Monitor.start photo.photo.hiresImage fun t => List.replicate (calls t) ()) schedule

/-- **Refinement**: run without interruption, the accesses do what the function
does. -/
theorem hiresCode_exec (photo : Node) :
    (hiresCode photo.photo.images).exec photo.photo.hiresImage =
      ((photoGetImageHires photo).1.photo.hiresImage, (photoGetImageHires photo).2) := by
  have hloop : ∀ images biggerWidth hiresImage,
      (hiresLoopCode images biggerWidth).exec hiresImage =
        (hiresLoop images biggerWidth hiresImage, hiresLoop images biggerWidth hiresImage) := by
    intro images
    induction images with
    | nil => exact fun _ _ => rfl
    | cons photoImage images ih =>
        intro biggerWidth hiresImage
        rw [hiresLoopCode, hiresLoop]
        by_cases hwider : photoImage.image.width > biggerWidth
        · rw [if_pos hwider, if_pos hwider, Code.exec_access, ih]
        · rw [if_neg hwider, if_neg hwider, ih]
  obtain ⟨_, _, _, _, ⟨_, _, _, _, images, hiresImage⟩⟩ := photo
  cases hiresImage with
  | none => exact hloop images 0 none
  | some image => rfl

/-! ## the images that are written -/

/-- The images the scan keeps on its way. -/
def widening (images : List PhotoImagePtr) : List PhotoImagePtr :=
  Scan.records (fun ptr => ptr.image.width.toNat) images 0

/-- The image is wider than all before it. -/
def WidestSoFar (images : List PhotoImagePtr) (image : PhotoImagePtr) : Prop :=
  ∃ pre post, images = pre ++ image :: post ∧ 0 < image.image.width ∧
    ∀ other ∈ pre, other.image.width < image.image.width

/-- The first image that has a width is one of the widest. -/
def LeadsWidest (images : List PhotoImagePtr) : Prop :=
  ∀ image, images.find? (fun ptr => decide (0 < ptr.image.width)) = some image →
    ∀ other ∈ images, other.image.width ≤ image.image.width

theorem mem_widening_iff {images : List PhotoImagePtr} {image : PhotoImagePtr} :
    image ∈ widening images ↔ WidestSoFar images image := by
  simp [widening, Scan.mem_records_iff, WidestSoFar, UInt32.lt_iff_toNat_lt]

theorem widening_eq_nil_iff {images : List PhotoImagePtr} :
    widening images = [] ↔ ∀ image ∈ images, image.image.width = 0 := by
  simp [widening, Scan.records_eq_nil_iff, ← UInt32.toNat_inj]

theorem leadsWidest_iff {images : List PhotoImagePtr} :
    (∀ image ∈ widening images, (widening images).getLast? = some image) ↔ LeadsWidest images := by
  simp [widening, Scan.forall_mem_records_iff, LeadsWidest, UInt32.lt_iff_toNat_lt,
    UInt32.le_iff_toNat_le]

/-- The function fills the cache with these images. -/
theorem hiresCode_eq (images : List PhotoImagePtr) :
    hiresCode images = lazyCode (widening images) := by
  have hloop : ∀ biggerWidth : UInt32, hiresLoopCode images biggerWidth =
      fillCode (Scan.records (fun ptr => ptr.image.width.toNat) images biggerWidth.toNat) := by
    induction images with
    | nil => exact fun _ => rfl
    | cons photoImage images ih =>
        intro biggerWidth
        rw [hiresLoopCode, Scan.records]
        by_cases hwider : photoImage.image.width > biggerWidth
        · rw [if_pos hwider, if_pos (UInt32.lt_iff_toNat_lt.1 hwider), ih, fillCode]
        · rw [if_neg hwider, if_neg fun hlt => hwider (UInt32.lt_iff_toNat_lt.2 hlt), ih]
  unfold hiresCode lazyCode
  congr 1
  funext hiresImage
  cases hiresImage with
  | none => exact hloop 0
  | some image => rfl

/-- A call that is alone answers the last of them. -/
theorem getImageHires_eq_getLast? {photo : Node} (hcache : photo.photo.hiresImage = none) :
    (photoGetImageHires photo).2 = (widening photo.photo.images).getLast? := by
  have hexec := hiresCode_exec photo
  rw [hiresCode_eq, hcache, exec_lazyCode, Option.none_or] at hexec
  exact (congrArg Prod.snd hexec).symm

theorem hiresThreads_eq {τ : Type} [DecidableEq τ] {photo : Node}
    (hcache : photo.photo.hiresImage = none) (calls : τ → Nat) (schedule : List τ) :
    hiresThreads photo calls schedule = lazyThreads (widening photo.photo.images)
      (fun t => List.replicate (calls t) ()) schedule := by
  rw [hiresThreads, hiresMonitor, hiresCode_eq, hcache]
  rfl

/-- **The hi-res image across threads.**  Threads that ask a photo nobody has
asked before are answered an image that is wider than all before it in the list,
or `NULL` if no image has a width; once no call is under way the cached image is
the one a single call answers.  All of them are answered that image, in every
schedule, exactly when only one thread asks or the first image that has a width
is one of the widest. -/
theorem photo_hires_threads_iff {τ : Type} [DecidableEq τ] (photo : Node)
    (hcache : photo.photo.hiresImage = none) (calls : τ → Nat) :
    (∀ schedule, ∀ answer ∈ Monitor.answers (hiresThreads photo calls schedule),
      (∃ image, answer = some image ∧ WidestSoFar photo.photo.images image) ∨
        answer = none ∧ ∀ image ∈ photo.photo.images, image.image.width = 0) ∧
    (∀ schedule, (∀ t, ((hiresThreads photo calls schedule).threads t).active = none) →
      (hiresThreads photo calls schedule).answered ≠ [] →
        (hiresThreads photo calls schedule).shared = (photoGetImageHires photo).2) ∧
    ((∀ schedule, ∀ answer ∈ Monitor.answers (hiresThreads photo calls schedule),
        answer = (photoGetImageHires photo).2) ↔
      (∀ t u, 0 < calls t → 0 < calls u → t = u) ∨ LeadsWidest photo.photo.images) := by
  simp only [hiresThreads_eq hcache, getImageHires_eq_getLast? hcache]
  refine ⟨fun schedule answer hanswer => ?_, fun schedule hidle hanswered => ?_, ?_⟩
  · obtain ⟨image, himage, hsome⟩ | ⟨hnone, hnil⟩ := held_of_lazyThreads schedule answer hanswer
    · exact Or.inl ⟨image, hsome, mem_widening_iff.1 himage⟩
    · exact Or.inr ⟨hnone, widening_eq_nil_iff.1 hnil⟩
  · exact lazyThreads_settled schedule hidle hanswered
  · rw [lazy_answers_iff, leadsWidest_iff]
    simp [Nat.pos_iff_ne_zero]

/-- Of two sizes, the smaller first, one of two threads may get the smaller. -/
theorem photo_hires_threads_two_sizes :
    ¬∀ schedule, ∀ answer ∈ Monitor.answers
      (hiresThreads (twoSizesPhoto ⟨100, 80, none⟩ ⟨200, 160, none⟩) (fun _ : Bool => 1) schedule),
        answer = (photoGetImageHires (twoSizesPhoto ⟨100, 80, none⟩ ⟨200, 160, none⟩)).2 := by
  rw [(photo_hires_threads_iff (twoSizesPhoto ⟨100, 80, none⟩ ⟨200, 160, none⟩) rfl
    (fun _ : Bool => 1)).2.2]
  rintro (hone | hleads)
  · exact absurd (hone true false (by decide) (by decide)) (by decide)
  · exact absurd (hleads ⟨1, ⟨100, 80, none⟩⟩ (by decide) ⟨2, ⟨200, 160, none⟩⟩ (by decide))
      (by decide)

end GFBGraph
