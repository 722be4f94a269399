import GFBGraph.Lib.Owners
import GFBGraph.Photo.Selection
import GFBGraph.Photo.Serializable

/-!
# GFBGraph.Photo.Memory

The images of photos on the heap.  A photo owns the images of its list: the
decoder allocates them and `gfbgraph_photo_finalize` frees them.
`gfbgraph_photo_set_property` does not free the list it replaces, so its images
are lost; but the hi-res image that is still cached may be one of them, and it
is this leak that keeps the pointer valid.
-/

namespace GFBGraph

open Lib

/-! ## allocation -/

/-- `g_new0`: the address of a new image, given those that are allocated. -/
structure Allocator where
  gNew0 : Finset Nat → Nat
  gNew0_notMem : ∀ live, gNew0 live ∉ live

namespace Allocator

variable (allocator : Allocator) (live : Finset Nat)

/-- What is allocated after `n` more images are. -/
def after : Nat → Finset Nat
  | 0 => live
  | n + 1 => insert (allocator.gNew0 (after n)) (after n)

/-- The address of the `i`-th of these images. -/
def address (i : Nat) : Nat := allocator.gNew0 (allocator.after live i)

theorem subset_after (n : Nat) : live ⊆ allocator.after live n := by
  induction n with
  | zero => exact Finset.Subset.refl live
  | succ n ih => exact ih.trans (Finset.subset_insert _ _)

theorem address_notMem (i : Nat) : allocator.address live i ∉ live :=
  fun h => allocator.gNew0_notMem _ (allocator.subset_after live i h)

theorem address_mem_after {i n : Nat} (h : i < n) :
    allocator.address live i ∈ allocator.after live n := by
  induction n with
  | zero => contradiction
  | succ n ih =>
      rw [after]
      by_cases hi : i = n
      · rw [hi]
        exact Finset.mem_insert_self _ _
      · exact Finset.mem_insert_of_mem (ih (by omega))

theorem address_injective : Function.Injective (allocator.address live) := by
  have hne : ∀ i j, i < j → allocator.address live i ≠ allocator.address live j := by
    intro i j hij heq
    have hmem := allocator.address_mem_after live hij
    rw [heq] at hmem
    exact allocator.gNew0_notMem _ hmem
  intro i j heq
  by_contra hij
  obtain hlt | hgt := Nat.lt_or_gt_of_ne hij
  · exact hne i j hlt heq
  · exact hne j i hgt heq.symm

end Allocator

/-! ## the images of a photo -/

/-- Where the images of a list are. -/
def addresses (images : List PhotoImagePtr) : List Nat := images.map PhotoImagePtr.addr

/-- The decoder allocates one image after the other. -/
theorem addresses_imagesLoop (alloc : Nat → Nat) (jarray : JsonArray) (i : Nat)
    (images : List PhotoImagePtr) :
    addresses (imagesLoop alloc jarray i images) =
      addresses images ++ (List.range' i jarray.length).map alloc := by
  induction jarray generalizing i images with
  | nil => simp [imagesLoop]
  | cons element jarray ih =>
      rw [imagesLoop, ih, List.length_cons, List.range'_succ]
      simp [addresses]

/-- What a photo operation dereferences: the selectors walk the list, unless the
hi-res image is cached. -/
def dereferenced (photo : Node) : PhotoOp → List Nat
  | .getImageHires => if photo.photo.hiresImage.isSome then [] else addresses photo.photo.images
  | .getImageNearWidth _ | .getImageNearHeight _ => addresses photo.photo.images
  | _ => []

/-- The images a client is handed. -/
def handedOut : PhotoAnswer → List Nat
  | .done => []
  | .image image => addresses image.toList
  | .images images => addresses images

/-- An operation that does not write `images`. -/
abbrev PhotoUse : Type := { op : PhotoOp // ∀ images, op ≠ .setProperty (.images images) }

/-- Only writes of `images` change the list. -/
theorem images_next_use (photo : Node) (use : PhotoUse) :
    (photoMachine.next photo use.1).photo.images = photo.photo.images := by
  obtain ⟨op, hop⟩ := use
  cases op with
  | setProperty property =>
      cases property with
      | images images => exact absurd rfl (hop images)
      | _ => rfl
  | getImageHires =>
      obtain ⟨hiresImage, hafter⟩ := photoGetImageHires_fst photo
      change (photoGetImageHires photo).1.photo.images = photo.photo.images
      rw [hafter]
  | _ => rfl

/-- The hi-res image is the cached one, or one of the list. -/
theorem getImageHires_cases {photo : Node} {image : PhotoImagePtr}
    (h : (photoGetImageHires photo).2 = some image) :
    photo.photo.hiresImage = some image ∨ image ∈ photo.photo.images := by
  unfold photoGetImageHires at h
  cases hcached : photo.photo.hiresImage with
  | none =>
      simp only [hcached] at h
      exact Or.inr (mem_of_hiresScan h)
  | some cached =>
      simp only [hcached] at h
      exact Or.inl h

/-- So is what is cached after an operation. -/
theorem hiresImage_next_use {photo : Node} {use : PhotoUse} {image : PhotoImagePtr}
    (h : (photoMachine.next photo use.1).photo.hiresImage = some image) :
    photo.photo.hiresImage = some image ∨ image ∈ photo.photo.images := by
  obtain ⟨op, hop⟩ := use
  cases op with
  | setProperty property =>
      cases property with
      | images images => exact absurd rfl (hop images)
      | _ => exact Or.inl h
  | getImageHires =>
      apply getImageHires_cases
      have hstored : (photoGetImageHires photo).1.photo.hiresImage =
          (photoGetImageHires photo).2 := by
        unfold photoGetImageHires
        cases hcached : photo.photo.hiresImage <;> simp [hcached]
      rw [← hstored]
      exact h
  | _ => exact Or.inl h

/-- What a client is handed is cached or in the list. -/
theorem mem_handedOut {photo : Node} {op : PhotoOp} {a : Nat}
    (h : a ∈ handedOut (photoMachine.out photo op)) :
    (∃ image, photo.photo.hiresImage = some image ∧ image.addr = a) ∨
      a ∈ addresses photo.photo.images := by
  have hlisted : ∀ {image : PhotoImagePtr}, image ∈ photo.photo.images →
      image.addr ∈ addresses photo.photo.images := List.mem_map_of_mem
  have hnear : ∀ {dimension : PhotoImage → UInt32} {target : UInt32} {leastDiff : Int32},
      a ∈ handedOut (.image (nearLoop dimension target photo.photo.images leastDiff none)) →
        a ∈ addresses photo.photo.images := by
    intro dimension target leastDiff hmem
    obtain ⟨image, himage, haddr⟩ := List.mem_map.1 hmem
    rw [← haddr]
    exact hlisted (leastDiff_of_nearLoop dimension target (Option.mem_toList.1 himage)).1
  cases op with
  | getImageHires =>
      obtain ⟨image, himage, haddr⟩ := List.mem_map.1 h
      cases getImageHires_cases (Option.mem_toList.1 himage) with
      | inl hcached => exact Or.inl ⟨image, hcached, haddr⟩
      | inr hmem => exact Or.inr (haddr ▸ hlisted hmem)
  | getImageNearWidth width => exact Or.inr (hnear h)
  | getImageNearHeight height => exact Or.inr (hnear h)
  | getImages => exact Or.inr h
  | setNodeProperty property => simp [photoMachine, Machine.out, photoStep, handedOut] at h
  | setProperty property => simp [photoMachine, Machine.out, photoStep, handedOut] at h

/-- Only the list is dereferenced. -/
theorem mem_of_mem_dereferenced {photo : Node} {op : PhotoOp} {a : Nat}
    (h : a ∈ dereferenced photo op) : a ∈ addresses photo.photo.images := by
  cases op with
  | getImageHires =>
      rw [dereferenced] at h
      split at h
      · contradiction
      · exact h
  | getImageNearWidth width => exact h
  | getImageNearHeight height => exact h
  | getImages => contradiction
  | setNodeProperty property => contradiction
  | setProperty property => contradiction

/-! ## photos on a heap -/

/-- The photos that are alive, the images that are allocated, and those of them
that were in a list that was replaced. -/
structure PhotoHeap (κ : Type) where
  photos : κ → Option Node
  lost : Finset Nat
  live : Finset Nat

/-- What happens to photos. -/
inductive PhotoHeapOp (κ : Type) where
  /-- `gfbgraph_photo_new`. -/
  | new (k : κ)
  /-- A value is decoded into the `images` property. -/
  | decodeImages (k : κ) (propertyNode : JsonNode)
  | use (k : κ) (use : PhotoUse)
  /-- `gfbgraph_photo_finalize`. -/
  | finalize (k : κ)

namespace PhotoHeap

variable {κ : Type} [DecidableEq κ]

/-- No photo, and nothing allocated. -/
def empty : PhotoHeap κ := ⟨fun _ => none, ∅, ∅⟩

/-- The addresses a photo lists, if there is one. -/
def listed (heap : PhotoHeap κ) (k : κ) : List Nat :=
  (heap.photos k).elim [] fun photo => addresses photo.photo.images

/-- `gfbgraph_photo_finalize`: what the list holds is freed. -/
def finalize (heap : PhotoHeap κ) (k : κ) : PhotoHeap κ × List (RefAction Nat) :=
  (⟨Function.update heap.photos k none, heap.lost, heap.live \ (heap.listed k).toFinset⟩,
    (heap.listed k).map .release)

variable (default : JsonSerializableDefault) (allocator : Allocator)

/-- `gfbgraph_photo_serializable_deserialize_property` on `images`, and
`gfbgraph_photo_set_property` if it answers `TRUE`. -/
def decodeImages (heap : PhotoHeap κ) (k : κ) (photo : Node) (propertyNode : JsonNode) :
    PhotoHeap κ × List (RefAction Nat) :=
  match photoSerializableDeserializeProperty default (allocator.address heap.live) .images
      propertyNode with
  | none => (heap, [])
  | some images =>
      let photo' := { photo with photo := photoSetProperty photo.photo (.images images) }
      (⟨Function.update heap.photos k (some photo'), heap.lost ∪ (heap.listed k).toFinset,
          heap.live ∪ (addresses images).toFinset⟩,
        (addresses images).map .acquire)

/-- One operation, which answers what it does to the heap. -/
def step (heap : PhotoHeap κ) : PhotoHeapOp κ → PhotoHeap κ × List (RefAction Nat)
  | .new k =>
      match heap.photos k with
      | none => ({ heap with photos := Function.update heap.photos k (some photoNew) }, [])
      | some _ => (heap, [])
  | .decodeImages k propertyNode =>
      match heap.photos k with
      | none => (heap, [])
      | some photo => decodeImages default allocator heap k photo propertyNode
  | .use k use =>
      match heap.photos k with
      | none => (heap, [])
      | some photo =>
          let photo' := photoMachine.next photo use.1
          ({ heap with photos := Function.update heap.photos k (some photo') }, [])
  | .finalize k => heap.finalize k

/-- Photos on a heap as a machine. -/
def machine : Machine (PhotoHeap κ) (PhotoHeapOp κ) (List (RefAction Nat)) :=
  ⟨step default allocator⟩

/-! ### photos as owners -/

/-- Photos own what they list. -/
def owners (heap : PhotoHeap κ) : Owners κ Nat := ⟨heap.listed, heap.lost, heap.live⟩

/-- The image a photo has cached is in its list or lost. -/
def CacheKept (lost : Finset Nat) (photo : Node) : Prop :=
  ∀ image, photo.photo.hiresImage = some image →
    image.addr ∈ addresses photo.photo.images ∨ image.addr ∈ lost

/-- Every allocated image is in one place, and the cached ones are among them. -/
structure Sound (heap : PhotoHeap κ) : Prop where
  owners : heap.owners.Sound
  cacheKept : ∀ k photo, heap.photos k = some photo → CacheKept heap.lost photo

variable {default allocator} {heap : PhotoHeap κ}

omit [DecidableEq κ] in
theorem mem_listed_iff {k : κ} {a : Nat} :
    a ∈ heap.listed k ↔ ∃ photo, heap.photos k = some photo ∧ a ∈ addresses photo.photo.images := by
  cases hphoto : heap.photos k <;> simp [listed, hphoto]

theorem listed_update (heap : PhotoHeap κ) (k : κ) (photo : Option Node) (lost live : Finset Nat) :
    listed ⟨Function.update heap.photos k photo, lost, live⟩ =
      Function.update heap.listed k (photo.elim [] fun photo => addresses photo.photo.images) := by
  funext k'
  by_cases hk : k' = k
  · subst hk
    simp [listed]
  · simp [listed, hk]

/-- What the decoder stores was not allocated before. -/
theorem fresh_of_deserialize {live : Finset Nat} {propertyNode : JsonNode}
    {images : List PhotoImagePtr}
    (h : photoSerializableDeserializeProperty default (allocator.address live) .images
      propertyNode = some images) :
    (addresses images).Nodup ∧ ∀ a ∈ addresses images, a ∉ live := by
  cases propertyNode with
  | array jarray =>
      have himages : imagesLoop (allocator.address live) jarray 0 [] = images := Option.some.inj h
      rw [← himages, addresses_imagesLoop]
      constructor
      · have hrange := List.nodup_range' (s := 0) (n := jarray.length)
        simpa [addresses] using hrange.map (allocator.address_injective live)
      · intro a ha
        obtain ⟨i, -, hi⟩ : ∃ i, i < jarray.length ∧ allocator.address live i = a := by
          simpa [addresses] using ha
        rw [← hi]
        exact allocator.address_notMem live i
  | _ => contradiction

variable (default allocator) in
/-- A decoded value is a new list of fresh images. -/
theorem decodeImages_cases (heap : PhotoHeap κ) (k : κ) (photo : Node) (propertyNode : JsonNode) :
    heap.decodeImages default allocator k photo propertyNode = (heap, []) ∨
      ∃ images, (addresses images).Nodup ∧ (∀ a ∈ addresses images, a ∉ heap.live) ∧
        heap.decodeImages default allocator k photo propertyNode =
          (⟨Function.update heap.photos k
                (some { photo with photo := photoSetProperty photo.photo (.images images) }),
              heap.lost ∪ (heap.listed k).toFinset, heap.live ∪ (addresses images).toFinset⟩,
            (addresses images).map .acquire) := by
  unfold decodeImages
  cases hdecoded : photoSerializableDeserializeProperty default
      (allocator.address heap.live) .images propertyNode with
  | none => exact Or.inl rfl
  | some images =>
      obtain ⟨hnodup, hfresh⟩ := fresh_of_deserialize hdecoded
      exact Or.inr ⟨images, hnodup, hfresh, rfl⟩

variable (default allocator) in
/-- **Refinement**: every operation is one on the owners. -/
theorem owners_step (heap : PhotoHeap κ) (op : PhotoHeapOp κ) :
    ∃ op' : Owners.Op κ Nat, heap.owners.Enabled op' ∧
      ((heap.step default allocator op).1.owners, (heap.step default allocator op).2) =
        heap.owners.step op' := by
  have hsame : ∀ {k photo}, (photo : Option Node).elim [] (fun photo =>
      addresses photo.photo.images) = heap.listed k →
      owners ⟨Function.update heap.photos k photo, heap.lost, heap.live⟩ = heap.owners := by
    intro k photo hlisted
    rw [owners, listed_update, hlisted, Function.update_eq_self]
    rfl
  cases op with
  | new k =>
      refine ⟨.keep, trivial, ?_⟩
      cases hphoto : heap.photos k with
      | none =>
          simp only [step, hphoto]
          rw [hsame (by simp [listed, hphoto, addresses, photoNew, gObjectNew])]
          rfl
      | some photo =>
          simp only [step, hphoto]
          rfl
  | use k use =>
      refine ⟨.keep, trivial, ?_⟩
      cases hphoto : heap.photos k with
      | none =>
          simp only [step, hphoto]
          rfl
      | some photo =>
          simp only [step, hphoto]
          rw [hsame (by simp [listed, hphoto, images_next_use])]
          rfl
  | decodeImages k propertyNode =>
      cases hphoto : heap.photos k with
      | none =>
          simp only [step, hphoto]
          exact ⟨.keep, trivial, rfl⟩
      | some photo =>
          simp only [step, hphoto]
          cases decodeImages_cases default allocator heap k photo propertyNode with
          | inl hrefused =>
              rw [hrefused]
              exact ⟨.keep, trivial, rfl⟩
          | inr hdecoded =>
              obtain ⟨images, hnodup, hfresh, hdecoded⟩ := hdecoded
              refine ⟨.assign k (addresses images), ⟨hnodup, hfresh⟩, ?_⟩
              rw [hdecoded, owners, listed_update]
              rfl
  | finalize k =>
      refine ⟨.dispose k, trivial, ?_⟩
      rw [step, finalize, owners, listed_update]
      rfl

/-! ### runs -/

omit [DecidableEq κ] in
theorem sound_empty : (empty : PhotoHeap κ).Sound where
  owners := Owners.sound_empty
  cacheKept _ _ hphoto := by simp [empty] at hphoto

/-- What all photos have, all have after one is exchanged for another that has
it. -/
theorem forall_update {photos : κ → Option Node} {P : Node → Prop}
    (h : ∀ k photo, photos k = some photo → P photo) {k : κ} {photo' : Option Node}
    (h' : ∀ photo, photo' = some photo → P photo) (k' : κ) (photo : Node)
    (hphoto : Function.update photos k photo' k' = some photo) : P photo := by
  by_cases hk : k' = k
  · rw [hk, Function.update_self] at hphoto
    exact h' photo hphoto
  · rw [Function.update_of_ne hk] at hphoto
    exact h k' photo hphoto

/-- Replacing the list keeps the cached image: it is lost with the list, and not
freed. -/
theorem CacheKept.decoded {lost : Finset Nat} {photo : Node} (h : CacheKept lost photo)
    (images : List PhotoImagePtr) :
    CacheKept (lost ∪ (addresses photo.photo.images).toFinset)
      { photo with photo := photoSetProperty photo.photo (.images images) } := by
  intro image hcached
  rw [Finset.mem_union, List.mem_toFinset]
  exact Or.inr (h image hcached).symm

theorem CacheKept.use {lost : Finset Nat} {photo : Node} (h : CacheKept lost photo)
    (use : PhotoUse) : CacheKept lost (photoMachine.next photo use.1) := by
  intro image hcached
  rw [images_next_use]
  cases hiresImage_next_use hcached with
  | inl hbefore => exact h image hbefore
  | inr hmem => exact Or.inl (List.mem_map_of_mem hmem)

/-- What is cached stays in a list or among the lost. -/
theorem Sound.cacheKept_step (h : heap.Sound) (op : PhotoHeapOp κ) :
    ∀ k photo, (heap.step default allocator op).1.photos k = some photo →
      CacheKept (heap.step default allocator op).1.lost photo := by
  have hlost : ∀ {lost : Finset Nat}, heap.lost ⊆ lost →
      ∀ k photo, heap.photos k = some photo → CacheKept lost photo :=
    fun hsubset k photo hphoto image hcached =>
      (h.cacheKept k photo hphoto image hcached).imp id fun hmem => hsubset hmem
  cases op with
  | new k =>
      cases hphoto : heap.photos k with
      | some photo => simpa only [step, hphoto] using h.cacheKept
      | none =>
          simp only [step, hphoto]
          refine forall_update h.cacheKept fun photo hnew => ?_
          cases hnew
          exact fun image hcached => nomatch hcached
  | use k use =>
      cases hphoto : heap.photos k with
      | none => simpa only [step, hphoto] using h.cacheKept
      | some photo =>
          simp only [step, hphoto]
          refine forall_update h.cacheKept fun photo' hnext => ?_
          cases hnext
          exact (h.cacheKept k photo hphoto).use use
  | decodeImages k propertyNode =>
      cases hphoto : heap.photos k with
      | none => simpa only [step, hphoto] using h.cacheKept
      | some photo =>
          simp only [step, hphoto]
          cases decodeImages_cases default allocator heap k photo propertyNode with
          | inl hrefused =>
              rw [hrefused]
              exact h.cacheKept
          | inr hdecoded =>
              obtain ⟨images, -, -, hdecoded⟩ := hdecoded
              rw [hdecoded]
              have hlisted : heap.listed k = addresses photo.photo.images := by
                simp [listed, hphoto]
              refine forall_update (hlost Finset.subset_union_left) fun photo' hnext => ?_
              cases hnext
              rw [hlisted]
              exact (h.cacheKept k photo hphoto).decoded images
  | finalize k => exact forall_update h.cacheKept fun photo hnone => nomatch hnone

variable (default allocator) in
/-- **Step lemma**: an operation keeps the heap sound, frees what is allocated,
and never an image that is lost. -/
theorem Sound.step (h : heap.Sound) (op : PhotoHeapOp κ) :
    (heap.step default allocator op).1.Sound ∧
      RefAction.settle heap.live (heap.step default allocator op).2 =
        some (heap.step default allocator op).1.live ∧
      heap.lost ⊆ (heap.step default allocator op).1.lost := by
  obtain ⟨op', hop', hstep⟩ := owners_step default allocator heap op
  obtain ⟨howners, hsettle⟩ := h.owners.step hop'
  have hlost := Owners.lost_subset_step heap.owners op'
  rw [← hstep] at howners hsettle hlost
  exact ⟨⟨howners, h.cacheKept_step op⟩, hsettle, hlost⟩

variable (default allocator) in
/-- **Run lemma**. -/
theorem Sound.run (h : heap.Sound) (ops : List (PhotoHeapOp κ)) :
    ((machine default allocator).run heap ops).Sound ∧
      RefAction.settle heap.live ((machine default allocator).outs heap ops).flatten =
        some ((machine default allocator).run heap ops).live ∧
      heap.lost ⊆ ((machine default allocator).run heap ops).lost := by
  induction ops generalizing heap with
  | nil => exact ⟨h, rfl, Finset.Subset.refl _⟩
  | cons op ops ih =>
      obtain ⟨hsound, hsettle, hlost⟩ := h.step default allocator op
      obtain ⟨hsound', hsettle', hlost'⟩ := ih hsound
      refine ⟨hsound', ?_, hlost.trans hlost'⟩
      rw [Machine.outs_cons, List.flatten_cons]
      exact (RefAction.settle_append hsettle _).trans hsettle'

end PhotoHeap

/-- **The images of photos**: over every run of any number of photos, no image
is freed twice or freed before it is allocated; every image an operation
dereferences or hands to the client, also a cached one from a list that has been
replaced, is allocated; and what is allocated is what the photos list, each image
in one place, and the images of replaced lists, which stay for ever. -/
theorem photo_images_safe {κ : Type} [DecidableEq κ] (default : JsonSerializableDefault)
    (allocator : Allocator) (ops : List (PhotoHeapOp κ)) :
    let machine := PhotoHeap.machine default allocator
    let heap := machine.run (PhotoHeap.empty : PhotoHeap κ) ops
    RefAction.settle ∅ (machine.outs PhotoHeap.empty ops).flatten = some heap.live ∧
    (∀ k photo op, heap.photos k = some photo →
      (∀ a ∈ dereferenced photo op, a ∈ heap.live) ∧
      ∀ a ∈ handedOut (photoMachine.out photo op), a ∈ heap.live) ∧
    (∀ a, a ∈ heap.live ↔ a ∈ heap.lost ∨
      ∃ k photo, heap.photos k = some photo ∧ a ∈ addresses photo.photo.images) ∧
    heap.owners.Sound ∧
    ∀ more, heap.lost ⊆ (machine.run heap more).lost := by
  intro machine heap
  obtain ⟨hsound, hsettle, -⟩ := PhotoHeap.sound_empty.run default allocator ops
  have hlive : ∀ {k photo a}, heap.photos k = some photo → a ∈ addresses photo.photo.images →
      a ∈ heap.live :=
    fun hphoto ha => hsound.owners.mem_live (PhotoHeap.mem_listed_iff.2 ⟨_, hphoto, ha⟩)
  refine ⟨hsettle, fun k photo op hphoto => ⟨fun a ha => ?_, fun a ha => ?_⟩, fun a => ?_,
    hsound.owners, fun more => ?_⟩
  · exact hlive hphoto (mem_of_mem_dereferenced ha)
  · cases mem_handedOut ha with
    | inr hmem => exact hlive hphoto hmem
    | inl hcached =>
        obtain ⟨image, himage, haddr⟩ := hcached
        rw [← haddr]
        cases hsound.cacheKept k photo hphoto image himage with
        | inl hmem => exact hlive hphoto hmem
        | inr hlost => exact (hsound.owners.live_iff _).2 (Or.inl hlost)
  · refine (hsound.owners.live_iff a).trans (or_congr_right (exists_congr fun k => ?_))
    exact PhotoHeap.mem_listed_iff
  · exact (hsound.run default allocator more).2.2

end GFBGraph
