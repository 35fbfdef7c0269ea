import ContainerFleet.Proofs.Update.Staleness
import ContainerFleet.Update.Run

/-!
Containers that an update run has nothing to do for. `Later` says what an update run may have done
to the images of a daemon. Main statement: `Calm.later`, that a container for which there is nothing
to do stays one while others are updated.
-/

namespace ContainerFleet

namespace Digest

theorem isImageId_pulledImage (reference digest : String) :
    isImageId (MemoryDaemon.pulledImage reference digest).id = true := by
  rw [isImageId, List.isPrefixOf_iff_prefix, MemoryDaemon.pulledImage, String.toList_append]
  exact List.IsPrefix.trans (by decide) (List.prefix_append _ _)

end Digest

theorem DigestCheck.isSuperseded_eq_false_iff {check : DigestCheck} {imageId : String} :
    check.isSuperseded imageId = false ↔ imageId = "" ∨ imageId = check.localId := by
  rw [isSuperseded, Bool.and_eq_false_iff, decide_eq_false_iff_not, decide_eq_false_iff_not,
    ne_eq, ne_eq, Decidable.not_not, Decidable.not_not]

namespace MemoryDaemon

/-- The reference under which a container is updated. -/
def reference (d : MemoryDaemon) (c : MemoryContainer) : String :=
  ContainerRecord.referenceOf (d.listedImage c) c

/-- What happens to the images of a daemon in an update run: a settled reference keeps its image,
and another one does too or gets a pulled one. Nothing is pulled where newer images are only
recorded. -/
structure Later (policy : UpdatePolicy) (d t : MemoryDaemon) : Prop where
  registry_eq : t.registry = d.registry
  keepsSettled : d.KeepsSettled t
  images_pulled : ∀ reference, t.images.get? reference = d.images.get? reference ∨
    ∃ image, t.images.get? reference = some image ∧ Digest.isImageId image.id = true
  images_eq : policy.notifyOnly = true → t.images = d.images

/-- There is nothing to do for a container with some image under a reference. The reference can be
looked up; and the container runs the image of the host, which is the one of the registry, unless
newer images are only recorded. -/
structure Ready (policy : UpdatePolicy) (d : MemoryDaemon) (imageId reference : String)
    (image : ImageDetails) (digest : String) : Prop where
  not_isImageId : Digest.isImageId reference = false
  image_eq : d.images.get? reference = some image
  digest_eq : d.registry.get? reference = some digest
  isCurrent : policy.notifyOnly = false → DigestCheck.isCurrent image digest = true
  runs : policy.notifyOnly = false → imageId = "" ∨ imageId = image.id

/-- An update run has nothing to do for a container: it does not consider it, or finds it ready. -/
def Calm (policy : UpdatePolicy) (host : RunHost) (d : MemoryDaemon) (c : MemoryContainer) : Prop :=
  (d.record c).classify policy host.isLocal = .eligible →
    ∃ image digest, d.Ready policy c.imageId (d.reference c) image digest

variable {policy : UpdatePolicy} {host : RunHost} {d u t : MemoryDaemon} {c : MemoryContainer}
  {imageId reference digest : String} {image : ImageDetails}

namespace Later

theorem of_eq (himages : t.images = d.images) (hregistry : t.registry = d.registry) :
    Later policy d t where
  registry_eq := hregistry
  keepsSettled _ _ := by rw [himages]
  images_pulled _ := .inl (by rw [himages])
  images_eq _ := himages

theorem refl (policy : UpdatePolicy) (d : MemoryDaemon) : Later policy d d :=
  of_eq rfl rfl

theorem trans (h : Later policy d u) (h' : Later policy u t) : Later policy d t where
  registry_eq := h'.registry_eq.trans h.registry_eq
  keepsSettled reference hsettled := by
    have himage := h.keepsSettled reference hsettled
    rw [h'.keepsSettled reference (hsettled.of_eq himage h.registry_eq), himage]
  images_pulled reference := by
    rcases h'.images_pulled reference with himage | hpulled
    · rw [himage]
      exact h.images_pulled reference
    · exact .inr hpulled
  images_eq hnotify := (h'.images_eq hnotify).trans (h.images_eq hnotify)

/-- A reference is pulled only when it is not settled. -/
theorem of_pull (hchange : policy.notifyOnly = false) (hnot : ¬ d.Settled reference)
    (digest : String) :
    Later policy d
      { d with images := d.images.insert reference (pulledImage reference digest) } where
  registry_eq := rfl
  keepsSettled := keepsSettled_of_pull hnot
  images_pulled other := by
    change (d.images.insert reference _).get? other = _ ∨ _
    rw [Map.get?_insert]
    split
    · exact .inr ⟨_, rfl, Digest.isImageId_pulledImage reference digest⟩
    · exact .inl rfl
  images_eq hnotify := by
    rw [hchange] at hnotify
    cases hnotify

end Later

theorem Ready.later (h : d.Ready policy imageId reference image digest)
    (hlater : Later policy d t) :
    t.Ready policy imageId reference image digest where
  not_isImageId := h.not_isImageId
  image_eq := by
    cases hnotify : policy.notifyOnly with
    | true => rw [hlater.images_eq hnotify, h.image_eq]
    | false =>
        have hsettled : d.Settled reference :=
          ⟨image, digest, h.image_eq, h.digest_eq, h.isCurrent hnotify⟩
        rw [hlater.keepsSettled reference hsettled, h.image_eq]
  digest_eq := by rw [hlater.registry_eq, h.digest_eq]
  isCurrent := h.isCurrent
  runs := h.runs

theorem listedImage_congr (himages : t.images = d.images) (c : MemoryContainer) :
    t.listedImage c = d.listedImage c := by
  rw [listedImage, listedImage, himages]

/-- A container with the image that its reference stands for is listed by that reference. -/
theorem listedImage_of_runs (himage : d.images.get? c.image = some image)
    (hruns : c.imageId = "" ∨ c.imageId = image.id) : d.listedImage c = c.image := by
  unfold listedImage
  rw [himage]
  dsimp only
  rw [if_neg]
  rintro ⟨hne, hknown⟩
  rcases hruns with hruns | hruns
  · exact hknown hruns
  · exact hne hruns.symm

/-- A container that is listed by the image it runs, and not by its reference. -/
theorem listedImage_of_superseded (himage : d.images.get? c.image = some image)
    (hknown : c.imageId ≠ "") (hne : image.id ≠ c.imageId) : d.listedImage c = c.imageId := by
  unfold listedImage
  rw [himage]
  exact if_pos ⟨hne, hknown⟩

/-- A container is listed by its reference, or by the image that it runs instead of that of its
reference. -/
theorem listedImage_eq (d : MemoryDaemon) (c : MemoryContainer) :
    d.listedImage c = c.image ∨
      (d.listedImage c = c.imageId ∧ c.imageId ≠ "" ∧
        ∃ image, d.images.get? c.image = some image ∧ image.id ≠ c.imageId) := by
  unfold listedImage
  split
  · next image himage =>
      split
      · next h => exact .inr ⟨rfl, h.2, image, himage, h.1⟩
      · exact .inl rfl
  · exact .inl rfl

theorem reference_of_listed (h : d.listedImage c = c.image) : d.reference c = c.image := by
  rw [reference, ContainerRecord.referenceOf, h, ite_self]

theorem reference_of_superseded (h : d.listedImage c = c.imageId) :
    d.reference c = if Digest.isImageId c.imageId then c.image else c.imageId := by
  rw [reference, ContainerRecord.referenceOf, h]

/-- A container that is ready under its reference from before keeps that reference. An image id that
does not look like one is taken for a reference; it stays listed, because what is pulled for the
container's own reference has another id. -/
theorem reference_later (hlater : Later policy d t)
    (h : t.Ready policy c.imageId (d.reference c) image digest) :
    t.reference c = d.reference c := by
  cases hnotify : policy.notifyOnly with
  | true => rw [reference, reference, listedImage_congr (hlater.images_eq hnotify)]
  | false =>
      have hown : d.reference c = c.image → t.reference c = d.reference c := by
        intro heq
        have himage := h.image_eq
        rw [heq] at himage ⊢
        exact reference_of_listed (listedImage_of_runs himage (h.runs hnotify))
      rcases listedImage_eq d c with hlisted | ⟨hlisted, hknown, old, hold, hne⟩
      · exact hown (reference_of_listed hlisted)
      · have href := reference_of_superseded hlisted
        -- Only an id that looks like one makes update code ask for the container's own reference.
        by_cases himageId : Digest.isImageId c.imageId = true
        · exact hown (by rw [href, if_pos himageId])
        · have hstill : t.listedImage c = c.imageId := by
            rcases hlater.images_pulled c.image with hsame | ⟨pulled, hpulled, hpulledId⟩
            · exact listedImage_of_superseded (hsame.trans hold) hknown hne
            · refine listedImage_of_superseded hpulled hknown fun heq => ?_
              exact himageId (heq ▸ hpulledId)
          rw [href, reference_of_superseded hstill]

/-- What is done for other containers leaves nothing to do for a container. -/
theorem Calm.later (h : Calm policy host d c) (hlater : Later policy d t) :
    Calm policy host t c := by
  intro heligible
  obtain ⟨image, digest, hready⟩ := h heligible
  have hready' := hready.later hlater
  exact ⟨image, digest, by rwa [reference_later hlater hready']⟩

/-- The record of a container with its reference found out. -/
def resolved (d : MemoryDaemon) (c : MemoryContainer) : ContainerRecord :=
  if Digest.isImageId (d.listedImage c) then (d.record c).withReference c.image else d.record c

theorem resolved_id (d : MemoryDaemon) (c : MemoryContainer) : (d.resolved c).id = c.id := by
  unfold resolved
  split <;> rfl

theorem resolved_image (d : MemoryDaemon) (c : MemoryContainer) :
    (d.resolved c).image = d.reference c := by
  unfold resolved reference ContainerRecord.referenceOf
  split <;> rfl

theorem classify_resolved (d t : MemoryDaemon) (c : MemoryContainer) (onLocalHost : Bool) :
    (d.resolved c).classify policy onLocalHost = (t.record c).classify policy onLocalHost := by
  unfold resolved
  split <;> rfl

/-- The image that a container runs is in doubt only when it was created from an image id. -/
theorem resolved_imageId (h : Digest.isImageId (d.reference c) = false) :
    (d.resolved c).imageId = c.imageId := by
  unfold resolved
  split
  · next himage =>
      change (if c.imageId = "" then d.listedImage c else c.imageId) = c.imageId
      split
      · next hunknown =>
          rcases listedImage_eq d c with hlisted | ⟨-, hknown, -⟩
          · rw [reference_of_listed hlisted, ← hlisted, himage] at h
            cases h
          · exact absurd hunknown hknown
      · rfl
  · rfl

/-- A container that is found up to date, or only looked up where nothing more is done. -/
theorem calm_of_compares {listing : MemoryDaemon} {check : DigestCheck}
    (hlater : Later policy listing d) (hnot : Digest.isImageId (listing.reference c) = false)
    (hcompares : DigestCheck.Compares d (listing.reference c) check)
    (hcurrent : policy.notifyOnly = false →
      (check.updateAvailable || check.isSuperseded c.imageId) = false) :
    Calm policy host d c := by
  obtain ⟨image, digest, himage, hdigest, rfl⟩ := hcompares
  have hready : d.Ready policy c.imageId (listing.reference c) image digest := by
    refine ⟨hnot, himage, hdigest, fun hchange => ?_, fun hchange => ?_⟩
    · have havailable := (Bool.or_eq_false_iff.1 (hcurrent hchange)).1
      simpa [DigestCheck.ofImage] using havailable
    · have hsame := (Bool.or_eq_false_iff.1 (hcurrent hchange)).2
      exact DigestCheck.isSuperseded_eq_false_iff.1 hsame
  intro _
  exact ⟨image, digest, by rwa [reference_later hlater hready]⟩

/-- A container that was created from a settled reference. -/
theorem calm_of_created (hnot : Digest.isImageId reference = false)
    (hsettled : d.Settled reference) (himage : c.image = reference)
    (himageId : c.imageId = d.imageIdOf reference) : Calm policy host d c := by
  obtain ⟨image, digest, hfound, hdigest, hcurrent⟩ := hsettled
  have hruns : c.imageId = image.id := by
    rw [himageId, imageIdOf, hfound]
    rfl
  have href : d.reference c = reference := by
    rw [← himage] at hfound
    rw [reference_of_listed (listedImage_of_runs hfound (.inr hruns)), himage]
  intro _
  rw [href]
  exact ⟨image, digest, hnot, hfound, hdigest, fun _ => hcurrent, fun _ => .inr hruns⟩

end MemoryDaemon

end ContainerFleet
