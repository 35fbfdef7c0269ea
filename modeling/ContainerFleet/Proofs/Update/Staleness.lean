import ContainerFleet.Proofs.Daemon.Conduct
import ContainerFleet.Update.Staleness

/-!
When host and registry agree on an image. Main statements: `Settled.of_pull`, that a pulled image
is the one of the registry, and `Compares.settled_iff`, that a check offers no update exactly when
they agree.
-/

namespace ContainerFleet

namespace Digest

/-- Text before a mark does not matter to what is after the last one. -/
theorem afterLast_append (mark : Char) (a b : List Char) :
    afterLast mark (a ++ mark :: b) = afterLast mark b := by
  have hstop : (mark :: a.reverse).takeWhile (· != mark) = [] := by simp
  rw [afterLast, afterLast, List.reverse_append, List.reverse_cons, List.append_assoc,
    List.singleton_append, List.takeWhile_append, hstop]
  split
  · next hlength =>
      rw [List.append_nil, (List.takeWhile_prefix _).eq_of_length hlength]
  · rfl

theorem normalize_append (reference digest : String) :
    normalize (reference ++ "@" ++ digest) = normalize digest := by
  have htext : (reference ++ "@" ++ digest).toList = reference.toList ++ '@' :: digest.toList := by
    simp [String.toList_append]
  rw [normalize, htext, afterLast_append, normalize]

end Digest

namespace MemoryDaemon

theorem isCurrent_pulledImage (reference digest : String) :
    DigestCheck.isCurrent (pulledImage reference digest) digest = true := by
  simp [DigestCheck.isCurrent, pulledImage, Digest.normalize_append]

/-- The image that the host has for a reference is the one of the registry. -/
def Settled (d : MemoryDaemon) (reference : String) : Prop :=
  ∃ image digest, d.images.get? reference = some image ∧
    d.registry.get? reference = some digest ∧ DigestCheck.isCurrent image digest = true

/-- Another daemon has the same images for the references that are settled. -/
def KeepsSettled (d t : MemoryDaemon) : Prop :=
  ∀ reference, d.Settled reference → t.images.get? reference = d.images.get? reference

variable {d t : MemoryDaemon} {reference digest : String} {reply : Except DigestError DigestCheck}

theorem Settled.of_eq (h : d.Settled reference)
    (himage : t.images.get? reference = d.images.get? reference)
    (hregistry : t.registry = d.registry) : t.Settled reference := by
  rw [Settled, himage, hregistry]
  exact h

theorem Settled.of_pull (h : d.registry.get? reference = some digest) :
    ({ d with images := d.images.insert reference (pulledImage reference digest) } :
      MemoryDaemon).Settled reference :=
  ⟨pulledImage reference digest, digest, Map.get?_insert_self _ _ _, h,
    isCurrent_pulledImage reference digest⟩

/-- A pull of a reference that is not settled changes the image of no settled one. -/
theorem keepsSettled_of_pull {image : ImageDetails} (h : ¬ d.Settled reference) :
    d.KeepsSettled { d with images := d.images.insert reference image } := by
  intro other hother
  have hne : reference ≠ other := fun heq => h (heq ▸ hother)
  change (d.images.insert reference image).get? other = _
  rw [Map.get?_insert, if_neg hne]

end MemoryDaemon

namespace DigestCheck

open Program MemoryDaemon

variable {d t : MemoryDaemon} {reference : String} {check : DigestCheck}

/-- What was compared are the images that host and registry have. -/
def Compares (d : MemoryDaemon) (reference : String) (check : DigestCheck) : Prop :=
  ∃ image digest, d.images.get? reference = some image ∧
    d.registry.get? reference = some digest ∧ check = ofImage image digest

theorem Compares.settled_iff (h : Compares d reference check) :
    d.Settled reference ↔ check.updateAvailable = false := by
  obtain ⟨image, digest, himage, hdigest, rfl⟩ := h
  constructor
  · rintro ⟨image', digest', himage', hdigest', hcurrent⟩
    cases himage.symm.trans himage'
    cases hdigest.symm.trans hdigest'
    simp [ofImage, hcurrent]
  · intro hcurrent
    exact ⟨image, digest, himage, hdigest, by simpa [ofImage] using hcurrent⟩

theorem still_ofReference (reference : String) : Still conduct (ofReference reference) := by
  unfold ofReference
  split
  · exact still_pure _
  · apply (still_image reference).bind
    intro image
    cases image with
    | error e => exact still_pure _
    | ok details =>
        apply (still_registryDigest reference).bind
        intro digest
        cases digest with
        | error e => exact still_pure _
        | ok digest => exact still_pure _

theorem compares_of_ofReference (hrun : MemoryRun (ofReference reference) d (.ok check) t) :
    Compares d reference check := by
  unfold ofReference at hrun
  split at hrun
  · cases (runsIn_pure_iff.1 hrun).1
  · obtain ⟨image, d₁, hlocal, h⟩ := runsIn_bind_iff.1 hrun
    replace hlocal := memoryRun_daemon_iff.1 hlocal
    cases image with
    | error e => cases (runsIn_pure_iff.1 h).1
    | ok details =>
        obtain ⟨hd₁, himage⟩ := hlocal.of_image
        obtain ⟨digest, d₂, hremote, h⟩ := runsIn_bind_iff.1 h
        rw [hd₁] at hremote
        replace hremote := memoryRun_daemon_iff.1 hremote
        cases digest with
        | error e => cases (runsIn_pure_iff.1 h).1
        | ok digest =>
            have hcheck := Except.ok.inj (runsIn_pure_iff.1 h).1
            exact ⟨details, digest, himage, hremote.of_registryDigest.2, hcheck⟩

theorem not_isImageId_of_ofReference
    (hrun : MemoryRun (ofReference reference) d (.ok check) t) :
    Digest.isImageId reference = false := by
  unfold ofReference at hrun
  split at hrun
  · cases (runsIn_pure_iff.1 hrun).1
  · next himage => exact Bool.eq_false_iff.2 himage

end DigestCheck

namespace ContainerRecord

open Program MemoryDaemon

theorem still_resolveReference (r : ContainerRecord) : Still conduct r.resolveReference := by
  unfold resolveReference
  split
  · apply (still_inspect r.id).bind
    intro details
    cases details with
    | error e => exact still_pure _
    | ok details => exact still_pure _
  · exact still_pure _

/-- The reference of a listed container: the one it was created from when it is listed by an image
id. -/
def referenceOf (listed : String) (c : MemoryContainer) : String :=
  if Digest.isImageId listed then c.image else listed

theorem of_resolveReference {d t : MemoryDaemon} {c : MemoryContainer} {r resolved : ContainerRecord}
    (hfind : d.find? r.id = some c) (h : MemoryRun r.resolveReference d (.ok resolved) t) :
    resolved.id = r.id ∧ resolved.name = r.name ∧ resolved.image = referenceOf r.image c := by
  unfold resolveReference at h
  unfold referenceOf
  split at h
  · next himage =>
      obtain ⟨details, d₁, hinspect, h⟩ := runsIn_bind_iff.1 h
      replace hinspect := memoryRun_daemon_iff.1 hinspect
      cases details with
      | error e => cases (runsIn_pure_iff.1 h).1
      | ok details =>
          obtain ⟨rfl, found, now, hfound, rfl⟩ := hinspect.of_inspect
          cases hfind.symm.trans hfound
          cases (runsIn_pure_iff.1 h).1
          exact ⟨rfl, rfl, by rw [if_pos himage]; rfl⟩
  · next himage =>
      cases (runsIn_pure_iff.1 h).1
      exact ⟨rfl, rfl, by rw [if_neg himage]⟩

end ContainerRecord

end ContainerFleet
