import ContainerFleet.Proofs.Replacement.Image
import ContainerFleet.Proofs.Update.Calm
import ContainerFleet.Proofs.Update.Handling
import ContainerFleet.Proofs.Update.Run

/-!
Which images an update run pulls, and which containers it replaces. A reference that was pulled is
settled from then on, and a settled one is not pulled. Main statement: `run_pulls_once`.
-/

namespace ContainerFleet

/-- The reference that an exchange pulled, if it is a pull that succeeded. -/
def pulled? : UpdateExchange → Option String
  | ⟨.pull reference, some (.ok _)⟩ => some reference
  | ⟨.daemon (.pull reference), .ok _⟩ => some reference
  | _ => none

/-- The references that were pulled, in order. -/
def pulls (trace : List UpdateExchange) : List String :=
  trace.filterMap pulled?

/-- An exchange in which the daemon does what it is asked for, and the run goes on. -/
def succeeds : UpdateExchange → Bool
  | ⟨.daemon _, .error _⟩ => false
  | ⟨.pull _, none⟩ => false
  | ⟨.pull _, some (.error _)⟩ => false
  | ⟨.isCancelled, cancelled⟩ => !cancelled
  | _ => true

/-- A request that names no image by its id where it pulls it or creates a container from it. -/
def UpdateRequest.ByReference : UpdateRequest → Prop
  | .pull reference => Digest.isImageId reference = false
  | .daemon (.pull reference) => Digest.isImageId reference = false
  | .daemon (.create _ spec) =>
      ∃ reference, spec.image? = some reference ∧ Digest.isImageId reference = false
  | _ => True

section Exchanges

variable {t u : List UpdateExchange} {image reference : String} {q : UpdateRequest}

theorem pulls_append (t u : List UpdateExchange) : pulls (t ++ u) = pulls t ++ pulls u :=
  List.filterMap_append

/-- A reference was pulled because that was asked for. -/
theorem exists_of_mem_pulls (h : reference ∈ pulls t) :
    ∃ x ∈ t, x.request = UpdateRequest.pull reference ∨
      x.request = UpdateRequest.daemon (.pull reference) := by
  obtain ⟨⟨q, r⟩, hx, hpulled⟩ := List.mem_filterMap.1 h
  refine ⟨⟨q, r⟩, hx, ?_⟩
  unfold pulled? at hpulled
  split at hpulled
  · next heq =>
      cases hpulled
      cases heq
      exact .inl rfl
  · next heq =>
      cases hpulled
      cases heq
      exact .inr rfl
  · cases hpulled

theorem pulls_eq_nil (h : ∀ x ∈ t, UpdateRequest.KeepsTo image x.request) : pulls t = [] := by
  apply List.eq_nil_iff_forall_not_mem.2
  intro reference hmem
  obtain ⟨x, hx, hrequest | hrequest⟩ := exists_of_mem_pulls hmem
  · exact (hrequest ▸ h x hx : UpdateRequest.KeepsTo image (.pull reference))
  · exact (hrequest ▸ h x hx : UpdateRequest.KeepsTo image (.daemon (.pull reference)))

theorem UpdateRequest.KeepsTo.byReference (h : q.KeepsTo reference)
    (href : Digest.isImageId reference = false) : q.ByReference := by
  cases q with
  | daemon call =>
      cases call with
      | create name spec => exact ⟨reference, h, href⟩
      | pull image => exact h.elim
      | _ => exact trivial
  | pull image => exact h.elim
  | _ => exact trivial

end Exchanges

namespace MemoryDaemon

open Program

variable {d u t : MemoryDaemon} {v w : List UpdateExchange} {trace : List UpdateExchange}

/-- What can become of the images of a daemon: each is the one from before, or was pulled. -/
structure PulledFrom (d t : MemoryDaemon) : Prop where
  registry_eq : t.registry = d.registry
  images : ∀ reference, t.images.get? reference = d.images.get? reference ∨
    ∃ digest, d.registry.get? reference = some digest ∧
      t.images.get? reference = some (pulledImage reference digest)

namespace PulledFrom

theorem of_eq (himages : t.images = d.images) (hregistry : t.registry = d.registry) :
    d.PulledFrom t :=
  ⟨hregistry, fun _ => .inl (by rw [himages])⟩

theorem refl (d : MemoryDaemon) : d.PulledFrom d :=
  of_eq rfl rfl

theorem trans (h : d.PulledFrom u) (h' : u.PulledFrom t) : d.PulledFrom t where
  registry_eq := h'.registry_eq.trans h.registry_eq
  images reference := by
    rcases h'.images reference with hsame | hpulled
    · rw [hsame]
      exact h.images reference
    · rw [h.registry_eq] at hpulled
      exact .inr hpulled

theorem of_pull {reference digest : String} (h : d.registry.get? reference = some digest) :
    d.PulledFrom { d with images := d.images.insert reference (pulledImage reference digest) } where
  registry_eq := rfl
  images other := by
    change (d.images.insert reference _).get? other = _ ∨ _
    rw [Map.get?_insert]
    split
    · next heq => exact .inr ⟨digest, heq ▸ h, by rw [heq]⟩
    · exact .inl rfl

theorem of_perform {call : DaemonCall} {now : Moment} {r : call.Reply}
    (h : d.perform now call = (r, t)) : d.PulledFrom t := by
  cases call with
  | pull reference =>
      simp only [perform] at h
      split at h
      · next found =>
          cases h
          exact .of_pull found
      · cases h
        exact .refl d
  | info | list | imageIds | prune =>
      cases h
      exact .of_eq rfl rfl
  | _ =>
      simp only [perform] at h
      grind [PulledFrom.of_eq, modify]

theorem of_answers {call : DaemonCall} {r : call.Reply} (h : d.Answers call r t) :
    d.PulledFrom t := by
  rcases h with ⟨now, h⟩ | ⟨-, rfl⟩
  · exact .of_perform h
  · exact .refl t

theorem of_conduct {q : UpdateRequest} {r : q.Reply} (h : conduct q d r t) : d.PulledFrom t := by
  have hstill : t = d → d.PulledFrom t := by
    rintro rfl
    exact .refl t
  cases q with
  | daemon call => exact .of_answers h
  | pull image =>
      cases r with
      | none => exact hstill h
      | some reply => exact of_answers (show d.Answers (.pull image) reply t from h)
  | _ => exact hstill h

theorem of_leads (h : Leads conduct d trace t) : d.PulledFrom t := by
  induction h with
  | nil d => exact .refl d
  | cons hx _ ih => exact (PulledFrom.of_conduct hx).trans ih

/-- What is pulled for a reference is the image of the registry, so a settled one stays so. -/
theorem settled {reference : String} (h : d.PulledFrom t) (hsettled : d.Settled reference) :
    t.Settled reference := by
  rcases h.images reference with hsame | ⟨digest, hdigest, hpulled⟩
  · exact hsettled.of_eq hsame h.registry_eq
  · refine ⟨_, digest, hpulled, ?_, isCurrent_pulledImage reference digest⟩
    rw [h.registry_eq, hdigest]

end PulledFrom

theorem settled_of_pulled? {x : UpdateExchange} {reference : String}
    (h : conduct x.request d x.reply t) (hx : pulled? x = some reference) :
    t.Settled reference := by
  have hpull : d.Answers (.pull reference) (.ok ()) t := by
    obtain ⟨q, r⟩ := x
    unfold pulled? at hx
    split at hx
    · next heq =>
        cases hx
        cases heq
        exact h
    · next heq =>
        cases hx
        cases heq
        exact h
    · cases hx
  obtain ⟨digest, hdigest, rfl⟩ := hpull.of_pull
  exact .of_pull hdigest

/-- Whatever was pulled is settled in the end. -/
theorem settled_of_mem_pulls (h : Leads conduct d trace t) :
    ∀ reference ∈ pulls trace, t.Settled reference := by
  induction h with
  | nil d => exact List.forall_mem_nil _
  | @cons x trace d u t hx h ih =>
      intro reference hmem
      obtain ⟨y, hy, hpulled⟩ := List.mem_filterMap.1 hmem
      rcases List.mem_cons.1 hy with rfl | hy
      · exact (PulledFrom.of_leads h).settled (settled_of_pulled? hx hpulled)
      · exact ih reference (List.mem_filterMap.2 ⟨y, hy, hpulled⟩)

/-- Exchanges from a daemon on in which no reference is pulled twice, or that was settled before. -/
structure Thrifty (d : MemoryDaemon) (trace : List UpdateExchange) : Prop where
  nodup : (pulls trace).Nodup
  not_settled : ∀ reference ∈ pulls trace, ¬ d.Settled reference

theorem Thrifty.of_pulls_eq_nil (d : MemoryDaemon) (h : pulls trace = []) : d.Thrifty trace where
  nodup := h ▸ List.nodup_nil
  not_settled := h ▸ List.forall_mem_nil _

/-- What is pulled later was not pulled before, because it is settled then. -/
theorem Thrifty.append (hlead : Leads conduct d v u) (hv : d.Thrifty v) (hw : u.Thrifty w) :
    d.Thrifty (v ++ w) where
  nodup := by
    rw [pulls_append]
    refine List.nodup_append.2 ⟨hv.nodup, hw.nodup, ?_⟩
    rintro reference hpulled again hagain rfl
    exact hw.not_settled reference hagain (settled_of_mem_pulls hlead reference hpulled)
  not_settled := by
    rw [pulls_append]
    refine List.forall_mem_append.2 ⟨hv.not_settled, fun reference hmem hsettled => ?_⟩
    exact hw.not_settled reference hmem ((PulledFrom.of_leads hlead).settled hsettled)

/-- A container whose image is known and not the newest: the registry has another image for its
reference than the host, or the host has another one than it runs. It does not run the image that a
pull brings. -/
structure Outdated (d : MemoryDaemon) (c : ContainerRecord) (image : ImageDetails)
    (digest : String) : Prop where
  not_isImageId : Digest.isImageId c.image = false
  image_eq : d.images.get? c.image = some image
  digest_eq : d.registry.get? c.image = some digest
  known : c.imageId ≠ ""
  stale : DigestCheck.isCurrent image digest = false ∨ c.imageId ≠ image.id
  not_pulled : c.imageId ≠ (pulledImage c.image digest).id

/-- An outdated container is found so also when others were updated: after a pull its own image
tells it from the one that the host has then. -/
theorem Outdated.found {c : ContainerRecord} {image : ImageDetails} {digest : String}
    {check : DigestCheck} (h : d.Outdated c image digest) (hlater : d.PulledFrom u)
    (hcompares : DigestCheck.Compares u c.image check) :
    (check.updateAvailable || check.isSuperseded c.imageId) = true := by
  obtain ⟨now, digest', himage, hdigest, rfl⟩ := hcompares
  have hsuperseded : c.imageId ≠ now.id →
      (DigestCheck.ofImage now digest').isSuperseded c.imageId = true := by
    intro hne
    simp [DigestCheck.isSuperseded, DigestCheck.ofImage, h.known, hne]
  obtain rfl : digest = digest' := by
    rw [hlater.registry_eq, h.digest_eq] at hdigest
    exact Option.some.inj hdigest
  rw [Bool.or_eq_true]
  rcases hlater.images c.image with hsame | ⟨pulled, hpulled, himage'⟩
  · obtain rfl : image = now := by
      rw [hsame, h.image_eq] at himage
      exact Option.some.inj himage
    rcases h.stale with hold | hne
    · exact .inl (by simp [DigestCheck.ofImage, hold])
    · exact .inr (hsuperseded hne)
  · obtain rfl : digest = pulled := Option.some.inj (h.digest_eq.symm.trans hpulled)
    obtain rfl : pulledImage c.image digest = now := Option.some.inj (himage'.symm.trans himage)
    exact .inr (hsuperseded h.not_pulled)

end MemoryDaemon

namespace UpdateRun

open Program MemoryDaemon DigestCheck

variable {updater : Updater} {host : RunHost} {policy : UpdatePolicy} {d u t : MemoryDaemon}
  {c listed : ContainerRecord} {trace : List UpdateExchange} {outcome : Outcome} {done : Step}

section ByReference

theorem not_isImageId_of_looksUp {check : DigestCheck} {reference : String}
    (h : LooksUp reference trace (.ok check)) : Digest.isImageId reference = false := by
  cases h with
  | compared h image digest => exact h

theorem byReference_of_looks
    (h : ∀ x ∈ trace, UpdateRequest.changesContainers x.request = false) :
    ∀ x ∈ trace, UpdateRequest.ByReference x.request :=
  fun x hx => (UpdateRequest.keepsTo_of_looks "" (h x hx)).byReference rfl

theorem byReference_of_replace {stopTimeout : Duration} {key image : String}
    {result : Except ReplaceError Replaced} (himage : Digest.isImageId image = false)
    (h : Runs (Replacement.replace stopTimeout key image) trace result) :
    ∀ x ∈ trace, UpdateRequest.ByReference x.request :=
  fun x hx => (Replacement.keepsTo_of_runs h x hx).byReference himage

/-- What is done to a container goes by its reference, or else its image is not compared. -/
theorem Handles.byReference (h : Handles updater host policy c trace outcome) :
    ∀ x ∈ trace, UpdateRequest.ByReference x.request := by
  have hlooked : ∀ {v : List UpdateExchange} {reply : Except DigestError DigestCheck},
      LooksUp c.image v reply → ∀ x ∈ v, UpdateRequest.ByReference x.request :=
    fun hlook => byReference_of_looks (lookups_of_looksUp hlook).looks
  cases h with
  | notCompared hlook => exact hlooked hlook
  | upToDate hlook _ => exact hlooked hlook
  | recorded hlook _ _ now saved =>
      exact List.forall_mem_append.2 ⟨hlooked hlook,
        byReference_of_looks (looks_recording _ _ _ now saved)⟩
  | abandoned hlook _ _ =>
      exact List.forall_mem_append.2 ⟨hlooked hlook,
        List.forall_mem_singleton.2 (not_isImageId_of_looksUp hlook)⟩
  | notPulled hlook _ _ e =>
      exact List.forall_mem_append.2 ⟨hlooked hlook,
        List.forall_mem_singleton.2 (not_isImageId_of_looksUp hlook)⟩
  | pulled hlook _ _ hreplace =>
      have himage := not_isImageId_of_looksUp hlook
      exact List.forall_mem_append.2 ⟨hlooked hlook,
        List.forall_mem_cons.2 ⟨himage, byReference_of_replace himage hreplace⟩⟩
  | superseded hlook _ _ _ hreplace =>
      exact List.forall_mem_append.2 ⟨hlooked hlook,
        byReference_of_replace (not_isImageId_of_looksUp hlook) hreplace⟩

theorem Visited.byReference (h : Visited updater host policy listed trace done) :
    ∀ x ∈ trace, UpdateRequest.ByReference x.request := by
  cases h with
  | unresolved h => exact byReference_of_looks h.lookups.looks
  | skipped h _ => exact byReference_of_looks h.lookups.looks
  | deferred h _ => exact byReference_of_looks h.lookups.looks
  | processed h _ hprocess =>
      exact List.forall_mem_append.2 ⟨byReference_of_looks h.lookups.looks,
        (handles_of_runs hprocess).byReference⟩

/-- A run pulls references, and creates containers from references. -/
theorem byReference_of_runs_run {containers : List ContainerRecord} {report : UpdateReport}
    (h : Runs (run updater host policy containers) trace report) :
    ∀ x ∈ trace, UpdateRequest.ByReference x.request := by
  obtain ⟨looped, rest, walked, cancelled, rfl, hwalk, hfinish⟩ := parts_of_runs_run h
  obtain ⟨visits, hvisits⟩ := visits_of_runs_walk hwalk
  have hlooped := hvisits.forall_mem (P := fun x => UpdateRequest.ByReference x.request)
    (fun _ => trivial) fun v hv => (visited_of_runs (hvisits.runs v hv)).byReference
  exact List.forall_mem_append.2 ⟨hlooped, List.forall_mem_cons.2 ⟨trivial,
    byReference_of_looks (onlyLooks_finish updater host policy _ _ rest report hfinish)⟩⟩

end ByReference

section Once

/-- What a daemon in memory answers about the images of a reference. -/
theorem compares_of_looksUp {check : DigestCheck} {reference : String}
    (h : LooksUp reference trace (.ok check)) (hlead : Leads conduct d trace u) :
    u = d ∧ Compares d reference check := by
  cases h with
  | compared h image digest =>
      cases hlead with
      | cons hlocal hlead =>
          cases hlead with
          | cons hremote hlead =>
              cases hlead
              obtain ⟨rfl, himage⟩ := Answers.of_image hlocal
              obtain ⟨rfl, hdigest⟩ := Answers.of_registryDigest hremote
              exact ⟨rfl, image, digest, himage, hdigest, rfl⟩

theorem thrifty_of_looks (d : MemoryDaemon)
    (h : ∀ x ∈ trace, UpdateRequest.changesContainers x.request = false) : d.Thrifty trace :=
  .of_pulls_eq_nil d (pulls_eq_nil fun x hx => UpdateRequest.keepsTo_of_looks "" (h x hx))

theorem pulls_looksUp {reference : String} {reply : Except DigestError DigestCheck}
    (h : LooksUp reference trace reply) : pulls trace = [] :=
  pulls_eq_nil fun x hx => UpdateRequest.keepsTo_of_looks "" ((lookups_of_looksUp h).looks x hx)

/-- An image is pulled for a container when it is not the one of the registry, and then once. -/
theorem Handles.thrifty (h : Handles updater host policy c trace outcome)
    (hlead : Leads conduct d trace u) : d.Thrifty trace := by
  cases h with
  | notCompared hlook => exact .of_pulls_eq_nil d (pulls_looksUp hlook)
  | upToDate hlook _ => exact .of_pulls_eq_nil d (pulls_looksUp hlook)
  | recorded hlook _ _ now saved =>
      exact thrifty_of_looks d (List.forall_mem_append.2 ⟨(lookups_of_looksUp hlook).looks,
        looks_recording _ _ _ now saved⟩)
  | abandoned hlook _ _ =>
      refine .of_pulls_eq_nil d ?_
      rw [pulls_append, pulls_looksUp hlook]
      rfl
  | notPulled hlook _ _ e =>
      refine .of_pulls_eq_nil d ?_
      rw [pulls_append, pulls_looksUp hlook]
      rfl
  | @pulled v w check result hlook havailable _ hreplace =>
      obtain ⟨d₁, hlooked, -⟩ := leads_append_iff.1 hlead
      have hcompares := (compares_of_looksUp hlook hlooked).2
      have honce : pulls (v ++ pulling c.image (some (.ok ())) :: w) = [c.image] := by
        rw [pulls_append, pulls_looksUp hlook]
        exact congrArg (c.image :: ·) (pulls_eq_nil (Replacement.keepsTo_of_runs hreplace))
      constructor
      · rw [honce]
        exact List.pairwise_singleton _ _
      · rw [honce, List.forall_mem_singleton, hcompares.settled_iff, havailable]
        exact Bool.noConfusion
  | superseded hlook _ _ _ hreplace =>
      refine .of_pulls_eq_nil d ?_
      rw [pulls_append, pulls_looksUp hlook, pulls_eq_nil (Replacement.keepsTo_of_runs hreplace)]
      rfl

theorem Visited.thrifty (h : Visited updater host policy listed trace done)
    (hlead : Leads conduct d trace u) : d.Thrifty trace := by
  cases h with
  | unresolved h => exact thrifty_of_looks d h.lookups.looks
  | skipped h _ => exact thrifty_of_looks d h.lookups.looks
  | deferred h _ => exact thrifty_of_looks d h.lookups.looks
  | processed h _ hprocess =>
      obtain ⟨d₁, hresolved, hlead⟩ := leads_append_iff.1 hlead
      exact .append hresolved (thrifty_of_looks d h.lookups.looks)
        ((handles_of_runs hprocess).thrifty hlead)

/-- By induction on the visits: what an earlier one pulled is settled in the later ones. -/
theorem thrifty_of_visits {visits : List Visit}
    (hruns : ∀ v ∈ visits, Runs (step updater host policy v.listed) v.trace v.done)
    (hlead : Leads conduct d (visits.flatMap Visit.exchanges) u) :
    d.Thrifty (visits.flatMap Visit.exchanges) := by
  induction visits generalizing d with
  | nil => exact .of_pulls_eq_nil d rfl
  | cons v visits ih =>
      rw [List.forall_mem_cons] at hruns
      rw [List.flatMap_cons] at hlead ⊢
      obtain ⟨d₁, hvisit, hrest⟩ := leads_append_iff.1 hlead
      refine .append hvisit ?_ (ih hruns.2 hrest)
      cases hvisit with
      | cons hasked hvisit =>
          have hasked' : Leads conduct d [asked false] _ := .cons hasked (.nil _)
          exact .append hasked' (.of_pulls_eq_nil d rfl)
            ((visited_of_runs hruns.1).thrifty hvisit)

end Once

section Replacing

/-- Exchanges that end with the replacement of a container by one of its reference, of which the
outcome is told. -/
def Replaces (updater : Updater) (c : ContainerRecord) (trace : List UpdateExchange)
    (outcome : Outcome) : Prop :=
  ∃ before replacing result, trace = before ++ replacing ∧
    Runs (Replacement.replace updater.stopTimeout c.id c.image) replacing result ∧
    outcome = Replacement.outcomeOf result

theorem Replaces.prepend {v : List UpdateExchange} (h : Replaces updater c trace outcome) :
    Replaces updater c (v ++ trace) outcome := by
  obtain ⟨before, replacing, result, rfl, hreplace, rfl⟩ := h
  exact ⟨v ++ before, replacing, result, (List.append_assoc _ _ _).symm, hreplace, rfl⟩

/-- The images of a reference are compared unless a call fails. -/
theorem exists_failed_of_looksUp {reference : String} {e : DigestError}
    (h : LooksUp reference trace (.error e)) (himage : Digest.isImageId reference = false) :
    ∃ x ∈ trace, succeeds x = false := by
  cases h with
  | notAReference h => cases himage.symm.trans h
  | noImage _ e => exact ⟨_, List.mem_cons_self, rfl⟩
  | noDigest _ image e => exact ⟨_, List.mem_cons_of_mem _ List.mem_cons_self, rfl⟩

/-- Nothing keeps an outdated container from being replaced but a call that fails. -/
theorem Handles.replaces {image : ImageDetails} {digest : String}
    (h : Handles updater host policy c trace outcome) (hlead : Leads conduct u trace t)
    (hlater : d.PulledFrom u) (hchange : policy.notifyOnly = false)
    (hok : ∀ x ∈ trace, succeeds x = true) (houtdated : d.Outdated c image digest) :
    Replaces updater c trace outcome := by
  have hnot : ∀ x ∈ trace, succeeds x ≠ false := fun x hx hfails =>
    Bool.noConfusion (hfails.symm.trans (hok x hx))
  cases h with
  | notCompared hlook =>
      obtain ⟨x, hx, hfails⟩ := exists_failed_of_looksUp hlook houtdated.not_isImageId
      exact absurd hfails (hnot x hx)
  | upToDate hlook hcurrent =>
      have hfound := houtdated.found hlater (compares_of_looksUp hlook hlead).2
      cases hcurrent.symm.trans hfound
  | recorded _ _ hnotify now saved => cases hchange.symm.trans hnotify
  | abandoned _ _ _ => exact absurd rfl (hnot (pulling c.image none) (by simp))
  | notPulled _ _ _ e => exact absurd rfl (hnot (pulling c.image (some (.error e))) (by simp))
  | @pulled v w check result _ _ _ hreplace =>
      exact ⟨v ++ [pulling c.image (some (.ok ()))], w, result, by simp, hreplace, rfl⟩
  | superseded _ _ _ _ hreplace => exact ⟨_, _, _, rfl, hreplace, rfl⟩

/-- The visit to a listed container in which its reference is found out, and if it is considered and
was outdated on some daemon, it is replaced. -/
def ReplacesOutdated (updater : Updater) (host : RunHost) (policy : UpdatePolicy)
    (d : MemoryDaemon) (listed : ContainerRecord) (trace : List UpdateExchange) (outcome : Outcome) :
    Prop :=
  ∃ resolving c, resolving <+: trace ∧ Resolves listed resolving (.ok c) ∧
    ∀ image digest, c.classify policy host.isLocal = .eligible → d.Outdated c image digest →
      Replaces updater c trace outcome

theorem Visited.replacesOutdated (h : Visited updater host policy listed trace done)
    (hlead : Leads conduct u trace t) (hlater : d.PulledFrom u)
    (hchange : policy.notifyOnly = false) (hok : ∀ x ∈ trace, succeeds x = true) :
    ReplacesOutdated updater host policy d listed trace done.report.outcome := by
  cases h with
  | unresolved h =>
      cases h with
      | failed _ e => cases hok _ List.mem_cons_self
  | @skipped v c reason h hclass =>
      exact ⟨_, c, List.prefix_rfl, h, fun _ _ heligible => by cases hclass.symm.trans heligible⟩
  | @deferred v c h hclass =>
      exact ⟨_, c, List.prefix_rfl, h, fun _ _ heligible => by cases hclass.symm.trans heligible⟩
  | @processed v w c outcome h _ hprocess =>
      refine ⟨v, c, List.prefix_append v w, h, fun image digest _ houtdated => ?_⟩
      obtain ⟨d₁, hresolved, hlead⟩ := leads_append_iff.1 hlead
      exact ((handles_of_runs hprocess).replaces hlead (hlater.trans (.of_leads hresolved)) hchange
        (fun x hx => hok x (List.mem_append_right v hx)) houtdated).prepend

/-- When a visit begins, images are as they were at first or were pulled. -/
theorem exists_leads_of_mem {visits : List Visit} {v : Visit} (hv : v ∈ visits)
    (hlead : Leads conduct d (visits.flatMap Visit.exchanges) t) :
    ∃ u w, d.PulledFrom u ∧ Leads conduct u v.trace w := by
  obtain ⟨before, after, rfl⟩ := List.append_of_mem hv
  rw [List.flatMap_append, List.flatMap_cons] at hlead
  obtain ⟨d₁, hbefore, hlead⟩ := leads_append_iff.1 hlead
  obtain ⟨d₂, hvisit, -⟩ := leads_append_iff.1 hlead
  cases hvisit with
  | cons hasked hvisit =>
      exact ⟨_, d₂, (PulledFrom.of_leads hbefore).trans (.of_conduct hasked), hvisit⟩

end Replacing

/-- What an update run against a daemon in memory pulls and replaces, whichever calls fail. No image
is pulled twice, nothing is pulled or created by an image id, and if no call fails and the run is not
cancelled, all containers are visited and those that were outdated when it began are replaced, each
by one of its reference. -/
theorem run_pulls_once {containers : List ContainerRecord} {report : UpdateReport}
    (hrun : Converses conduct (run updater host policy containers) d trace report t) :
    (pulls trace).Nodup ∧ (∀ x ∈ trace, UpdateRequest.ByReference x.request) ∧
      (policy.notifyOnly = false → (∀ x ∈ trace, succeeds x = true) →
        ∃ visits looped rest walked, trace = looped ++ rest ∧
          Visits updater host policy containers visits looped walked ∧
          visits.map Visit.listed = containers ∧
          ∀ v ∈ visits,
            ReplacesOutdated updater host policy d v.listed v.trace v.report.outcome) := by
  have hbyReference := byReference_of_runs_run hrun.runs
  obtain ⟨looped, rest, walked, cancelled, rfl, hwalk, hfinish⟩ := parts_of_runs_run hrun.runs
  obtain ⟨visits, hvisits⟩ := visits_of_runs_walk hwalk
  have hlooped := hvisits.trace_eq
  have hlooks : ∀ x ∈ (if walked.cancelled then [asked true] else []) ++ asked cancelled :: rest,
      UpdateRequest.changesContainers x.request = false := by
    refine List.forall_mem_append.2 ⟨?_, List.forall_mem_cons.2 ⟨rfl,
      onlyLooks_finish updater host policy _ _ rest report hfinish⟩⟩
    split <;> simp [asked, UpdateRequest.changesContainers]
  have hlead := hrun.leads
  rw [hlooped, List.append_assoc] at hlead
  obtain ⟨d₁, hvisited, -⟩ := leads_append_iff.1 hlead
  refine ⟨?_, hbyReference, fun hchange hok => ?_⟩
  · rw [hlooped, List.append_assoc]
    exact (Thrifty.append hvisited (thrifty_of_visits hvisits.runs hvisited)
      (thrifty_of_looks d₁ hlooks)).nodup
  · have hend : walked.cancelled = false := by
      rw [← Bool.not_eq_true]
      intro hcancelled
      have hstop : asked true ∈ looped := by simp [hlooped, hcancelled]
      cases hok (asked true) (List.mem_append_left _ hstop)
    refine ⟨visits, looped, _, walked, rfl, hvisits, hvisits.listed_eq hend, fun v hv => ?_⟩
    obtain ⟨u, w, hlater, hvisit⟩ := exists_leads_of_mem hv hvisited
    exact (visited_of_runs (hvisits.runs v hv)).replacesOutdated hvisit hlater hchange
      fun x hx => hok x (List.mem_append_left _ (hvisits.trace_subset hv hx))

/-- Siblings of which the second runs an older image than the host has, and is listed by that. -/
def mixedSiblings : MemoryDaemon :=
  { siblings with
    containers :=
      [web [], { (web []).stopped with id := "c2", name := "job", imageId := "sha256:older" }] }

/-- The reference of a container that was inspected, if an exchange is that. -/
def inspected? : UpdateExchange → Option String
  | ⟨.daemon (.inspect _), .ok details⟩ => some details.image
  | _ => none

/-- Whatever one of them is found out to be, it is outdated. -/
theorem outdated_mixedSiblings {listed c : ContainerRecord} {resolving : List UpdateExchange}
    (hlisted : listed ∈ mixedSiblings.list true) (h : Resolves listed resolving (.ok c))
    (hinspected : ∀ x ∈ resolving, inspected? x = none ∨ inspected? x = some "app:1") :
    c.image = "app:1" ∧
      mixedSiblings.Outdated c ⟨"sha256:old", ["app@sha256:o"]⟩ "sha256:n" := by
  have hlists : ∀ c ∈ mixedSiblings.list true,
      (c.image = "app:1" ∨ Digest.isImageId c.image = true) ∧
        (c.imageId = "sha256:old" ∨ c.imageId = "sha256:older") := by
    decide +kernel
  have hfound : c.image = "app:1" ∧ (c.imageId = "sha256:old" ∨ c.imageId = "sha256:older") := by
    obtain ⟨himage, himageId⟩ := hlists listed hlisted
    cases h with
    | listed h => exact ⟨himage.resolve_right (by simp [h]), himageId⟩
    | inspected h details =>
        have hreference := (hinspected _ List.mem_cons_self).resolve_left (nomatch ·)
        refine ⟨Option.some.inj hreference, ?_⟩
        rcases himageId with himageId | himageId <;>
          simp [ContainerRecord.withReference, himageId]
  obtain ⟨himage, himageId⟩ := hfound
  have hnot : c.imageId ≠ "" ∧ c.imageId ≠ (pulledImage "app:1" "sha256:n").id := by
    rcases himageId with himageId | himageId <;> rw [himageId] <;> decide +kernel
  refine ⟨himage, ?_⟩
  constructor
  · rw [himage]
    decide
  · rw [himage]
    rfl
  · rw [himage]
    rfl
  · exact hnot.1
  · exact .inl (by decide +kernel)
  · rw [himage]
    exact hnot.2

/-- Both are replaced by containers of their reference, for which one pull is enough. -/
theorem run_pulls_once_mixedSiblings :
    let listed := mixedSiblings.list true
    let trace := ((run ⟨"", none, .zero⟩ ⟨"here", .local⟩ .plain listed).served mixedSiblings).1
    listed.map ContainerRecord.image = ["app:1", "sha256:older"] ∧
      (∀ x ∈ trace, succeeds x = true) ∧ pulls trace = ["app:1"] ∧ (pulls trace).Nodup ∧
      (∀ x ∈ trace, UpdateRequest.ByReference x.request) ∧
      ∃ visits : List Visit, visits.map Visit.listed = listed ∧ ∀ v ∈ visits,
        ∃ c, c.image = "app:1" ∧ Replaces ⟨"", none, .zero⟩ c v.trace v.report.outcome := by
  have hrun := converses_converse (I := updateInterface) serve
    (fun q d => conduct_of_service q d _ _ (service_serve q d))
    (run ⟨"", none, .zero⟩ ⟨"here", .local⟩ .plain (mixedSiblings.list true)) mixedSiblings
  have hok : ∀ x ∈ ((run ⟨"", none, .zero⟩ ⟨"here", .local⟩ .plain
      (mixedSiblings.list true)).served mixedSiblings).1, succeeds x = true := by
    decide +kernel
  have hinspected : ∀ x ∈ ((run ⟨"", none, .zero⟩ ⟨"here", .local⟩ .plain
      (mixedSiblings.list true)).served mixedSiblings).1,
      inspected? x = none ∨ inspected? x = some "app:1" := by
    decide +kernel
  obtain ⟨hnodup, hbyReference, hreplaces⟩ := run_pulls_once hrun
  obtain ⟨visits, looped, rest, walked, htrace, hvisits, hlisted, hreplaces⟩ := hreplaces rfl hok
  refine ⟨by decide +kernel, hok, by decide +kernel, hnodup, hbyReference, visits, hlisted, ?_⟩
  intro v hv
  obtain ⟨resolving, c, hfront, hresolves, hreplaced⟩ := hreplaces v hv
  have hmem : v.listed ∈ mixedSiblings.list true := hlisted ▸ List.mem_map_of_mem hv
  have hresolving : ∀ x ∈ resolving, inspected? x = none ∨ inspected? x = some "app:1" := by
    intro x hx
    exact hinspected x
      (htrace ▸ List.mem_append_left _ (hvisits.trace_subset hv (hfront.subset hx)))
  obtain ⟨himage, houtdated⟩ := outdated_mixedSiblings hmem hresolves hresolving
  have hlabels : ∀ c ∈ mixedSiblings.list true, c.labels = [] := by decide +kernel
  have heligible : c.classify .plain true = .eligible := by
    rw [ContainerRecord.classify, ContainerRecord.updateLabels, hresolves.labels_eq,
      hlabels v.listed hmem]
    decide +kernel
  exact ⟨c, himage, hreplaced _ _ heligible houtdated⟩

end UpdateRun

end ContainerFleet
