import ContainerFleet.Proofs.Daemon.Service
import ContainerFleet.Update.Staleness

/-!
How update code finds out whether the registry has another image than the host, whatever the daemon
answers. Main statements: `looksUp_of_runs`, what is asked for that,
`ImageAnswers.eq_check_of_looksUp`, what it comes to when the answers are known, and
`allows_of_converses`, that a daemon in memory answers by what it has.
-/

namespace ContainerFleet

namespace DigestCheck

open Program

variable {reference : String} {trace : List UpdateExchange} {reply : Except DigestError DigestCheck}

/-- The exchanges in which the images of host and registry are compared, and what is found. -/
inductive LooksUp (reference : String) :
    List UpdateExchange → Except DigestError DigestCheck → Prop where
  | notAReference (h : Digest.isImageId reference = true) :
      LooksUp reference [] (.error (.notAReference reference))
  | noImage (h : Digest.isImageId reference = false) (e : DaemonError) :
      LooksUp reference [said (.image reference) (.error e)] (.error (.localLookup reference e))
  | noDigest (h : Digest.isImageId reference = false) (image : ImageDetails) (e : DaemonError) :
      LooksUp reference
        [said (.image reference) (.ok image), said (.registryDigest reference) (.error e)]
        (.error (.registryLookup reference e))
  | compared (h : Digest.isImageId reference = false) (image : ImageDetails) (digest : String) :
      LooksUp reference
        [said (.image reference) (.ok image), said (.registryDigest reference) (.ok digest)]
        (.ok (ofImage image digest))

theorem looksUp_of_runs (hrun : Runs (ofReference reference) trace reply) :
    LooksUp reference trace reply := by
  unfold ofReference at hrun
  split at hrun
  · next himage =>
      obtain ⟨rfl, rfl⟩ := runs_pure_iff.1 hrun
      exact .notAReference himage
  · next himage =>
      rw [Bool.not_eq_true] at himage
      obtain ⟨t, u, image, rfl, hlocal, h⟩ := runs_bind_iff.1 hrun
      rw [UpdateProgram.runs_daemon_iff.1 hlocal]
      cases image with
      | error e =>
          obtain ⟨rfl, rfl⟩ := runs_pure_iff.1 h
          exact .noImage himage e
      | ok details =>
          obtain ⟨v, w, digest, rfl, hremote, h⟩ := runs_bind_iff.1 h
          rw [UpdateProgram.runs_daemon_iff.1 hremote]
          cases digest with
          | error e =>
              obtain ⟨rfl, rfl⟩ := runs_pure_iff.1 h
              exact .noDigest himage details e
          | ok digest =>
              obtain ⟨rfl, rfl⟩ := runs_pure_iff.1 h
              exact .compared himage details digest

/-- What is asked is answered in each of these ways in some world. -/
theorem LooksUp.runs (h : LooksUp reference trace reply) :
    Runs (ofReference reference) trace reply := by
  unfold ofReference
  cases h with
  | notAReference h =>
      rw [if_pos h]
      exact runs_pure_iff.2 ⟨rfl, rfl⟩
  | noImage h e =>
      rw [if_neg (by simp [h])]
      exact UpdateProgram.runs_said_cons (.image reference) (.error e) (runs_pure_iff.2 ⟨rfl, rfl⟩)
  | noDigest h image e =>
      rw [if_neg (by simp [h])]
      exact UpdateProgram.runs_said_cons (.image reference) (.ok image)
        (UpdateProgram.runs_said_cons (.registryDigest reference) (.error e)
          (runs_pure_iff.2 ⟨rfl, rfl⟩))
  | compared h image digest =>
      rw [if_neg (by simp [h])]
      exact UpdateProgram.runs_said_cons (.image reference) (.ok image)
        (UpdateProgram.runs_said_cons (.registryDigest reference) (.ok digest)
          (runs_pure_iff.2 ⟨rfl, rfl⟩))

end DigestCheck

/-- What a daemon answers about images: the local one of a reference, and the digest that the
registry serves for it. -/
structure ImageAnswers where
  image : String → Except DaemonError ImageDetails
  digest : String → Except DaemonError String

namespace ImageAnswers

variable {k : ImageAnswers} {reference : String} {trace : List UpdateExchange}
  {reply : Except DigestError DigestCheck}

/-- An exchange in which a daemon answers so. -/
def Allows (k : ImageAnswers) : UpdateExchange → Prop
  | ⟨.daemon (.image reference), reply⟩ => reply = k.image reference
  | ⟨.daemon (.registryDigest reference), reply⟩ => reply = k.digest reference
  | _ => True

/-- What a comparison of host and registry comes to with these answers. -/
def check (k : ImageAnswers) (reference : String) : Except DigestError DigestCheck :=
  if Digest.isImageId reference then .error (.notAReference reference)
  else
    match k.image reference, k.digest reference with
    | .error e, _ => .error (.localLookup reference e)
    | .ok _, .error e => .error (.registryLookup reference e)
    | .ok image, .ok digest => .ok (.ofImage image digest)

theorem eq_check_of_looksUp (h : DigestCheck.LooksUp reference trace reply)
    (hk : ∀ x ∈ trace, k.Allows x) : reply = k.check reference := by
  cases h with
  | notAReference h => simp [check, h]
  | noImage h e =>
      have himage : .error e = k.image reference := hk _ List.mem_cons_self
      simp [check, h, ← himage]
  | noDigest h image e =>
      have himage : .ok image = k.image reference := hk _ List.mem_cons_self
      have hdigest : .error e = k.digest reference :=
        hk _ (List.mem_cons_of_mem _ List.mem_cons_self)
      simp [check, h, ← himage, ← hdigest]
  | compared h image digest =>
      have himage : .ok image = k.image reference := hk _ List.mem_cons_self
      have hdigest : .ok digest = k.digest reference :=
        hk _ (List.mem_cons_of_mem _ List.mem_cons_self)
      simp [check, h, ← himage, ← hdigest]

end ImageAnswers

namespace MemoryDaemon

variable {d t : MemoryDaemon}

/-- What a daemon in memory answers about images. -/
def imageAnswers (d : MemoryDaemon) : ImageAnswers where
  image reference := (d.perform 0 (.image reference)).1
  digest reference := (d.perform 0 (.registryDigest reference)).1

theorem imageAnswers_congr (himages : t.images = d.images) (hregistry : t.registry = d.registry) :
    t.imageAnswers = d.imageAnswers := by
  simp only [imageAnswers, perform, himages, hregistry]
  congr 1 <;> funext reference <;> split <;> rfl

theorem allows_of_service {q : UpdateRequest} {r : q.Reply} (h : service q d r t) :
    d.imageAnswers.Allows ⟨q, r⟩ := by
  cases q with
  | daemon call =>
      obtain ⟨now, h⟩ := h
      cases call with
      | image reference => exact (congrArg Prod.fst h).symm
      | registryDigest reference => exact (congrArg Prod.fst h).symm
      | _ => trivial
  | _ => trivial

/-- Only calls that change containers or references have an effect on the images. -/
theorem imageAnswers_of_service {q : UpdateRequest} {r : q.Reply} (h : service q d r t)
    (hq : q.changesContainers = false) : t.imageAnswers = d.imageAnswers := by
  cases q with
  | daemon call =>
      obtain ⟨now, h⟩ := h
      cases call with
      | info | list | imageIds | prune =>
          cases h
          exact imageAnswers_congr rfl rfl
      | inspect | image | registryDigest =>
          simp only [perform] at h
          split at h <;> cases h <;> rfl
      | _ => cases hq
  | pull image => cases hq
  | _ => rw [show t = d from h]

theorem allows_of_converses {α : Type} {p : UpdateProgram α} {trace : List UpdateExchange} {a : α}
    (h : Program.Converses service p d trace a t)
    (htrace : ∀ x ∈ trace, UpdateRequest.changesContainers x.request = false) :
    ∀ x ∈ trace, d.imageAnswers.Allows x := by
  induction h with
  | done a s => simp
  | @ask q next s t u r trace a hq h ih =>
      rw [List.forall_mem_cons] at htrace ⊢
      refine ⟨allows_of_service hq, ?_⟩
      rw [← imageAnswers_of_service hq htrace.1]
      exact ih htrace.2

end MemoryDaemon

end ContainerFleet
