import ContainerFleet.Proofs.Update.Calm
import ContainerFleet.Proofs.Update.Lookup
import ContainerFleet.Proofs.Update.Run
import ContainerFleet.Proofs.Update.Scene
import ContainerFleet.Proofs.Update.Visits

/-!
After an update run in which nothing failed there is nothing left to do. Main statement:
`run_converges`. In the first run each turn leaves a calm container, and the others as calm as they
were; in the second one nothing is done for calm containers.
-/

namespace ContainerFleet

namespace MemoryDaemon

variable {d t : MemoryDaemon}

theorem list_true (d : MemoryDaemon) : d.list true = d.containers.map d.record :=
  congrArg (List.map d.record) (List.filter_eq_self.2 fun _ _ => rfl)

/-- The ids that are there after some updates are no names from before. -/
theorem Touches.id_ne_name (h : d.Touches (d.containers.map MemoryContainer.id) t) (hd : d.Sound)
    {o p : MemoryContainer} (ho : o ∈ t.containers) (hp : p ∈ d.containers) : o.id ≠ p.name := by
  rcases h.known o ho with ho | hid | ⟨n, hn, hid⟩
  · exact hd.id_ne_name o ho p hp
  · obtain ⟨q, hq, hid⟩ := List.mem_map.1 hid
    rw [← hid]
    exact hd.id_ne_name q hq p hp
  · rw [hid]
    exact ((hd.unused_idOf n hn).name_ne hp).symm

end MemoryDaemon

namespace Replacement

open MemoryDaemon

variable {d t : MemoryDaemon} {before after : List MemoryContainer} {c : MemoryContainer}
  {image : String} {replaced : Replaced}

/-- After a replacement that succeeded there is one container in the place of another. -/
theorem Aftermath.exists_successor (hlabels : (Map.keys c.labels).Nodup)
    (h : Aftermath d before c after image (.ok replaced) t) :
    ∃ n, t = d.holding (before ++ after ++ [n]) (d.created + 1) ∧
      t.Successor c c.name image n := by
  cases h with
  | recreated hstopped =>
      refine ⟨_, rfl, successor_of_replacementOf (d := d) c.name hlabels rfl rfl ?_⟩
      rw [hstopped]
      rfl
  | tookOver hrunning hn => exact ⟨_, rfl, hn.successor hrunning hlabels rfl rfl⟩

theorem isFailure_outcomeOf_error (e : ReplaceError) : (outcomeOf (.error e)).isFailure = true := by
  cases e <;> rfl

end Replacement

namespace UpdateRun

open Program MemoryDaemon

variable {listing d u t : MemoryDaemon} {c : MemoryContainer} {cs : List MemoryContainer}
  {updater : Updater} {host : RunHost} {policy : UpdatePolicy} {r : ContainerRecord}
  {outcome : Outcome}

/-- What is done to a container when that does not fail. -/
inductive Settles (updater : Updater) (policy : UpdatePolicy) (r : ContainerRecord)
    (d : MemoryDaemon) : Outcome → MemoryDaemon → Prop where
  | upToDate {check : DigestCheck} (hcompares : DigestCheck.Compares d r.image check)
      (hcurrent : (check.updateAvailable || check.isSuperseded r.imageId) = false) :
      Settles updater policy r d .upToDate d
  | notified {check : DigestCheck} (hcompares : DigestCheck.Compares d r.image check)
      (hnotify : policy.notifyOnly = true) (updateRef : String) :
      Settles updater policy r d (.notified updateRef) d
  | updated {u t : MemoryDaemon} {replaced : Replaced} (hfetched : Fetched d r.image u)
      (hlater : Later policy d u)
      (hreplace : MemoryRun (Replacement.replace updater.stopTimeout r.id r.image) u
        (.ok replaced) t) :
      Settles updater policy r d (.updated replaced.newId) t

theorem settles_of_replace (hfetched : Fetched d r.image u) (hlater : Later policy d u)
    (hrun : MemoryRun (replace updater r) u outcome t) (hok : outcome.isFailure = false) :
    Settles updater policy r d outcome t := by
  obtain ⟨result, hreplace, rfl⟩ := of_replace hrun
  cases result with
  | error e =>
      rw [Replacement.isFailure_outcomeOf_error] at hok
      cases hok
  | ok replaced => exact .updated hfetched hlater hreplace

theorem settles_of_pullAndReplace (hchange : policy.notifyOnly = false)
    (hnot : ¬ d.Settled r.image) (hrun : MemoryRun (pullAndReplace updater r) d outcome t)
    (hok : outcome.isFailure = false) : Settles updater policy r d outcome t := by
  obtain ⟨pulled, d₁, hpull, h⟩ := runsIn_bind_iff.1 hrun
  replace hpull := runsIn_call_iff.1 hpull
  cases pulled with
  | none =>
      obtain ⟨rfl, rfl⟩ := runsIn_pure_iff.1 h
      cases hok
  | some reply =>
      replace hpull : d.Answers (.pull r.image) reply d₁ := hpull
      cases reply with
      | error e =>
          obtain ⟨rfl, rfl⟩ := runsIn_pure_iff.1 h
          cases hok
      | ok _ =>
          obtain ⟨digest, hdigest, rfl⟩ := hpull.of_pull
          have hfetched : Fetched d r.image _ :=
            ⟨⟨_, rfl⟩, .of_pull hdigest, keepsSettled_of_pull hnot⟩
          exact settles_of_replace hfetched (.of_pull hchange hnot digest) h hok

theorem settles_of_process (hrun : MemoryRun (process updater host policy r) d outcome t)
    (hok : outcome.isFailure = false) :
    Digest.isImageId r.image = false ∧ Settles updater policy r d outcome t := by
  obtain ⟨reply, d₁, hcheck, h⟩ := runsIn_bind_iff.1 hrun
  rw [(DigestCheck.still_ofReference _).eq hcheck] at h
  cases reply with
  | error e =>
      obtain ⟨rfl, rfl⟩ := runsIn_pure_iff.1 h
      cases hok
  | ok check =>
      have hcompares := DigestCheck.compares_of_ofReference hcheck
      refine ⟨DigestCheck.not_isImageId_of_ofReference hcheck, ?_⟩
      dsimp only at h
      split at h
      · next hcurrent =>
          obtain ⟨rfl, rfl⟩ := runsIn_pure_iff.1 h
          exact .upToDate hcompares (by simpa using hcurrent)
      · split at h
        · next hnotify =>
            obtain ⟨saved, d₂, hrecord, h⟩ := runsIn_bind_iff.1 h
            rw [(still_record _ _ _).eq hrecord] at h
            cases saved with
            | error e =>
                obtain ⟨rfl, rfl⟩ := runsIn_pure_iff.1 h
                cases hok
            | ok _ =>
                obtain ⟨rfl, rfl⟩ := runsIn_pure_iff.1 h
                exact .notified hcompares hnotify check.remoteDigest
        · next hchange =>
            rw [Bool.not_eq_true] at hchange
            split at h
            · next havailable =>
                refine settles_of_pullAndReplace hchange (fun hd => ?_) h hok
                rw [hcompares.settled_iff.1 hd] at havailable
                cases havailable
            -- The host has the image of the registry, but the container runs an older one.
            · next hcurrent =>
                have hd := hcompares.settled_iff.2 (Bool.eq_false_iff.2 hcurrent)
                have hfetched : Fetched d r.image d := ⟨⟨d.images, rfl⟩, hd, fun _ _ => rfl⟩
                exact settles_of_replace hfetched (.refl policy d) h hok

/-- The turn of a container between two daemons in the first run: what is there afterwards was there
before beside the container, or is calm and has its name. -/
structure Calms (policy : UpdatePolicy) (host : RunHost) (d : MemoryDaemon) (c : MemoryContainer)
    (t : MemoryDaemon) : Prop where
  later : Later policy d t
  calm : ∀ o ∈ t.containers, (o ∈ d.containers ∧ o.id ≠ c.id) ∨
    (Calm policy host t o ∧ o.name = c.name)

theorem Calms.of_calm (hd : d.Holds (c :: cs)) (hcalm : Calm policy host d c) :
    Calms policy host d c d where
  later := .refl policy d
  calm o ho := by
    obtain ⟨before, after, hl⟩ := hd.exists_locates
    have hplace := ho
    rw [hl.containers_eq, List.mem_append, List.mem_cons] at hplace
    rcases hplace with hplace | rfl | hplace
    · exact .inl ⟨ho, hl.ne_of_nodup hd.ids_nodup (List.mem_append_left after hplace)⟩
    · exact .inr ⟨hcalm, rfl⟩
    · exact .inl ⟨ho, hl.ne_of_nodup hd.ids_nodup (List.mem_append_right before hplace)⟩

theorem Settles.calms (hd : d.Holds (c :: cs)) (hlater : Later policy listing d)
    (hnot : Digest.isImageId (listing.resolved c).image = false)
    (h : Settles updater policy (listing.resolved c) d outcome t) : Calms policy host d c t := by
  have hid := resolved_id listing c
  rw [resolved_image] at hnot
  cases h with
  | upToDate hcompares hcurrent =>
      rw [resolved_image] at hcompares
      rw [resolved_imageId hnot] at hcurrent
      exact .of_calm hd (calm_of_compares hlater hnot hcompares fun _ => hcurrent)
  | notified hcompares hnotify =>
      rw [resolved_image] at hcompares
      refine .of_calm hd (calm_of_compares hlater hnot hcompares fun hchange => ?_)
      rw [hnotify] at hchange
      cases hchange
  | @updated u t replaced hfetched hpulled hreplace =>
      have hu := hfetched.holds hd
      obtain ⟨before, after, hl⟩ := hu.exists_locates
      rw [hid, resolved_image] at hreplace
      have hafter := Replacement.replace_aftermath hl hl.find? hu.unused_nextId hreplace
      obtain ⟨n, rfl, hn⟩ := hafter.exists_successor (hd.labels_nodup c List.mem_cons_self)
      have hcontainers : u.containers = d.containers := by
        obtain ⟨images, rfl⟩ := hfetched.exists_images
        rfl
      refine ⟨hpulled.trans (.of_eq rfl rfl), fun o ho => ?_⟩
      rcases List.mem_append.1 ho with ho | ho
      · exact .inl ⟨hcontainers ▸ hl.mem_of_mem ho, hl.ne_of_nodup hu.ids_nodup ho⟩
      · rw [List.mem_singleton.1 ho]
        refine .inr ⟨calm_of_created hnot ?_ hn.image_eq hn.imageId_eq, hn.name_eq⟩
        rw [← resolved_image]
        exact hfetched.settled.of_eq rfl rfl

/-- A container that is not considered is calm. -/
theorem calm_of_classify (listing : MemoryDaemon)
    (h : (listing.resolved c).classify policy host.isLocal ≠ .eligible) :
    Calm policy host d c :=
  fun heligible => absurd ((classify_resolved listing d c host.isLocal).trans heligible) h

theorem resolved_of_runs {reply : Except DaemonError ContainerRecord}
    (hfind : d.find? c.id = some c)
    (hrun : MemoryRun (listing.record c).resolveReference d reply t) :
    (∃ e, reply = .error e) ∨ reply = .ok (listing.resolved c) := by
  unfold ContainerRecord.resolveReference at hrun
  unfold resolved
  split at hrun
  · next himage =>
      change Digest.isImageId (listing.listedImage c) = true at himage
      rw [if_pos himage]
      obtain ⟨details, d₁, hinspect, h⟩ := runsIn_bind_iff.1 hrun
      replace hinspect := memoryRun_daemon_iff.1 hinspect
      cases details with
      | error e => exact .inl ⟨e, (runsIn_pure_iff.1 h).1⟩
      | ok details =>
          obtain ⟨-, found, now, hfound, rfl⟩ := hinspect.of_inspect
          cases hfind.symm.trans hfound
          exact .inr (runsIn_pure_iff.1 h).1
  · next himage =>
      change ¬ Digest.isImageId (listing.listedImage c) = true at himage
      rw [if_neg himage]
      exact .inr (runsIn_pure_iff.1 hrun).1

theorem step_calms {done : Step} (hd : d.Holds (c :: cs)) (hlater : Later policy listing d)
    (hrun : MemoryRun (step updater host policy (listing.record c)) d done t)
    (hok : done.report.outcome.isFailure = false) : Calms policy host d c t := by
  obtain ⟨reply, d₁, hresolve, h⟩ := runsIn_bind_iff.1 hrun
  rw [(ContainerRecord.still_resolveReference _).eq hresolve] at h
  rcases resolved_of_runs (hd.find?_eq c List.mem_cons_self) hresolve with ⟨e, rfl⟩ | rfl
  · obtain ⟨rfl, rfl⟩ := runsIn_pure_iff.1 h
    cases hok
  · dsimp only at h
    split at h
    · next hclass =>
        obtain ⟨rfl, rfl⟩ := runsIn_pure_iff.1 h
        exact .of_calm hd (calm_of_classify listing (by simp [hclass]))
    · next hclass =>
        obtain ⟨rfl, rfl⟩ := runsIn_pure_iff.1 h
        exact .of_calm hd (calm_of_classify listing (by simp [hclass]))
    · obtain ⟨outcome, d₂, hprocess, h⟩ := runsIn_bind_iff.1 h
      obtain ⟨rfl, rfl⟩ := runsIn_pure_iff.1 h
      obtain ⟨hnot, hsettles⟩ := settles_of_process hprocess hok
      exact hsettles.calms hd hlater hnot

/-- After a walk in which nothing failed every container is calm and has a name that was there
before. By induction on the containers that are left: those that are not are calm. -/
theorem walk_calms {deferred : Option ContainerRecord} {walked : Walk} {names : List String}
    (hd : d.Holds cs) (hlater : Later policy listing d)
    (hcalm : ∀ o ∈ d.containers, o.name ∈ names ∧ (o ∈ cs ∨ Calm policy host d o))
    (hrun : MemoryRun (walk updater host policy (cs.map listing.record) deferred) d walked t)
    (hend : walked.cancelled = false)
    (hok : ∀ e ∈ walked.reports, e.outcome.isFailure = false) :
    ∀ o ∈ t.containers, o.name ∈ names ∧ Calm policy host t o := by
  induction cs generalizing d deferred walked with
  | nil =>
      obtain ⟨rfl, rfl⟩ := runsIn_pure_iff.1 hrun
      intro o ho
      refine (hcalm o ho).imp_right fun h => ?_
      exact h.resolve_left List.not_mem_nil
  | cons c cs ih =>
      obtain ⟨stop, d₁, hstop, h⟩ := runsIn_bind_iff.1 hrun
      rw [still_isCancelled.eq hstop] at h
      cases stop with
      | true =>
          obtain ⟨rfl, rfl⟩ := runsIn_pure_iff.1 h
          cases hend
      | false =>
          obtain ⟨done, d₂, hstep, h⟩ := runsIn_bind_iff.1 h
          obtain ⟨rest, d₃, hrest, h⟩ := runsIn_bind_iff.1 h
          obtain ⟨rfl, rfl⟩ := runsIn_pure_iff.1 h
          rw [List.forall_mem_cons] at hok
          have hturn := step_truthful hd rfl rfl hstep
          have hcalms : Calms policy host d c d₂ := step_calms hd hlater hstep hok.1
          refine ih hturn.holds (hlater.trans hcalms.later) (fun o ho => ?_) hrest hend hok.2
          -- What was there before is left for a later turn or stays calm.
          rcases hcalms.calm o ho with ⟨ho, hne⟩ | ⟨hcalm', hname⟩
          · refine (hcalm o ho).imp_right fun h => ?_
            rcases h with h | h
            · refine .inl ((List.mem_cons.1 h).resolve_left ?_)
              rintro rfl
              exact hne rfl
            · exact .inr (h.later hcalms.later)
          · rw [hname]
            exact ⟨(hcalm c (hd.mem List.mem_cons_self)).1, .inr hcalm'⟩

section SecondRun

variable {trace : List UpdateExchange} {reply : Except DaemonError ContainerRecord}

theorem resolved_of_converses (hfind : d.find? c.id = some c)
    (hrun : Converses service (d.record c).resolveReference d trace reply t) :
    reply = .ok (d.resolved c) := by
  rcases resolved_of_runs hfind (hrun.runsIn conduct_of_service) with ⟨e, rfl⟩ | h
  · cases resolves_of_runs hrun.runs with
    | failed _ e =>
        obtain ⟨u, now, hinspect⟩ := hrun.exists_head
        simp only [perform, show d.find? (d.record c).id = some c from hfind] at hinspect
        cases hinspect
  · exact h

/-- The store refused to keep a record. -/
def RefusesSave (trace : List UpdateExchange) : Prop :=
  ∃ update e, ⟨UpdateRequest.store (.save update), Except.error e⟩ ∈ trace

/-- Nothing was done for a container, and nothing failed unless the store refused a record. -/
structure Rests (policy : UpdatePolicy) (trace : List UpdateExchange) (outcome : Outcome) :
    Prop where
  not_updated : outcome.isUpdated = false
  ne_rolledBack : ∀ reason, outcome ≠ .rolledBack reason
  refuses : outcome.isFailure = true → policy.notifyOnly = true ∧ RefusesSave trace

theorem refusesSave_recording (name imageId updateRef : String) (now : Moment) (e : StoreError) :
    RefusesSave (recording name imageId updateRef now (.error e)) :=
  ⟨_, e, List.mem_cons_of_mem _ List.mem_cons_self⟩

theorem RefusesSave.mono {u : List UpdateExchange} (h : RefusesSave u) (hu : u ⊆ trace) :
    RefusesSave trace := by
  obtain ⟨update, e, hmem⟩ := h
  exact ⟨update, e, hu hmem⟩

theorem Rests.mono {u : List UpdateExchange} (h : Rests policy u outcome) (hu : u ⊆ trace) :
    Rests policy trace outcome where
  not_updated := h.not_updated
  ne_rolledBack := h.ne_rolledBack
  refuses hfailure := (h.refuses hfailure).imp_right fun hrefuses => hrefuses.mono hu

theorem rests_of_quiet (policy : UpdatePolicy) (trace : List UpdateExchange)
    (hupdated : outcome.isUpdated = false) (hok : outcome.isFailure = false) :
    Rests policy trace outcome where
  not_updated := hupdated
  ne_rolledBack := by
    rintro reason rfl
    cases hok
  refuses hfailure := absurd (hok.symm.trans hfailure) Bool.noConfusion

theorem notify_rests {check : DigestCheck} (hnotify : policy.notifyOnly = true)
    (hrun : Runs (notify host r check) trace outcome) : Rests policy trace outcome := by
  obtain ⟨now, saved, rfl, rfl⟩ := exists_recording_of_runs_notify hrun
  cases saved with
  | error e =>
      exact ⟨rfl, fun _ => Outcome.noConfusion, fun _ => ⟨hnotify, refusesSave_recording _ _ _ now e⟩⟩
  | ok _ => exact rests_of_quiet policy _ rfl rfl

/-- A turn in the second run: nothing changes, and the container rests. -/
structure Rested (policy : UpdatePolicy) (d : MemoryDaemon) (trace : List UpdateExchange)
    (outcome : Outcome) (t : MemoryDaemon) : Prop where
  eq : t = d
  looks : ∀ x ∈ trace, UpdateRequest.changesContainers x.request = false
  rests : Rests policy trace outcome

theorem Rested.of_quiet (policy : UpdatePolicy) (d : MemoryDaemon)
    (hupdated : outcome.isUpdated = false) (hok : outcome.isFailure = false) :
    Rested policy d [] outcome d :=
  ⟨rfl, List.forall_mem_nil _, rests_of_quiet policy [] hupdated hok⟩

theorem Rested.prepend {v w : List UpdateExchange}
    (hv : ∀ x ∈ v, UpdateRequest.changesContainers x.request = false)
    (h : Rested policy d w outcome t) : Rested policy d (v ++ w) outcome t :=
  ⟨h.eq, List.forall_mem_append.2 ⟨hv, h.looks⟩, h.rests.mono (List.subset_append_right v w)⟩

/-- A container that is ready is looked up, and then at most a record is kept. -/
theorem process_rested {image : ImageDetails} {digest : String}
    (hready : d.Ready policy r.imageId r.image image digest)
    (hrun : Converses service (process updater host policy r) d trace outcome t) :
    Rested policy d trace outcome t := by
  obtain ⟨v, w, reply, d₁, rfl, hcheck, h⟩ := converses_bind_iff.1 hrun
  have hlooks := onlyLooks_ofReference r.image v reply hcheck.runs
  have hreply : reply = .ok (.ofImage image digest) := by
    rw [d.imageAnswers.eq_check_of_looksUp (DigestCheck.looksUp_of_runs hcheck.runs)
      (allows_of_converses hcheck hlooks)]
    simp [ImageAnswers.check, imageAnswers, perform, hready.not_isImageId, hready.image_eq,
      hready.digest_eq]
  rw [hreply, (DigestCheck.still_ofReference _).eq (hcheck.runsIn conduct_of_service)] at h
  refine .prepend hlooks ?_
  dsimp only at h
  split at h
  · obtain ⟨rfl, rfl, rfl⟩ := converses_pure_iff.1 h
    exact .of_quiet policy t rfl rfl
  · next hstale =>
      split at h
      · next hnotify =>
          exact ⟨(of_notify (h.runsIn conduct_of_service)).2,
            onlyLooks_notify host r _ w outcome h.runs, notify_rests hnotify h.runs⟩
      · next hchange =>
          rw [Bool.not_eq_true] at hchange
          have hcurrent : (DigestCheck.ofImage image digest).updateAvailable = false := by
            simp [DigestCheck.ofImage, hready.isCurrent hchange]
          have hsame : (DigestCheck.ofImage image digest).isSuperseded r.imageId = false :=
            DigestCheck.isSuperseded_eq_false_iff.2 (hready.runs hchange)
          rw [hcurrent, hsame] at hstale
          exact absurd rfl hstale

/-- The visit to a calm container. -/
theorem step_rested {done : Step} (hfind : d.find? c.id = some c) (hcalm : Calm policy host d c)
    (hrun : Converses service (step updater host policy (d.record c)) d trace done t) :
    Rested policy d trace done.report.outcome t := by
  obtain ⟨v, w, reply, d₁, rfl, hresolve, h⟩ := converses_bind_iff.1 hrun
  have hlooks := onlyLooks_resolveReference (d.record c) v reply hresolve.runs
  rw [resolved_of_converses hfind hresolve,
    (ContainerRecord.still_resolveReference _).eq (hresolve.runsIn conduct_of_service)] at h
  refine .prepend hlooks ?_
  dsimp only at h
  split at h
  · obtain ⟨rfl, rfl, rfl⟩ := converses_pure_iff.1 h
    exact .of_quiet policy t rfl rfl
  · obtain ⟨rfl, rfl, rfl⟩ := converses_pure_iff.1 h
    exact .of_quiet policy t rfl rfl
  · next heligible =>
      obtain ⟨x, y, outcome, d₂, rfl, hprocess, h⟩ := converses_bind_iff.1 h
      obtain ⟨rfl, rfl, rfl⟩ := converses_pure_iff.1 h
      obtain ⟨image, digest, hready⟩ := hcalm ((classify_resolved d d c _).symm.trans heligible)
      rw [← resolved_imageId hready.not_isImageId, ← resolved_image] at hready
      rw [List.append_nil]
      exact process_rested hready hprocess

/-- A walk along calm containers changes nothing, by induction on them. -/
theorem walk_rests {deferred : Option ContainerRecord} {walked : Walk}
    (hfind : ∀ c ∈ cs, d.find? c.id = some c) (hcalm : ∀ c ∈ cs, Calm policy host d c)
    (hrun : Converses service (walk updater host policy (cs.map d.record) deferred) d trace walked
      t) :
    (∀ x ∈ trace, UpdateRequest.changesContainers x.request = false) ∧
      ∀ e ∈ walked.reports, Rests policy trace e.outcome := by
  induction cs generalizing deferred trace walked t with
  | nil =>
      obtain ⟨rfl, rfl, -⟩ := converses_pure_iff.1 hrun
      exact ⟨List.forall_mem_nil _, List.forall_mem_nil _⟩
  | cons c cs ih =>
      rw [List.forall_mem_cons] at hfind hcalm
      obtain ⟨v, w, stop, d₁, rfl, hstop, h⟩ := converses_bind_iff.1 hrun
      rw [still_isCancelled.eq (hstop.runsIn conduct_of_service)] at h
      rw [eq_asked_of_runs hstop.runs]
      cases stop with
      | true =>
          obtain ⟨rfl, rfl, -⟩ := converses_pure_iff.1 h
          exact ⟨List.forall_mem_cons.2 ⟨rfl, List.forall_mem_nil _⟩, List.forall_mem_nil _⟩
      | false =>
          obtain ⟨x, y, done, d₂, rfl, hstep, h⟩ := converses_bind_iff.1 h
          obtain ⟨u, z, rest, d₃, rfl, hrest, h⟩ := converses_bind_iff.1 h
          obtain ⟨rfl, rfl, -⟩ := converses_pure_iff.1 h
          have hturn := step_rested hfind.1 hcalm.1 hstep
          rw [hturn.eq] at hrest
          obtain ⟨hlooks, hrests⟩ := ih hfind.2 hcalm.2 hrest
          rw [List.append_nil, List.singleton_append]
          refine ⟨List.forall_mem_cons.2 ⟨rfl, List.forall_mem_append.2 ⟨hturn.looks, hlooks⟩⟩,
            List.forall_mem_cons.2 ⟨hturn.rests.mono ?_, fun e he => (hrests e he).mono ?_⟩⟩
          · exact List.Subset.trans (List.subset_append_left x u) (List.subset_cons_self _ _)
          · exact List.Subset.trans (List.subset_append_right x u) (List.subset_cons_self _ _)

end SecondRun

/-- After a run in which nothing failed every container is found by its id and calm. -/
theorem run_calms {report : UpdateReport} (hd : d.Sound)
    (hrun : MemoryRun (run updater host policy (d.list true)) d report t)
    (hend : report.cancelled = false) (hok : report.failed = 0) :
    ∀ o ∈ t.containers, t.find? o.id = some o ∧ Calm policy host t o := by
  rw [list_true] at hrun
  obtain ⟨walked, d₁, hwalk, h⟩ := runsIn_bind_iff.1 hrun
  obtain ⟨cancelled, d₂, hcancelled, h⟩ := runsIn_bind_iff.1 h
  rw [still_isCancelled.eq hcancelled] at h
  obtain ⟨hreports, hstop, dangling, rfl⟩ := of_finish h
  rw [hend, eq_comm, Bool.or_eq_false_iff] at hstop
  rw [UpdateReport.failed, hreports, List.countP_eq_zero] at hok
  obtain ⟨htouches, hids, -, -⟩ := walk_accounts d hd.holds hwalk
  have hcalms := walk_calms hd.holds (.refl policy d)
    (fun o ho => ⟨List.mem_map_of_mem ho, .inl ho⟩) hwalk hstop.1
    fun e he => Bool.eq_false_iff.2 (hok e he)
  -- A container is also found by its name, so no id may be the name of another one.
  have hnames : ∀ o ∈ d₁.containers, ∀ p ∈ d₁.containers, o.id ≠ p.name := by
    intro o ho p hp
    obtain ⟨q, hq, hname⟩ := List.mem_map.1 (hcalms p hp).1
    rw [← hname]
    exact htouches.id_ne_name hd ho hq
  intro o ho
  exact ⟨find?_of_mem hids hnames ho, (hcalms o ho).2.later (.of_eq rfl rfl)⟩

/-- After an update run that was not cancelled and in which no container failed or was rolled back,
a second one finds nothing to do when the daemon carries out its calls: no container is updated or
rolled back, nothing is pulled, and no container is created, started, stopped, removed or renamed.
None fails either, unless newer images are only recorded and the store refuses a record. -/
theorem run_converges {report again : UpdateReport} {d₁ d₂ : MemoryDaemon}
    {trace : List UpdateExchange} (hd : d.Sound)
    (hrun : MemoryRun (run updater host policy (d.list true)) d report d₁)
    (hend : report.cancelled = false) (hok : report.failed = 0)
    (hagain : Converses service (run updater host policy (d₁.list true)) d₁ trace again d₂) :
    again.updated = 0 ∧ (∀ e ∈ again.containers, ∀ reason, e.outcome ≠ .rolledBack reason) ∧
      (again.failed = 0 ∨ policy.notifyOnly = true ∧ RefusesSave trace) ∧
      ∀ x ∈ trace, UpdateRequest.changesContainers x.request = false := by
  have hcalms := run_calms hd hrun hend hok
  rw [list_true] at hagain
  obtain ⟨v, w, walked, e₁, rfl, hwalk, h⟩ := converses_bind_iff.1 hagain
  obtain ⟨x, y, cancelled, e₂, rfl, hcancelled, hfinish⟩ := converses_bind_iff.1 h
  obtain ⟨hlooks, hrests⟩ := walk_rests (fun c hc => (hcalms c hc).1)
    (fun c hc => (hcalms c hc).2) hwalk
  have hreports := (finished_of_runs hfinish.runs).containers_eq
  rw [UpdateReport.updated, UpdateReport.failed, hreports, List.countP_eq_zero,
    List.countP_eq_zero, eq_asked_of_runs hcancelled.runs]
  refine ⟨fun e he => ?_, fun e he => (hrests e he).ne_rolledBack, ?_, ?_⟩
  · rw [(hrests e he).not_updated]
    exact Bool.false_ne_true
  · by_cases hfailed : ∃ e ∈ walked.reports, e.outcome.isFailure = true
    · obtain ⟨e, he, hfailure⟩ := hfailed
      exact .inr (((hrests e he).refuses hfailure).imp_right fun hrefuses =>
        hrefuses.mono (List.subset_append_left v _))
    · exact .inl fun e he hfailure => hfailed ⟨e, he, hfailure⟩
  · refine List.forall_mem_append.2 ⟨hlooks, List.forall_mem_cons.2 ⟨rfl, ?_⟩⟩
    exact onlyLooks_finish updater host policy walked _ y again hfinish.runs

/-- The first run replaces both containers, and the second one leaves the replacements alone. -/
theorem run_converges_siblings :
    let first := (run ⟨"", none, .zero⟩ ⟨"here", .local⟩ .plain
      (siblings.list true)).served siblings
    let again := (run ⟨"", none, .zero⟩ ⟨"here", .local⟩ .plain
      (first.2.2.list true)).served first.2.2
    first.2.1.cancelled = false ∧ first.2.1.updated = 2 ∧ first.2.1.failed = 0 ∧
      again.2.1.updated = 0 ∧ again.2.1.failed = 0 ∧
      ∀ x ∈ again.1, UpdateRequest.changesContainers x.request = false := by
  have hfirst := converses_served (run ⟨"", none, .zero⟩ ⟨"here", .local⟩ .plain
    (siblings.list true)) siblings
  have hend : ((run ⟨"", none, .zero⟩ ⟨"here", .local⟩ .plain
      (siblings.list true)).served siblings).2.1.cancelled = false := by
    decide +kernel
  have hok : ((run ⟨"", none, .zero⟩ ⟨"here", .local⟩ .plain
      (siblings.list true)).served siblings).2.1.failed = 0 := by
    decide +kernel
  obtain ⟨hupdated, -, hfailed, hlooks⟩ := run_converges siblings_sound
    (hfirst.runsIn conduct_of_service) hend hok (converses_served _ _)
  refine ⟨hend, by decide +kernel, hok, hupdated, hfailed.resolve_right ?_, hlooks⟩
  rintro ⟨hnotify, -⟩
  cases hnotify

/-- Surroundings in which no call to the daemon fails, but the store has no room for a record. -/
def withoutRoom : Surroundings MemoryStore :=
  { Surroundings.plain fun _ => none with
    backend := ⟨fun call store =>
      match call with
      | .save _ => (.error (.file "disk full"), store)
      | call => MemoryStore.handle call store⟩ }

/-- The first run only records that there is a newer image. In the second one the store refuses the
records, and both containers fail. -/
theorem exists_failed_again :
    let program :=
      run ⟨"", none, .zero⟩ ⟨"here", .local⟩ { UpdatePolicy.plain with notifyOnly := true }
    let first := (Surroundings.plain fun _ => none).converse (program (siblings.list true))
      ⟨siblings, .empty, (0 : Int)⟩
    let again := withoutRoom.converse (program (first.2.2.daemon.list true)) first.2.2
    siblings.Sound ∧
      MemoryRun (program (siblings.list true)) siblings first.2.1 first.2.2.daemon ∧
      first.2.1.cancelled = false ∧ first.2.1.failed = 0 ∧
      Converses service (program (first.2.2.daemon.list true)) first.2.2.daemon again.1 again.2.1
        again.2.2.daemon ∧
      again.2.1.failed = 2 := by
  have hfirst := Surroundings.converses_service (k := .plain fun _ => none) (fun _ => rfl)
    (run ⟨"", none, .zero⟩ ⟨"here", .local⟩ { UpdatePolicy.plain with notifyOnly := true }
      (siblings.list true)) ⟨siblings, .empty, (0 : Int)⟩
  exact ⟨siblings_sound, hfirst.runsIn conduct_of_service, by decide +kernel, by decide +kernel,
    Surroundings.converses_service (fun _ => rfl) _ _, by decide +kernel⟩

end UpdateRun

end ContainerFleet
