import ContainerFleet.Proofs.Update.Frame
import ContainerFleet.Update.Run

/-!
What an entry in the report of an update run says about the daemon. Main statement:
`step_truthful`, that the entry of a container is true after its turn and stays true whatever
happens to the containers after it.
-/

namespace ContainerFleet

namespace MemoryDaemon

/-- No container has this id. -/
def Gone (t : MemoryDaemon) (id : String) : Prop :=
  ∀ o ∈ t.containers, o.id ≠ id

/-- A container created in the place of `c`: with its labels and settings, from the image that the
host has for a reference now. It was started if `c` ran, and runs unless it exits then. -/
structure Successor (t : MemoryDaemon) (c : MemoryContainer) (name image : String)
    (n : MemoryContainer) : Prop where
  name_eq : n.name = name
  labels_eq : n.labels = c.labels
  settings_eq : n.settings = c.spec.withImage image
  image_eq : n.image = image
  imageId_eq : n.imageId = t.imageIdOf image
  running_eq : n.running =
    (c.running && !t.crashing.contains (Replacement.temporaryName c.name))

/-- What a failure leaves of `c`, with the reason that is reported. -/
inductive Failure (t : MemoryDaemon) (c : MemoryContainer) (image : String) : String → Prop where
  | unchanged (reason : String) (h : c ∈ t.containers) : Failure t c image reason
  | notRestarted (cause : ReplaceFailure) (e : DaemonError) (hrunning : c.running = true)
      (h : c.stopped ∈ t.containers) :
      Failure t c image (ReplaceError.rollbackFailed c.name cause e).message
  | oldNotRemoved (e : DaemonError) (hrunning : c.running = true) (h : c.stopped ∈ t.containers)
      {n : MemoryContainer} (hn : n ∈ t.containers)
      (hsuccessor : Successor t c (Replacement.temporaryName c.name) image n) :
      Failure t c image (ReplaceError.step .remove c.name e).message
  | notRecreated (e : DaemonError) (hstopped : c.running = false) (hgone : t.Gone c.id) :
      Failure t c image (ReplaceError.step .create c.name e).message
  | notRenamed (e : DaemonError) (hrunning : c.running = true) (hgone : t.Gone c.id)
      {n : MemoryContainer} (hn : n ∈ t.containers)
      (hsuccessor : Successor t c (Replacement.temporaryName c.name) image n) :
      Failure t c image (ReplaceError.step .rename c.name e).message

/-- What an outcome says about `c` and a daemon. -/
def Tells (t : MemoryDaemon) (c : MemoryContainer) (image : String) : Outcome → Prop
  | .skipped _ => c ∈ t.containers
  | .deferredSelf => c ∈ t.containers
  | .upToDate => c ∈ t.containers
  | .notified _ => c ∈ t.containers
  | .updated newId =>
      t.Gone c.id ∧ ∃ n ∈ t.containers, n.id = newId ∧ t.Successor c c.name image n
  | .rolledBack _ =>
      c.running = true ∧ ∃ o ∈ t.containers, o.Same c ∧ o.running = !t.crashing.contains c.name
  | .failed reason => t.Failure c image reason

/-- An entry of a report is true of `c`, which was listed with some image. -/
structure Truthful (t : MemoryDaemon) (listed : String) (c : MemoryContainer)
    (e : ContainerReport) : Prop where
  id_eq : e.id = c.id
  name_eq : e.name = c.name
  image_eq : (∃ reason, e.outcome = .failed reason) ∨
    e.image = ContainerRecord.referenceOf listed c
  tells : t.Tells c e.image e.outcome

/-- `c` and what is created for it are not among the containers with these ids. -/
structure Apart (d : MemoryDaemon) (c : MemoryContainer) (ids : List String) : Prop where
  not_mem : c.id ∉ ids
  ne_idOf : ∀ n, d.created < n → c.id ≠ idOf n
  idOf_not_mem : ∀ n, d.created < n → idOf n ∉ ids

variable {d u t : MemoryDaemon} {before after cs : List MemoryContainer} {c n : MemoryContainer}
  {ids : List String} {image : String}

theorem Holds.apart (h : d.Holds (c :: cs)) : d.Apart c (cs.map MemoryContainer.id) where
  not_mem := (List.nodup_cons.1 h.nodup).1
  ne_idOf _ hn := h.ne_idOf List.mem_cons_self hn
  idOf_not_mem n hn hmem := by
    obtain ⟨o, ho, heq⟩ := List.mem_map.1 hmem
    exact h.ne_idOf (List.mem_cons_of_mem c ho) hn heq

/-- What is gone does not come back. -/
theorem Apart.gone (h : d.Apart c ids) (hcreated : d.created ≤ u.created) (hu : u.Gone c.id)
    (ht : u.Touches ids t) : t.Gone c.id := by
  intro o ho heq
  rcases ht.known o ho with ho | hid | ⟨k, hk, hid⟩
  · exact hu o ho heq
  · exact h.not_mem (heq ▸ hid)
  · exact h.ne_idOf k (Nat.lt_of_le_of_lt hcreated hk) (heq.symm.trans hid)

theorem Apart.mem_of_created (h : d.Apart c ids) (hid : n.id = d.nextId) (hn : n ∈ u.containers)
    (ht : u.Touches ids t) : n ∈ t.containers :=
  ht.kept n hn (hid ▸ h.idOf_not_mem (d.created + 1) (Nat.lt_succ_self _))

theorem Apart.mem_of_same (h : d.Apart c ids) {o : MemoryContainer} (hsame : o.Same c)
    (ho : o ∈ u.containers) (ht : u.Touches ids t) : o ∈ t.containers :=
  ht.kept o ho (hsame.id_eq ▸ h.not_mem)

theorem imageIdOf_eq (h : d.Settled image) (himages : u.images = d.images)
    (hregistry : u.registry = d.registry) (ht : u.Touches ids t) :
    t.imageIdOf image = d.imageIdOf image := by
  have hsettled : u.Settled image := h.of_eq (by rw [himages]) hregistry
  rw [imageIdOf, imageIdOf, ht.keepsSettled image hsettled, himages]

/-- What is created from the settings of a container is its successor. -/
theorem successor_of_replacementOf (created : String) {name : String}
    (hlabels : (Map.keys c.labels).Nodup) (himage : t.imageIdOf image = d.imageIdOf image)
    (hn : n = { d.replacementOf created c image with
      name := name, running := n.running, uptime := n.uptime })
    (hrunning : n.running =
      (c.running && !t.crashing.contains (Replacement.temporaryName c.name))) :
    t.Successor c name image n := by
  refine ⟨?_, ?_, ?_, ?_, ?_, hrunning⟩ <;> rw [hn]
  · exact replacementOf_labels (d := d) created image hlabels
  · rfl
  · exact replacementOf_image (d := d) created c image
  · exact (replacementOf_imageId created c image).trans himage.symm

end MemoryDaemon

namespace Replacement

open MemoryDaemon

variable {d u t : MemoryDaemon} {before after : List MemoryContainer} {c n : MemoryContainer}
  {ids : List String} {image : String}

/-- What the result of a replacement is in a report. -/
def outcomeOf : Except ReplaceError Replaced → Outcome
  | .ok done => .updated done.newId
  | .error (.rolledBack container cause) =>
      .rolledBack (ReplaceError.rolledBack container cause).message
  | .error e => .failed e.message

theorem Healthy.successor {name : String} (hn : Healthy d c image n) (hrunning : c.running = true)
    (hlabels : (Map.keys c.labels).Nodup) (himage : t.imageIdOf image = d.imageIdOf image)
    (hcrashing : t.crashing = d.crashing) : t.Successor c name image (n.renamed name) := by
  obtain ⟨⟨now, rfl⟩, -⟩ := hn
  apply successor_of_replacementOf (temporaryName c.name) hlabels himage rfl
  rw [hrunning, hcrashing, Bool.true_and]
  rfl

theorem Healthy.renamed_eq (hn : Healthy d c image n) :
    n.renamed (temporaryName c.name) = n := by
  obtain ⟨⟨now, rfl⟩, -⟩ := hn
  rfl

/-- Where only the containers beside `c` and a new one are left, `c` is gone. -/
theorem gone_holding (hl : d.Locates before c after)
    (hids : (d.containers.map MemoryContainer.id).Nodup) (hfresh : d.Unused d.nextId)
    (hn : n.id = d.nextId) (k : Nat) : (d.holding (before ++ after ++ [n]) k).Gone c.id := by
  intro o ho
  rcases List.mem_append.1 ho with ho | ho
  · exact hl.ne_of_nodup hids ho
  · rw [List.mem_singleton.1 ho, hn]
    exact (hfresh.id_ne hl.mem).symm

/-- The outcome of a replacement is true after it, and later when other containers were touched. -/
theorem Aftermath.tells {result : Except ReplaceError Replaced} (hl : d.Locates before c after)
    (hids : (d.containers.map MemoryContainer.id).Nodup) (hfresh : d.Unused d.nextId)
    (hlabels : (Map.keys c.labels).Nodup) (hsettled : d.Settled image) (hapart : d.Apart c ids)
    (h : Aftermath d before c after image result u) (ht : u.Touches ids t) :
    t.Tells c image (outcomeOf result) := by
  obtain ⟨_, _, hu⟩ := h.reshaped hl
  have himage : t.imageIdOf image = d.imageIdOf image :=
    imageIdOf_eq hsettled hu.images_eq hu.registry_eq ht
  have hcrashing : t.crashing = d.crashing := ht.crashing_eq.trans hu.crashing_eq
  have hgone : u.Gone c.id → t.Gone c.id := fun hgone => hapart.gone hu.created_le hgone ht
  have hsame : ∀ {o : MemoryContainer}, o.Same c → o ∈ u.containers → o ∈ t.containers :=
    fun hsame ho => hapart.mem_of_same hsame ho ht
  have hnew : ∀ {n : MemoryContainer}, n.id = d.nextId → n ∈ u.containers → n ∈ t.containers :=
    fun hid hn => hapart.mem_of_created hid hn ht
  cases h with
  | notInspected key e => exact .unchanged _ (hsame rfl hl.mem)
  | notStopped _ e => exact .unchanged _ (hsame rfl hl.mem)
  | notRemoved _ e => exact .unchanged _ (hsame rfl hl.mem)
  | notRecreated hstopped e =>
      exact .notRecreated e hstopped (hgone fun o ho => hl.ne_of_nodup hids ho)
  | recreated hstopped =>
      refine ⟨hgone (gone_holding hl hids hfresh rfl _), _,
        hnew rfl (List.mem_append_right _ List.mem_cons_self), rfl, ?_⟩
      apply successor_of_replacementOf c.name hlabels himage rfl
      rw [hstopped]
      rfl
  | rolledBack hrunning cause now hleft =>
      refine ⟨hrunning, d.started now c, hsame rfl ?_, rfl, ?_⟩
      · exact List.mem_append_right _ List.mem_cons_self
      · rw [hcrashing]
        rfl
  | notRestarted hrunning cause e hleft =>
      exact .notRestarted cause e hrunning
        (hsame rfl (List.mem_append_right _ List.mem_cons_self))
  | @oldNotRemoved hrunning e n hn =>
      refine .oldNotRemoved e hrunning ?_ (n := n) ?_ ?_
      · exact hsame rfl (List.mem_append_right _ List.mem_cons_self)
      · exact hnew hn.id_eq (by simp [holding])
      · rw [← hn.renamed_eq]
        exact hn.successor hrunning hlabels himage hcrashing
  | @notRenamed hrunning e n hn =>
      refine .notRenamed e hrunning ?_ (n := n) ?_ ?_
      · exact hgone (gone_holding hl hids hfresh hn.id_eq _)
      · exact hnew hn.id_eq (List.mem_append_right _ List.mem_cons_self)
      · rw [← hn.renamed_eq]
        exact hn.successor hrunning hlabels himage hcrashing
  | @tookOver hrunning n hn =>
      have hid : (n.renamed c.name).id = d.nextId := hn.id_eq
      refine ⟨hgone (gone_holding hl hids hfresh hid _), n.renamed c.name,
        hnew hid (List.mem_append_right _ List.mem_cons_self), hid, ?_⟩
      exact hn.successor hrunning hlabels himage hcrashing

end Replacement

namespace UpdateRun

open Program MemoryDaemon

variable {d u t : MemoryDaemon} {c : MemoryContainer} {cs : List MemoryContainer}
  {updater : Updater} {host : RunHost} {policy : UpdatePolicy} {r : ContainerRecord}
  {outcome : Outcome}

/-- Outcomes of containers that nothing was done to. -/
def Quiet : Outcome → Prop
  | .updated _ => False
  | .rolledBack _ => False
  | _ => True

theorem Quiet.tells {image : String} (h : Quiet outcome) (hc : c ∈ t.containers) :
    t.Tells c image outcome := by
  cases outcome with
  | skipped reason => exact hc
  | deferredSelf => exact hc
  | upToDate => exact hc
  | notified updateRef => exact hc
  | updated newId => exact h.elim
  | rolledBack reason => exact h.elim
  | failed reason => exact .unchanged reason hc

/-- A daemon that was made to have the image of the registry for a reference. -/
structure Fetched (d : MemoryDaemon) (reference : String) (u : MemoryDaemon) : Prop where
  exists_images : ∃ images, u = { d with images := images }
  settled : u.Settled reference
  keepsSettled : d.KeepsSettled u

theorem Fetched.touches {reference : String} (h : Fetched d reference u) : d.Touches [] u := by
  have hkeeps := h.keepsSettled
  obtain ⟨images, rfl⟩ := h.exists_images
  exact ⟨fun _ ho _ => ho, fun _ ho => .inl ho, Nat.le_refl _, hkeeps, rfl, rfl⟩

theorem Fetched.holds {reference : String} (h : Fetched d reference u) (hd : d.Holds cs) :
    u.Holds cs := by
  obtain ⟨images, rfl⟩ := h.exists_images
  exact ⟨hd.find?_eq, hd.nodup, hd.ids_nodup, hd.unused_idOf, hd.labels_nodup⟩

theorem of_replace (h : MemoryRun (replace updater r) d outcome t) :
    ∃ result, MemoryRun (Replacement.replace updater.stopTimeout r.id r.image) d result t ∧
      outcome = Replacement.outcomeOf result := by
  obtain ⟨result, d₁, hrun, h⟩ := runsIn_bind_iff.1 h
  refine ⟨result, ?_⟩
  split at h <;> obtain ⟨rfl, rfl⟩ := runsIn_pure_iff.1 h
  · exact ⟨hrun, rfl⟩
  · exact ⟨hrun, rfl⟩
  · next e hnot _ =>
      refine ⟨hrun, ?_⟩
      cases e with
      | step failed container e => rfl
      | rolledBack container cause => exact absurd rfl (hnot container cause)
      | rollbackFailed container cause e => rfl

theorem still_record (name imageId updateRef : String) :
    Still conduct (record name imageId updateRef) :=
  still_now.bind fun _ => still_store _

theorem of_notify {check : DigestCheck} (h : MemoryRun (notify host r check) d outcome t) :
    Quiet outcome ∧ t = d := by
  obtain ⟨saved, d₁, hrecord, h⟩ := runsIn_bind_iff.1 h
  have hd₁ := (still_record _ _ _).eq hrecord
  cases saved with
  | error e =>
      obtain ⟨rfl, rfl⟩ := runsIn_pure_iff.1 h
      exact ⟨trivial, hd₁⟩
  | ok _ =>
      obtain ⟨rfl, rfl⟩ := runsIn_pure_iff.1 h
      exact ⟨trivial, hd₁⟩

/-- What is done to a container: nothing, or its replacement once its image is there. -/
def Processed (updater : Updater) (r : ContainerRecord) (d : MemoryDaemon) (outcome : Outcome)
    (t : MemoryDaemon) : Prop :=
  (Quiet outcome ∧ t = d) ∨
    ∃ u result, Fetched d r.image u ∧
      MemoryRun (Replacement.replace updater.stopTimeout r.id r.image) u result t ∧
      outcome = Replacement.outcomeOf result

theorem of_pullAndReplace (hnot : ¬ d.Settled r.image)
    (h : MemoryRun (pullAndReplace updater r) d outcome t) : Processed updater r d outcome t := by
  obtain ⟨pulled, d₁, hpull, h⟩ := runsIn_bind_iff.1 h
  replace hpull := runsIn_call_iff.1 hpull
  cases pulled with
  | none =>
      obtain ⟨rfl, rfl⟩ := runsIn_pure_iff.1 h
      exact .inl ⟨trivial, hpull⟩
  | some reply =>
      replace hpull : d.Answers (.pull r.image) reply d₁ := hpull
      cases reply with
      | error e =>
          obtain ⟨rfl, rfl⟩ := runsIn_pure_iff.1 h
          exact .inl ⟨trivial, hpull.eq_of_error⟩
      | ok _ =>
          obtain ⟨digest, hdigest, rfl⟩ := hpull.of_pull
          obtain ⟨result, hrun, rfl⟩ := of_replace h
          exact .inr ⟨_, result, ⟨⟨_, rfl⟩, .of_pull hdigest, keepsSettled_of_pull hnot⟩, hrun, rfl⟩

theorem of_process (hrun : MemoryRun (process updater host policy r) d outcome t) :
    Processed updater r d outcome t := by
  obtain ⟨reply, d₁, hcheck, h⟩ := runsIn_bind_iff.1 hrun
  rw [(DigestCheck.still_ofReference _).eq hcheck] at h
  cases reply with
  | error e =>
      obtain ⟨rfl, rfl⟩ := runsIn_pure_iff.1 h
      exact .inl ⟨trivial, rfl⟩
  | ok check =>
      have hsettled := (DigestCheck.compares_of_ofReference hcheck).settled_iff
      dsimp only at h
      split at h
      · obtain ⟨rfl, rfl⟩ := runsIn_pure_iff.1 h
        exact .inl ⟨trivial, rfl⟩
      · split at h
        · exact .inl (of_notify h)
        · split at h
          · next havailable =>
              refine of_pullAndReplace (fun hd => ?_) h
              rw [hsettled.1 hd] at havailable
              cases havailable
          · next hcurrent =>
              obtain ⟨result, hreplace, rfl⟩ := of_replace h
              have hd := hsettled.2 (Bool.eq_false_iff.2 hcurrent)
              exact .inr ⟨d, result, ⟨⟨d.images, rfl⟩, hd, fun _ _ => rfl⟩, hreplace, rfl⟩

/-- The turn of `c`, before that of `cs`: only `c` is touched, and what is told of it is true, as it
will be when the others had their turn. -/
structure Turn (d : MemoryDaemon) (c : MemoryContainer) (cs : List MemoryContainer)
    (tells : MemoryDaemon → Prop) (t : MemoryDaemon) : Prop where
  touches : d.Touches [c.id] t
  holds : t.Holds cs
  tells_last : ∀ last, t.Touches (cs.map MemoryContainer.id) last → tells last

theorem turn_of_eq (hd : d.Holds (c :: cs)) {tells : MemoryDaemon → Prop}
    (htells : ∀ last : MemoryDaemon, c ∈ last.containers → tells last) : Turn d c cs tells d where
  touches := .refl d [c.id]
  holds := hd.tail
  tells_last last hlast :=
    htells last (hlast.kept c (hd.mem List.mem_cons_self) hd.apart.not_mem)

theorem Processed.turn (hd : d.Holds (c :: cs)) (hid : r.id = c.id)
    (h : Processed updater r d outcome t) :
    Turn d c cs (fun last => last.Tells c r.image outcome) t := by
  rcases h with ⟨hquiet, rfl⟩ | ⟨u, result, hfetched, hrun, rfl⟩
  · exact turn_of_eq hd fun last hc => hquiet.tells hc
  · have hu := hfetched.holds hd
    obtain ⟨before, after, hl⟩ := hu.exists_locates
    rw [hid] at hrun
    have hafter := Replacement.replace_aftermath hl hl.find? hu.unused_nextId hrun
    obtain ⟨middle, created, hreshaped⟩ := hafter.reshaped hl
    exact ⟨hfetched.touches.trans (hreshaped.touches hl), hreshaped.holds hl hu,
      fun last hlast => hafter.tells hl hu.ids_nodup hu.unused_nextId
        (hd.labels_nodup c List.mem_cons_self) hfetched.settled hu.apart hlast⟩

theorem step_truthful {done : Step} (hd : d.Holds (c :: cs)) (hid : r.id = c.id)
    (hname : r.name = c.name) (hrun : MemoryRun (step updater host policy r) d done t) :
    Turn d c cs (fun last => last.Truthful r.image c done.report) t := by
  obtain ⟨reply, d₁, hresolve, h⟩ := runsIn_bind_iff.1 hrun
  rw [(ContainerRecord.still_resolveReference r).eq hresolve] at h
  cases reply with
  | error e =>
      obtain ⟨rfl, rfl⟩ := runsIn_pure_iff.1 h
      exact turn_of_eq hd fun last hc => ⟨hid, hname, .inl ⟨_, rfl⟩, .unchanged _ hc⟩
  | ok resolved =>
      have hfind : d.find? r.id = some c := hid ▸ hd.find?_eq c List.mem_cons_self
      obtain ⟨hid', hname', himage⟩ := ContainerRecord.of_resolveReference hfind hresolve
      rw [hid] at hid'
      rw [hname] at hname'
      dsimp only at h
      split at h
      · obtain ⟨rfl, rfl⟩ := runsIn_pure_iff.1 h
        exact turn_of_eq hd fun last hc => ⟨hid', hname', .inr himage, hc⟩
      · obtain ⟨rfl, rfl⟩ := runsIn_pure_iff.1 h
        exact turn_of_eq hd fun last hc => ⟨hid', hname', .inr himage, hc⟩
      · obtain ⟨outcome, d₂, hprocess, h⟩ := runsIn_bind_iff.1 h
        obtain ⟨rfl, rfl⟩ := runsIn_pure_iff.1 h
        have hturn := (of_process hprocess).turn hd hid'
        exact ⟨hturn.touches, hturn.holds, fun last hlast =>
          ⟨hid', hname', .inr himage, hturn.tells_last last hlast⟩⟩

end UpdateRun

end ContainerFleet
