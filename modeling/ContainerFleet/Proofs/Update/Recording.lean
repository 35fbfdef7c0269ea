import ContainerFleet.Proofs.Update.Scene
import ContainerFleet.Proofs.Update.SelfUpdate

/-!
Update runs in which newer images are only recorded. Main statements: `handsOff_of_runs_run`, that
such a run changes nothing and asks no address, whatever the world replies, and `run_records`, what
it leaves in a store that does not fail.
-/

namespace ContainerFleet

/-- Whether a request asks the daemon to change a container or an image reference, or asks an
address. -/
def UpdateRequest.intervenes : UpdateRequest → Bool
  | .get _ _ => true
  | q => q.changesContainers

/-- Exchanges that change nothing. -/
def HandsOff (trace : List UpdateExchange) : Prop :=
  ∀ x ∈ trace, UpdateRequest.intervenes x.request = false

namespace MemoryDaemon

variable {d t : MemoryDaemon}

/-- A call that changes no container and no reference can only prune. -/
theorem exists_dangling_of_perform {call : DaemonCall} {now : Moment} {r : call.Reply}
    (hcall : call.changesContainers = false) (h : d.perform now call = (r, t)) :
    ∃ dangling, t = { d with dangling := dangling } := by
  cases call with
  | prune =>
      cases h
      exact ⟨⟨[], 0⟩, rfl⟩
  | inspect | image | registryDigest =>
      simp only [perform] at h
      split at h <;> exact ⟨d.dangling, (congrArg Prod.snd h).symm⟩
  | info | list | imageIds => exact ⟨d.dangling, (congrArg Prod.snd h).symm⟩
  | _ => cases hcall

theorem exists_dangling_of_conduct {q : UpdateRequest} {r : q.Reply}
    (hq : q.intervenes = false) (h : conduct q d r t) :
    ∃ dangling, t = { d with dangling := dangling } := by
  cases q with
  | daemon call =>
      rcases h with ⟨now, h⟩ | ⟨-, rfl⟩
      · exact exists_dangling_of_perform hq h
      · exact ⟨t.dangling, rfl⟩
  | pull image => cases hq
  | _ => exact ⟨d.dangling, h⟩

theorem exists_dangling_of_leads {trace : List UpdateExchange} (htrace : HandsOff trace)
    (h : Program.Leads conduct d trace t) : ∃ dangling, t = { d with dangling := dangling } := by
  induction h with
  | nil d => exact ⟨d.dangling, rfl⟩
  | cons hx _ ih =>
      obtain ⟨hfirst, hrest⟩ := List.forall_mem_cons.1 htrace
      obtain ⟨dangling, rfl⟩ := exists_dangling_of_conduct hfirst hx
      obtain ⟨dangling, rfl⟩ := ih hrest
      exact ⟨dangling, rfl⟩

end MemoryDaemon

/-- The record that a store took in, if an exchange is that. -/
def kept? : UpdateExchange → Option ImageUpdate
  | ⟨.store (.save u), .ok _⟩ => some u
  | _ => none

/-- The records that a store took in. -/
def kept (trace : List UpdateExchange) : List ImageUpdate :=
  trace.filterMap kept?

/-- The images that a run removed. -/
def UpdateReport.prunedIds (r : UpdateReport) : List String :=
  match r.prune with
  | some summary => summary.deleted
  | none => []

section Lookups

variable {t u : List UpdateExchange}

theorem HandsOff.append (ht : HandsOff t) (hu : HandsOff u) : HandsOff (t ++ u) :=
  List.forall_mem_append.2 ⟨ht, hu⟩

theorem Lookups.handsOff (h : Lookups t) : HandsOff t := by
  intro x hx
  obtain ⟨call, heq, hcall⟩ := UpdateRequest.of_isLookup (h x hx)
  rw [heq]
  exact hcall

theorem kept_append (t u : List UpdateExchange) : kept (t ++ u) = kept t ++ kept u :=
  List.filterMap_append

theorem Lookups.kept_eq (h : Lookups t) : kept t = [] := by
  apply List.filterMap_eq_nil_iff.2
  rintro ⟨q, r⟩ hx
  obtain ⟨call, rfl, -⟩ := UpdateRequest.of_isLookup (h _ hx)
  rfl

theorem Lookups.after_eq (h : Lookups t) (s : MemoryStore) : s.after t = s := by
  induction t generalizing s with
  | nil => rfl
  | cons x t ih =>
      obtain ⟨hx, ht⟩ := List.forall_mem_cons.1 h
      obtain ⟨q, r⟩ := x
      obtain ⟨call, rfl, -⟩ := UpdateRequest.of_isLookup hx
      exact ih ht s

end Lookups

namespace UpdateRun

open Program DigestCheck

variable {updater : Updater} {host : RunHost} {policy : UpdatePolicy}
  {trace : List UpdateExchange}

/-- Exchanges in which images are looked up, and at the end perhaps a newer one is remembered. -/
inductive Noting (name : String) : List UpdateExchange → Prop where
  | looked {t : List UpdateExchange} (h : Lookups t) : Noting name t
  | recorded {t : List UpdateExchange} (h : Lookups t) (imageId updateRef : String) (now : Moment)
      (saved : Except StoreError Unit) :
      Noting name (t ++ recording name imageId updateRef now saved)

theorem Noting.handsOff {name : String} (h : Noting name trace) : HandsOff trace := by
  cases h with
  | looked h => exact h.handsOff
  | recorded h imageId updateRef now saved =>
      apply h.handsOff.append
      simp [HandsOff, recording, UpdateRequest.intervenes, UpdateRequest.changesContainers]

theorem kept_recording {t : List UpdateExchange} {name imageId updateRef : String} {now : Moment}
    (h : Lookups t) :
    kept (t ++ recording name imageId updateRef now (.ok ())) =
      [⟨name, imageId, updateRef, .ofSinceEpoch now⟩] := by
  rw [kept_append, h.kept_eq]
  rfl

theorem kept_recording_error {t : List UpdateExchange} {name imageId updateRef : String}
    {now : Moment} {e : StoreError} (h : Lookups t) :
    kept (t ++ recording name imageId updateRef now (.error e)) = [] := by
  rw [kept_append, h.kept_eq]
  rfl

/-- A store that works has taken in what was to be remembered. -/
theorem Noting.after_eq {name : String} (h : Noting name trace) (hworks : MemoryStore.Works trace)
    (s : MemoryStore) : s.after trace = s.saveAll (kept trace) := by
  cases h with
  | looked h => rw [h.after_eq, h.kept_eq]; rfl
  | recorded h imageId updateRef now saved =>
      have hsaved := hworks (.save _) saved (List.mem_append_right _
        (List.mem_cons_of_mem _ List.mem_cons_self))
      cases saved with
      | error e =>
          obtain ⟨answer, hanswer⟩ := hsaved
          cases hanswer
      | ok _ =>
          rw [kept_recording h, MemoryStore.after_append, h.after_eq]
          rfl

/-- The visit to a container when newer images are only recorded, and what is kept of it. The
container is reported so exactly when a record of its image is kept. -/
inductive Watched (host : RunHost) (listed : ContainerRecord) :
    List UpdateExchange → Step → List ImageUpdate → Prop where
  | silent {t : List UpdateExchange} {done : Step} (h : Noting host.name t) (hkept : kept t = [])
      (hnot : ∀ digest, done.report.outcome ≠ .notified digest) : Watched host listed t done []
  | notified {t u : List UpdateExchange} {c : ContainerRecord} {check : DigestCheck}
      (hresolve : Resolves listed t (.ok c)) (hlook : LooksUp c.image u (.ok check))
      (now : Moment) :
      Watched host listed
        (t ++ u ++ recording host.name (recordedImage c check) check.remoteDigest now (.ok ()))
        (.ofOutcome c (.notified check.remoteDigest))
        [⟨host.name, recordedImage c check, check.remoteDigest, .ofSinceEpoch now⟩]

theorem watched_of_runs (hnotify : policy.notifyOnly = true) {listed : ContainerRecord}
    {done : Step} (hrun : Runs (step updater host policy listed) trace done) :
    Watched host listed trace done (kept trace) := by
  have hlooked : Lookups trace → (∀ digest, done.report.outcome ≠ .notified digest) →
      Watched host listed trace done (kept trace) := by
    intro h hnot
    rw [h.kept_eq]
    exact .silent (.looked h) h.kept_eq hnot
  cases visited_of_runs hrun with
  | unresolved h => exact hlooked h.lookups fun _ => Outcome.noConfusion
  | skipped h _ => exact hlooked h.lookups fun _ => Outcome.noConfusion
  | deferred h _ => exact hlooked h.lookups fun _ => Outcome.noConfusion
  | processed h _ hprocess =>
      cases processes_of_runs hprocess with
      | notCompared hlook =>
          exact hlooked (h.lookups.append (lookups_of_looksUp hlook)) fun _ => Outcome.noConfusion
      | upToDate hlook _ =>
          exact hlooked (h.lookups.append (lookups_of_looksUp hlook)) fun _ => Outcome.noConfusion
      | recorded hlook _ _ now saved =>
          have hlookups := h.lookups.append (lookups_of_looksUp hlook)
          rw [← List.append_assoc]
          cases saved with
          | error e =>
              rw [kept_recording_error hlookups]
              exact .silent (.recorded hlookups _ _ now _) (kept_recording_error hlookups)
                fun _ => Outcome.noConfusion
          | ok _ =>
              rw [kept_recording hlookups]
              exact .notified h hlook now
      | acted _ _ hchange _ => cases hnotify.symm.trans hchange

theorem Watched.noting {listed : ContainerRecord} {done : Step} {updates : List ImageUpdate}
    (h : Watched host listed trace done updates) : Noting host.name trace := by
  cases h with
  | silent h _ _ => exact h
  | notified hresolve hlook now =>
      exact .recorded (hresolve.lookups.append (lookups_of_looksUp hlook)) _ _ now _

theorem Watched.host_eq {listed : ContainerRecord} {done : Step} {updates : List ImageUpdate}
    (h : Watched host listed trace done updates) : ∀ u ∈ updates, u.host = host.name := by
  cases h <;> simp

/-- What is done about the program's own container, if it had to wait, when newer images are only
recorded, and what is kept of it: its record is for the host's image. -/
inductive WatchedSelf (host : RunHost) :
    Option ContainerReport → List UpdateExchange → SelfUpdate → List ImageUpdate → Prop where
  | silent {deferred : Option ContainerReport} {t : List UpdateExchange} {state : SelfUpdate}
      (h : Noting host.name t) (hkept : kept t = []) (hnot : state ≠ .notified) :
      WatchedSelf host deferred t state []
  | notified {e : ContainerReport} {t : List UpdateExchange} {check : DigestCheck}
      (hlook : LooksUp e.image t (.ok check)) (now : Moment) :
      WatchedSelf host (some e)
        (t ++ recording host.name check.localId check.remoteDigest now (.ok ())) .notified
        [⟨host.name, check.localId, check.remoteDigest, .ofSinceEpoch now⟩]

theorem watchedSelf_of_selfChecked (hnotify : policy.notifyOnly = true) {e : ContainerReport}
    {state : SelfUpdate} (h : SelfChecked updater host policy e.id e.image trace state) :
    WatchedSelf host (some e) trace state (kept trace) := by
  have hlooked : Lookups trace → state ≠ .notified →
      WatchedSelf host (some e) trace state (kept trace) := by
    intro h hnot
    rw [h.kept_eq]
    exact .silent (.looked h) h.kept_eq hnot
  cases h with
  | notCompared h => exact hlooked (lookups_of_looksUp h) SelfUpdate.noConfusion
  | upToDate h _ => exact hlooked (lookups_of_looksUp h) SelfUpdate.noConfusion
  | recorded h _ _ now saved =>
      have hlookups := lookups_of_looksUp h
      cases saved with
      | error e =>
          rw [kept_recording_error hlookups]
          exact .silent (.recorded hlookups _ _ now _) (kept_recording_error hlookups)
            SelfUpdate.noConfusion
      | ok _ =>
          rw [kept_recording hlookups]
          exact .notified h now
  | handedOver _ _ hchange => cases hnotify.symm.trans hchange

theorem WatchedSelf.noting {deferred : Option ContainerReport} {state : SelfUpdate}
    {updates : List ImageUpdate} (h : WatchedSelf host deferred trace state updates) :
    Noting host.name trace := by
  cases h with
  | silent h _ _ => exact h
  | notified hlook now => exact .recorded (lookups_of_looksUp hlook) _ _ now _

theorem WatchedSelf.host_eq {deferred : Option ContainerReport} {state : SelfUpdate}
    {updates : List ImageUpdate} (h : WatchedSelf host deferred trace state updates) :
    ∀ u ∈ updates, u.host = host.name := by
  cases h <;> simp

/-- Images are pruned unless the run was cancelled. -/
inductive PrunesOnce (host : RunHost) : List UpdateExchange → Option PruneSummary → Prop where
  | cancelled : PrunesOnce host [] none
  | pruned {t : List UpdateExchange} {summary : PruneSummary} (h : Prunes host t summary) :
      PrunesOnce host t (some summary)

theorem PrunesOnce.handsOff {summary : Option PruneSummary} (h : PrunesOnce host trace summary) :
    HandsOff trace := by
  cases h with
  | cancelled => exact List.forall_mem_nil _
  | pruned h =>
      cases h <;>
        simp [HandsOff, said, UpdateRequest.intervenes, UpdateRequest.changesContainers,
          DaemonCall.changesContainers]

/-- The parts of a run in which newer images are only recorded. -/
structure WatchedRun (updater : Updater) (host : RunHost) (policy : UpdatePolicy)
    (containers : List ContainerRecord) (trace : List UpdateExchange) (report : UpdateReport)
    (visits : List Visit) (pruned last : List UpdateExchange) : Prop where
  exists_visits : ∃ looped walked cancelled, trace = looped ++ asked cancelled :: (pruned ++ last) ∧
    Visits updater host policy containers visits looped walked ∧
    report.cancelled = (walked.cancelled || cancelled)
  reports_eq : report.containers = visits.map Visit.report
  watched : ∀ v ∈ visits, Watched host v.listed v.trace v.done (kept v.trace)
  prunes : PrunesOnce host pruned report.prune
  prune_isNone : report.prune.isNone = report.cancelled
  self : WatchedSelf host (lastDeferred? report.containers) last report.selfUpdate (kept last)

theorem exists_watchedRun {containers : List ContainerRecord} {report : UpdateReport}
    (hnotify : policy.notifyOnly = true)
    (hrun : Runs (run updater host policy containers) trace report) :
    ∃ visits pruned last,
      WatchedRun updater host policy containers trace report visits pruned last := by
  obtain ⟨looped, rest, walked, cancelled, rfl, hwalk, hfinish⟩ := parts_of_runs_run hrun
  obtain ⟨visits, hvisits⟩ := visits_of_runs_walk hwalk
  have hwatched : ∀ v ∈ visits, Watched host v.listed v.trace v.done (kept v.trace) :=
    fun v hv => watched_of_runs hnotify (hvisits.runs v hv)
  have hlast := deferred_of_runs_walk hwalk
  rw [Option.map_none, Option.or_none] at hlast
  have hfinished := finished_of_runs hfinish
  generalize hstop : (walked.cancelled || cancelled) = stop at hfinished
  cases hfinished with
  | cancelled =>
      refine ⟨visits, [], [], ⟨looped, walked, cancelled, rfl, hvisits, hstop.symm⟩,
        hvisits.reports_eq, hwatched, .cancelled, rfl, .silent (.looked (List.forall_mem_nil _)) rfl ?_⟩
      dsimp only
      split <;> exact SelfUpdate.noConfusion
  | noneDeferred _ hprune =>
      exact ⟨visits, rest, [],
        ⟨looped, walked, cancelled, by rw [List.append_nil], hvisits, hstop.symm⟩,
        hvisits.reports_eq, hwatched, .pruned (prunes_of_runs hprune), rfl,
        .silent (.looked (List.forall_mem_nil _)) rfl SelfUpdate.noConfusion⟩
  | @deferred me hsome t u summary hprune state hself =>
      rw [hsome, Option.map_some] at hlast
      refine ⟨visits, t, u, ⟨looped, walked, cancelled, rfl, hvisits, hstop.symm⟩,
        hvisits.reports_eq, hwatched, .pruned (prunes_of_runs hprune), rfl, ?_⟩
      dsimp only
      rw [← hlast]
      exact watchedSelf_of_selfChecked (e := deferredEntry me) hnotify (selfChecked_of_runs hself)

/-- The records that were kept in the visits to containers, in their order. -/
def keptOf (visits : List Visit) : List ImageUpdate :=
  visits.flatMap fun v => kept v.trace

theorem keptOf_cons (v : Visit) (visits : List Visit) :
    keptOf (v :: visits) = kept v.trace ++ keptOf visits :=
  List.flatMap_cons

theorem after_asked (s : MemoryStore) (cancelled : Bool) : s.after [asked cancelled] = s :=
  rfl

/-- By induction on the visits: each leaves in the store what it kept. -/
theorem after_visits {visits : List Visit} (h : ∀ v ∈ visits, Noting host.name v.trace)
    (hworks : MemoryStore.Works (visits.flatMap Visit.exchanges)) (s : MemoryStore) :
    s.after (visits.flatMap Visit.exchanges) = s.saveAll (keptOf visits) := by
  induction visits generalizing s with
  | nil => rfl
  | cons v visits ih =>
      rw [List.forall_mem_cons] at h
      rw [List.flatMap_cons] at hworks ⊢
      have hfirst : s.after v.exchanges = s.saveAll (kept v.trace) :=
        h.1.after_eq (hworks.mono fun x hx =>
          List.mem_append_left _ (List.mem_cons_of_mem _ hx)) s
      have hrest := ih h.2 (hworks.mono (List.subset_append_right _ _)) (s.after v.exchanges)
      rw [MemoryStore.after_append, hrest, hfirst, keptOf_cons, MemoryStore.saveAll_append]

namespace WatchedRun

variable {containers : List ContainerRecord} {report : UpdateReport} {visits : List Visit}
  {pruned last : List UpdateExchange}

theorem handsOff
    (h : WatchedRun updater host policy containers trace report visits pruned last) :
    HandsOff trace := by
  obtain ⟨looped, walked, cancelled, rfl, hvisits, -⟩ := h.exists_visits
  have hlooped : HandsOff looped :=
    hvisits.forall_mem (fun _ => rfl) fun v hv => (h.watched v hv).noting.handsOff
  have hasked : HandsOff [asked cancelled] := List.forall_mem_singleton.2 rfl
  exact hlooped.append (hasked.append (h.prunes.handsOff.append h.self.noting.handsOff))

theorem after_eq
    (h : WatchedRun updater host policy containers trace report visits pruned last)
    (hworks : MemoryStore.Works trace) (s : MemoryStore) :
    s.after trace =
      ((s.saveAll (keptOf visits)).delete host.name report.prunedIds).saveAll (kept last) := by
  obtain ⟨looped, walked, cancelled, rfl, hvisits, -⟩ := h.exists_visits
  have hlooped : s.after looped = s.saveAll (keptOf visits) := by
    have htrace := hvisits.trace_eq
    rw [htrace] at hworks ⊢
    rw [MemoryStore.after_append, after_visits (fun v hv => (h.watched v hv).noting)
      (hworks.mono fun x hx => by simp [hx])]
    split <;> rfl
  have hpruned : ∀ s : MemoryStore, s.after pruned = s.delete host.name report.prunedIds := by
    intro s
    have hprunes := h.prunes
    rw [UpdateReport.prunedIds]
    generalize report.prune = summary at hprunes
    cases hprunes with
    | cancelled => rfl
    | pruned hprunes => cases hprunes <;> rfl
  rw [MemoryStore.after_append, hlooped, ← List.singleton_append, MemoryStore.after_append,
    after_asked, MemoryStore.after_append, hpruned,
    h.self.noting.after_eq (hworks.mono fun x hx => by simp [hx])]

theorem host_eq
    (h : WatchedRun updater host policy containers trace report visits pruned last) :
    ∀ u ∈ keptOf visits ++ kept last, u.host = host.name := by
  rw [List.forall_mem_append]
  refine ⟨?_, h.self.host_eq⟩
  intro u hu
  obtain ⟨v, hv, hu⟩ := List.mem_flatMap.1 hu
  exact (h.watched v hv).host_eq u hu

/-- What is not about a container that was reported or an image that was removed stays. -/
theorem get?_eq (h : WatchedRun updater host policy containers trace report visits pruned last)
    (s : MemoryStore) {k : String × String}
    (hk : k.1 = host.name →
      k.2 ∉ report.prunedIds ∧ ∀ u ∈ keptOf visits ++ kept last, u.imageId ≠ k.2) :
    (((s.saveAll (keptOf visits)).delete host.name report.prunedIds).saveAll
      (kept last)).records.get? k = s.records.get? k := by
  have hne : ∀ u ∈ keptOf visits ++ kept last, u.key ≠ k := by
    rintro u hu rfl
    exact (hk (h.host_eq u hu)).2 u hu rfl
  rw [List.forall_mem_append] at hne
  rw [MemoryStore.get?_saveAll_of_forall_ne hne.2,
    MemoryStore.get?_delete_of_ne fun hhost => (hk hhost).1,
    MemoryStore.get?_saveAll_of_forall_ne hne.1]

end WatchedRun

theorem handsOff_of_runs_run {containers : List ContainerRecord} {report : UpdateReport}
    (hnotify : policy.notifyOnly = true)
    (hrun : Runs (run updater host policy containers) trace report) : HandsOff trace := by
  obtain ⟨visits, pruned, last, h⟩ := exists_watchedRun hnotify hrun
  exact h.handsOff

/-- A run in which newer images are only recorded, over any containers, whatever the daemon replies
and whenever the run is cancelled. No daemon in memory is changed by it but for the images that are
pruned. The store ends as it was with these records put in: in the order of the containers one for
each that is reported so; then those for the removed images are dropped; and last comes the one for
the program's own container, if that is reported so. All other records stay, and none is doubled. -/
theorem run_records {containers : List ContainerRecord} {report : UpdateReport}
    {s t : MemoryStore} (hnotify : policy.notifyOnly = true)
    (hrun : Converses MemoryStore.conduct (run updater host policy containers) s trace report t) :
    HandsOff trace ∧
      (∀ d d', Leads MemoryDaemon.conduct d trace d' →
        ∃ dangling, d' = { d with dangling := dangling }) ∧
      ∃ visits pruned last,
        WatchedRun updater host policy containers trace report visits pruned last ∧
        t = ((s.saveAll (keptOf visits)).delete host.name report.prunedIds).saveAll (kept last) ∧
        (∀ k, (k.1 = host.name →
            k.2 ∉ report.prunedIds ∧ ∀ u ∈ keptOf visits ++ kept last, u.imageId ≠ k.2) →
          t.records.get? k = s.records.get? k) ∧
        ((Map.keys s.records).Nodup → (Map.keys t.records).Nodup) := by
  obtain ⟨visits, pruned, last, h⟩ := exists_watchedRun hnotify hrun.runs
  obtain ⟨rfl, hworks⟩ := MemoryStore.after_of_leads hrun.leads
  rw [h.after_eq hworks]
  refine ⟨h.handsOff, fun d d' => MemoryDaemon.exists_dangling_of_leads h.handsOff, visits, pruned,
    last, h, rfl, fun k hk => h.get?_eq s hk, fun hs => ?_⟩
  exact MemoryStore.nodup_keys_saveAll
    (MemoryStore.nodup_keys_delete (MemoryStore.nodup_keys_saveAll hs _) _ _) _

/-- The program's own container and two others of one image. The registry has newer images for all;
there is an image to prune, and a store that remembers it, here and elsewhere, and an older update. -/
def threeOutdated : Scene MemoryStore where
  daemon :=
    { siblings with
      containers :=
        { MemoryDaemon.web [(Label.selfKey, "true")] with
          id := "c0", name := "dockman", image := "dockman:1", imageId := "sha256:d" } ::
            siblings.containers
      images := ("dockman:1", ⟨"sha256:d", ["dockman@sha256:o"]⟩) :: siblings.images
      registry := ("dockman:1", "sha256:m") :: siblings.registry
      dangling := ⟨["sha256:x"], 5⟩ }
  store :=
    MemoryStore.empty.saveAll
      [⟨"local", "sha256:x", "sha256:y", .ofSinceEpoch 0⟩,
        ⟨"there", "sha256:x", "sha256:y", .ofSinceEpoch 0⟩,
        ⟨"local", "sha256:old", "sha256:y", .ofSinceEpoch 0⟩]
  clock := (0 : Int)

/-- The two leave one record, in place of the older one; that of the pruned image is gone. -/
theorem run_records_threeOutdated :
    let policy := { UpdatePolicy.plain with notifyOnly := true }
    let ended := (Surroundings.plain fun _ => none).converse
      (run ⟨"", none, .zero⟩ ⟨"local", .local⟩ policy (threeOutdated.daemon.list true)) threeOutdated
    policy.notifyOnly = true ∧ HandsOff ended.1 ∧
      (Map.keys ended.2.2.store.records).Nodup ∧
      ended.2.2.store.records.map (fun entry => (entry.1, entry.2.updateRef)) =
        [(("there", "sha256:x"), "sha256:y"), (("local", "sha256:old"), "sha256:n"),
          (("local", "sha256:d"), "sha256:m")] := by
  have hrun := Surroundings.converses_store (fun _ => none) (run ⟨"", none, .zero⟩
    ⟨"local", .local⟩ { UpdatePolicy.plain with notifyOnly := true }
    (threeOutdated.daemon.list true)) threeOutdated
  obtain ⟨hhands, -, visits, pruned, last, -, -, -, hnodup⟩ := run_records rfl hrun
  exact ⟨rfl, hhands, hnodup (by decide), by decide +kernel⟩

end UpdateRun

end ContainerFleet
