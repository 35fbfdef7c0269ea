import ContainerFleet.Proofs.Daemon.Service
import ContainerFleet.Proofs.Update.Handling
import ContainerFleet.Proofs.Update.Run

/-!
What is done about the program's own container at the end of an update run. Main statements:
`selfUpdate_agrees_iff`, when it is judged as any other container is, and `lastDeferred_checked`,
that of the containers that have to wait only the last one is seen to.
-/

namespace ContainerFleet.UpdateRun

open Program DigestCheck MemoryDaemon

variable {updater : Updater} {host : RunHost} {policy : UpdatePolicy} {me : ContainerRecord}
  {trace : List UpdateExchange} {state : SelfUpdate} {outcome : Outcome}

/-- The exchanges in which the helper is asked at an address. -/
def requesting (url : String) (now : Moment) (reply : HttpReply) : List UpdateExchange :=
  [⟨UpdateRequest.now, now⟩, ⟨UpdateRequest.get url Sidecar.timeout, reply⟩,
    ⟨UpdateRequest.sleepUntil (now.after reply.took), ()⟩]

theorem exists_requesting_of_runs {baseUrl id : String} {answer : Except SidecarError Unit}
    (h : Runs (Sidecar.trigger baseUrl id) trace answer) :
    ∃ now reply, trace = requesting (Sidecar.address baseUrl id) now reply ∧
      answer = Sidecar.judge (Sidecar.address baseUrl id) reply := by
  obtain ⟨t, u, now, rfl, hnow, h⟩ := runs_bind_iff.1 h
  obtain ⟨v, w, reply, rfl, hget, h⟩ := runs_bind_iff.1 h
  obtain ⟨x, y, _, rfl, hsleep, h⟩ := runs_bind_iff.1 h
  obtain ⟨rfl, rfl⟩ := runs_pure_iff.1 h
  rw [runs_call_iff.1 hnow, runs_call_iff.1 hget, runs_call_iff.1 hsleep]
  exact ⟨now, reply, rfl, rfl⟩

/-- What a record that was to be kept means for the program's own container. -/
def stateOfSaved : Except StoreError Unit → SelfUpdate
  | .ok () => .notified
  | .error e => .failed e.message

/-- What the helper's answer means for the program's own container. -/
def stateOfAnswer : Except SidecarError Unit → SelfUpdate
  | .ok () => .triggered
  | .error e => .failed e.message

/-- The exchanges about a container that has to wait, and what comes of them: its image is looked
up, and if the registry has a newer one, that is remembered or the helper asked. -/
inductive SelfChecked (updater : Updater) (host : RunHost) (policy : UpdatePolicy)
    (id image : String) : List UpdateExchange → SelfUpdate → Prop where
  | notCompared {t : List UpdateExchange} {e : DigestError} (h : LooksUp image t (.error e)) :
      SelfChecked updater host policy id image t (.failed e.message)
  | upToDate {t : List UpdateExchange} {check : DigestCheck} (h : LooksUp image t (.ok check))
      (hcurrent : check.updateAvailable = false) :
      SelfChecked updater host policy id image t .upToDate
  | recorded {t : List UpdateExchange} {check : DigestCheck} (h : LooksUp image t (.ok check))
      (havailable : check.updateAvailable = true) (hnotify : policy.notifyOnly = true)
      (now : Moment) (saved : Except StoreError Unit) :
      SelfChecked updater host policy id image
        (t ++ recording host.name check.localId check.remoteDigest now saved) (stateOfSaved saved)
  | handedOver {t : List UpdateExchange} {check : DigestCheck} (h : LooksUp image t (.ok check))
      (havailable : check.updateAvailable = true) (hchange : policy.notifyOnly = false)
      {url : String}
      (hurl : url = Sidecar.address updater.sidecarUrl (updater.selfContainerId.getD id))
      (now : Moment) (reply : HttpReply) :
      SelfChecked updater host policy id image (t ++ requesting url now reply)
        (stateOfAnswer (Sidecar.judge url reply))

theorem selfChecked_of_runs (h : Runs (selfUpdate updater host policy me) trace state) :
    SelfChecked updater host policy me.id me.image trace state := by
  obtain ⟨t, u, reply, rfl, hcheck, h⟩ := runs_bind_iff.1 h
  have hlooks := looksUp_of_runs hcheck
  cases reply with
  | error e =>
      obtain ⟨rfl, rfl⟩ := runs_pure_iff.1 h
      rw [List.append_nil]
      exact .notCompared hlooks
  | ok check =>
      dsimp only at h
      split at h
      · next hcurrent =>
          obtain ⟨rfl, rfl⟩ := runs_pure_iff.1 h
          rw [List.append_nil]
          exact .upToDate hlooks (by simpa using hcurrent)
      · next havailable =>
          replace havailable : check.updateAvailable = true := by simpa using havailable
          split at h
          · next hnotify =>
              obtain ⟨v, w, saved, rfl, hrecord, hrest⟩ := runs_bind_iff.1 h
              obtain ⟨now, rfl⟩ := exists_recording_of_runs hrecord
              have hend : w = [] ∧ state = stateOfSaved saved := by
                cases saved <;> exact runs_pure_iff.1 hrest
              rw [hend.1, hend.2, List.append_nil]
              exact .recorded hlooks havailable hnotify now saved
          · next hchange =>
              obtain ⟨v, w, answer, rfl, htrigger, hrest⟩ := runs_bind_iff.1 h
              have hend : w = [] ∧ state = stateOfAnswer answer := by
                cases answer <;> exact runs_pure_iff.1 hrest
              obtain ⟨now, reply, rfl, rfl⟩ := exists_requesting_of_runs htrigger
              rw [hend.1, hend.2, List.append_nil]
              exact .handedOver hlooks havailable (Bool.eq_false_iff.2 hchange) rfl now reply

section Agreement

variable {k : ImageAnswers} {t v : List UpdateExchange}

/-- The host, image and digest of a record that is to be kept. -/
def saved? : UpdateExchange → Option (String × String × String)
  | ⟨.store (.save u), _⟩ => some (u.host, u.imageId, u.updateRef)
  | _ => none

/-- What is recorded in some exchanges, whenever that is. -/
def recorded (trace : List UpdateExchange) : List (String × String × String) :=
  trace.filterMap saved?

theorem recorded_looksUp {reference : String} {reply : Except DigestError DigestCheck}
    (h : LooksUp reference t reply) : recorded t = [] := by
  cases h <;> rfl

theorem recorded_append_recording (h : recorded t = []) (name imageId updateRef : String)
    (now : Moment) (saved : Except StoreError Unit) :
    recorded (t ++ recording name imageId updateRef now saved) = [(name, imageId, updateRef)] := by
  rw [recorded, List.filterMap_append, ← recorded, h]
  rfl

/-- The exchanges about a container that does not have to wait, and its outcome: its image is looked
up, and if the registry or the host has a newer one, that is remembered or something done. -/
inductive Processes (host : RunHost) (policy : UpdatePolicy) (c : ContainerRecord) :
    List UpdateExchange → Outcome → Prop where
  | notCompared {t : List UpdateExchange} {e : DigestError} (h : LooksUp c.image t (.error e)) :
      Processes host policy c t (.failed e.message)
  | upToDate {t : List UpdateExchange} {check : DigestCheck} (h : LooksUp c.image t (.ok check))
      (hcurrent : (check.updateAvailable || check.isSuperseded c.imageId) = false) :
      Processes host policy c t .upToDate
  | recorded {t : List UpdateExchange} {check : DigestCheck} (h : LooksUp c.image t (.ok check))
      (hstale : (check.updateAvailable || check.isSuperseded c.imageId) = true)
      (hnotify : policy.notifyOnly = true) (now : Moment) (saved : Except StoreError Unit) :
      Processes host policy c
        (t ++ recording host.name (recordedImage c check) check.remoteDigest now saved)
        (outcomeOfSaved check.remoteDigest saved)
  | acted {t u : List UpdateExchange} {check : DigestCheck} {outcome : Outcome}
      (h : LooksUp c.image t (.ok check))
      (hstale : (check.updateAvailable || check.isSuperseded c.imageId) = true)
      (hchange : policy.notifyOnly = false) (hacted : Acted outcome) :
      Processes host policy c (t ++ u) outcome

theorem processes_of_runs (h : Runs (process updater host policy me) trace outcome) :
    Processes host policy me trace outcome := by
  cases handles_of_runs h with
  | notCompared hlook => exact .notCompared hlook
  | upToDate hlook hcurrent => exact .upToDate hlook hcurrent
  | recorded hlook hstale hnotify now saved => exact .recorded hlook hstale hnotify now saved
  | abandoned hlook havailable hchange =>
      exact .acted hlook (by rw [havailable, Bool.true_or]) hchange trivial
  | notPulled hlook havailable hchange e =>
      exact .acted hlook (by rw [havailable, Bool.true_or]) hchange trivial
  | pulled hlook havailable hchange hreplace =>
      exact .acted hlook (by rw [havailable, Bool.true_or]) hchange (acted_outcomeOf _)
  | superseded hlook hcurrent hother hchange hreplace =>
      exact .acted hlook (by rw [hother, Bool.or_true]) hchange (acted_outcomeOf _)

/-- What is recorded for the program's own container that has to wait. -/
def selfRecords (host : RunHost) (check : DigestCheck) : List (String × String × String) :=
  if check.updateAvailable then [(host.name, check.localId, check.remoteDigest)] else []

/-- What is recorded for a container that does not have to wait. -/
def records (host : RunHost) (c : ContainerRecord) (check : DigestCheck) :
    List (String × String × String) :=
  if check.updateAvailable || check.isSuperseded c.imageId then
    [(host.name, recordedImage c check, check.remoteDigest)]
  else []

theorem recordedImage_eq_iff {check : DigestCheck} :
    check.localId = recordedImage me check ↔ check.isSuperseded me.imageId = false := by
  unfold recordedImage isSuperseded
  split
  · next h => simp [h]
  · next h => simpa [h] using eq_comm

/-- The records differ for a container that the host has superseded, and only for such a one. -/
theorem selfRecords_eq_records_iff {check : DigestCheck} :
    selfRecords host check = records host me check ↔ check.isSuperseded me.imageId = false := by
  unfold selfRecords records
  cases check.updateAvailable with
  | true => simp [recordedImage_eq_iff]
  | false => simp

/-- A container that has to wait is judged by the registry. -/
theorem judged_of_selfChecked {id image : String}
    (h : SelfChecked updater host policy id image t state) (ht : ∀ x ∈ t, k.Allows x) :
    match k.check image with
    | .error e => state = .failed e.message ∧ recorded t = []
    | .ok check => (state = .upToDate ↔ check.updateAvailable = false) ∧
        (policy.notifyOnly = true → recorded t = selfRecords host check) := by
  cases h with
  | notCompared h =>
      rw [← k.eq_check_of_looksUp h ht]
      exact ⟨rfl, recorded_looksUp h⟩
  | upToDate h hcurrent =>
      rw [← k.eq_check_of_looksUp h ht]
      refine ⟨iff_of_true rfl hcurrent, fun _ => ?_⟩
      rw [recorded_looksUp h, selfRecords, hcurrent]
      rfl
  | recorded h havailable _ now saved =>
      rw [← k.eq_check_of_looksUp h fun x hx => ht x (List.mem_append_left _ hx)]
      refine ⟨iff_of_false ?_ (by simp [havailable]), fun _ => ?_⟩
      · cases saved <;> exact SelfUpdate.noConfusion
      · rw [recorded_append_recording (recorded_looksUp h), selfRecords, havailable]
        rfl
  | handedOver h havailable hchange _ now reply =>
      rw [← k.eq_check_of_looksUp h fun x hx => ht x (List.mem_append_left _ hx)]
      refine ⟨iff_of_false ?_ (by simp [havailable]), fun hnotify => ?_⟩
      · generalize Sidecar.judge _ reply = answer
        cases answer <;> exact SelfUpdate.noConfusion
      · rw [hchange] at hnotify
        cases hnotify

/-- A container that does not have to wait is judged by the registry and the host. -/
theorem judged_of_processes (h : Processes host policy me v outcome) (hv : ∀ x ∈ v, k.Allows x) :
    match k.check me.image with
    | .error e => outcome = .failed e.message ∧ recorded v = []
    | .ok check =>
        (outcome = .upToDate ↔ (check.updateAvailable || check.isSuperseded me.imageId) = false) ∧
          (policy.notifyOnly = true → recorded v = records host me check) := by
  cases h with
  | notCompared h =>
      rw [← k.eq_check_of_looksUp h hv]
      exact ⟨rfl, recorded_looksUp h⟩
  | upToDate h hcurrent =>
      rw [← k.eq_check_of_looksUp h hv]
      refine ⟨iff_of_true rfl hcurrent, fun _ => ?_⟩
      rw [recorded_looksUp h, records, hcurrent]
      rfl
  | recorded h hstale _ now saved =>
      rw [← k.eq_check_of_looksUp h fun x hx => hv x (List.mem_append_left _ hx)]
      refine ⟨iff_of_false ?_ (by simp [hstale]), fun _ => ?_⟩
      · cases saved <;> exact Outcome.noConfusion
      · rw [recorded_append_recording (recorded_looksUp h), records, hstale]
        rfl
  | acted h hstale hchange hacted =>
      rw [← k.eq_check_of_looksUp h fun x hx => hv x (List.mem_append_left _ hx)]
      refine ⟨iff_of_false ?_ (by simp [hstale]), fun hnotify => ?_⟩
      · rintro rfl
        exact hacted
      · rw [hchange] at hnotify
        cases hnotify

/-- The program's own container, which has to wait, and any other one with the same record are
judged against the same images. They are both up to date or both not unless the registry has no
other image than the host, and the container runs another one; and where newer images are only
recorded, the records are the same exactly when the container runs the image of the host. -/
theorem selfUpdate_agrees_iff (hself : Runs (selfUpdate updater host policy me) t state)
    (hprocess : Runs (process updater host policy me) v outcome) (ht : ∀ x ∈ t, k.Allows x)
    (hv : ∀ x ∈ v, k.Allows x) :
    ((state = .upToDate ↔ outcome = .upToDate) ↔
      ∀ check, k.check me.image = .ok check → check.updateAvailable = false →
        check.isSuperseded me.imageId = false) ∧
    (policy.notifyOnly = true →
      (recorded t = recorded v ↔
        ∀ check, k.check me.image = .ok check → check.isSuperseded me.imageId = false)) := by
  have hstate := judged_of_selfChecked (selfChecked_of_runs hself) ht
  have houtcome := judged_of_processes (processes_of_runs hprocess) hv
  cases hcheck : k.check me.image with
  | error e =>
      rw [hcheck] at hstate houtcome
      obtain ⟨rfl, hrecorded⟩ := hstate
      obtain ⟨rfl, hrecorded'⟩ := houtcome
      simp [hrecorded, hrecorded']
  | ok check =>
      rw [hcheck] at hstate houtcome
      obtain ⟨hstate, hrecorded⟩ := hstate
      obtain ⟨houtcome, hrecorded'⟩ := houtcome
      refine ⟨?_, fun hnotify => ?_⟩
      · rw [hstate, houtcome]
        simp
      · rw [hrecorded hnotify, hrecorded' hnotify, selfRecords_eq_records_iff]
        simp

/-- The program's own container, listed by its reference. -/
def own : ContainerRecord :=
  ⟨"c0", "dockman", "app:1", "sha256:old", [(Label.selfKey, "true")], some "running"⟩

/-- The program's own container beside one of the same image, and a registry with a newer one. -/
def ownSiblings : MemoryDaemon :=
  { siblings with
    containers := [{ web [(Label.selfKey, "true")] with id := "c0", name := "dockman" }, web []] }

/-- Both find the newer image of the registry, and record it for the image that runs. -/
theorem selfUpdate_agrees_ownSiblings :
    let policy := { UpdatePolicy.plain with notifyOnly := true }
    let self := (selfUpdate ⟨"", none, .zero⟩ ⟨"here", .local⟩ policy own).served ownSiblings
    let other := (process ⟨"", none, .zero⟩ ⟨"here", .local⟩ policy own).served ownSiblings
    own ∈ ownSiblings.list true ∧ (self.2.1 = .upToDate ↔ other.2.1 = .upToDate) ∧
      recorded self.1 = recorded other.1 ∧ self.2.1 = .notified := by
  have hself := converses_served (selfUpdate ⟨"", none, .zero⟩ ⟨"here", .local⟩
    { UpdatePolicy.plain with notifyOnly := true } own) ownSiblings
  have hother := converses_served (process ⟨"", none, .zero⟩ ⟨"here", .local⟩
    { UpdatePolicy.plain with notifyOnly := true } own) ownSiblings
  have hagrees := selfUpdate_agrees_iff hself.runs hother.runs
    (allows_of_converses hself (by decide +kernel)) (allows_of_converses hother (by decide +kernel))
  have hcheck : ownSiblings.imageAnswers.check own.image = .ok ⟨true, "sha256:old", "sha256:n"⟩ :=
    eq_ok_of_toOption (by decide +kernel)
  have hcurrent : ∀ check, ownSiblings.imageAnswers.check own.image = .ok check →
      check.isSuperseded own.imageId = false := by
    intro check h
    cases hcheck.symm.trans h
    decide
  exact ⟨by decide +kernel, hagrees.1.2 fun check h _ => hcurrent check h,
    (hagrees.2 rfl).2 hcurrent, by decide +kernel⟩

/-- The program's own container, which runs an older image than the host has by now. -/
def supersededOwn : MemoryDaemon :=
  { empty with
    containers := [{ web [(Label.selfKey, "true")] with id := "c0", name := "dockman" }]
    images := [("app:1", ⟨"sha256:new", ["app@sha256:n"]⟩)]
    registry := [("app:1", "sha256:n")] }

/-- A run finds the container up to date, while another one with its record is not, and has the
newer image recorded. -/
theorem not_selfUpdate_agrees_supersededOwn :
    let policy := { UpdatePolicy.plain with notifyOnly := true }
    let report := ((run ⟨"", none, .zero⟩ ⟨"local", .local⟩ policy
      (supersededOwn.list true)).served supersededOwn).2.1
    let self := (selfUpdate ⟨"", none, .zero⟩ ⟨"local", .local⟩ policy own).served supersededOwn
    let other := (process ⟨"", none, .zero⟩ ⟨"local", .local⟩ policy own).served supersededOwn
    report.outcome? "dockman" = some .deferredSelf ∧ report.selfUpdate = .upToDate ∧
      self.2.1 = .upToDate ∧ other.2.1 = .notified "sha256:n" ∧
      recorded self.1 = [] ∧ recorded other.1 = [("local", "sha256:old", "sha256:n")] := by
  decide +kernel

/-- It is so too when another container brought the newer image in the same run. -/
example :
    let ended := ((run ⟨"", none, .zero⟩ ⟨"here", .local⟩ .plain
      (ownSiblings.list true)).served ownSiblings).2
    ended.1.outcome? "web" = some (.updated "new1") ∧ ended.1.selfUpdate = .upToDate ∧
      ended.2.imageIdOf "app:1" ≠ own.imageId := by
  decide +kernel

end Agreement

/-- What becomes of the containers that have to wait. Nothing is done when there are none. -/
inductive DeferredSeen (updater : Updater) (host : RunHost) (policy : UpdatePolicy) :
    Option ContainerReport → List UpdateExchange → SelfUpdate → Prop where
  | none : DeferredSeen updater host policy none [] .notDeferred
  | checked {e : ContainerReport} {t : List UpdateExchange} {state : SelfUpdate}
      (h : SelfChecked updater host policy e.id e.image t state) :
      DeferredSeen updater host policy (some e) t state

/-- The only container that has to wait is the last one. -/
theorem lastDeferred?_eq_some {reports : List ContainerReport} {e : ContainerReport}
    (he : e ∈ reports) (hdeferred : e.outcome = .deferredSelf)
    (honly : ∀ o ∈ reports, o.outcome = .deferredSelf → o = e) :
    lastDeferred? reports = some e := by
  have hmem : e ∈ reports.filter fun o => o.outcome = .deferredSelf :=
    List.mem_filter.2 ⟨he, decide_eq_true hdeferred⟩
  have hlast := List.getLast?_eq_some_getLast (List.ne_nil_of_mem hmem)
  obtain ⟨hlisted, hoption⟩ := List.mem_filter.1 (List.mem_of_getLast? hlast)
  rw [lastDeferred?, hlast, honly _ hlisted (of_decide_eq_true hoption)]

/-- The end of an update run that was not cancelled: all containers were visited, images are pruned,
and then the last of the containers that have to wait is checked, and handed over or recorded. When
it is the only one, no other is lost; before it, others are, since there is no other exchange. -/
theorem lastDeferred_checked {containers : List ContainerRecord} {report : UpdateReport}
    (hrun : Runs (run updater host policy containers) trace report)
    (hend : report.cancelled = false) :
    ∃ visits looped walked pruned summary last,
      trace = looped ++ asked false :: (pruned ++ last) ∧
      Visits updater host policy containers visits looped walked ∧
      visits.map Visit.listed = containers ∧ report.containers = visits.map Visit.report ∧
      Runs (prune host) pruned summary ∧ report.prune = some summary ∧
      DeferredSeen updater host policy (lastDeferred? report.containers) last
        report.selfUpdate ∧
      ∀ e ∈ report.containers, e.outcome = .deferredSelf →
        (∀ o ∈ report.containers, o.outcome = .deferredSelf → o = e) →
        SelfChecked updater host policy e.id e.image last report.selfUpdate := by
  obtain ⟨looped, rest, walked, cancelled, rfl, hwalk, hfinish⟩ := parts_of_runs_run hrun
  obtain ⟨visits, hvisits⟩ := visits_of_runs_walk hwalk
  have hlast := deferred_of_runs_walk hwalk
  rw [Option.map_none, Option.or_none] at hlast
  have hfinished := finished_of_runs hfinish
  generalize hstop : (walked.cancelled || cancelled) = stop at hfinished
  cases hfinished with
  | cancelled => cases hend
  | @noneDeferred hnone t summary hprune =>
      obtain ⟨hwalked, rfl⟩ := Bool.or_eq_false_iff.1 hstop
      rw [hnone, Option.map_none] at hlast
      refine ⟨visits, looped, walked, rest, summary, [], by rw [List.append_nil], hvisits,
        hvisits.listed_eq hwalked, hvisits.reports_eq, hprune, rfl, ?_, ?_⟩
      · rw [← hlast]
        exact .none
      · intro e he hdeferred honly
        cases hlast.trans (lastDeferred?_eq_some he hdeferred honly)
  | @deferred me hsome t u summary hprune state hself =>
      obtain ⟨hwalked, rfl⟩ := Bool.or_eq_false_iff.1 hstop
      rw [hsome, Option.map_some] at hlast
      refine ⟨visits, looped, walked, t, summary, u, rfl, hvisits, hvisits.listed_eq hwalked,
        hvisits.reports_eq, hprune, rfl, ?_, ?_⟩
      · rw [← hlast]
        exact .checked (selfChecked_of_runs hself)
      · intro e he hdeferred honly
        cases hlast.trans (lastDeferred?_eq_some he hdeferred honly)
        exact selfChecked_of_runs hself

/-- Two containers that are both marked as the program's own. For the first the registry has a newer
image. -/
def twoOwn : MemoryDaemon :=
  { empty with
    containers :=
      [{ web [(Label.selfKey, "true")] with
          id := "self1", name := "dockman", image := "dockman:1" },
        { web [(Label.selfKey, "true")] with
          id := "self2", name := "tools", image := "tools:1", imageId := "sha256:t" }]
    images := [("dockman:1", ⟨"sha256:old", ["dockman@sha256:o"]⟩),
      ("tools:1", ⟨"sha256:t", ["tools@sha256:c"]⟩)]
    registry := [("dockman:1", "sha256:n"), ("tools:1", "sha256:c")] }

/-- The second one is checked. -/
theorem lastDeferred_checked_twoOwn :
    let policy := { UpdatePolicy.plain with notifyOnly := true }
    let report := ((run ⟨"", none, .zero⟩ ⟨"local", .local⟩ policy
      (twoOwn.list true)).served twoOwn).2.1
    report.cancelled = false ∧
      ∃ last, SelfChecked ⟨"", none, .zero⟩ ⟨"local", .local⟩ policy "self2" "tools:1" last
        report.selfUpdate := by
  have hend : ((run ⟨"", none, .zero⟩ ⟨"local", .local⟩
      { UpdatePolicy.plain with notifyOnly := true }
      (twoOwn.list true)).served twoOwn).2.1.cancelled = false := by
    decide +kernel
  obtain ⟨_, _, _, _, _, last, -, -, -, -, -, -, hseen, -⟩ :=
    lastDeferred_checked (converses_served _ _).runs hend
  have hlast : lastDeferred? ((run ⟨"", none, .zero⟩ ⟨"local", .local⟩
      { UpdatePolicy.plain with notifyOnly := true }
      (twoOwn.list true)).served twoOwn).2.1.containers =
        some ⟨"self2", "tools", "tools:1", .deferredSelf⟩ := by
    decide +kernel
  rw [hlast] at hseen
  cases hseen with
  | checked h => exact ⟨hend, last, h⟩

/-- Nobody looks up the image of the first one, although it would have been found to be old. -/
theorem not_checked_twoOwn :
    let policy := { UpdatePolicy.plain with notifyOnly := true }
    let ended := (run ⟨"", none, .zero⟩ ⟨"local", .local⟩ policy (twoOwn.list true)).served twoOwn
    ended.2.1.cancelled = false ∧
      ended.2.1.outcome? "dockman" = some .deferredSelf ∧
      ended.2.1.outcome? "tools" = some .deferredSelf ∧ ended.2.1.selfUpdate = .upToDate ∧
      (daemonCalls ended.1).map DaemonCall.toText = ["prune", "image:tools:1", "registry:tools:1"] ∧
      recorded ended.1 = [] ∧
      (twoOwn.imageAnswers.check "dockman:1").toOption.map DigestCheck.updateAvailable =
        some true := by
  decide +kernel

end ContainerFleet.UpdateRun
