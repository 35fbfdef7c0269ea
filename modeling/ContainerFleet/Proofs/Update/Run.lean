import ContainerFleet.Proofs.Update.Truth

/-!
The report of an update run tells the truth about the daemon. Main statement: `run_truthful`.
-/

namespace ContainerFleet.UpdateRun

open Program MemoryDaemon

/-- The entries of a report, read along the containers that a run was given: each is true of its
container, and where they end, the containers that are left are untouched. -/
inductive Accounts (last : MemoryDaemon) (listed : MemoryContainer → String) :
    List MemoryContainer → List ContainerReport → Prop where
  | untouched {cs : List MemoryContainer} (h : ∀ c ∈ cs, c ∈ last.containers) :
      Accounts last listed cs []
  | told {c : MemoryContainer} {cs : List MemoryContainer} {e : ContainerReport}
      {reports : List ContainerReport} (he : last.Truthful (listed c) c e)
      (h : Accounts last listed cs reports) : Accounts last listed (c :: cs) (e :: reports)

namespace Accounts

variable {last : MemoryDaemon} {listed : MemoryContainer → String} {cs : List MemoryContainer}
  {reports : List ContainerReport}

theorem ids_prefix (h : Accounts last listed cs reports) :
    reports.map ContainerReport.id <+: cs.map MemoryContainer.id := by
  induction h with
  | untouched _ => exact List.nil_prefix
  | told he _ ih =>
      rw [List.map_cons, List.map_cons, he.id_eq]
      exact (List.prefix_cons_inj _).2 ih

theorem truthful (h : Accounts last listed cs reports)
    (hids : (cs.map MemoryContainer.id).Nodup) {c : MemoryContainer} (hc : c ∈ cs)
    {e : ContainerReport} (he : e ∈ reports) (hid : e.id = c.id) :
    last.Truthful (listed c) c e := by
  induction h with
  | untouched _ => cases he
  | @told o cs first reports hfirst hrest ih =>
      rw [List.map_cons, List.nodup_cons] at hids
      rcases List.mem_cons.1 he with rfl | he <;> rcases List.mem_cons.1 hc with rfl | hc
      · exact hfirst
      · refine absurd ?_ hids.1
        rw [← hfirst.id_eq, hid]
        exact List.mem_map_of_mem hc
      · refine absurd ?_ hids.1
        rw [← hid]
        exact hrest.ids_prefix.subset (List.mem_map_of_mem he)
      · exact ih hids.2 hc he

theorem mem_of_unreported (h : Accounts last listed cs reports) {c : MemoryContainer} (hc : c ∈ cs)
    (hnone : ∀ e ∈ reports, e.id ≠ c.id) : c ∈ last.containers := by
  induction h with
  | untouched h => exact h c hc
  | told hfirst _ ih =>
      rw [List.forall_mem_cons] at hnone
      rcases List.mem_cons.1 hc with rfl | hc
      · exact absurd hfirst.id_eq hnone.1
      · exact ih hc hnone.2

end Accounts

variable {d t : MemoryDaemon} {updater : Updater} {host : RunHost} {policy : UpdatePolicy}

/-- The walk over the containers that are left, in a daemon where all of them are as they were
listed. By induction on them: the turn of the first leaves the others as they were listed, and their
turns leave its entry true. -/
theorem walk_accounts (listing : MemoryDaemon) {cs : List MemoryContainer}
    {deferred : Option ContainerRecord} {walked : Walk} (hd : d.Holds cs)
    (h : MemoryRun (walk updater host policy (cs.map listing.record) deferred) d walked t) :
    d.Touches (cs.map MemoryContainer.id) t ∧ (t.containers.map MemoryContainer.id).Nodup ∧
      (walked.cancelled = false → walked.reports.length = cs.length) ∧
      ∀ last, t.Touches [] last → Accounts last listing.listedImage cs walked.reports := by
  induction cs generalizing d deferred walked with
  | nil =>
      obtain ⟨rfl, rfl⟩ := runsIn_pure_iff.1 h
      exact ⟨.refl _ _, hd.ids_nodup, fun _ => rfl,
        fun last _ => .untouched fun c hc => nomatch hc⟩
  | cons c cs ih =>
      obtain ⟨stop, d₁, hstop, h⟩ := runsIn_bind_iff.1 h
      rw [still_isCancelled.eq hstop] at h
      cases stop with
      | true =>
          obtain ⟨rfl, rfl⟩ := runsIn_pure_iff.1 h
          refine ⟨.refl _ _, hd.ids_nodup, ?_, ?_⟩
          · intro hend
            cases hend
          · intro last hlast
            exact .untouched fun o ho => hlast.kept o (hd.mem ho) List.not_mem_nil
      | false =>
          obtain ⟨done, d₂, hstep, h⟩ := runsIn_bind_iff.1 h
          obtain ⟨rest, d₃, hrest, h⟩ := runsIn_bind_iff.1 h
          obtain ⟨rfl, rfl⟩ := runsIn_pure_iff.1 h
          have hturn := step_truthful hd rfl rfl hstep
          obtain ⟨htouches, hids, hlength, haccounts⟩ := ih hturn.holds hrest
          refine ⟨hturn.touches.trans htouches, hids, ?_, ?_⟩
          · intro hend
            exact congrArg (· + 1) (hlength hend)
          · intro last hlast
            have hlater := htouches.trans hlast
            rw [List.append_nil] at hlater
            exact .told (hturn.tells_last last hlater) (haccounts last hlast)

/-- Pruning changes what is left to prune and nothing else. -/
theorem exists_dangling_of_prune {summary : PruneSummary}
    (h : MemoryRun (prune host) d summary t) : ∃ dangling, t = { d with dangling := dangling } := by
  obtain ⟨reply, d₁, hprune, h⟩ := runsIn_bind_iff.1 h
  replace hprune := memoryRun_daemon_iff.1 hprune
  cases reply with
  | error e =>
      refine ⟨d.dangling, ?_⟩
      rw [(runsIn_pure_iff.1 h).2, hprune.eq_of_error]
  | ok pruned =>
      refine ⟨⟨[], 0⟩, ?_⟩
      rw [← hprune.of_prune.2]
      dsimp only at h
      split at h
      · exact (runsIn_pure_iff.1 h).2
      · refine Still.eq ((still_store _).bind fun saved => ?_) h
        cases saved with
        | error e => exact still_pure _
        | ok _ => exact still_pure _

theorem still_trigger (baseUrl id : String) : Still conduct (Sidecar.trigger baseUrl id) :=
  still_now.bind fun _ => (still_get _ _).bind fun _ => (still_sleepUntil _).bind fun _ =>
    still_pure _

theorem still_selfUpdate (updater : Updater) (host : RunHost) (policy : UpdatePolicy)
    (me : ContainerRecord) : Still conduct (selfUpdate updater host policy me) := by
  apply (DigestCheck.still_ofReference _).bind
  intro reply
  cases reply with
  | error e => exact still_pure _
  | ok check =>
      dsimp only
      split
      · exact still_pure _
      · split
        · apply (still_record _ _ _).bind
          intro saved
          cases saved with
          | error e => exact still_pure _
          | ok _ => exact still_pure _
        · apply (still_trigger _ _).bind
          intro answer
          cases answer with
          | error e => exact still_pure _
          | ok _ => exact still_pure _

/-- What comes after the containers touches none of them and adds no entry. -/
theorem of_finish {walked : Walk} {cancelled : Bool} {report : UpdateReport}
    (h : MemoryRun (finish updater host policy walked cancelled) d report t) :
    report.containers = walked.reports ∧ report.cancelled = cancelled ∧
      ∃ dangling, t = { d with dangling := dangling } := by
  unfold finish at h
  split at h
  · next hcancelled =>
      obtain ⟨rfl, rfl⟩ := runsIn_pure_iff.1 h
      exact ⟨rfl, hcancelled.symm, t.dangling, rfl⟩
  · next hcancelled =>
      rw [Bool.not_eq_true] at hcancelled
      obtain ⟨summary, d₁, hprune, h⟩ := runsIn_bind_iff.1 h
      have hd₁ := exists_dangling_of_prune hprune
      cases hdeferred : walked.deferred with
      | none =>
          rw [hdeferred] at h
          obtain ⟨rfl, rfl⟩ := runsIn_pure_iff.1 h
          exact ⟨rfl, hcancelled.symm, hd₁⟩
      | some me =>
          rw [hdeferred] at h
          obtain ⟨state, d₂, hself, h⟩ := runsIn_bind_iff.1 h
          obtain ⟨rfl, rfl⟩ := runsIn_pure_iff.1 h
          rw [(still_selfUpdate updater host policy me).eq hself]
          exact ⟨rfl, hcancelled.symm, hd₁⟩

theorem touches_dangling (d : MemoryDaemon) (dangling : Pruned) :
    d.Touches [] { d with dangling := dangling } :=
  ⟨fun _ ho _ => ho, fun _ ho => .inl ho, Nat.le_refl _, fun _ _ => rfl, rfl, rfl⟩

/-- The report of an update run over the containers that a daemon listed, whatever fails and
whenever the run is cancelled. Its entries are about listed containers in their order, and about all
of them unless the run was cancelled; every entry is true of its container when the run is over, and
a container without one is as it was. -/
theorem run_truthful {report : UpdateReport} (hd : d.Sound)
    (h : MemoryRun (run updater host policy (d.list true)) d report t) :
    report.containers.map ContainerReport.id <+: d.containers.map MemoryContainer.id ∧
      (report.cancelled = false → report.containers.length = d.containers.length) ∧
      (t.containers.map MemoryContainer.id).Nodup ∧
      ∀ c ∈ d.containers,
        (∀ e ∈ report.containers, e.id = c.id → t.Truthful (d.listedImage c) c e) ∧
          ((∀ e ∈ report.containers, e.id ≠ c.id) → c ∈ t.containers) := by
  have hlist : d.list true = d.containers.map d.record :=
    congrArg (List.map d.record) (List.filter_eq_self.2 fun _ _ => rfl)
  rw [hlist] at h
  obtain ⟨walked, d₁, hwalk, h⟩ := runsIn_bind_iff.1 h
  obtain ⟨cancelled, d₂, hcancelled, h⟩ := runsIn_bind_iff.1 h
  rw [still_isCancelled.eq hcancelled] at h
  obtain ⟨hreports, hend, dangling, rfl⟩ := of_finish h
  obtain ⟨-, hids, hlength, haccounts⟩ := walk_accounts d hd.holds hwalk
  have hreport := haccounts _ (touches_dangling d₁ dangling)
  rw [← hreports] at hreport
  refine ⟨hreport.ids_prefix, fun hnot => ?_, hids, fun c hc =>
    ⟨fun e he hid => hreport.truthful hd.ids_nodup hc he hid, hreport.mem_of_unreported hc⟩⟩
  rw [hend, Bool.or_eq_false_iff] at hnot
  rw [hreports, hlength hnot.1]

/-- Two containers of one image, of which one runs, and a registry with a newer image. -/
def siblings : MemoryDaemon :=
  { empty with
    containers := [web [], { (web []).stopped with id := "c2", name := "job" }]
    images := [("app:1", ⟨"sha256:old", ["app@sha256:o"]⟩)]
    registry := [("app:1", "sha256:n")] }

theorem siblings_sound : siblings.Sound where
  ids_nodup := by decide
  names_nodup := by decide
  id_ne_name := by decide
  unused_idOf n _ := unused_idOf_of_startsAsId (by decide) n
  labels_nodup := by decide

/-- The first is replaced after the image was pulled. The second is then superseded: it is created
anew from the same image, and not started. -/
theorem run_truthful_siblings :
    let ended := (run ⟨"", none, .zero⟩ ⟨"here", .local⟩ .plain
      (siblings.list true)).runAround siblings []
    siblings.Sound ∧ ended.2.Truthful "app:1" (web []) ⟨"c1", "web", "app:1", .updated "new1"⟩ ∧
      ended.2.Truthful "app:1" { (web []).stopped with id := "c2", name := "job" }
        ⟨"c2", "job", "app:1", .updated "new2"⟩ := by
  have htrue := (run_truthful siblings_sound (memoryRun_around (run ⟨"", none, .zero⟩
    ⟨"here", .local⟩ .plain (siblings.list true)) siblings [])).2.2.2
  exact ⟨siblings_sound, (htrue (web []) List.mem_cons_self).1 _ (by decide +kernel) rfl,
    (htrue _ (List.mem_cons_of_mem _ List.mem_cons_self)).1 _ (by decide +kernel) rfl⟩

end ContainerFleet.UpdateRun
