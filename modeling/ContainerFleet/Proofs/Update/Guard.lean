import ContainerFleet.Proofs.Daemon.Service
import ContainerFleet.Proofs.Label
import ContainerFleet.Proofs.Replacement.Protocol
import ContainerFleet.Proofs.Update.Handling
import ContainerFleet.Proofs.Update.Run

/-!
Containers that their labels guard. `StrikesOnly` says which containers are started, stopped,
removed or renamed in some exchanges. Main statement: `guarded_untouched`, that in an update run
these are never guarded ones, whatever the world replies, as long as no id is listed both with and
without a guard.
-/

namespace ContainerFleet

/-- The container that a call starts, stops, removes or renames. -/
def DaemonCall.strikes? : DaemonCall → Option String
  | .start id => some id
  | .stop id _ => some id
  | .remove id => some id
  | .rename id _ => some id
  | _ => none

theorem DaemonCall.target?_of_strikes? {call : DaemonCall} {id : String}
    (h : call.strikes? = some id) : Replacement.target? call = some id := by
  cases call <;> first | exact h | cases h

theorem DaemonCall.changesContainers_of_strikes? {call : DaemonCall} {id : String}
    (h : call.strikes? = some id) : call.changesContainers = true := by
  cases call <;> first | rfl | cases h

/-- What is started, stopped, removed or renamed in some exchanges are such containers. -/
def StrikesOnly (P : String → Prop) (trace : List UpdateExchange) : Prop :=
  ∀ call ∈ daemonCalls trace, ∀ id : String, call.strikes? = some id → P id

/-- A container was created in these exchanges and got this id. -/
def Creates (trace : List UpdateExchange) (id : String) : Prop :=
  ∃ name spec, said (.create name spec) (.ok id) ∈ trace

section StrikesOnly

variable {P Q : String → Prop} {t u trace : List UpdateExchange}

theorem strikesOnly_nil : StrikesOnly P [] :=
  fun _ hcall => absurd hcall List.not_mem_nil

theorem strikesOnly_append : StrikesOnly P (t ++ u) ↔ StrikesOnly P t ∧ StrikesOnly P u := by
  rw [StrikesOnly, daemonCalls_append]
  exact List.forall_mem_append

theorem StrikesOnly.mono (h : StrikesOnly P trace) (hPQ : ∀ id, P id → Q id) :
    StrikesOnly Q trace :=
  fun call hcall id hid => hPQ id (h call hcall id hid)

/-- Where nothing is changed, nothing is struck. -/
theorem strikesOnly_of_looks
    (h : ∀ x ∈ trace, UpdateRequest.changesContainers x.request = false) : StrikesOnly P trace := by
  intro call hcall id hid
  obtain ⟨reply, hmem⟩ := exists_said_mem hcall
  have hlooks : call.changesContainers = false := h _ hmem
  rw [DaemonCall.changesContainers_of_strikes? hid] at hlooks
  cases hlooks

theorem strikesOnly_of_runs {α : Type} {p : UpdateProgram α} (hp : OnlyLooks p) {a : α}
    (h : Program.Runs p trace a) : StrikesOnly P trace :=
  strikesOnly_of_looks (hp trace a h)

theorem strikesOnly_inspect (key : String) (reply : (DaemonCall.inspect key).Reply) :
    StrikesOnly P [said (.inspect key) reply] :=
  strikesOnly_of_runs (onlyLooks_daemon (.inspect key) rfl) (Program.runs_call_iff.2 rfl)

theorem Creates.mono {id : String} (h : Creates t id) (htrace : t ⊆ trace) : Creates trace id := by
  obtain ⟨name, spec, hmem⟩ := h
  exact ⟨name, spec, htrace hmem⟩

/-- What is created in the end of a trace is created in the trace. -/
theorem StrikesOnly.prepend {key : String}
    (hu : StrikesOnly (fun id => id = key ∨ Creates u id) u)
    (ht : StrikesOnly (fun id => id = key ∨ Creates (t ++ u) id) t) :
    StrikesOnly (fun id => id = key ∨ Creates (t ++ u) id) (t ++ u) := by
  refine strikesOnly_append.2 ⟨ht, hu.mono fun id hid => ?_⟩
  exact hid.imp_right fun hcreates => hcreates.mono (List.subset_append_right t u)

end StrikesOnly

/-- None of these containers has this id. -/
def Unlisted (containers : List ContainerRecord) (id : String) : Prop :=
  ∀ c ∈ containers, c.id ≠ id

instance decidableUnlisted (containers : List ContainerRecord) :
    DecidablePred (Unlisted containers) :=
  fun id => inferInstanceAs (Decidable (∀ c ∈ containers, c.id ≠ id))

/-- An inspection is answered with the container that it asks for, and what is created gets an id
that none of these containers has. -/
def Faithful (containers : List ContainerRecord) : UpdateExchange → Prop
  | ⟨.daemon (.inspect key), .ok old⟩ => old.id = key
  | ⟨.daemon (.create _ _), .ok newId⟩ => Unlisted containers newId
  | _ => True

instance decidableFaithful (containers : List ContainerRecord) :
    DecidablePred (Faithful containers) := by
  intro x
  unfold Faithful
  split
  · infer_instance
  · exact decidableUnlisted containers _
  · infer_instance

namespace Replacement

open Program

variable {stopTimeout : Duration} {key image : String} {old : ContainerDetails}
  {trace : List UpdateExchange} {result : Except ReplaceError Replaced}

theorem Course.strikesOnly (h : Course stopTimeout image old trace result) :
    StrikesOnly (fun id => id = old.id ∨ Creates trace id) trace := by
  intro call hcall id hid
  have htarget := DaemonCall.target?_of_strikes? hid
  rcases h.namesOnly with hnames | ⟨name, spec, newId, hmem, hnames⟩
  · exact .inl (or_self_iff.1 (hnames call hcall id htarget))
  · rcases hnames call hcall id htarget with rfl | rfl
    · exact .inl rfl
    · exact .inr ⟨name, spec, hmem⟩

/-- A replacement strikes the container that it was asked to replace and the one that it creates. -/
theorem strikesOnly_of_runs_replace {containers : List ContainerRecord}
    (h : Runs (replace stopTimeout key image) trace result)
    (hfaithful : ∀ x ∈ trace, Faithful containers x) :
    StrikesOnly (fun id => id = key ∨ Creates trace id) trace := by
  cases protocol_of_runs h with
  | notInspected e => exact strikesOnly_inspect key (.error e)
  | @inspected old rest _ hcourse =>
      have hkey : old.id = key := hfaithful _ List.mem_cons_self
      rw [← hkey]
      exact hcourse.strikesOnly.prepend (strikesOnly_inspect old.id (.ok old))

end Replacement

namespace UpdateRun

open Program MemoryDaemon

variable {updater : Updater} {host : RunHost} {policy : UpdatePolicy} {c listed : ContainerRecord}
  {containers : List ContainerRecord} {trace : List UpdateExchange}

theorem Resolves.isOwn_iff (h : Resolves listed trace (.ok c)) :
    c.IsOwn policy host.isLocal ↔ listed.IsOwn policy host.isLocal := by
  simp only [ContainerRecord.IsOwn, h.labels_eq]

theorem Resolves.isGuarded_iff (h : Resolves listed trace (.ok c)) :
    c.IsGuarded policy host.isLocal ↔ listed.IsGuarded policy host.isLocal := by
  simp only [ContainerRecord.IsGuarded, h.isOwn_iff, ContainerRecord.IsLeftOut,
    ContainerRecord.IsSwitchedOff, h.labels_eq]

section Strikes

theorem strikesOnly_pulling (image : String) (reply : Option (Except DaemonError Unit))
    {P : String → Prop} : StrikesOnly P [pulling image reply] :=
  fun _ hcall => nomatch hcall

/-- Whatever is done to a container, only it and what is created for it are struck. -/
theorem strikesOnly_of_runs_process {outcome : Outcome}
    (h : Runs (process updater host policy c) trace outcome)
    (hfaithful : ∀ x ∈ trace, Faithful containers x) :
    StrikesOnly (fun id => id = c.id ∨ Creates trace id) trace := by
  cases handles_of_runs h with
  | notCompared hlook => exact strikesOnly_of_looks (lookups_of_looksUp hlook).looks
  | upToDate hlook _ => exact strikesOnly_of_looks (lookups_of_looksUp hlook).looks
  | recorded hlook _ _ now saved =>
      exact strikesOnly_append.2 ⟨strikesOnly_of_looks (lookups_of_looksUp hlook).looks,
        strikesOnly_of_looks (looks_recording _ _ _ now saved)⟩
  | abandoned hlook _ _ =>
      exact strikesOnly_append.2 ⟨strikesOnly_of_looks (lookups_of_looksUp hlook).looks,
        strikesOnly_pulling _ _⟩
  | notPulled hlook _ _ e =>
      exact strikesOnly_append.2 ⟨strikesOnly_of_looks (lookups_of_looksUp hlook).looks,
        strikesOnly_pulling _ _⟩
  | @pulled t u check result hlook _ _ hreplace =>
      have hstrikes := Replacement.strikesOnly_of_runs_replace hreplace fun x hx =>
        hfaithful x (List.mem_append_right t (List.mem_cons_of_mem _ hx))
      exact (hstrikes.prepend (strikesOnly_pulling _ _)).prepend
        (strikesOnly_of_looks (lookups_of_looksUp hlook).looks)
  | @superseded t u check result hlook _ _ _ hreplace =>
      have hstrikes := Replacement.strikesOnly_of_runs_replace hreplace fun x hx =>
        hfaithful x (List.mem_append_right t hx)
      exact hstrikes.prepend (strikesOnly_of_looks (lookups_of_looksUp hlook).looks)

theorem Resolves.strikesOnly {P : String → Prop} {reply : Except DaemonError ContainerRecord}
    (h : Resolves listed trace reply) : StrikesOnly P trace := by
  cases h with
  | listed _ => exact strikesOnly_nil
  | inspected _ details => exact strikesOnly_inspect listed.id (.ok details)
  | failed _ e => exact strikesOnly_inspect listed.id (.error e)

/-- A visit strikes its container only when nothing guards it. -/
theorem strikesOnly_of_runs_step {done : Step}
    (h : Runs (step updater host policy listed) trace done)
    (hfaithful : ∀ x ∈ trace, Faithful containers x) :
    StrikesOnly (fun id => (¬ listed.IsGuarded policy host.isLocal ∧ id = listed.id) ∨
      Creates trace id) trace := by
  cases visited_of_runs h with
  | unresolved hresolves => exact hresolves.strikesOnly
  | skipped hresolves hclass => exact hresolves.strikesOnly
  | deferred hresolves hclass => exact hresolves.strikesOnly
  | @processed t u c outcome hresolves hclass hprocess =>
      have hstrikes := strikesOnly_of_runs_process hprocess fun x hx =>
        hfaithful x (List.mem_append_right t hx)
      have hopen : ¬ listed.IsGuarded policy host.isLocal := by
        rw [← hresolves.isGuarded_iff]
        exact ContainerRecord.classify_eq_eligible_iff.1 hclass
      refine (hstrikes.prepend hresolves.strikesOnly).mono fun id hid => ?_
      rw [hresolves.id_eq] at hid
      exact hid.imp_left fun hid => ⟨hopen, hid⟩

end Strikes

/-- What is asked about a container that is guarded, and what is said of it. Either its reference
cannot be found out, or it has to wait when it is the program's own and is skipped otherwise. -/
inductive LeftAlone (policy : UpdatePolicy) (host : RunHost) (listed : ContainerRecord) :
    List UpdateExchange → Outcome → Prop where
  | unresolved {t : List UpdateExchange} {e : DaemonError} (h : Resolves listed t (.error e)) :
      LeftAlone policy host listed t (unresolved e)
  | waits {t : List UpdateExchange} {c : ContainerRecord} (h : Resolves listed t (.ok c))
      (hown : listed.IsOwn policy host.isLocal) : LeftAlone policy host listed t .deferredSelf
  | skipped {t : List UpdateExchange} {c : ContainerRecord} (h : Resolves listed t (.ok c))
      (hother : ¬ listed.IsOwn policy host.isLocal) (reason : SkipReason) :
      LeftAlone policy host listed t (.skipped reason)

theorem leftAlone_of_runs_step {done : Step}
    (h : Runs (step updater host policy listed) trace done)
    (hguarded : listed.IsGuarded policy host.isLocal) :
    done.report.id = listed.id ∧ LeftAlone policy host listed trace done.report.outcome := by
  cases visited_of_runs h with
  | unresolved hresolves => exact ⟨rfl, .unresolved hresolves⟩
  | skipped hresolves hclass =>
      refine ⟨hresolves.id_eq, .skipped hresolves (fun hown => ?_) _⟩
      rw [← hresolves.isOwn_iff] at hown
      rw [ContainerRecord.classify_eq_deferSelf_iff.2 hown] at hclass
      cases hclass
  | deferred hresolves hclass =>
      have hown := ContainerRecord.classify_eq_deferSelf_iff.1 hclass
      exact ⟨hresolves.id_eq, .waits hresolves (hresolves.isOwn_iff.1 hown)⟩
  | processed hresolves hclass hprocess =>
      rw [← hresolves.isGuarded_iff] at hguarded
      exact absurd hguarded (ContainerRecord.classify_eq_eligible_iff.1 hclass)

/-- What a walk strikes are containers that nothing guards, and what it creates. -/
theorem Visits.strikesOnly {visits : List Visit} {walked : Walk}
    (h : Visits updater host policy containers visits trace walked)
    (hfaithful : ∀ x ∈ trace, Faithful containers x) :
    StrikesOnly (fun id => (∃ o ∈ containers, ¬ o.IsGuarded policy host.isLocal ∧ o.id = id) ∨
      Creates trace id) trace := by
  intro call hcall id hid
  obtain ⟨reply, hmem⟩ := exists_said_mem hcall
  rw [h.trace_eq] at hmem
  rcases List.mem_append.1 hmem with hmem | hmem
  · obtain ⟨v, hv, hmem⟩ := List.mem_flatMap.1 hmem
    rcases List.mem_cons.1 hmem with hasked | hmem
    · cases hasked
    · have hstrikes := strikesOnly_of_runs_step (h.runs v hv) fun x hx =>
        hfaithful x (h.trace_subset hv hx)
      rcases hstrikes call (List.mem_filterMap.2 ⟨_, hmem, rfl⟩) id hid with ⟨hopen, rfl⟩ | hcreates
      · have hlisted := h.listed_prefix.subset (List.mem_map_of_mem hv)
        exact .inl ⟨v.listed, hlisted, hopen, rfl⟩
      · exact .inr (hcreates.mono (h.trace_subset hv))
  · split at hmem
    · cases List.mem_singleton.1 hmem
    · cases hmem

/-- What an update run does to guarded containers, if inspections are answered with the container
that was asked for and new containers get new ids. Their visits ask nothing but their references,
and leave them waiting or skipped when these can be found out; and nothing that is started, stopped,
removed or renamed, in visits or after them, has the id of one, if all that are listed with this id
are guarded. -/
theorem guarded_untouched {report : UpdateReport}
    (hrun : Runs (run updater host policy containers) trace report)
    (hfaithful : ∀ x ∈ trace, Faithful containers x) :
    (∃ visits looped walked rest, Visits updater host policy containers visits looped walked ∧
      trace = looped ++ rest ∧ report.containers = visits.map Visit.report ∧
      (∀ x ∈ rest, UpdateRequest.changesContainers x.request = false) ∧
      ∀ v ∈ visits, v.listed.IsGuarded policy host.isLocal →
        v.report.id = v.listed.id ∧ LeftAlone policy host v.listed v.trace v.report.outcome) ∧
    ∀ c ∈ containers, (∀ o ∈ containers, o.id = c.id → o.IsGuarded policy host.isLocal) →
      ∀ call ∈ daemonCalls trace, call.strikes? ≠ some c.id := by
  obtain ⟨looped, rest, walked, cancelled, rfl, hwalk, hfinish⟩ := parts_of_runs_run hrun
  obtain ⟨visits, hvisits⟩ := visits_of_runs_walk hwalk
  have hlooks : ∀ x ∈ asked cancelled :: rest, UpdateRequest.changesContainers x.request = false :=
    List.forall_mem_cons.2 ⟨rfl, onlyLooks_finish updater host policy _ _ rest report hfinish⟩
  refine ⟨⟨visits, looped, walked, _, hvisits, rfl, ?_, hlooks, ?_⟩, ?_⟩
  · rw [(finished_of_runs hfinish).containers_eq, hvisits.reports_eq]
  · intro v hv hguarded
    exact leftAlone_of_runs_step (hvisits.runs v hv) hguarded
  · intro c hc hguarded call hcall hid
    have hstrikes := hvisits.strikesOnly fun x hx => hfaithful x (List.mem_append_left _ hx)
    rw [daemonCalls_append, List.mem_append] at hcall
    rcases hcall with hcall | hcall
    · rcases hstrikes call hcall c.id hid with ⟨o, ho, hopen, hoid⟩ | ⟨name, spec, hmem⟩
      · exact hopen (hguarded o ho hoid)
      -- What is created for another container does not get the id of a listed one.
      · have hnew : Unlisted containers c.id := hfaithful _ (List.mem_append_left _ hmem)
        exact hnew c hc rfl
    · exact strikesOnly_of_looks (P := fun _ => False) hlooks call hcall c.id hid

/-- A container that has to be updated, between the program's own and one with updates switched
off. All three run the same image. -/
def guardedSiblings : MemoryDaemon :=
  { siblings with
    containers :=
      [{ web [(Label.selfKey, "true")] with id := "c0", name := "dockman" }, web [],
        { web [(Label.disableKey, " True ")] with id := "c2", name := "db" }] }

/-- The one in the middle is replaced, and the others are not touched. -/
theorem guarded_untouched_siblings :
    let listed := guardedSiblings.list true
    let trace := ((run ⟨"", none, .zero⟩ ⟨"here", .local⟩ .plain listed).served guardedSiblings).1
    (∀ x ∈ trace, Faithful listed x) ∧
      (daemonCalls trace).filterMap DaemonCall.strikes? = ["c1", "new1", "c1", "new1"] ∧
      ∀ c ∈ listed, c.id ≠ "c1" → ∀ call ∈ daemonCalls trace, call.strikes? ≠ some c.id := by
  have hfaithful : ∀ x ∈ ((run ⟨"", none, .zero⟩ ⟨"here", .local⟩ .plain
      (guardedSiblings.list true)).served guardedSiblings).1,
      Faithful (guardedSiblings.list true) x := by
    decide +kernel
  have huntouched := (guarded_untouched (converses_served _ _).runs hfaithful).2
  have hguarded : ∀ c ∈ guardedSiblings.list true, c.id ≠ "c1" →
      ∀ o ∈ guardedSiblings.list true, o.id = c.id → o.IsGuarded .plain true := by
    decide +kernel
  exact ⟨hfaithful, by decide +kernel, fun c hc hne => huntouched c hc (hguarded c hc hne)⟩

/-- A list may name a container twice, and guard it once only. Then it is replaced. -/
theorem exists_guarded_struck :
    let listed := siblings.record (web [(Label.disableKey, "true")]) :: siblings.list true
    let trace := ((run ⟨"", none, .zero⟩ ⟨"here", .local⟩ .plain listed).served siblings).1
    (∀ x ∈ trace, Faithful listed x) ∧ ∃ c ∈ listed, c.IsGuarded .plain true ∧
      ∃ call ∈ daemonCalls trace, call.strikes? = some c.id := by
  decide +kernel

end UpdateRun

end ContainerFleet
