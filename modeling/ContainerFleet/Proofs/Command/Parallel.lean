import ContainerFleet.Proofs.Command.Hosts
import ContainerFleet.Proofs.Command.NotifyOnly
import ContainerFleet.Proofs.Store.Sharing
import ContainerFleet.Proofs.Update.Parts

/-!
Programs on several hosts side by side, which share a store and nothing else. Main statements:
`FleetWorld.Shows.step_own` and `FleetWorld.Shows.step_other`, what one request keeps of the view
that a host has of the store, `HostTask.together_alike`, that each program goes as it would alone,
and `HostRun.together_eq_alone`, which says so of update runs.
-/

namespace ContainerFleet

open Program Command CommandProgram

/-- A host as an update run meets it: what belongs to it alone, and a store. -/
structure HostWorld (σ : Type) where
  own : σ
  store : AnyStore

/-- Several hosts, each behind a client of its own, and the store that they share. -/
structure FleetWorld (σ : Type) where
  own : Handle → σ
  store : AnyStore

section Worlds

variable {σ : Type} (respond : (q : UpdateRequest) → σ → q.Reply × σ)

namespace HostWorld

/-- Carries out one request: the store deals with its calls, and all else belongs to the host. -/
def handle (q : UpdateRequest) (w : HostWorld σ) : q.Reply × HostWorld σ :=
  match q with
  | .store call =>
    let (reply, store) := AnyStore.handle call w.store
    (reply, { w with store := store })
  | q =>
    let (reply, own) := respond q w.own
    (reply, { w with own := own })

end HostWorld

namespace FleetWorld

/-- One of the hosts, with the store. -/
def view (w : FleetWorld σ) (client : Handle) : HostWorld σ :=
  ⟨w.own client, w.store⟩

/-- The hosts after something was done on one of them. -/
def put (w : FleetWorld σ) (client : Handle) (h : HostWorld σ) : FleetWorld σ :=
  ⟨fun other => if other = client then h.own else w.own other, h.store⟩

/-- Carries out one request. -/
def handle (q : CommandRequest) (w : FleetWorld σ) : q.Reply × FleetWorld σ :=
  match q with
  | .onHost client q =>
    let (reply, h) := HostWorld.handle respond q (w.view client)
    (reply, w.put client h)
  | .file q => (noFiles q, w)
  | .configure _ => ((), w)
  | .connection q => (connectLocal q, w)
  | .print _ => ((), w)

end FleetWorld

end Worlds

/-- An exchange that is not a failing call to the store. -/
def StoreWorks (x : UpdateExchange) : Prop :=
  ∀ call r, x = MemoryStore.told call r → ∃ answer, r = .ok answer

section Shows

variable {σ : Type} {respond : (q : UpdateRequest) → σ → q.Reply × σ} {client other : Handle}
  {name otherName : String} {w next : FleetWorld σ} {v : HostWorld σ} {q : UpdateRequest}
  {r : q.Reply}

/-- As far as one host goes, the hosts that share a store are like the host with a store of its
own. -/
structure FleetWorld.Shows (client : Handle) (name : String) (w : FleetWorld σ)
    (v : HostWorld σ) : Prop where
  own_eq : w.own client = v.own
  beside : AnyStore.Beside name w.store v.store

/-- What is done on the host itself is done alone as well. -/
theorem FleetWorld.Shows.step_own (h : w.Shows client name v) (habout : q.About name)
    (hw : handle respond (.onHost client q) w = (r, next)) (hworks : StoreWorks ⟨q, r⟩) :
    ∃ after, HostWorld.handle respond q v = (r, after) ∧ next.Shows client name after := by
  obtain ⟨rfl, rfl⟩ := Prod.mk.inj hw
  cases q with
  | store call =>
      obtain ⟨answer, hanswer⟩ := hworks call _ rfl
      change (w.store.handle call).1 = .ok answer at hanswer
      obtain ⟨hreply, hbeside⟩ := h.beside.step_own habout hanswer
      refine ⟨⟨v.own, (v.store.handle call).2⟩, ?_, ?_, hbeside⟩
      · exact Prod.ext (hreply.trans hanswer.symm) rfl
      · exact (if_pos rfl).trans h.own_eq
  | _ =>
      have hown : w.own client = v.own := h.own_eq
      refine ⟨⟨_, v.store⟩, ?_, if_pos rfl, h.beside⟩
      simp only [HostWorld.handle, view, hown]

/-- What is done on another host does not show. -/
theorem FleetWorld.Shows.step_other (h : w.Shows client name v) (hclient : other ≠ client)
    (hname : otherName ≠ name) (habout : q.About otherName)
    (hw : handle respond (.onHost other q) w = (r, next)) (hworks : StoreWorks ⟨q, r⟩) :
    next.Shows client name v := by
  obtain ⟨rfl, rfl⟩ := Prod.mk.inj hw
  have hown : (w.put other (HostWorld.handle respond q (w.view other)).2).own client = v.own :=
    (if_neg hclient.symm).trans h.own_eq
  cases q with
  | store call =>
      obtain ⟨answer, hanswer⟩ := hworks call _ rfl
      change (w.store.handle call).1 = .ok answer at hanswer
      have hcall : call.host ≠ name := by
        rw [show call.host = otherName from habout]
        exact hname
      exact ⟨hown, h.beside.step_other hcall hanswer⟩
  | _ => exact ⟨hown, h.beside⟩

/-- No call fails when the store is one none of whose calls will fail, and it stays one. -/
theorem HostWorld.storeWorks_handle (hstore : v.store.Works)
    (respond : (q : UpdateRequest) → σ → q.Reply × σ) (q : UpdateRequest) :
    StoreWorks ⟨q, (handle respond q v).1⟩ ∧ (handle respond q v).2.store.Works := by
  cases q with
  | store call =>
      obtain ⟨⟨answer, hanswer⟩, hnext⟩ := hstore.step call
      refine ⟨?_, hnext⟩
      intro other reply heq
      cases heq
      exact ⟨answer, hanswer⟩
  | _ =>
      refine ⟨?_, hstore⟩
      intro other reply heq
      cases heq

theorem FleetWorld.storeWorks_step (hstore : w.store.Works) {request : CommandRequest}
    {reply : request.Reply} (hw : handle respond request w = (reply, next)) :
    (∀ client x, sent client x = ⟨request, reply⟩ → StoreWorks x) ∧ next.store.Works := by
  obtain ⟨hreply, rfl⟩ := Prod.mk.inj hw
  cases request with
  | onHost client q =>
      have hview : (w.view client).store.Works := hstore
      obtain ⟨hworks, hnext⟩ := HostWorld.storeWorks_handle hview respond q
      refine ⟨?_, hnext⟩
      intro other x heq
      obtain ⟨q, r⟩ := x
      cases heq
      have hsame : (HostWorld.handle respond q (w.view client)).1 = r := hreply
      rw [hsame] at hworks
      exact hworks
  | _ =>
      refine ⟨?_, hstore⟩
      intro other x heq
      cases heq

theorem FleetWorld.storeWorks_of_leads {trace : List (Exchange commandInterface)}
    (hleads : Leads (Replying (I := commandInterface) (handle respond)) w trace next)
    (hstore : w.store.Works) : ∀ client x, sent client x ∈ trace → StoreWorks x := by
  induction hleads with
  | nil w =>
      intro client x hmem
      cases hmem
  | cons hy _ ih =>
      obtain ⟨hworks, hnext⟩ := storeWorks_step hstore hy
      intro client x hmem
      rcases List.mem_cons.1 hmem with heq | hmem
      · exact hworks client x heq
      · exact ih hnext client x hmem

end Shows

/-- Entries at different places are told apart by what is different for all of them. -/
theorem ne_of_nodup_map {β γ : Type} {xs : List β} {f : β → γ} (hnodup : (xs.map f).Nodup)
    {i j : Nat} {x y : β} (hx : xs[i]? = some x) (hy : xs[j]? = some y) (hij : j ≠ i) :
    f y ≠ f x := by
  intro heq
  have hlength : j < (xs.map f).length := by
    rw [List.length_map]
    exact (List.getElem?_eq_some_iff.1 hy).1
  apply hij
  apply (List.getElem?_inj hlength hnodup).1
  rw [List.getElem?_map, List.getElem?_map, hx, hy]
  exact congrArg some heq

/-- A program against one host, which is behind this client and goes by this name. -/
structure HostTask (α : Type) where
  client : Handle
  name : String
  program : UpdateProgram α
  /-- Of the records in the store it deals with those of the host only. -/
  about : AsksOnly (I := updateInterface) (UpdateRequest.About name) program

namespace HostTask

variable {σ α : Type}

/-- The exchanges of a program with its host, what it ends with, and the host and the store then. -/
def alone (respond : (q : UpdateRequest) → σ → q.Reply × σ) (l : HostTask α) (w : HostWorld σ) :
    List UpdateExchange × α × HostWorld σ :=
  l.program.converse (HostWorld.handle respond) w

/-- The exchanges of programs side by side with their hosts, what they end with, and the hosts and
the store then. -/
def together (respond : (q : UpdateRequest) → σ → q.Reply × σ) (turns : List Nat)
    (tasks : List (HostTask α)) (w : FleetWorld σ) :
    List (Exchange commandInterface) × List α × FleetWorld σ :=
  (interleave turns (tasks.map fun l => onHost l.client l.program)).converse
    (FleetWorld.handle respond) w

variable {respond : (q : UpdateRequest) → σ → q.Reply × σ} {turns : List Nat}
  {tasks : List (HostTask α)} {w after : FleetWorld σ} {v : HostWorld σ} {l : HostTask α} {i : Nat}
  {tagged : List (Nat × Exchange commandInterface)}

/-- Each exchange is one that a program has with its own host, and deals with records of this host,
if with any. -/
theorem exists_sent_of_mem {results : List α}
    (hside : SideBySide (tasks.map fun l => onHost l.client l.program) tagged results)
    {z : Nat × Exchange commandInterface} (hz : z ∈ tagged) :
    ∃ m x, tasks[z.1]? = some m ∧ z.2 = sent m.client x ∧ UpdateRequest.About m.name x.request := by
  obtain ⟨m, t, result, hm, hrun, hown⟩ := exists_runs_of_mem hside hz
  obtain ⟨x, hx, hsent⟩ := List.mem_map.1 (hown ▸ mem_own.2 hz)
  exact ⟨m, x, hm, hsent.symm, m.about t result hrun x hx⟩

/-- The exchanges of one program, out of those of all, can be had with its host alone. By induction on
the exchanges: `Shows` is kept by those of the program itself and by those of the others. -/
theorem exists_leads_alone (hclients : (tasks.map HostTask.client).Nodup)
    (hnames : (tasks.map HostTask.name).Nodup) (hl : tasks[i]? = some l)
    (hsent : ∀ z ∈ tagged, ∃ m x, tasks[z.1]? = some m ∧ z.2 = sent m.client x ∧
      UpdateRequest.About m.name x.request ∧ StoreWorks x)
    (hleads : Leads (Replying (I := commandInterface) (FleetWorld.handle respond)) w
      (tagged.map Prod.snd) after)
    (hshows : w.Shows l.client l.name v) :
    ∃ t ended, own i tagged = t.map (sent l.client) ∧
      Leads (Replying (I := updateInterface) (HostWorld.handle respond)) v t ended ∧
      after.Shows l.client l.name ended := by
  induction tagged generalizing w v with
  | nil =>
      cases hleads
      exact ⟨[], v, rfl, .nil v, hshows⟩
  | cons z tagged ih =>
      obtain ⟨⟨m, ⟨q, r⟩, hm, hz, habout, hworks⟩, hrest⟩ := List.forall_mem_cons.1 hsent
      obtain ⟨j, y⟩ := z
      dsimp only at hm hz
      subst hz
      cases hleads with
      | @cons _ _ _ next _ hw hleads =>
          by_cases hij : j = i
          · subst hij
            obtain rfl : l = m := Option.some.inj (hl.symm.trans hm)
            obtain ⟨vnext, hv, hnext⟩ := hshows.step_own habout hw hworks
            obtain ⟨t, ended, hown, ht, hended⟩ := ih hrest hleads hnext
            refine ⟨⟨q, r⟩ :: t, ended, ?_, .cons hv ht, hended⟩
            rw [own_cons_self, hown, List.map_cons]
          · have hclient := ne_of_nodup_map hclients hl hm hij
            have hname := ne_of_nodup_map hnames hl hm hij
            rw [own_cons_of_ne hij]
            exact ih hrest hleads (hshows.step_other hclient hname habout hw hworks)

/-- Programs on hosts of different names behind different clients, side by side in any turns. When no
call to the store fails, each ends with what it ends with alone, and leaves its host as it does
alone; and the store shows the host what it does when the program was alone. -/
theorem together_alike (respond : (q : UpdateRequest) → σ → q.Reply × σ) (turns : List Nat)
    (w : FleetWorld σ) (hclients : (tasks.map HostTask.client).Nodup)
    (hnames : (tasks.map HostTask.name).Nodup)
    (hworks : ∀ client x, sent client x ∈ (together respond turns tasks w).1 → StoreWorks x)
    (hl : tasks[i]? = some l) :
    (together respond turns tasks w).2.1[i]? =
        some (l.alone respond (w.view l.client)).2.1 ∧
      (together respond turns tasks w).2.2.Shows l.client l.name
        (l.alone respond (w.view l.client)).2.2 := by
  have hrun := runs_converse (I := commandInterface) (FleetWorld.handle respond)
    (interleave turns (tasks.map fun l => onHost l.client l.program)) w
  have hleads := leads_converse (I := commandInterface) (FleetWorld.handle respond)
    (interleave turns (tasks.map fun l => onHost l.client l.program)) w
  rw [← together] at hrun hleads
  obtain ⟨tagged, htrace, hside⟩ := exists_sideBySide_of_interleave hrun
  rw [htrace] at hleads
  have hsent : ∀ z ∈ tagged, ∃ m x, tasks[z.1]? = some m ∧ z.2 = sent m.client x ∧
      UpdateRequest.About m.name x.request ∧ StoreWorks x := by
    intro z hz
    obtain ⟨m, x, hm, hx, habout⟩ := exists_sent_of_mem hside hz
    refine ⟨m, x, hm, hx, habout, hworks m.client x ?_⟩
    rw [← hx, htrace]
    exact List.mem_map_of_mem hz
  have hshows : w.Shows l.client l.name (w.view l.client) := ⟨rfl, .refl _ _⟩
  obtain ⟨t, ended, hown, hled, hended⟩ :=
    exists_leads_alone hclients hnames hl hsent hleads hshows
  obtain ⟨u, result, hresult, hruns, heq⟩ := exists_runs_of_sideBySide hside hl
  obtain rfl : t = u :=
    (List.map_inj_right (sent_injective l.client)).1 (hown.symm.trans heq)
  have halone : l.alone respond (w.view l.client) = (t, result, ended) :=
    converse_eq_of_leads hruns hled
  rw [halone]
  exact ⟨hresult, hended⟩

/-- Programs side by side meet no failing call to the store when it is one none of whose calls will
fail. -/
theorem storeWorks_together (hstore : w.store.Works)
    (respond : (q : UpdateRequest) → σ → q.Reply × σ) (turns : List Nat)
    (tasks : List (HostTask α)) :
    ∀ client x, sent client x ∈ (together respond turns tasks w).1 → StoreWorks x :=
  FleetWorld.storeWorks_of_leads (leads_converse (I := commandInterface) _ _ _) hstore

end HostTask

/-- An update run on one of several hosts. -/
structure HostRun where
  client : Handle
  host : RunHost
  policy : UpdatePolicy
  containers : List ContainerRecord

namespace HostRun

variable {σ : Type}

def task (updater : Updater) (l : HostRun) : HostTask UpdateReport where
  client := l.client
  name := l.host.name
  program := UpdateRun.run updater l.host l.policy l.containers
  about := UpdateRun.asksOnly_run updater l.host l.policy l.containers

/-- Update runs on hosts of different names behind different clients, side by side in any turns,
with any hosts and any store in memory or in a file. When no call to the store fails, each run ends
with the report with which it ends alone, leaves its host as it does alone, and leaves in the store
the same records of its host. -/
theorem together_eq_alone (respond : (q : UpdateRequest) → σ → q.Reply × σ) (updater : Updater)
    (turns : List Nat) (w : FleetWorld σ) {runs : List HostRun} {l : HostRun} {i : Nat}
    (hclients : (runs.map HostRun.client).Nodup) (hnames : (runs.map fun l => l.host.name).Nodup)
    (hworks : ∀ client x,
      sent client x ∈ (HostTask.together respond turns (runs.map (task updater)) w).1 →
        StoreWorks x)
    (hl : runs[i]? = some l) :
    let ended := HostTask.together respond turns (runs.map (task updater)) w
    let endedAlone := (l.task updater).alone respond (w.view l.client)
    ended.2.1[i]? = some endedAlone.2.1 ∧
      ended.2.2.own l.client = endedAlone.2.2.own ∧
      ∀ ids, (ended.2.2.store.handle (.find l.host.name ids)).1 =
        (endedAlone.2.2.store.handle (.find l.host.name ids)).1 := by
  have hclient : ((runs.map (task updater)).map HostTask.client).Nodup := by
    rw [List.map_map]
    exact hclients
  have hname : ((runs.map (task updater)).map HostTask.name).Nodup := by
    rw [List.map_map]
    exact hnames
  have htask : (runs.map (task updater))[i]? = some (l.task updater) := by
    rw [List.getElem?_map, hl, Option.map_some]
  obtain ⟨hreport, hshows⟩ :=
    HostTask.together_alike respond turns w hclient hname hworks htask
  exact ⟨hreport, hshows.own_eq, hshows.beside.find_eq⟩

/-- A run that only records which images of a host are outdated. -/
def recording (name : String) (kind : HostKind) (d : MemoryDaemon) : HostRun where
  client := ⟨name, 1⟩
  host := ⟨name, kind⟩
  policy := { UpdatePolicy.plain with notifyOnly := true }
  containers := d.list true

/-- A daemon with one container, whose image is outdated. -/
def oneOutdated : MemoryDaemon :=
  { UpdateRun.siblings with containers := UpdateRun.siblings.containers.take 1 }

/-- Two machines with equal daemons, and a store in a file that is not there yet. -/
def sharingFile : FleetWorld MemoryDaemon where
  own _ := oneOutdated
  store := .file ⟨"/var/lib/updates.json"⟩ Disk.empty

def recordings : List HostRun :=
  [recording "edge" .ssh oneOutdated, recording "local" .local oneOutdated]

theorem sharingFile_works : sharingFile.store.Works :=
  .file FileStore.works_updatesJson

/-- What is recorded about an image of a host. -/
def recordedRef? (s : AnyStore) (host id : String) : Option String :=
  ((s.handle (.find host [id])).1.toOption.bind fun found => found.get? id).map
    ImageUpdate.updateRef

/-- The two runs side by side, their requests in turns. -/
def recordedTogether : List (Exchange commandInterface) × List UpdateReport ×
    FleetWorld MemoryDaemon :=
  HostTask.together MemoryDaemon.serve [0, 1, 0, 1, 1, 1, 0, 0, 1, 0, 1]
    (recordings.map (task ⟨"", none, .zero⟩)) sharingFile

/-- One of the two runs alone. -/
def recordedAlone (l : HostRun) : List UpdateExchange × UpdateReport × HostWorld MemoryDaemon :=
  (l.task ⟨"", none, .zero⟩).alone MemoryDaemon.serve (sharingFile.view l.client)

/-- In the end the file has a record of one image for each machine, as from its run alone. -/
theorem together_eq_alone_sharingFile :
    (recordings.map HostRun.client).Nodup ∧ (recordings.map fun l => l.host.name).Nodup ∧
      (∀ client x, sent client x ∈ recordedTogether.1 → StoreWorks x) ∧
      ∀ (i : Nat) (l : HostRun), recordings[i]? = some l →
        recordedTogether.2.1[i]? = some (recordedAlone l).2.1 ∧
        recordedTogether.2.2.own l.client = (recordedAlone l).2.2.own ∧
        recordedRef? recordedTogether.2.2.store l.host.name "sha256:old" = some "sha256:n" := by
  have hclients : (recordings.map HostRun.client).Nodup := by decide
  have hnames : (recordings.map fun l => l.host.name).Nodup := by decide
  have hrecorded : ∀ l ∈ recordings,
      recordedRef? (recordedAlone l).2.2.store l.host.name "sha256:old" = some "sha256:n" := by
    decide +kernel
  rw [recordedTogether]
  have hworks := HostTask.storeWorks_together sharingFile_works MemoryDaemon.serve
    [0, 1, 0, 1, 1, 1, 0, 0, 1, 0, 1] (recordings.map (task ⟨"", none, .zero⟩))
  refine ⟨hclients, hnames, hworks, fun i l hl => ?_⟩
  obtain ⟨hreport, hown, hfind⟩ := together_eq_alone MemoryDaemon.serve ⟨"", none, .zero⟩
    [0, 1, 0, 1, 1, 1, 0, 0, 1, 0, 1] sharingFile hclients hnames hworks hl
  refine ⟨hreport, hown, .trans ?_ (hrecorded l (List.mem_of_getElem? hl))⟩
  rw [recordedRef?, recordedRef?, hfind, recordedAlone]

end HostRun

end ContainerFleet
