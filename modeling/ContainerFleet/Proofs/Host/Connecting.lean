import ContainerFleet.Host.Connection
import ContainerFleet.Proofs.Program.Conversation

/-!
What is asked while a host is connected. Main statements: `verifying_of_runs` and
`connecting_of_runs`, that the steps are a session, a dial and a probe, up to the first that fails,
and `Connecting.of_done` with `Connecting.done_of_probed`, that a host is connected when all of them
succeed.
-/

namespace ContainerFleet

open Program (Runs AsksOnly runs_bind_iff runs_call_iff runs_pure_iff asksOnly_pure asksOnly_call)

/-- A request for a connection with its reply. -/
abbrev ConnectionExchange : Type :=
  Program.Exchange connectionInterface

/-- A session to a machine was asked for. -/
def lookedUp (name : String) (r : Attempted (Option Handle)) : ConnectionExchange :=
  ⟨ConnectionRequest.openSession name, r⟩

/-- A daemon was dialed. -/
def dialed (name : String) (session : Option Handle) (r : Dialed) : ConnectionExchange :=
  ⟨ConnectionRequest.dial name session, r⟩

/-- A daemon was asked to identify itself. -/
def probed (client : Handle) (r : Probed) : ConnectionExchange :=
  ⟨ConnectionRequest.probe client, r⟩

/-- The clock was read. -/
def timed (moment : Moment) : ConnectionExchange :=
  ⟨ConnectionRequest.now, moment⟩

/-- Clients belong to the hosts that they were dialed for. -/
def OwnClients (trace : List ConnectionExchange) : Prop :=
  ∀ name session client, dialed name session (.connected client) ∈ trace → client.host = name

section Distinct

variable {name other : String} {session : Option Handle} {client : Handle} {moment : Moment}

@[simp]
theorem lookedUp_inj {r s : Attempted (Option Handle)} :
    lookedUp name r = lookedUp other s ↔ name = other ∧ r = s := by
  constructor
  · intro h
    cases h
    exact ⟨rfl, rfl⟩
  · rintro ⟨rfl, rfl⟩
    rfl

@[simp]
theorem probed_inj {another : Handle} {r s : Probed} :
    probed client r = probed another s ↔ client = another ∧ r = s := by
  constructor
  · intro h
    cases h
    exact ⟨rfl, rfl⟩
  · rintro ⟨rfl, rfl⟩
    rfl

@[simp]
theorem probed_ne_lookedUp {r : Probed} {s : Attempted (Option Handle)} :
    probed client r ≠ lookedUp name s :=
  nofun

@[simp]
theorem probed_ne_dialed {r : Probed} {s : Dialed} : probed client r ≠ dialed name session s :=
  nofun

@[simp]
theorem probed_ne_timed {r : Probed} : probed client r ≠ timed moment :=
  nofun

end Distinct

/-- Whether a request closes something. -/
def ConnectionRequest.closes : ConnectionRequest → Bool
  | .closeClient _ => true
  | .closeSession _ => true
  | _ => false

/-- Exchanges in which things are closed, and nothing else. -/
def Closes (trace : List ConnectionExchange) : Prop :=
  ∀ x ∈ trace, ConnectionRequest.closes x.request = true

theorem Closes.not_mem {closing : List ConnectionExchange} (hclosing : Closes closing)
    {x : ConnectionExchange} (hx : ConnectionRequest.closes x.request = false) : x ∉ closing := by
  intro hmem
  rw [hclosing x hmem] at hx
  cases hx

/-- Nothing is asked of a daemon while things are closed. -/
theorem Closes.probed_not_mem {closing : List ConnectionExchange} (hclosing : Closes closing)
    (client : Handle) (r : Probed) : probed client r ∉ closing :=
  hclosing.not_mem rfl

namespace Host

variable {name localName : String} {session : Option Handle} {client : Handle}
  {trace : List ConnectionExchange} {attempt : Attempted Host} {h : Host}

theorem asksOnly_closeSession (session : Option Handle) :
    AsksOnly (fun q => ConnectionRequest.closes q = true) (closeSession session) := by
  cases session with
  | none => exact asksOnly_pure ()
  | some session => exact asksOnly_call rfl

theorem asksOnly_close (h : Host) :
    AsksOnly (fun q => ConnectionRequest.closes q = true) h.close :=
  AsksOnly.bind (asksOnly_call rfl) fun _ => asksOnly_closeSession h.session

/-- The steps of having a daemon answer, up to the first that fails. -/
inductive Verifying (name : String) (session : Option Handle) :
    List ConnectionExchange → Attempted Host → Prop where
  | undialed : Verifying name session [dialed name session .brokenDown] .brokenDown
  | refused {e : ConnectionError} {closing : List ConnectionExchange} (h : Closes closing) :
      Verifying name session (dialed name session (.failed e) :: closing) (.failed e)
  | lost (client : Handle) (moment : Moment) :
      Verifying name session
        [dialed name session (.connected client), timed moment, probed client .brokenDown] .brokenDown
  | silent {client : Handle} {moment : Moment} {e : DaemonError}
      {closing : List ConnectionExchange} (h : Closes closing) :
      Verifying name session
        (dialed name session (.connected client) :: timed moment :: probed client (.failed e) ::
          closing)
        (.failed (.unavailable name e.message))
  | answered (client : Handle) (moment : Moment) (info : DaemonInfo) :
      Verifying name session
        [dialed name session (.connected client), timed moment, probed client (.answered info)]
        (.done ⟨name, moment, client, session⟩)

theorem verifying_of_runs (h : Runs (verify name session) trace attempt) :
    Verifying name session trace attempt := by
  obtain ⟨t, u, reply, rfl, ht, hdialed⟩ := runs_bind_iff.1 h
  obtain rfl := runs_call_iff.1 ht
  rcases reply with client | e | -
  · obtain ⟨t, u, moment, rfl, ht, htimed⟩ := runs_bind_iff.1 hdialed
    obtain rfl := runs_call_iff.1 ht
    obtain ⟨t, u, reply, rfl, ht, hprobed⟩ := runs_bind_iff.1 htimed
    obtain rfl := runs_call_iff.1 ht
    rcases reply with info | e | -
    · obtain ⟨rfl, rfl⟩ := runs_pure_iff.1 hprobed
      exact .answered client moment info
    · obtain ⟨closing, t, _, rfl, hclosing, hend⟩ := runs_bind_iff.1 hprobed
      obtain ⟨rfl, rfl⟩ := runs_pure_iff.1 hend
      rw [List.append_nil]
      exact .silent (asksOnly_close _ _ _ hclosing)
    · obtain ⟨rfl, rfl⟩ := runs_pure_iff.1 hprobed
      exact .lost client moment
  · obtain ⟨closing, t, _, rfl, hclosing, hend⟩ := runs_bind_iff.1 hdialed
    obtain ⟨rfl, rfl⟩ := runs_pure_iff.1 hend
    rw [List.append_nil]
    exact .refused (asksOnly_closeSession _ _ _ hclosing)
  · obtain ⟨rfl, rfl⟩ := runs_pure_iff.1 hdialed
    exact .undialed

theorem Verifying.of_done (hv : Verifying name session trace (.done h)) :
    h.name = name ∧ h.session = session ∧ ∃ moment info,
      trace = [dialed name session (.connected h.client), timed moment,
        probed h.client (.answered info)] := by
  cases hv
  exact ⟨rfl, rfl, _, _, rfl⟩

/-- A host whose daemon has answered is connected. -/
theorem Verifying.done_of_probed (hv : Verifying name session trace attempt) {info : DaemonInfo}
    (hprobed : probed client (.answered info) ∈ trace) :
    (∃ h, attempt = .done h) ∧ dialed name session (.connected client) ∈ trace := by
  cases hv with
  | undialed => simp at hprobed
  | refused hclosing => simp [Closes.probed_not_mem hclosing] at hprobed
  | lost other moment => simp at hprobed
  | silent hclosing => simp [Closes.probed_not_mem hclosing] at hprobed
  | answered other moment info =>
      obtain ⟨rfl, -⟩ : client = other ∧ _ := by simpa using hprobed
      exact ⟨⟨_, rfl⟩, List.mem_cons_self⟩

/-- The step that looks for the session to a machine. -/
inductive Looking (name : String) : List ConnectionExchange → Attempted Handle → Prop where
  | found (session : Handle) : Looking name [lookedUp name (.done (some session))] (.done session)
  | unfound {reply : Attempted (Option Handle)} {attempt : Attempted Handle}
      (hreply : ∀ session, reply ≠ .done (some session)) (h : ∀ session, attempt ≠ .done session) :
      Looking name [lookedUp name reply] attempt

theorem looking_of_runs {attempt : Attempted Handle} (h : Runs (remoteSession name) trace attempt) :
    Looking name trace attempt := by
  obtain ⟨t, u, reply, rfl, ht, hreply⟩ := runs_bind_iff.1 h
  obtain rfl := runs_call_iff.1 ht
  rcases reply with (_ | session) | e | -
  · obtain ⟨rfl, rfl⟩ := runs_pure_iff.1 hreply
    exact .unfound nofun nofun
  · obtain ⟨rfl, rfl⟩ := runs_pure_iff.1 hreply
    exact .found session
  · obtain ⟨rfl, rfl⟩ := runs_pure_iff.1 hreply
    exact .unfound nofun nofun
  · obtain ⟨rfl, rfl⟩ := runs_pure_iff.1 hreply
    exact .unfound nofun nofun

/-- The steps of connecting a host from the start. -/
inductive Connecting (localName name : String) :
    List ConnectionExchange → Attempted Host → Prop where
  | locally {trace : List ConnectionExchange} {attempt : Attempted Host} (hname : name = localName)
      (hv : Verifying name none trace attempt) : Connecting localName name trace attempt
  | unfound {reply : Attempted (Option Handle)} {attempt : Attempted Host}
      (hname : name ≠ localName) (hreply : ∀ session, reply ≠ .done (some session))
      (h : ∀ host, attempt ≠ .done host) :
      Connecting localName name [lookedUp name reply] attempt
  | remotely {session : Handle} {trace : List ConnectionExchange} {attempt : Attempted Host}
      (hname : name ≠ localName) (hv : Verifying name (some session) trace attempt) :
      Connecting localName name (lookedUp name (.done (some session)) :: trace) attempt

theorem connecting_of_runs (h : Runs (connect name (name == localName)) trace attempt) :
    Connecting localName name trace attempt := by
  unfold connect at h
  split at h
  · next hname => exact .locally (by simpa using hname) (verifying_of_runs h)
  · next hname =>
      have hname : name ≠ localName := by simpa using hname
      obtain ⟨t, u, found, rfl, ht, hfound⟩ := runs_bind_iff.1 h
      cases looking_of_runs ht with
      | found session => exact .remotely hname (verifying_of_runs hfound)
      | unfound hreply hnone =>
          rcases found with session | e | -
          · exact absurd rfl (hnone session)
          · obtain ⟨rfl, rfl⟩ := runs_pure_iff.1 hfound
            exact .unfound hname hreply nofun
          · obtain ⟨rfl, rfl⟩ := runs_pure_iff.1 hfound
            exact .unfound hname hreply nofun

/-- The exchanges by which a host is connected: a session, unless it is the local one, a dial and an
answer all succeed. -/
inductive Passing (localName name : String) : List ConnectionExchange → Prop where
  | locally (hname : name = localName) (client : Handle) (info : DaemonInfo) :
      Passing localName name
        [dialed name none (.connected client), probed client (.answered info)]
  | remotely (hname : name ≠ localName) (session client : Handle) (info : DaemonInfo) :
      Passing localName name
        [lookedUp name (.done (some session)), dialed name (some session) (.connected client),
          probed client (.answered info)]

/-- All steps of connecting a host from the start are among some exchanges, in their order. -/
def PassedIn (localName name : String) (trace : List ConnectionExchange) : Prop :=
  ∃ t, Passing localName name t ∧ t.Sublist trace

theorem PassedIn.mono {t u : List ConnectionExchange} (h : PassedIn localName name t)
    (hsub : t.Sublist u) : PassedIn localName name u := by
  obtain ⟨v, hv, hvt⟩ := h
  exact ⟨v, hv, hvt.trans hsub⟩

theorem PassedIn.exists_answered (h : PassedIn localName name trace) :
    ∃ session client info, dialed name session (.connected client) ∈ trace ∧
      probed client (.answered info) ∈ trace := by
  obtain ⟨t, ht, hsub⟩ := h
  cases ht with
  | locally hname client info =>
      exact ⟨none, client, info, hsub.subset (by simp), hsub.subset (by simp)⟩
  | remotely hname session client info =>
      exact ⟨some session, client, info, hsub.subset (by simp), hsub.subset (by simp)⟩

/-- The daemon behind a client was dialed, and answered afterwards. -/
def Answered (h : Host) (trace : List ConnectionExchange) : Prop :=
  ∃ info, [dialed h.name h.session (.connected h.client), probed h.client (.answered info)].Sublist
    trace

theorem Answered.mono {t u : List ConnectionExchange} (ha : Answered h t) (hsub : t.Sublist u) :
    Answered h u :=
  ha.imp fun _ => (·.trans hsub)

theorem Verifying.answered_of_done (hv : Verifying name session trace (.done h)) :
    Answered h trace := by
  obtain ⟨rfl, rfl, moment, info, rfl⟩ := hv.of_done
  exact ⟨info, .cons_cons _ (.cons _ (List.Sublist.refl _))⟩

/-- What was connected has passed. -/
theorem Connecting.of_done (hc : Connecting localName name trace (.done h)) :
    h.name = name ∧ Answered h trace ∧ PassedIn localName name trace := by
  cases hc with
  | locally hname hv =>
      obtain ⟨hhost, hsession, moment, info, rfl⟩ := hv.of_done
      exact ⟨hhost, hv.answered_of_done, _, .locally hname h.client info,
        .cons_cons _ (.cons _ (List.Sublist.refl _))⟩
  | unfound _ _ hnone => exact absurd rfl (hnone h)
  | remotely hname hv =>
      obtain ⟨hhost, hsession, moment, info, rfl⟩ := hv.of_done
      exact ⟨hhost, hv.answered_of_done.mono (List.sublist_cons_self _ _), _,
        .remotely hname _ h.client info,
        .cons_cons _ (.cons_cons _ (.cons _ (List.Sublist.refl _)))⟩

/-- A host whose daemon has answered is connected. -/
theorem Connecting.done_of_probed (hc : Connecting localName name trace attempt) {info : DaemonInfo}
    (hprobed : probed client (.answered info) ∈ trace) :
    (∃ h, attempt = .done h) ∧ ∃ session, dialed name session (.connected client) ∈ trace := by
  cases hc with
  | locally hname hv =>
      obtain ⟨hdone, hdialed⟩ := hv.done_of_probed hprobed
      exact ⟨hdone, none, hdialed⟩
  | unfound => simp at hprobed
  | remotely hname hv =>
      obtain ⟨hdone, hdialed⟩ := hv.done_of_probed (by simpa using hprobed)
      exact ⟨hdone, _, List.mem_cons_of_mem _ hdialed⟩

end Host

end ContainerFleet
