import ContainerFleet.Proofs.Host.Leak

/-!
What one change of the registry closes. Main statement: `closes_what_it_drops`. An attempt to connect
that fails closes what it was given and what it opened, and nothing else happens; one that succeeds
closes the host that it replaces, once the new one has answered.
-/

namespace ContainerFleet

open Program (Runs converse runs_converse runs_bind_iff runs_pure_iff)
open Resource (ofSession)

/-- The resources that some exchanges open. -/
def resourcesOpened (trace : List ConnectionExchange) : List Resource :=
  (openedIn trace).map Prod.snd

variable {t u trace : List ConnectionExchange} {a b held : List Resource} {session : Option Handle}
  {name : String}

theorem resourcesOpened_append :
    resourcesOpened (t ++ u) = resourcesOpened t ++ resourcesOpened u := by
  simp [resourcesOpened, openedIn]

/-- Where nothing is lost, what is no longer held was closed. -/
theorem Moves.perm_closedIn (h : Moves t (a ++ held) held []) :
    (closedIn t).Perm (a ++ resourcesOpened t) := by
  refine List.perm_iff_count.2 fun x => ?_
  have hx := h x
  simp only [List.count_append, List.count_nil, resourcesOpened] at hx ⊢
  omega

/-- Where nothing is lost or closed, all that is open is held. -/
theorem Moves.perm_held (h : Moves t a b []) (hclosed : closedIn t = []) :
    b.Perm (a ++ resourcesOpened t) := by
  refine List.perm_iff_count.2 fun x => ?_
  have hx := h x
  rw [hclosed] at hx
  simp only [List.count_append, List.count_nil, resourcesOpened] at hx ⊢
  omega

theorem Closes.resourcesOpened_eq_nil (h : Closes trace) : resourcesOpened trace = [] := by
  have hopened : openedIn trace = [] := by
    refine List.filterMap_eq_nil_iff.2 fun x hx => ?_
    obtain ⟨q, reply⟩ := x
    have hcloses := h _ hx
    cases q with
    | closeClient client => rfl
    | closeSession session => rfl
    | _ => cases hcloses
  rw [resourcesOpened, hopened, List.map_nil]

namespace Host

variable {attempt : Attempted Host} {host : Host}

/-- A host that was given up leaves nothing open. -/
theorem perm_closedIn_of_failed {e : ConnectionError}
    (h : Runs (verify name session) trace (.failed e)) :
    (closedIn trace).Perm (ofSession session ++ resourcesOpened trace) := by
  obtain ⟨lost, hmoves, hlost⟩ := moves_of_runs_verify h
  have hleft : ¬ LeftBehind trace := by
    cases verifying_of_runs h with
    | refused hclosing =>
        exact fun hleft => (leftBehind_cons.1 hleft).elim nofun hclosing.not_leftBehind
    | silent hclosing =>
        simp only [leftBehind_cons, not_or]
        exact ⟨nofun, nofun, nofun, hclosing.not_leftBehind⟩
  rw [hlost.2 hleft] at hmoves
  have hnone : Moves trace (ofSession session ++ []) [] [] := by rwa [List.append_nil]
  exact hnone.perm_closedIn

theorem closedIn_of_answered (hv : Verifying name session trace (.done host)) :
    closedIn trace = [] := by
  obtain ⟨-, -, moment, info, rfl⟩ := hv.of_done
  rfl

/-- A host that was connected holds what was given and opened for it. -/
theorem perm_resources_of_done (h : Runs (verify name session) trace (.done host)) :
    host.resources.Perm (ofSession session ++ resourcesOpened trace) := by
  have hv := verifying_of_runs h
  obtain ⟨lost, hmoves, hlost⟩ := moves_of_runs_verify h
  have hleft : ¬ LeftBehind trace := by
    obtain ⟨-, -, moment, info, rfl⟩ := hv.of_done
    simp only [leftBehind_cons, not_or]
    exact ⟨nofun, nofun, nofun, not_leftBehind_nil⟩
  rw [hlost.2 hleft] at hmoves
  exact hmoves.perm_held (closedIn_of_answered hv)

theorem closedIn_of_brokenDown (hv : Verifying name session trace .brokenDown) :
    closedIn trace = [] := by
  cases hv with
  | undialed => rfl
  | lost client moment => rfl

end Host

namespace Registry

variable {r r' : Registry} {result : Attempted Unit}

/-- What an attempt to connect a host and put it in its place comes to, with the session that it was
given. -/
structure Admission (r : Registry) (name : String) (given : Option Handle)
    (trace : List ConnectionExchange) (result : Attempted Unit) (r' : Registry) : Prop where
  failed : ∀ e, result = .failed e →
    r' = r ∧ (closedIn trace).Perm (ofSession given ++ resourcesOpened trace)
  done : result = .done () → ∃ host verifying closing, trace = verifying ++ closing ∧
    host.name = name ∧ host.Answered verifying ∧
    host.resources.Perm (ofSession given ++ resourcesOpened trace) ∧
    closedIn verifying = [] ∧ (closedIn closing).Perm (r.heldUnder name) ∧
    r'.hosts.get? name = some host ∧
    ∀ other, other ≠ name → r'.hosts.get? other = r.hosts.get? other
  brokenDown : result = .brokenDown → r' = r ∧ closedIn trace = []

/-- What it comes to that a host is closed and forgotten. -/
structure Removal (r : Registry) (name : String) (trace : List ConnectionExchange)
    (r' : Registry) : Prop where
  closed : (closedIn trace).Perm (r.heldUnder name)
  unknown : r.hosts.get? name = none → trace = []
  gone : r'.hosts.get? name = none
  others : ∀ other, other ≠ name → r'.hosts.get? other = r.hosts.get? other

theorem perm_closedIn_of_closeOld (h : Runs (r.closeOld name) trace ()) :
    (closedIn trace).Perm (r.heldUnder name) := by
  have hmoves := moves_of_runs_closeOld h []
  have hperm := hmoves.perm_closedIn
  rwa [(closes_of_runs_closeOld h).resourcesOpened_eq_nil, List.append_nil] at hperm

theorem removal_of_runs_delete (h : Runs (r.delete name) trace r') : Removal r name trace r' := by
  rw [delete_eq] at h
  obtain ⟨closing, u, _, rfl, hclosing, hend⟩ := runs_bind_iff.1 h
  obtain ⟨rfl, rfl⟩ := runs_pure_iff.1 hend
  rw [List.append_nil]
  refine ⟨perm_closedIn_of_closeOld hclosing, fun hnone => ?_, ?_, fun other hother => ?_⟩
  · rw [closeOld, hnone] at hclosing
    exact (runs_pure_iff.1 hclosing).1
  · rw [hosts_without, Map.get?_erase, if_pos rfl]
  · rw [hosts_without, Map.get?_erase, if_neg hother.symm]

theorem admission_of_runs_add (h : Runs (r.add name session) trace (result, r')) :
    Admission r name session trace result r' := by
  obtain ⟨verifying, u, attempt, rfl, hverify, h⟩ := runs_bind_iff.1 h
  have hv := Host.verifying_of_runs hverify
  rcases attempt with host | e | -
  · obtain ⟨closing, v, next, rfl, hreplace, hend⟩ := runs_bind_iff.1 h
    obtain ⟨rfl, hresult⟩ := runs_pure_iff.1 hend
    cases hresult
    obtain ⟨hname, hsession, -⟩ := hv.of_done
    subst hname
    rw [replaceHost_eq] at hreplace
    obtain ⟨closing, v, _, rfl, hclosing, hend⟩ := runs_bind_iff.1 hreplace
    obtain ⟨rfl, rfl⟩ := runs_pure_iff.1 hend
    simp only [List.append_nil]
    refine ⟨nofun, fun _ => ?_, nofun⟩
    refine ⟨host, verifying, closing, rfl, rfl, hv.answered_of_done, ?_,
      Host.closedIn_of_answered hv, perm_closedIn_of_closeOld hclosing, ?_, fun other hother => ?_⟩
    · rw [resourcesOpened_append, (closes_of_runs_closeOld hclosing).resourcesOpened_eq_nil,
        List.append_nil]
      exact Host.perm_resources_of_done hverify
    · rw [get?_replaced, if_pos rfl]
    · rw [get?_replaced, if_neg hother.symm]
  · obtain ⟨rfl, hresult⟩ := runs_pure_iff.1 h
    cases hresult
    rw [List.append_nil]
    refine ⟨fun e' he => ⟨rfl, Host.perm_closedIn_of_failed hverify⟩, nofun, nofun⟩
  · obtain ⟨rfl, hresult⟩ := runs_pure_iff.1 h
    cases hresult
    rw [List.append_nil]
    exact ⟨nofun, nofun, fun _ => ⟨rfl, Host.closedIn_of_brokenDown hv⟩⟩

/-- A session that was found first counts among what was opened. -/
theorem Admission.of_found {session : Handle}
    (h : Admission r name (some session) trace result r') :
    Admission r name none (lookedUp name (.done (some session)) :: trace) result r' := by
  refine ⟨h.failed, fun hdone => ?_, h.brokenDown⟩
  obtain ⟨host, verifying, closing, rfl, hname, hanswered, hheld, hclosed, hdropped, hget, hothers⟩ :=
    h.done hdone
  exact ⟨host, lookedUp name (.done (some session)) :: verifying, closing, rfl, hname,
    hanswered.mono (List.sublist_cons_self _ _), hheld, hclosed, hdropped, hget, hothers⟩

theorem admission_of_runs_connect (h : Runs (r.connect name) trace (result, r')) :
    Admission r name none trace result r' := by
  unfold connect at h
  split at h
  · exact admission_of_runs_add h
  · obtain ⟨t, u, found, rfl, ht, hfound⟩ := runs_bind_iff.1 h
    obtain ⟨hmoves, -⟩ := Host.moves_of_runs_remoteSession ht
    rcases found with session | e | -
    · cases Host.looking_of_runs ht with
      | found session => exact (admission_of_runs_add hfound).of_found
      | unfound hreply hnone => exact absurd rfl (hnone session)
    · obtain ⟨rfl, hresult⟩ := runs_pure_iff.1 hfound
      cases hresult
      rw [List.append_nil]
      have hnone : Moves t ([] ++ []) [] [] := hmoves
      exact ⟨fun e' he => ⟨rfl, hnone.perm_closedIn⟩, nofun, nofun⟩
    · obtain ⟨rfl, hresult⟩ := runs_pure_iff.1 hfound
      cases hresult
      rw [List.append_nil]
      refine ⟨nofun, nofun, fun _ => ⟨rfl, ?_⟩⟩
      cases Host.looking_of_runs ht with
      | unfound hreply hnone => rfl

theorem removal_of_runs_toggle (h : Runs (r.toggle name false) trace (result, r')) :
    result = .done () ∧ Removal r name trace r' := by
  obtain ⟨t, u, next, rfl, hdelete, hend⟩ := runs_bind_iff.1 h
  obtain ⟨rfl, hresult⟩ := runs_pure_iff.1 hend
  cases hresult
  rw [List.append_nil]
  exact ⟨rfl, removal_of_runs_delete hdelete⟩

theorem hosts_eq_nil_of_shutdown (h : Runs r.shutdown trace r') : r'.hosts = [] := by
  obtain ⟨-, rfl⟩ := of_runs_deleteAll h
  have hnames : (r.names.foldl without r).names = [] :=
    List.eq_nil_iff_forall_not_mem.2 fun name hname =>
      have hleft := mem_names_foldl_without.1 hname
      hleft.2 hleft.1
  exact List.isEmpty_iff.1 (names_eq_nil_iff.1 hnames)

theorem perm_closedIn_of_shutdown (hr : (Map.keys r.hosts).Nodup)
    (h : Runs r.shutdown trace r') : (closedIn trace).Perm r.held := by
  have hmoves := moves_of_runs_deleteAll hr h
  have hgone : r'.held = [] := by rw [held, hosts_eq_nil_of_shutdown h, List.flatMap_nil]
  rw [hgone, ← List.append_nil r.held] at hmoves
  have hperm := hmoves.perm_closedIn
  rwa [(of_runs_deleteAll h).1.resourcesOpened_eq_nil, List.append_nil] at hperm

/-- Whatever the world replies, each change of the registry closes exactly what it drops. An attempt
to connect a host that fails leaves the registry as it was and closes the session that it was given
or found and the client that it dialed; one that succeeds closes the host that was there before,
after the new one has answered. A host that is deleted is closed, and at the end all hosts are. -/
theorem closes_what_it_drops (r : Registry) (hr : (Map.keys r.hosts).Nodup) :
    (∀ name given trace result r', Runs (r.add name given) trace (result, r') →
      Admission r name given trace result r') ∧
    (∀ name trace result r', Runs (r.connect name) trace (result, r') →
      Admission r name none trace result r') ∧
    (∀ name trace result r', Runs (r.toggle name true) trace (result, r') →
      Admission r name none trace result r') ∧
    (∀ name trace r', Runs (r.delete name) trace r' → Removal r name trace r') ∧
    (∀ name trace result r', Runs (r.toggle name false) trace (result, r') →
      result = .done () ∧ Removal r name trace r') ∧
    ∀ trace r', Runs r.shutdown trace r' → (closedIn trace).Perm r.held ∧ r'.hosts = [] :=
  ⟨fun _ _ _ _ _ => admission_of_runs_add, fun _ _ _ _ => admission_of_runs_connect,
    fun _ _ _ _ => admission_of_runs_connect, fun _ _ _ => removal_of_runs_delete,
    fun _ _ _ _ => removal_of_runs_toggle,
    fun _ _ h => ⟨perm_closedIn_of_shutdown hr h, hosts_eq_nil_of_shutdown h⟩⟩

/-- A fleet in which the daemon of one machine answers the first client only. -/
def silencedScript : ConnectionScript :=
  { ConnectionScript.unsteady with dials := [("edge-1", [.healthy, .unreachable])] }

/-- The machine is connected, and what is said when it is connected once more. -/
def silenced : Registry × List ConnectionExchange × (Attempted Unit × Registry) × ConnectionWorld :=
  let (_, r, w) := play ConnectionWorld.handle [.connect "edge-1"] (empty "local")
    (.start silencedScript)
  (r, converse (I := connectionInterface) ConnectionWorld.handle (r.connect "edge-1") w)

/-- The second session and client are closed, and the first ones are kept. -/
theorem closes_what_it_drops_silenced :
    let (r, trace, (result, r'), _) := silenced
    (Map.keys r.hosts).Nodup ∧ Runs (r.connect "edge-1") trace (result, r') ∧
      (∃ e, result = .failed e) ∧ r' = r ∧
      r.heldUnder "edge-1" = [.client ⟨"edge-1", 1⟩, .session ⟨"edge-1", 1⟩] ∧
      (closedIn trace).Perm [.session ⟨"edge-1", 2⟩, .client ⟨"edge-1", 2⟩] := by
  have hr : (Map.keys silenced.1.hosts).Nodup := by decide +kernel
  have hruns : Runs (silenced.1.connect "edge-1") silenced.2.1
      (silenced.2.2.1.1, silenced.2.2.1.2) :=
    runs_converse (I := connectionInterface) ConnectionWorld.handle _ _
  have hfailed : silenced.2.2.1.1 =
      .failed (.unavailable "edge-1" UpdateWorld.refused.message) := by decide +kernel
  have hopened : ofSession none ++ resourcesOpened silenced.2.1 =
      [.session ⟨"edge-1", 2⟩, .client ⟨"edge-1", 2⟩] := by decide +kernel
  have hadmitted := (closes_what_it_drops silenced.1 hr).2.1 "edge-1" _ _ _ hruns
  obtain ⟨hkept, hclosed⟩ := hadmitted.failed _ hfailed
  rw [hopened] at hclosed
  exact ⟨hr, hruns, ⟨_, hfailed⟩, hkept, by decide +kernel, hclosed⟩

end Registry

end ContainerFleet
