import ContainerFleet.Proofs.Host.Operation

/-!
What is opened and closed while hosts are connected, replaced and deleted. Main statements:
`moves_of_runs_verify` and its like for the operations, that whatever is opened is closed, kept by a
host or lost, and that something is lost only where a step breaks down.
-/

namespace ContainerFleet

open Program (Runs SideBySide own runs_bind_iff runs_call_iff runs_pure_iff)

/-- Something that is opened for a host, and that somebody has to close. -/
inductive Resource where
  | client (handle : Handle)
  | session (handle : Handle)
deriving DecidableEq, Repr

/-- A session as far as there is one. -/
def Resource.ofSession (session : Option Handle) : List Resource :=
  (session.map Resource.session).toList

/-- What an exchange opens, with the host that it is opened for. -/
def openedBy : ConnectionExchange → Option (String × Resource)
  | ⟨.openSession name, reply⟩ =>
    match (reply : Attempted (Option Handle)) with
    | .done (some session) => some (name, .session session)
    | _ => none
  | ⟨.dial name _, reply⟩ =>
    match (reply : Dialed) with
    | .connected client => some (name, .client client)
    | _ => none
  | _ => none

def closedBy : ConnectionExchange → Option Resource
  | ⟨.closeClient client, _⟩ => some (.client client)
  | ⟨.closeSession session, _⟩ => some (.session session)
  | _ => none

/-- Whether something that is open is left behind by a step that breaks down. -/
def leftBehindBy : ConnectionExchange → Bool
  | ⟨.dial _ session, reply⟩ =>
    match (reply : Dialed), session with
    | .brokenDown, some _ => true
    | _, _ => false
  | ⟨.probe _, reply⟩ =>
    match (reply : Probed) with
    | .brokenDown => true
    | _ => false
  | _ => false

def openedIn (trace : List ConnectionExchange) : List (String × Resource) :=
  trace.filterMap openedBy

def closedIn (trace : List ConnectionExchange) : List Resource :=
  trace.filterMap closedBy

/-- Something that was open is left behind by a step that broke down. -/
def LeftBehind (trace : List ConnectionExchange) : Prop :=
  ∃ x ∈ trace, leftBehindBy x = true

instance : DecidablePred LeftBehind := fun trace =>
  inferInstanceAs (Decidable (∃ x ∈ trace, leftBehindBy x = true))

open Resource (ofSession)

/-- What a host keeps open. -/
def Host.resources (h : Host) : List Resource :=
  .client h.client :: ofSession h.session

def Attempted.resources : Attempted Host → List Resource
  | .done host => host.resources
  | .failed _ => []
  | .brokenDown => []

/-- `Moves trace before after lost`: of what was open before some exchanges and what they open, they
close a part, the next part is still held, and the last one is lost. -/
def Moves (trace : List ConnectionExchange) (before after lost : List Resource) : Prop :=
  ∀ x, before.count x + ((openedIn trace).map Prod.snd).count x =
    (closedIn trace).count x + after.count x + lost.count x

namespace Moves

variable {t u : List ConnectionExchange} {a b c lost more : List Resource}

theorem nil (a : List Resource) : Moves [] a a [] := by
  intro x
  simp [openedIn, closedIn]

theorem append (ht : Moves t a b lost) (hu : Moves u b c more) :
    Moves (t ++ u) a c (lost ++ more) := by
  intro x
  have hx := ht x
  have hy := hu x
  simp only [openedIn, closedIn, List.filterMap_append, List.map_append, List.count_append]
    at hx hy ⊢
  omega

/-- An exchange that neither opens nor closes anything. -/
theorem idle {x : ConnectionExchange} (hopened : openedBy x = none) (hclosed : closedBy x = none)
    (a : List Resource) : Moves [x] a a [] := by
  intro y
  simp [openedIn, closedIn, hopened, hclosed]

theorem opens {x : ConnectionExchange} {name : String} {y : Resource}
    (hopened : openedBy x = some (name, y)) (hclosed : closedBy x = none) (a : List Resource) :
    Moves [x] a (y :: a) [] := by
  intro z
  simp [openedIn, closedIn, hopened, hclosed, List.count_cons]

theorem closes {x : ConnectionExchange} {y : Resource} (hopened : openedBy x = none)
    (hclosed : closedBy x = some y) (a : List Resource) : Moves [x] (y :: a) a [] := by
  intro z
  simp only [openedIn, closedIn, hopened, hclosed, List.filterMap_cons, List.filterMap_nil,
    List.map_nil, List.count_cons, List.count_nil]
  omega

/-- Nobody holds any longer what was held. -/
theorem lose (h : Moves t a b lost) : Moves t a [] (b ++ lost) := by
  intro x
  have hx := h x
  simp only [List.count_append, List.count_nil]
  omega

/-- What is held besides is still held. -/
theorem frame (h : Moves t a b lost) (held : List Resource) :
    Moves t (held ++ a) (held ++ b) lost := by
  intro x
  have hx := h x
  simp only [List.count_append]
  omega

/-- Only how often something is held counts. -/
theorem congr {a' b' : List Resource} (h : Moves t a b lost) (ha : ∀ x, a'.count x = a.count x)
    (hb : ∀ x, b'.count x = b.count x) : Moves t a' b' lost := by
  intro x
  rw [ha, hb]
  exact h x

theorem of_perm (h : Moves t a b lost) (hperm : t.Perm u) : Moves u a b lost := by
  intro x
  have hopened := ((hperm.filterMap openedBy).map Prod.snd).count_eq x
  have hclosed := (hperm.filterMap closedBy).count_eq x
  have hx := h x
  unfold openedIn closedIn at hx ⊢
  omega

end Moves

theorem leftBehind_append {t u : List ConnectionExchange} :
    LeftBehind (t ++ u) ↔ LeftBehind t ∨ LeftBehind u := by
  simp [LeftBehind, or_and_right, exists_or]

theorem leftBehind_cons {x : ConnectionExchange} {t : List ConnectionExchange} :
    LeftBehind (x :: t) ↔ leftBehindBy x = true ∨ LeftBehind t := by
  simp [LeftBehind]

theorem not_leftBehind_nil : ¬ LeftBehind [] := by
  simp [LeftBehind]

/-- Nothing is left behind where things are closed. -/
theorem Closes.not_leftBehind {trace : List ConnectionExchange} (h : Closes trace) :
    ¬ LeftBehind trace := by
  rintro ⟨⟨q, reply⟩, hx, hleft⟩
  have hcloses := h _ hx
  cases q with
  | closeClient client => cases hleft
  | closeSession session => cases hleft
  | _ => cases hcloses

namespace Host

variable {name localName : String} {session : Option Handle} {trace : List ConnectionExchange}
  {attempt : Attempted Host} {h : Host}

theorem moves_of_runs_closeSession (hruns : Runs (closeSession session) trace ())
    (held : List Resource) : Moves trace (ofSession session ++ held) held [] := by
  cases session with
  | none =>
      obtain ⟨rfl, -⟩ := runs_pure_iff.1 hruns
      exact .nil held
  | some session =>
      obtain rfl := runs_call_iff.1 hruns
      exact .closes rfl rfl held

theorem moves_of_runs_close (hruns : Runs h.close trace ()) (held : List Resource) :
    Moves trace (h.resources ++ held) held [] := by
  obtain ⟨t, u, _, rfl, ht, hu⟩ := runs_bind_iff.1 hruns
  obtain rfl := runs_call_iff.1 ht
  exact (Moves.closes rfl rfl _).append (moves_of_runs_closeSession hu held)

/-- A session that was handed over is in the end kept by the host, closed, or left behind. -/
theorem moves_of_runs_verify (hruns : Runs (verify name session) trace attempt) :
    ∃ lost, Moves trace (ofSession session) attempt.resources lost ∧
      (lost = [] ↔ ¬ LeftBehind trace) := by
  obtain ⟨t, u, reply, rfl, ht, hdialed⟩ := runs_bind_iff.1 hruns
  obtain rfl := runs_call_iff.1 ht
  rcases reply with client | e | -
  · obtain ⟨t, u, moment, rfl, ht, htimed⟩ := runs_bind_iff.1 hdialed
    obtain rfl := runs_call_iff.1 ht
    obtain ⟨t, u, reply, rfl, ht, hprobed⟩ := runs_bind_iff.1 htimed
    obtain rfl := runs_call_iff.1 ht
    have hopen : Moves [dialed name session (.connected client), timed moment, probed client reply]
        (ofSession session) (.client client :: ofSession session) [] :=
      ((Moves.opens rfl rfl _).append (.idle rfl rfl _)).append (.idle rfl rfl _)
    have hleft {u : List ConnectionExchange} :
        LeftBehind (dialed name session (.connected client) :: timed moment :: probed client reply :: u)
          ↔ leftBehindBy (probed client reply) = true ∨ LeftBehind u := by
      simp [leftBehind_cons, show leftBehindBy (dialed name session (.connected client)) = false from rfl,
        show leftBehindBy (timed moment) = false from rfl]
    rcases reply with info | e | -
    · obtain ⟨rfl, rfl⟩ := runs_pure_iff.1 hprobed
      exact ⟨[], hopen, iff_of_true rfl fun h => (hleft.1 h).elim nofun not_leftBehind_nil⟩
    · obtain ⟨closing, t, _, rfl, hclosing, hend⟩ := runs_bind_iff.1 hprobed
      obtain ⟨rfl, rfl⟩ := runs_pure_iff.1 hend
      have hclosed := moves_of_runs_close hclosing []
      have hcloses : Closes closing := asksOnly_close _ _ _ hclosing
      rw [List.append_nil] at hclosed ⊢
      exact ⟨[], hopen.append hclosed,
        iff_of_true rfl fun h => (hleft.1 h).elim nofun hcloses.not_leftBehind⟩
    · obtain ⟨rfl, rfl⟩ := runs_pure_iff.1 hprobed
      exact ⟨_, hopen.lose, iff_of_false nofun (not_not_intro (hleft.2 (.inl rfl)))⟩
  · obtain ⟨closing, t, _, rfl, hclosing, hend⟩ := runs_bind_iff.1 hdialed
    obtain ⟨rfl, rfl⟩ := runs_pure_iff.1 hend
    have hclosed := moves_of_runs_closeSession hclosing []
    have hcloses : Closes closing := asksOnly_closeSession _ _ _ hclosing
    rw [List.append_nil] at hclosed ⊢
    exact ⟨[], (Moves.idle rfl rfl _).append hclosed,
      iff_of_true rfl fun h => (leftBehind_cons.1 h).elim nofun hcloses.not_leftBehind⟩
  · obtain ⟨rfl, rfl⟩ := runs_pure_iff.1 hdialed
    refine ⟨_, (Moves.idle rfl rfl _).lose, ?_⟩
    cases session with
    | none => exact iff_of_true rfl fun h => (leftBehind_cons.1 h).elim nofun not_leftBehind_nil
    | some session => exact iff_of_false nofun (not_not_intro (leftBehind_cons.2 (.inl rfl)))

/-- The session that a search has found. -/
def foundSession : Attempted Handle → List Resource
  | .done session => [.session session]
  | .failed _ => []
  | .brokenDown => []

theorem moves_of_runs_remoteSession {found : Attempted Handle}
    (hruns : Runs (remoteSession name) trace found) :
    Moves trace [] (foundSession found) [] ∧ ¬ LeftBehind trace := by
  have hleft (reply : Attempted (Option Handle)) : ¬ LeftBehind [lookedUp name reply] := fun h =>
    (leftBehind_cons.1 h).elim nofun not_leftBehind_nil
  cases looking_of_runs hruns with
  | found session => exact ⟨.opens rfl rfl [], hleft _⟩
  | @unfound reply _ hreply hnone =>
      have hopened : openedBy (lookedUp name reply) = none := by
        rcases reply with (_ | session) | e | -
        · rfl
        · exact absurd rfl (hreply session)
        · rfl
        · rfl
      have hfound : foundSession found = [] := by
        rcases found with session | e | -
        · exact absurd rfl (hnone session)
        · rfl
        · rfl
      rw [hfound]
      exact ⟨.idle hopened rfl [], hleft reply⟩

theorem moves_of_runs_connect {onThisMachine : Bool}
    (hruns : Runs (connect name onThisMachine) trace attempt) :
    ∃ lost, Moves trace [] attempt.resources lost ∧ (lost = [] ↔ ¬ LeftBehind trace) := by
  unfold connect at hruns
  split at hruns
  · exact moves_of_runs_verify hruns
  · obtain ⟨t, u, found, rfl, ht, hfound⟩ := runs_bind_iff.1 hruns
    obtain ⟨hsession, hleft⟩ := moves_of_runs_remoteSession ht
    rcases found with session | e | -
    · obtain ⟨lost, hverified, hlost⟩ := moves_of_runs_verify hfound
      exact ⟨lost, hsession.append hverified, by rw [hlost, leftBehind_append, or_iff_right hleft]⟩
    · obtain ⟨rfl, rfl⟩ := runs_pure_iff.1 hfound
      rw [List.append_nil]
      exact ⟨[], hsession, iff_of_true rfl hleft⟩
    · obtain ⟨rfl, rfl⟩ := runs_pure_iff.1 hfound
      rw [List.append_nil]
      exact ⟨[], hsession, iff_of_true rfl hleft⟩

end Host

namespace Registry

variable {r r' : Registry} {name : String} {host : Host} {session : Option Handle}
  {trace : List ConnectionExchange}

/-- What all hosts keep open. -/
def held (r : Registry) : List Resource :=
  r.hosts.flatMap fun entry => entry.2.resources

/-- What the host of a name keeps open. -/
def heldUnder (r : Registry) (name : String) : List Resource :=
  ((r.hosts.get? name).map Host.resources).getD []

theorem held_eq_of_hosts_eq {s : Registry} (h : r.hosts = s.hosts) : r.held = s.held := by
  rw [held, held, h]

/-- What is kept open is kept open by the host of one name, or by the others. By induction on the
hosts. -/
theorem count_held (h : (Map.keys r.hosts).Nodup) (name : String) (x : Resource) :
    r.held.count x = (r.heldUnder name).count x + (r.erase name).held.count x := by
  obtain ⟨localName, hosts, elected⟩ := r
  simp only [held, heldUnder, erase] at h ⊢
  induction hosts with
  | nil => rfl
  | cons entry hosts ih =>
      obtain ⟨hentry, hrest⟩ := List.nodup_cons.1 h
      have hfound := ih hrest
      by_cases hname : entry.1 = name
      · subst hname
        have hnone : Map.get? hosts entry.1 = none := by
          rwa [← Option.not_isSome_iff_eq_none, Option.isSome_iff_exists, ← Map.mem_keys_iff]
        simp only [hnone, Option.map_none, Option.getD_none, List.count_nil] at hfound
        simp [Map.get?_cons, Map.erase] at hfound ⊢
        omega
      · simp [Map.get?_cons, Map.erase, hname] at hfound ⊢
        omega

theorem count_held_insert (h : (Map.keys r.hosts).Nodup) (host : Host) (x : Resource) :
    (r.insert host).held.count x + (r.heldUnder host.name).count x =
      host.resources.count x + r.held.count x := by
  rw [count_held h host.name]
  simp only [held, insert, erase, Map.insert, List.flatMap_append, List.flatMap_cons,
    List.flatMap_nil, List.append_nil, List.count_append]
  omega

theorem heldUnder_erase_self (r : Registry) (name : String) :
    (r.erase name).heldUnder name = [] := by
  simp [heldUnder, erase, Map.get?_erase]

theorem held_without (r : Registry) (name : String) : (r.without name).held = (r.erase name).held :=
  held_eq_of_hosts_eq (hosts_without r name)

theorem moves_of_runs_closeOld (hruns : Runs (r.closeOld name) trace ()) (held : List Resource) :
    Moves trace (r.heldUnder name ++ held) held [] := by
  unfold closeOld at hruns
  unfold heldUnder
  cases hget : r.hosts.get? name with
  | none =>
      rw [hget] at hruns
      obtain ⟨rfl, -⟩ := runs_pure_iff.1 hruns
      exact .nil held
  | some host =>
      rw [hget] at hruns
      exact Host.moves_of_runs_close hruns held

theorem moves_of_runs_delete (h : (Map.keys r.hosts).Nodup) (hruns : Runs (r.delete name) trace r') :
    Moves trace r.held r'.held [] := by
  rw [delete_eq] at hruns
  obtain ⟨t, u, _, rfl, ht, hu⟩ := runs_bind_iff.1 hruns
  obtain ⟨rfl, rfl⟩ := runs_pure_iff.1 hu
  rw [List.append_nil, held_without]
  exact (moves_of_runs_closeOld ht _).congr (fun x => by rw [List.count_append, count_held h name])
    fun _ => rfl

theorem moves_of_runs_deleteAll {names : List String} (h : (Map.keys r.hosts).Nodup)
    (hruns : Runs (deleteAll names r) trace r') : Moves trace r.held r'.held [] := by
  induction names generalizing r trace with
  | nil =>
      obtain ⟨rfl, rfl⟩ := runs_pure_iff.1 hruns
      exact .nil _
  | cons name names ih =>
      obtain ⟨t, u, next, rfl, ht, hu⟩ := runs_bind_iff.1 hruns
      have hnext : (Map.keys next.hosts).Nodup := by
        obtain ⟨-, rfl⟩ := of_runs_delete ht
        rw [hosts_without]
        exact Map.nodup_keys_erase h name
      exact (moves_of_runs_delete h ht).append (ih hnext hu)

theorem moves_of_runs_replaceHost (h : (Map.keys r.hosts).Nodup)
    (hruns : Runs (r.replaceHost host) trace r') :
    Moves trace (r.held ++ host.resources) r'.held [] := by
  rw [replaceHost_eq] at hruns
  obtain ⟨t, u, _, rfl, ht, hu⟩ := runs_bind_iff.1 hruns
  obtain ⟨rfl, rfl⟩ := runs_pure_iff.1 hu
  rw [List.append_nil]
  refine (moves_of_runs_closeOld ht (r.replaced host).held).congr (fun x => ?_) fun _ => rfl
  have hreplaced : (r.replaced host).held = ((r.erase host.name).insert host).held :=
    held_eq_of_hosts_eq (hosts_replaced r host)
  have hinserted := count_held_insert (r := r.erase host.name) (Map.nodup_keys_erase h _) host x
  have hheld := count_held h host.name x
  rw [heldUnder_erase_self, List.count_nil] at hinserted
  rw [hreplaced, List.count_append, List.count_append]
  omega

theorem moves_of_runs_add (h : (Map.keys r.hosts).Nodup) {result : Attempted Unit}
    (hruns : Runs (r.add name session) trace (result, r')) :
    ∃ lost, Moves trace (r.held ++ ofSession session) r'.held lost ∧
      (lost = [] ↔ ¬ LeftBehind trace) := by
  obtain ⟨t, u, attempt, rfl, ht, hattempt⟩ := runs_bind_iff.1 hruns
  obtain ⟨lost, hverified, hlost⟩ := Host.moves_of_runs_verify ht
  have hframed := hverified.frame r.held
  have hunchanged {outcome : Attempted Unit} (hnone : attempt.resources = [])
      (hend : Runs (pure (outcome, r) : ConnectionProgram _) u (result, r')) :
      ∃ lost, Moves (t ++ u) (r.held ++ ofSession session) r'.held lost ∧
        (lost = [] ↔ ¬ LeftBehind (t ++ u)) := by
    obtain ⟨rfl, hresult⟩ := runs_pure_iff.1 hend
    obtain rfl : r' = r := congrArg Prod.snd hresult
    rw [hnone, List.append_nil] at hframed
    rw [List.append_nil]
    exact ⟨lost, hframed, hlost⟩
  rcases attempt with host | e | -
  · obtain ⟨v, w, next, rfl, hv, hend⟩ := runs_bind_iff.1 hattempt
    obtain ⟨rfl, hresult⟩ := runs_pure_iff.1 hend
    obtain rfl : r' = next := congrArg Prod.snd hresult
    have hcloses := (of_runs_replaceHost hv).1
    rw [List.append_nil]
    refine ⟨_, hframed.append (moves_of_runs_replaceHost h hv), ?_⟩
    rw [List.append_nil, hlost, leftBehind_append, or_iff_left hcloses.not_leftBehind]
  · exact hunchanged rfl hattempt
  · exact hunchanged rfl hattempt

theorem moves_of_runs_connect (h : (Map.keys r.hosts).Nodup) {result : Attempted Unit}
    (hruns : Runs (r.connect name) trace (result, r')) :
    ∃ lost, Moves trace r.held r'.held lost ∧ (lost = [] ↔ ¬ LeftBehind trace) := by
  unfold connect at hruns
  split at hruns
  · obtain ⟨lost, hmoves, hlost⟩ := moves_of_runs_add h hruns
    exact ⟨lost, hmoves.congr (fun x => by simp [ofSession]) fun _ => rfl, hlost⟩
  · obtain ⟨t, u, found, rfl, ht, hfound⟩ := runs_bind_iff.1 hruns
    obtain ⟨hsession, hleft⟩ := Host.moves_of_runs_remoteSession ht
    have hframed := hsession.frame r.held
    rw [List.append_nil] at hframed
    have hunchanged {outcome : Attempted Unit} (hnone : Host.foundSession found = [])
        (hend : Runs (pure (outcome, r) : ConnectionProgram _) u (result, r')) :
        ∃ lost, Moves (t ++ u) r.held r'.held lost ∧ (lost = [] ↔ ¬ LeftBehind (t ++ u)) := by
      obtain ⟨rfl, hresult⟩ := runs_pure_iff.1 hend
      obtain rfl : r' = r := congrArg Prod.snd hresult
      rw [hnone, List.append_nil] at hframed
      rw [List.append_nil]
      exact ⟨[], hframed, iff_of_true rfl hleft⟩
    rcases found with session | e | -
    · obtain ⟨lost, hadded, hlost⟩ := moves_of_runs_add h hfound
      exact ⟨_, hframed.append hadded, by
        rw [List.nil_append, hlost, leftBehind_append, or_iff_right hleft]⟩
    · exact hunchanged rfl hfound
    · exact hunchanged rfl hfound

end Registry

end ContainerFleet
