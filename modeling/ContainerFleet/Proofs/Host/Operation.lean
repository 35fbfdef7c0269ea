import ContainerFleet.Proofs.Host.Connecting
import ContainerFleet.Proofs.Host.Roster
import ContainerFleet.Proofs.Program.Together

/-!
What the operations on the connected hosts ask, and what they make of the registry. Main statement:
`effect_of_runs`, that an operation has one of a few effects, whatever the world replies.
-/

namespace ContainerFleet

open Program (Runs AsksOnly SideBySide own runs_bind_iff runs_pure_iff asksOnly_pure)

namespace Registry

variable {r r' : Registry} {name : String} {trace : List ConnectionExchange}

/-- What is done with the connected hosts. -/
inductive Operation where
  | bootstrap (turns : List Nat) (machines : List String)
  | add (name : String) (session : Option Handle)
  | connect (name : String)
  | toggle (name : String) (enabled : Bool)
  | delete (name : String)
  | shutdown
deriving DecidableEq, Repr

namespace Operation

/-- Carries out an operation. -/
def perform (r : Registry) : Operation → ConnectionProgram Registry
  | bootstrap turns machines => do return (← r.bootstrap turns machines).2
  | add name session => do return (← r.add name session).2
  | connect name => do return (← r.connect name).2
  | toggle name enabled => do return (← r.toggle name enabled).2
  | delete name => r.delete name
  | shutdown => r.shutdown

/-- Whether an operation connects this host, and no other one. -/
def Connects (op : Operation) (name : String) : Prop :=
  op = .connect name ∨ op = .toggle name true

/-- Whether an operation closes and forgets this host, and no other one. -/
def Deletes (op : Operation) (name : String) : Prop :=
  op = .delete name ∨ op = .toggle name false

/-- Whether a host is gone after an operation. -/
def Removes (op : Operation) (name : String) : Prop :=
  op.Deletes name ∨ op = .shutdown

theorem Connects.not_removes {op : Operation} {name other : String} (h : op.Connects name) :
    ¬ op.Removes other := by
  rcases h with rfl | rfl <;> rintro ((h | h) | h) <;> cases h

theorem Deletes.removes_iff {op : Operation} {name other : String} (h : op.Deletes name) :
    op.Removes other ↔ other = name := by
  constructor
  · intro hremoves
    rcases h with rfl | rfl <;> rcases hremoves with (h | h) | h <;> cases h <;> rfl
  · rintro rfl
    exact .inl h

end Operation

/-- Closes the host of a name, if there is one. -/
def closeOld (r : Registry) (name : String) : ConnectionProgram Unit :=
  match r.hosts.get? name with
  | some host => host.close
  | none => return ()

theorem replaceHost_eq (r : Registry) (host : Host) :
    r.replaceHost host = r.closeOld host.name >>= fun _ => pure (r.replaced host) := by
  have hend : (if ((r.erase host.name).insert host).default?.isNone ||
        host.name == ((r.erase host.name).insert host).localName then
        pure ((r.erase host.name).insert host).elect
      else pure ((r.erase host.name).insert host) : ConnectionProgram Registry) =
      pure (r.replaced host) := by
    unfold replaced
    dsimp only
    split <;> rfl
  unfold replaceHost closeOld
  rw [hend]
  cases r.hosts.get? host.name <;> rfl

theorem delete_eq (r : Registry) (name : String) :
    r.delete name = r.closeOld name >>= fun _ => pure (r.without name) := by
  have hend : (if (r.erase name).elected = some name then pure (r.erase name).elect
      else pure (r.erase name) : ConnectionProgram Registry) = pure (r.without name) := by
    unfold without
    dsimp only
    split <;> rfl
  unfold delete closeOld
  rw [hend]
  cases r.hosts.get? name <;> rfl

theorem closes_of_runs_closeOld (h : Runs (r.closeOld name) trace ()) : Closes trace := by
  unfold closeOld at h
  split at h
  · exact Host.asksOnly_close _ _ _ h
  · exact asksOnly_pure (P := fun q => ConnectionRequest.closes q = true) () _ _ h

theorem of_runs_closeOld {next : Registry}
    (h : Runs (r.closeOld name >>= fun _ => pure next) trace r') : Closes trace ∧ r' = next := by
  obtain ⟨closing, t, _, rfl, hclosing, hend⟩ := runs_bind_iff.1 h
  obtain ⟨rfl, rfl⟩ := runs_pure_iff.1 hend
  rw [List.append_nil]
  exact ⟨closes_of_runs_closeOld hclosing, rfl⟩

theorem of_runs_replaceHost {host : Host} (h : Runs (r.replaceHost host) trace r') :
    Closes trace ∧ r' = r.replaced host := by
  rw [replaceHost_eq] at h
  exact of_runs_closeOld h

theorem of_runs_delete (h : Runs (r.delete name) trace r') : Closes trace ∧ r' = r.without name := by
  rw [delete_eq] at h
  exact of_runs_closeOld h

theorem of_runs_deleteAll {names : List String} (h : Runs (deleteAll names r) trace r') :
    Closes trace ∧ r' = names.foldl without r := by
  induction names generalizing r trace with
  | nil =>
      obtain ⟨rfl, rfl⟩ := runs_pure_iff.1 h
      exact ⟨List.forall_mem_nil _, rfl⟩
  | cons name names ih =>
      obtain ⟨t, u, next, rfl, ht, hu⟩ := runs_bind_iff.1 h
      obtain ⟨hcloses, rfl⟩ := of_runs_delete ht
      obtain ⟨hrest, rfl⟩ := ih hu
      exact ⟨List.forall_mem_append.2 ⟨hcloses, hrest⟩, rfl⟩

theorem of_runs_add {session : Option Handle} {result : Attempted Unit}
    (h : Runs (r.add name session) trace (result, r')) :
    ∃ t closing attempt, trace = t ++ closing ∧ Host.Verifying name session t attempt ∧
      Closes closing ∧ r' = r.adopt attempt := by
  obtain ⟨t, u, attempt, rfl, ht, hattempt⟩ := runs_bind_iff.1 h
  have hverifying := Host.verifying_of_runs ht
  rcases attempt with host | e | -
  · obtain ⟨closing, v, next, rfl, hclosing, hend⟩ := runs_bind_iff.1 hattempt
    obtain ⟨rfl, hresult⟩ := runs_pure_iff.1 hend
    obtain ⟨hcloses, rfl⟩ := of_runs_replaceHost hclosing
    rw [List.append_nil]
    exact ⟨t, closing, _, rfl, hverifying, hcloses, congrArg Prod.snd hresult⟩
  · obtain ⟨rfl, hresult⟩ := runs_pure_iff.1 hattempt
    exact ⟨t, [], _, rfl, hverifying, List.forall_mem_nil _, congrArg Prod.snd hresult⟩
  · obtain ⟨rfl, hresult⟩ := runs_pure_iff.1 hattempt
    exact ⟨t, [], _, rfl, hverifying, List.forall_mem_nil _, congrArg Prod.snd hresult⟩

theorem of_runs_connect {result : Attempted Unit} (h : Runs (r.connect name) trace (result, r')) :
    ∃ t closing attempt, trace = t ++ closing ∧ Host.Connecting r.localName name t attempt ∧
      Closes closing ∧ r' = r.adopt attempt := by
  unfold connect at h
  split at h
  · next hname =>
      obtain ⟨t, closing, attempt, rfl, hv, hcloses, rfl⟩ := of_runs_add h
      exact ⟨t, closing, attempt, rfl, .locally hname hv, hcloses, rfl⟩
  · next hname =>
      obtain ⟨t, u, found, rfl, ht, hfound⟩ := runs_bind_iff.1 h
      cases Host.looking_of_runs ht with
      | found session =>
          obtain ⟨v, closing, attempt, rfl, hv, hcloses, rfl⟩ := of_runs_add hfound
          exact ⟨_ :: v, closing, attempt, rfl, .remotely hname hv, hcloses, rfl⟩
      | unfound hreply hnone =>
          rcases found with session | e | -
          · exact absurd rfl (hnone session)
          · obtain ⟨rfl, hresult⟩ := runs_pure_iff.1 hfound
            exact ⟨_, [], .failed e, rfl, .unfound hname hreply nofun, List.forall_mem_nil _,
              congrArg Prod.snd hresult⟩
          · obtain ⟨rfl, hresult⟩ := runs_pure_iff.1 hfound
            exact ⟨_, [], .brokenDown, rfl, .unfound hname hreply nofun, List.forall_mem_nil _,
              congrArg Prod.snd hresult⟩

/-- The attempts of a start went on side by side. -/
def Starts (r : Registry) (machines : List String) (tagged : List (Nat × ConnectionExchange))
    (attempts : List (Attempted Host)) : Prop :=
  SideBySide ((r.candidates machines).map fun name => Host.connect name (name == r.localName)) tagged
    attempts

theorem of_runs_bootstrap {turns : List Nat} {machines : List String}
    {result : Except RegistryError String} (h : Runs (r.bootstrap turns machines) trace (result, r')) :
    ∃ tagged attempts, trace = tagged.map Prod.snd ∧ r.Starts machines tagged attempts ∧
      (result, r') = (r.insertConnected attempts).settle := by
  obtain ⟨t, u, attempts, rfl, ht, hend⟩ := runs_bind_iff.1 h
  obtain ⟨rfl, hresult⟩ := runs_pure_iff.1 hend
  obtain ⟨tagged, rfl, hside⟩ := Program.exists_sideBySide_of_interleave ht
  exact ⟨tagged, attempts, List.append_nil _, hside, hresult⟩

/-- What an operation may do: its exchanges, and the registry that it leaves. -/
inductive Effect (r : Registry) : Operation → List ConnectionExchange → Registry → Prop where
  | bootstrapped {turns : List Nat} {machines : List String}
      {tagged : List (Nat × ConnectionExchange)} {attempts : List (Attempted Host)}
      (h : r.Starts machines tagged attempts) :
      Effect r (.bootstrap turns machines) (tagged.map Prod.snd)
        (r.insertConnected attempts).settle.2
  | added {name : String} {session : Option Handle} {trace closing : List ConnectionExchange}
      {attempt : Attempted Host} (h : Host.Verifying name session trace attempt)
      (hclosing : Closes closing) :
      Effect r (.add name session) (trace ++ closing) (r.adopt attempt)
  | connected {op : Operation} {name : String} {trace closing : List ConnectionExchange}
      {attempt : Attempted Host} (hop : op.Connects name)
      (h : Host.Connecting r.localName name trace attempt) (hclosing : Closes closing) :
      Effect r op (trace ++ closing) (r.adopt attempt)
  | deleted {op : Operation} {name : String} {trace : List ConnectionExchange}
      (hop : op.Deletes name) (hclosing : Closes trace) : Effect r op trace (r.without name)
  | shutDown {trace : List ConnectionExchange} (hclosing : Closes trace) :
      Effect r .shutdown trace (r.names.foldl without r)

/-- An operation has one of its effects, whatever the world replies. -/
theorem effect_of_runs {op : Operation} (h : Runs (op.perform r) trace r') : r.Effect op trace r' := by
  have hconnect {op : Operation} {name : String} {result : Attempted Unit}
      {trace : List ConnectionExchange} {r' : Registry} (hop : op.Connects name)
      (h : Runs (r.connect name) trace (result, r')) : r.Effect op trace r' := by
    obtain ⟨t, closing, attempt, rfl, hc, hcloses, rfl⟩ := of_runs_connect h
    exact .connected hop hc hcloses
  cases op with
  | bootstrap turns machines =>
      obtain ⟨t, u, ⟨result, next⟩, rfl, ht, hend⟩ := runs_bind_iff.1 h
      obtain ⟨rfl, rfl⟩ := runs_pure_iff.1 hend
      obtain ⟨tagged, attempts, rfl, hstarts, hsettle⟩ := of_runs_bootstrap ht
      have hnext : r' = (r.insertConnected attempts).settle.2 := congrArg Prod.snd hsettle
      rw [List.append_nil, hnext]
      exact .bootstrapped hstarts
  | add name session =>
      obtain ⟨t, u, ⟨result, next⟩, rfl, ht, hend⟩ := runs_bind_iff.1 h
      obtain ⟨rfl, rfl⟩ := runs_pure_iff.1 hend
      obtain ⟨t, closing, attempt, rfl, hv, hcloses, rfl⟩ := of_runs_add ht
      rw [List.append_nil]
      exact .added hv hcloses
  | connect name =>
      obtain ⟨t, u, ⟨result, next⟩, rfl, ht, hend⟩ := runs_bind_iff.1 h
      obtain ⟨rfl, rfl⟩ := runs_pure_iff.1 hend
      rw [List.append_nil]
      exact hconnect (.inl rfl) ht
  | toggle name enabled =>
      obtain ⟨t, u, ⟨result, next⟩, rfl, ht, hend⟩ := runs_bind_iff.1 h
      obtain ⟨rfl, rfl⟩ := runs_pure_iff.1 hend
      rw [List.append_nil]
      cases enabled with
      | true => exact hconnect (.inr rfl) ht
      | false =>
          obtain ⟨v, w, next, rfl, hv, hend⟩ := runs_bind_iff.1 ht
          obtain ⟨rfl, hresult⟩ := runs_pure_iff.1 hend
          obtain ⟨hcloses, rfl⟩ := of_runs_delete hv
          have hnext : r' = r.without name := congrArg Prod.snd hresult
          rw [List.append_nil, hnext]
          exact .deleted (.inr rfl) hcloses
  | delete name =>
      obtain ⟨hcloses, rfl⟩ := of_runs_delete h
      exact .deleted (.inl rfl) hcloses
  | shutdown =>
      obtain ⟨hcloses, rfl⟩ := of_runs_deleteAll h
      exact .shutDown hcloses

theorem Effect.of_bootstrap {turns : List Nat} {machines : List String}
    (h : r.Effect (.bootstrap turns machines) trace r') :
    ∃ tagged attempts, trace = tagged.map Prod.snd ∧ r.Starts machines tagged attempts ∧
      r' = (r.insertConnected attempts).settle.2 := by
  cases h with
  | bootstrapped hstarts => exact ⟨_, _, rfl, hstarts, rfl⟩
  | connected hop => rcases hop with hop | hop <;> cases hop
  | deleted hop => rcases hop with hop | hop <;> cases hop

/-- What holds of a registry holds of it after an operation, if it is kept by all that is done to the
hosts. -/
theorem Effect.keeps {P : Registry → Prop} {op : Operation} (h : r.Effect op trace r') (hr : P r)
    (hstart : ∀ attempts, P (r.insertConnected attempts).settle.2)
    (hreplaced : ∀ s host, P s → P (s.replaced host))
    (hwithout : ∀ s name, P s → P (s.without name)) : P r' := by
  have hall (names : List String) : P (names.foldl without r) := by
    clear h hstart
    induction names generalizing r with
    | nil => exact hr
    | cons name names ih => exact ih (hwithout r name hr)
  cases h with
  | bootstrapped => exact hstart _
  | added => exact adopt_keeps hr fun host _ => hreplaced r host hr
  | connected => exact adopt_keeps hr fun host _ => hreplaced r host hr
  | deleted => exact hwithout r _ hr
  | shutDown => exact hall _

theorem Effect.localName_eq {op : Operation} (h : r.Effect op trace r') :
    r'.localName = r.localName := by
  refine h.keeps (P := fun s => s.localName = r.localName) rfl (fun attempts => ?_)
    (fun s host hs => ?_) fun s name hs => ?_
  · rw [localName_settle, localName_insertConnected]
  · rw [localName_replaced, hs]
  · rw [localName_without, hs]

/-- An operation that was carried out, with its exchanges. -/
structure Step where
  operation : Operation
  trace : List ConnectionExchange

/-- `History r steps r'`: from the one registry on these operations were carried out one after the
other, and they left the other one. The replies are free. -/
inductive History (start : Registry) : List Step → Registry → Prop where
  | nil : History start [] start
  | snoc {steps : List Step} {r r' : Registry} {step : Step} (h : History start steps r)
      (hstep : Runs (step.operation.perform r) step.trace r') :
      History start (steps ++ [step]) r'

theorem History.localName_eq {start : Registry} {steps : List Step} (h : History start steps r) :
    r.localName = start.localName := by
  induction h with
  | nil => rfl
  | snoc _ hstep ih => rw [(effect_of_runs hstep).localName_eq, ih]

end Registry

end ContainerFleet
