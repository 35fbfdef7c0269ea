import ContainerFleet.Proofs.Program.Conversation
import ContainerFleet.Store.Memory

/-!
What update code leaves in a store in memory. Main statements: `after_of_leads`, that the store ends
as its calls, one after the other, make it, and what a key leads to after some of them.
-/

namespace ContainerFleet

/-- The host whose records a call is about. -/
def StoreCall.host : StoreCall → String
  | .save u => u.host
  | .delete host _ => host
  | .find host _ => host

namespace ImageUpdate

/-- What a record is kept under. -/
def key (u : ImageUpdate) : String × String :=
  (u.host, u.imageId)

end ImageUpdate

namespace MemoryStore

variable {s t : MemoryStore}

/-- The store with some records put in, one after the other. -/
def saveAll (s : MemoryStore) (updates : List ImageUpdate) : MemoryStore :=
  updates.foldl save s

theorem get?_save (s : MemoryStore) (u : ImageUpdate) (k : String × String) :
    (s.save u).records.get? k = if u.key = k then some u else s.records.get? k :=
  Map.get?_insert s.records u.key k u

theorem saveAll_append (s : MemoryStore) (us vs : List ImageUpdate) :
    s.saveAll (us ++ vs) = (s.saveAll us).saveAll vs :=
  List.foldl_append

theorem get?_saveAll_of_forall_ne {updates : List ImageUpdate} {k : String × String}
    (h : ∀ u ∈ updates, u.key ≠ k) : (s.saveAll updates).records.get? k = s.records.get? k := by
  induction updates generalizing s with
  | nil => rfl
  | cons u us ih =>
      rw [List.forall_mem_cons] at h
      change ((s.save u).saveAll us).records.get? k = _
      rw [ih h.2, get?_save, if_neg h.1]

theorem delete_cons (s : MemoryStore) (host id : String) (ids : List String) :
    s.delete host (id :: ids) = MemoryStore.delete ⟨s.records.erase (host, id)⟩ host ids :=
  rfl

theorem get?_delete_of_ne {host : String} {ids : List String} {k : String × String}
    (h : k.1 = host → k.2 ∉ ids) : (s.delete host ids).records.get? k = s.records.get? k := by
  induction ids generalizing s with
  | nil => rfl
  | cons id ids ih =>
      have hne : (host, id) ≠ k := by
        rintro rfl
        exact h rfl List.mem_cons_self
      rw [delete_cons, ih fun hk hmem => h hk (List.mem_cons_of_mem id hmem), Map.get?_erase,
        if_neg hne]

theorem get?_delete_of_mem {host id : String} {ids : List String} (h : id ∈ ids) :
    (s.delete host ids).records.get? (host, id) = none := by
  induction ids generalizing s with
  | nil => cases h
  | cons i ids ih =>
      rw [delete_cons]
      by_cases hid : id ∈ ids
      · exact ih hid
      · obtain rfl : id = i := (List.mem_cons.1 h).resolve_right hid
        rw [get?_delete_of_ne fun _ => hid, Map.get?_erase, if_pos rfl]

theorem nodup_keys_saveAll (h : (Map.keys s.records).Nodup) (updates : List ImageUpdate) :
    (Map.keys (s.saveAll updates).records).Nodup := by
  induction updates generalizing s with
  | nil => exact h
  | cons u us ih => exact ih (Map.nodup_keys_insert h u.key u)

theorem nodup_keys_delete (h : (Map.keys s.records).Nodup) (host : String) (ids : List String) :
    (Map.keys (s.delete host ids).records).Nodup := by
  induction ids generalizing s with
  | nil => exact h
  | cons id ids ih => exact ih (Map.nodup_keys_erase h (host, id))

/-- What may happen to a store in memory while update code asks for something. -/
def conduct : Conduct updateInterface MemoryStore := fun (q : UpdateRequest) s (r : q.Reply) t =>
  match q, r with
  | .store call, r => s.handle call = (r, t)
  | _, _ => t = s

/-- The store after an exchange. -/
def afterOne (s : MemoryStore) (x : UpdateExchange) : MemoryStore :=
  match (x.request : UpdateRequest) with
  | .store call => (s.handle call).2
  | _ => s

/-- The store after some exchanges. -/
def after (s : MemoryStore) (trace : List UpdateExchange) : MemoryStore :=
  trace.foldl afterOne s

theorem after_append (s : MemoryStore) (t u : List UpdateExchange) :
    s.after (t ++ u) = (s.after t).after u :=
  List.foldl_append

/-- A call to a store with its reply. -/
def told (call : StoreCall) (r : call.Reply) : UpdateExchange :=
  ⟨UpdateRequest.store call, r⟩

/-- Exchanges in which a store took in and removed what it was told to. -/
def Works (trace : List UpdateExchange) : Prop :=
  ∀ call r, told call r ∈ trace → ∃ answer, r = .ok answer

theorem Works.mono {t u : List UpdateExchange} (h : Works u) (hsub : t ⊆ u) : Works t :=
  fun call r hr => h call r (hsub hr)

theorem exists_handle_eq_ok (call : StoreCall) (s : MemoryStore) :
    ∃ answer, (s.handle call).1 = .ok answer := by
  cases call <;> exact ⟨_, rfl⟩

/-- A store has taken in and removed what it was told to, and nothing else has happened to it. -/
theorem after_of_leads {trace : List UpdateExchange} (h : Program.Leads conduct s trace t) :
    t = s.after trace ∧ Works trace := by
  induction h with
  | nil s => exact ⟨rfl, fun call r hr => nomatch hr⟩
  | @cons x trace s t u hx h ih =>
      obtain ⟨q, r⟩ := x
      have hone : t = s.afterOne ⟨q, r⟩ := by
        cases q <;> first | exact hx | exact (congrArg Prod.snd hx).symm
      refine ⟨by rw [ih.1, hone]; rfl, ?_⟩
      intro call reply hr
      rcases List.mem_cons.1 hr with heq | hr
      · cases heq
        obtain ⟨answer, hanswer⟩ := exists_handle_eq_ok call s
        exact ⟨answer, (congrArg Prod.fst hx).symm.trans hanswer⟩
      · exact ih.2 call reply hr

end MemoryStore

end ContainerFleet
