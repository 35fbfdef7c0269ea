import ContainerFleet.Proofs.Map
import ContainerFleet.Proofs.Store.Sharing
import ContainerFleet.Proofs.Store.Steps

/-!
The store in a file next to the one in memory. Main statements: `ofRecords_after`, that a call does to
a store in memory what it does to the records of a file, and `session_agrees`, that both stores answer
alike however they are used, as long as the file system works.
-/

namespace ContainerFleet

namespace MemoryStore

variable {records : List ImageUpdate}

/-- The store in memory that holds the records of a file. -/
def ofRecords (records : List ImageUpdate) : MemoryStore :=
  ⟨records.map fun u => (u.key, u)⟩

theorem keys_ofRecords (records : List ImageUpdate) :
    Map.keys (ofRecords records).records = records.map ImageUpdate.key := by
  simp [Map.keys, ofRecords, Function.comp_def]

theorem erase_ofRecords (records : List ImageUpdate) (k : String × String) :
    (ofRecords records).records.erase k = (ofRecords (records.filter fun u => u.key ≠ k)).records := by
  simp [Map.erase, ofRecords, List.filter_map, Function.comp_def]

theorem isFor_iff {host : String} {ids : List String} {u : ImageUpdate} :
    FileStore.isFor host ids u = true ↔ u.host = host ∧ u.imageId ∈ ids := by
  simp [FileStore.isFor]

theorem save_ofRecords (records : List ImageUpdate) (u : ImageUpdate) :
    (ofRecords records).save u = ofRecords (FileStore.insert records u) := by
  have hsame : (fun r : ImageUpdate => !FileStore.isFor u.host [u.imageId] r) =
      fun r => decide (r.key ≠ u.key) := by
    funext r
    rw [Bool.eq_iff_iff]
    simp [ImageUpdate.key, ← Bool.not_eq_true, isFor_iff, imp_iff_not_or]
  rw [save, FileStore.insert, hsame]
  change (⟨(ofRecords records).records.erase u.key ++ [(u.key, u)]⟩ : MemoryStore) = _
  rw [erase_ofRecords]
  simp [ofRecords]

theorem remove_cons (records : List ImageUpdate) (host id : String) (ids : List String) :
    FileStore.remove records host (id :: ids) =
      FileStore.remove (records.filter fun u => u.key ≠ (host, id)) host ids := by
  rw [FileStore.remove, FileStore.remove, List.filter_filter]
  congr 1
  funext u
  rw [Bool.eq_iff_iff]
  simp only [Bool.and_eq_true, Bool.not_eq_true', ← Bool.not_eq_true, isFor_iff, decide_eq_true_eq,
    ImageUpdate.key, ne_eq, Prod.mk.injEq, List.mem_cons]
  grind

/-- Removing one after the other is removing all at once. By induction on the images. -/
theorem delete_ofRecords (records : List ImageUpdate) (host : String) (ids : List String) :
    (ofRecords records).delete host ids = ofRecords (FileStore.remove records host ids) := by
  induction ids generalizing records with
  | nil =>
      have hall : FileStore.remove records host [] = records := by
        simp [FileStore.remove, FileStore.isFor]
      rw [hall]
      rfl
  | cons id ids ih =>
      rw [delete_cons, erase_ofRecords, remove_cons]
      exact ih _

/-- A call does to a store in memory what it does to the records of a file. -/
theorem ofRecords_after (call : StoreCall) (records : List ImageUpdate) :
    ((ofRecords records).handle call).2 = ofRecords (FileStore.after call records) := by
  cases call with
  | save u => exact save_ofRecords records u
  | delete host ids => exact delete_ofRecords records host ids
  | find host ids => rfl

theorem nodup_keys_after (h : (records.map ImageUpdate.key).Nodup) (call : StoreCall) :
    ((FileStore.after call records).map ImageUpdate.key).Nodup := by
  rw [← keys_ofRecords] at h ⊢
  rw [← ofRecords_after]
  cases call with
  | save u => exact Map.nodup_keys_insert h u.key u
  | delete host ids => exact nodup_keys_delete h host ids
  | find host ids => exact h

theorem get?_ofRecords (h : (records.map ImageUpdate.key).Nodup) {k : String × String}
    {u : ImageUpdate} : (ofRecords records).records.get? k = some u ↔ u ∈ records ∧ u.key = k := by
  rw [← keys_ofRecords] at h
  rw [Map.get?_eq_some_iff_mem fun _ _ => Map.eq_of_nodup_keys h]
  simp only [ofRecords, List.mem_map, Prod.mk.injEq]
  constructor
  · rintro ⟨v, hv, hk, rfl⟩
    exact ⟨hv, hk⟩
  · rintro ⟨hu, hk⟩
    exact ⟨u, hu, hk, rfl⟩

/-- A store in memory finds what is found among the records of a file. -/
theorem select_perm_find (h : (records.map ImageUpdate.key).Nodup) (host : String)
    (ids : List String) :
    (FileStore.select records host ids).Perm ((ofRecords records).find host ids) := by
  have hselected (id : String) (u : ImageUpdate) :
      (id, u) ∈ (records.filter (FileStore.isFor host ids)).map (fun r => (r.imageId, r)) ↔
        id ∈ ids ∧ u ∈ records ∧ u.key = (host, id) := by
    simp only [List.mem_map, List.mem_filter, isFor_iff, ImageUpdate.key, Prod.mk.injEq]
    constructor
    · rintro ⟨v, ⟨hv, hhost, hid⟩, rfl, rfl⟩
      exact ⟨hid, hv, hhost, rfl⟩
    · rintro ⟨hid, hu, hhost, rfl⟩
      exact ⟨u, ⟨hu, hhost, hid⟩, rfl, rfl⟩
  have hfound (id : String) (u : ImageUpdate) :
      (id, u) ∈ ids.filterMap (fun id => ((ofRecords records).records.get? (host, id)).map (id, ·)) ↔
        id ∈ ids ∧ u ∈ records ∧ u.key = (host, id) := by
    simp only [List.mem_filterMap, Option.map_eq_some_iff, Prod.mk.injEq]
    constructor
    · rintro ⟨i, hi, v, hv, rfl, rfl⟩
      exact ⟨hi, (get?_ofRecords h).1 hv⟩
    · rintro ⟨hid, hu⟩
      exact ⟨id, hid, u, (get?_ofRecords h).2 hu, rfl, rfl⟩
  have hsame {id : String} {u v : ImageUpdate} (hu : id ∈ ids ∧ u ∈ records ∧ u.key = (host, id))
      (hv : id ∈ ids ∧ v ∈ records ∧ v.key = (host, id)) : u = v :=
    List.inj_on_of_nodup_map h hu.2.1 hv.2.1 (hu.2.2.trans hv.2.2.symm)
  refine Map.perm_of_get?_eq (Map.nodup_keys_ofEntries _) (Map.nodup_keys_ofEntries _) fun id => ?_
  ext u
  rw [FileStore.select, find, Map.get?_ofEntries_eq_some_iff, Map.get?_ofEntries_eq_some_iff, hselected,
    hfound]
  · exact fun u v hu hv => hsame ((hfound id u).1 hu) ((hfound id v).1 hv)
  · exact fun u v hu hv => hsame ((hselected id u).1 hu) ((hselected id v).1 hv)

end MemoryStore

/-- One of the things that are done with a store. -/
inductive StoreUse where
  | call (call : StoreCall)
  /-- The file is opened again. -/
  | reopen
deriving DecidableEq, Repr

/-- A call to a store with the reply that it got. -/
structure StoreReply where
  call : StoreCall
  reply : call.Reply

namespace StoreReply

/-- Two replies to the same call that say the same. The records that were found may be listed in
another order. -/
inductive Same : StoreReply → StoreReply → Prop where
  | save (u : ImageUpdate) : Same ⟨.save u, .ok ()⟩ ⟨.save u, .ok ()⟩
  | delete (host : String) (ids : List String) :
      Same ⟨.delete host ids, .ok ()⟩ ⟨.delete host ids, .ok ()⟩
  | find {host : String} {ids : List String} {m n : Map String ImageUpdate} (h : m.Perm n) :
      Same ⟨.find host ids, .ok m⟩ ⟨.find host ids, .ok n⟩

end StoreReply

namespace MemoryStore

/-- The replies to some uses of a store in memory. -/
def session (s : MemoryStore) : List StoreUse → List StoreReply
  | [] => []
  | .call call :: uses => ⟨call, (s.handle call).1⟩ :: (s.handle call).2.session uses
  | .reopen :: uses => s.session uses

end MemoryStore

namespace FileStore

variable {s : FileStore} {d : Disk} {records : List ImageUpdate} {call : StoreCall}
  {trace : List FileExchange}

/-- The store in the same file, opened again. -/
def reopen (s : FileStore) : FileStore :=
  ⟨s.path⟩

/-- Some uses of the store in a file. -/
def session (s : FileStore) : List StoreUse → FileProgram (List StoreReply)
  | [] => return []
  | .call call :: uses => do
    let reply ← s.perform call
    let rest ← s.session uses
    return ⟨call, reply⟩ :: rest
  | .reopen :: uses => s.reopen.session uses

/-- A call to a store whose file holds records succeeds when the file system does. -/
theorem converse_perform (hd : s.contents d = .ok records)
    (hworks : ∀ x ∈ (Disk.converse (s.perform call) d).1,
      FileExchange.failed x = false) :
    ∃ e, (Disk.converse (s.perform call) d).2 =
        (.ok (answer call records), e) ∧ s.contents e = .ok (after call records) := by
  have hruns := Disk.runs_converse (s.perform call) d
  have hleads := Disk.leads_converse (s.perform call) d
  have hrun := Disk.run_eq_converse (s.perform call) d
  revert hworks hruns hleads hrun
  obtain ⟨trace, reply, e⟩ := Disk.converse (s.perform call) d
  intro hworks hruns hleads hrun
  cases reply with
  | error err =>
      rcases (runs_perform_iff.1 hruns).exists_failed with ⟨reply, hread, rfl⟩ | ⟨x, hx, hfailed⟩
      · obtain ⟨next, hreply, -⟩ := Program.leads_cons_iff.1 hleads
        have hreply : d.read (Disk.resolve s.path) = reply := congrArg Prod.fst hreply
        rw [contents_eq_understood, hreply, hread] at hd
        cases hd
      · rw [hworks x hx] at hfailed
        cases hfailed
  | ok a =>
      obtain ⟨found, hfound, rfl, -⟩ := perform_eq_ok_iff.1 hrun
      obtain rfl : records = found := Except.ok.inj (hd.symm.trans hfound)
      exact ⟨e, rfl, contents_of_perform hrun hd⟩

/-- A call gets from a file with some records the reply that it gets from a store in memory with
these records. -/
theorem same_answer (h : (records.map ImageUpdate.key).Nodup) (call : StoreCall) :
    StoreReply.Same ⟨call, .ok (answer call records)⟩
      ⟨call, ((MemoryStore.ofRecords records).handle call).1⟩ := by
  cases call with
  | save u => exact .save u
  | delete host ids => exact .delete host ids
  | find host ids => exact .find (MemoryStore.select_perm_find h host ids)

/-- The file holds records, no two of them for the same host and image. -/
def HoldsUnique (s : FileStore) (d : Disk) : Prop :=
  ∃ records, s.contents d = .ok records ∧ (records.map ImageUpdate.key).Nodup

/-- From alike stores on, the store in the file and the one in memory answer alike. By induction on
the uses: a call leaves the stores alike. -/
theorem session_agrees_from (uses : List StoreUse) (hd : s.contents d = .ok records)
    (hunique : (records.map ImageUpdate.key).Nodup)
    (hworks : ∀ x ∈ (Disk.converse (s.session uses) d).1,
      FileExchange.failed x = false) :
    List.Forall₂ StoreReply.Same
        (Disk.converse (s.session uses) d).2.1
        ((MemoryStore.ofRecords records).session uses) ∧
      s.HoldsUnique (Disk.converse (s.session uses) d).2.2 := by
  induction uses generalizing d records with
  | nil => exact ⟨.nil, records, hd, hunique⟩
  | cons use uses ih =>
      cases use with
      | reopen => exact ih hd hunique hworks
      | call call =>
          rw [session, Disk.converse_bind] at hworks ⊢
          rw [List.forall_mem_append] at hworks
          obtain ⟨e, hended, he⟩ := converse_perform hd hworks.1
          rw [hended, Disk.converse_bind] at hworks ⊢
          rw [List.forall_mem_append] at hworks
          obtain ⟨hreplies, hholds⟩ := ih he (MemoryStore.nodup_keys_after hunique call) hworks.2.1
          refine ⟨.cons (same_answer hunique call) ?_, hholds⟩
          rw [MemoryStore.ofRecords_after]
          exact hreplies

/-- However the stores are used, and wherever the file is opened again in between: as long as no
request to the file system fails, the store in a file that is missing or empty at first answers each
call like a store in memory, and its file holds at most one record for each host and image. -/
theorem session_agrees (s : FileStore) (uses : List StoreUse) (d : Disk)
    (hstart : d.read (Disk.resolve s.path) = .error .notFound ∨ d.read (Disk.resolve s.path) = .ok [])
    (hworks : ∀ x ∈ (Disk.converse (s.session uses) d).1,
      FileExchange.failed x = false) :
    List.Forall₂ StoreReply.Same
        (Disk.converse (s.session uses) d).2.1
        (MemoryStore.empty.session uses) ∧
      s.HoldsUnique (Disk.converse (s.session uses) d).2.2 := by
  have hd : s.contents d = .ok [] := by
    rw [contents_eq_understood]
    rcases hstart with h | h
    · rw [h, understood]
    · rw [h]
      rfl
  exact session_agrees_from uses hd List.nodup_nil hworks

/-- No request fails where the file can be overwritten any number of times. -/
theorem session_works (h : s.Works d) (uses : List StoreUse) :
    ∀ x ∈ (Disk.converse (s.session uses) d).1, FileExchange.failed x = false := by
  induction uses generalizing d with
  | nil => exact List.forall_mem_nil _
  | cons use uses ih =>
      cases use with
      | reopen => exact ih h
      | call call =>
          obtain ⟨a, e, hrun, he⟩ := h.step call
          rw [Disk.run_eq_converse] at hrun
          have hcall := Disk.runs_converse (s.perform call) d
          rw [session, Disk.converse_bind, List.forall_mem_append]
          rw [hrun] at hcall ⊢
          rw [Disk.converse_bind, List.forall_mem_append]
          exact ⟨(runs_perform_iff.1 hcall).not_failed, ih he, List.forall_mem_nil _⟩

/-- Some uses of a store: an image that is asked for twice, a record in the place of another one, and
a removal after which nothing is left to remove. -/
def busyUses : List StoreUse :=
  [.call (.save ⟨"local", "sha256:a", "sha256:b", .epoch⟩),
    .call (.save ⟨"edge", "sha256:a", "sha256:c", .epoch⟩), .reopen,
    .call (.save ⟨"local", "sha256:a", "sha256:d", .epoch⟩),
    .call (.find "local" ["sha256:a", "sha256:x", "sha256:a"]),
    .call (.delete "local" ["sha256:a", "sha256:a"]), .reopen,
    .call (.delete "local" ["sha256:a"]), .call (.find "edge" ["sha256:a"])]

theorem session_agrees_busyUses :
    Disk.empty.read (Disk.resolve "/var/lib/updates.json") = .error .notFound ∧
      (∀ x ∈ (Disk.converse (session ⟨"/var/lib/updates.json"⟩ busyUses) Disk.empty).1,
        FileExchange.failed x = false) ∧
      List.Forall₂ StoreReply.Same
        (Disk.converse (session ⟨"/var/lib/updates.json"⟩ busyUses) Disk.empty).2.1
        (MemoryStore.empty.session busyUses) := by
  have hmissing : Disk.empty.read (Disk.resolve "/var/lib/updates.json") = .error .notFound := by
    decide
  have hworks := session_works works_updatesJson busyUses
  exact ⟨hmissing, hworks, (session_agrees _ busyUses Disk.empty (.inl hmissing) hworks).1⟩

end FileStore

end ContainerFleet
