import ContainerFleet.Proofs.Store.Effect
import ContainerFleet.Proofs.Store.File
import ContainerFleet.Store.Any

/-!
A store that several hosts share, one call at a time. Main statements: `AnyStore.Beside.step_own` and
`AnyStore.Beside.step_other`, by which each host finds in it what it would find in a store of its
own.
-/

namespace ContainerFleet

namespace FileStore

variable {s : FileStore} {d e : Disk} {call : StoreCall} {name host : String} {ids : List String}
  {records : List ImageUpdate}

/-- The records of one host. -/
def share (name : String) (records : List ImageUpdate) : List ImageUpdate :=
  records.filter fun u => u.host == name

theorem share_append (name : String) (us vs : List ImageUpdate) :
    share name (us ++ vs) = share name us ++ share name vs :=
  List.filter_append us vs

theorem insert_eq_remove_append (records : List ImageUpdate) (u : ImageUpdate) :
    insert records u = remove records u.host [u.imageId] ++ [u] :=
  rfl

theorem share_remove (name host : String) (ids : List String) (records : List ImageUpdate) :
    share name (remove records host ids) = remove (share name records) host ids := by
  simp only [share, remove, List.filter_filter, Bool.and_comm]

theorem remove_share_of_ne (h : host ≠ name) (ids : List String) (records : List ImageUpdate) :
    remove (share name records) host ids = share name records := by
  apply List.filter_eq_self.2
  intro u hu
  have hname : u.host = name := by simpa using (List.mem_filter.1 hu).2
  simp [isFor, hname, h.symm]

theorem writes_delete (host : String) (ids : List String) (records : List ImageUpdate) :
    writes (.delete host ids) records = records.any (isFor host ids) := by
  rw [Bool.eq_iff_iff]
  simp [writes, remove, List.length_filter_eq_length_iff]

/-- A call does to the records of its own host what it does to all. -/
theorem share_after_of_eq (h : call.host = name) (records : List ImageUpdate) :
    share name (after call records) = after call (share name records) := by
  cases call with
  | save u =>
      have hown : share name [u] = [u] := by simp [share, show u.host = name from h]
      rw [after, after, insert_eq_remove_append, insert_eq_remove_append, share_append, share_remove,
        hown]
  | delete host ids => exact share_remove name host ids records
  | find host ids => rfl

/-- A call leaves the records of other hosts. -/
theorem share_after_of_ne (h : call.host ≠ name) (records : List ImageUpdate) :
    share name (after call records) = share name records := by
  cases call with
  | save u =>
      have hother : share name [u] = [] := by simp [share, show u.host ≠ name from h]
      rw [after, insert_eq_remove_append, share_append, share_remove, hother, List.append_nil]
      exact remove_share_of_ne h _ records
  | delete host ids =>
      rw [after, share_remove]
      exact remove_share_of_ne h ids records
  | find host ids => rfl

theorem select_share (name : String) (ids : List String) (records : List ImageUpdate) :
    select (share name records) name ids = select records name ids := by
  have hfilter : (share name records).filter (isFor name ids) = records.filter (isFor name ids) := by
    rw [share, List.filter_filter]
    apply List.filter_congr
    intro u _
    cases h : u.host == name <;> simp [isFor, h]
  rw [select, select, hfilter]

/-- A call finds what it finds among the records of its own host. -/
theorem answer_share (h : call.host = name) (records : List ImageUpdate) :
    answer call (share name records) = answer call records := by
  cases call with
  | save u => rfl
  | delete host ids => rfl
  | find host ids =>
      obtain rfl : host = name := h
      exact select_share host ids records

theorem writes_share (h : call.host = name) (records : List ImageUpdate) :
    writes call (share name records) = writes call records := by
  cases call with
  | save u => rfl
  | delete host ids =>
      obtain rfl : host = name := h
      rw [writes_delete, writes_delete, share, List.any_filter]
      congr 1
      funext u
      cases hhost : u.host == host <;> simp [isFor, hhost]
  | find host ids => rfl

/-- `Overwritten s e d`: the one disk is the other one after the file was overwritten some times, up
to the contents of files. -/
inductive Overwritten (s : FileStore) (e : Disk) : Disk → Prop where
  | same {d : Disk} (h : d.outline = e.outline) : Overwritten s e d
  | again {d next : Disk} {bytes : Files.Bytes} (h : Overwritten s e d)
      (hnext : s.overwrite bytes d = .ok next) : Overwritten s e next

theorem exists_overwrite_of_outline_eq {next : Disk} {bytes : Files.Bytes}
    (h : d.outline = e.outline) (hnext : s.overwrite bytes d = .ok next) (other : Files.Bytes) :
    ∃ enext, s.overwrite other e = .ok enext ∧ next.outline = enext.outline := by
  have hd := overwrite_outline s bytes d
  have he := overwrite_outline s other e
  rw [h, he, hnext] at hd
  cases hoverwrite : s.overwrite other e with
  | error err =>
      rw [hoverwrite] at hd
      cases hd
  | ok enext =>
      rw [hoverwrite] at hd
      exact ⟨enext, rfl, (Except.ok.inj hd).symm⟩

/-- A file that could be overwritten once more after it was overwritten some times could be
overwritten from the start. By induction on the times: the first of them shows it. -/
theorem Overwritten.exists_next (h : Overwritten s e d) {next : Disk} {bytes : Files.Bytes}
    (hnext : s.overwrite bytes d = .ok next) (other : Files.Bytes) :
    ∃ enext, s.overwrite other e = .ok enext ∧ Overwritten s enext next := by
  induction h generalizing next bytes with
  | same heq =>
      obtain ⟨enext, hother, hsame⟩ := exists_overwrite_of_outline_eq heq hnext other
      exact ⟨enext, hother, .same hsame⟩
  | again _ hlast ih =>
      obtain ⟨enext, hother, hbefore⟩ := ih hlast
      exact ⟨enext, hother, .again hbefore hnext⟩

theorem Overwritten.of_perform (h : Overwritten s e d) {a : call.Answer} {next : Disk}
    (hrun : Disk.run (s.perform call) d = (.ok a, next)) : Overwritten s e next := by
  obtain ⟨records, -, -, hwrites⟩ := perform_eq_ok_iff.1 hrun
  split at hwrites
  · exact h.again hwrites
  · exact hwrites ▸ h

/-- `Beside s name d e`: as far as the records of this host go, the file on the one disk is like the
one on the other, and what can be written there can be written here. -/
structure Beside (s : FileStore) (name : String) (d e : Disk) : Prop where
  share_eq : (s.contents d).map (share name) = (s.contents e).map (share name)
  overwritten : Overwritten s e d

theorem Beside.exists_contents (h : Beside s name d e) (hd : s.contents d = .ok records) :
    ∃ others, s.contents e = .ok others ∧ share name records = share name others := by
  have heq := h.share_eq
  rw [hd] at heq
  cases he : s.contents e with
  | error err =>
      rw [he] at heq
      cases heq
  | ok others =>
      rw [he] at heq
      exact ⟨others, rfl, Except.ok.inj heq⟩

theorem Beside.step_own (h : Beside s name d e) (hcall : call.host = name) {a : call.Answer}
    {next : Disk} (hrun : Disk.run (s.perform call) d = (.ok a, next)) :
    ∃ enext, Disk.run (s.perform call) e = (.ok a, enext) ∧ Beside s name next enext := by
  obtain ⟨records, hd, hanswer, hwrites⟩ := perform_eq_ok_iff.1 hrun
  obtain ⟨others, he, hshare⟩ := h.exists_contents hd
  have hsame : a = answer call others := by
    rw [hanswer, ← answer_share hcall records, hshare, answer_share hcall]
  have hboth : writes call records = writes call others := by
    rw [← writes_share hcall records, hshare, writes_share hcall]
  have hother : ∃ enext, (if writes call others then
      s.overwrite (encode (after call others)) e = .ok enext else enext = e) ∧
        Overwritten s enext next := by
    rw [hboth] at hwrites
    by_cases hwrite : writes call others = true
    · rw [if_pos hwrite] at hwrites
      simp only [if_pos hwrite]
      exact h.overwritten.exists_next hwrites _
    · rw [if_neg hwrite] at hwrites
      simp only [if_neg hwrite]
      exact ⟨e, rfl, hwrites ▸ h.overwritten⟩
  obtain ⟨enext, henext, hover⟩ := hother
  have hagain : Disk.run (s.perform call) e = (.ok a, enext) :=
    perform_eq_ok_iff.2 ⟨others, he, hsame, henext⟩
  refine ⟨enext, hagain, ?_, hover⟩
  rw [contents_of_perform hrun hd, contents_of_perform hagain he]
  apply congrArg Except.ok
  rw [share_after_of_eq hcall, hshare, share_after_of_eq hcall]

theorem Beside.step_other (h : Beside s name d e) (hcall : call.host ≠ name) {a : call.Answer}
    {next : Disk} (hrun : Disk.run (s.perform call) d = (.ok a, next)) : Beside s name next e := by
  obtain ⟨records, hd, -, -⟩ := perform_eq_ok_iff.1 hrun
  refine ⟨?_, h.overwritten.of_perform hrun⟩
  rw [contents_of_perform hrun hd, ← h.share_eq, hd]
  exact congrArg Except.ok (share_after_of_ne hcall records)

theorem Beside.find_eq (h : Beside s name d e) (ids : List String) :
    (Disk.run (s.find name ids) d).1 = (Disk.run (s.find name ids) e).1 := by
  have hfind (d : Disk) : (Disk.run (s.find name ids) d).1 =
      ((s.contents d).map (share name)).map fun records => select records name ids := by
    rw [run_find]
    cases s.contents d with
    | error err => rfl
    | ok records => exact congrArg Except.ok (select_share name ids records).symm
  rw [hfind, hfind, h.share_eq]

/-- The file can be read, and overwritten any number of times: from the second time on the disk stays
as it is, up to the contents of files. -/
structure Works (s : FileStore) (d : Disk) : Prop where
  readable : ∃ records, s.contents d = .ok records
  writable : ∃ o, s.overwrite [] d.outline = .ok o ∧ s.overwrite [] o = .ok o

theorem Works.exists_overwrite (h : Works s d) (records : List ImageUpdate) :
    ∃ next, s.overwrite (encode records) d = .ok next ∧ Works s next := by
  obtain ⟨o, hfirst, hagain⟩ := h.writable
  have houtline := overwrite_outline s (encode records) d
  rw [hfirst] at houtline
  cases hnext : s.overwrite (encode records) d with
  | error err =>
      rw [hnext] at houtline
      cases houtline
  | ok next =>
      rw [hnext] at houtline
      obtain rfl : o = next.outline := Except.ok.inj houtline
      exact ⟨next, rfl, ⟨records, contents_of_overwrite hnext⟩, next.outline, hagain, hagain⟩

theorem Works.step (h : Works s d) (call : StoreCall) :
    ∃ a next, Disk.run (s.perform call) d = (.ok a, next) ∧ Works s next := by
  obtain ⟨records, hd⟩ := h.readable
  by_cases hwrite : writes call records = true
  · obtain ⟨next, hnext, hworks⟩ := h.exists_overwrite (after call records)
    refine ⟨answer call records, next, perform_eq_ok_iff.2 ⟨records, hd, rfl, ?_⟩, hworks⟩
    rw [if_pos hwrite]
    exact hnext
  · refine ⟨answer call records, d, perform_eq_ok_iff.2 ⟨records, hd, rfl, ?_⟩, h⟩
    rw [if_neg hwrite]

/-- On an empty disk a file can be overwritten once its directories are made. -/
theorem works_updatesJson : Works ⟨"/var/lib/updates.json"⟩ Disk.empty := by
  have hoverwrite : overwrite ⟨"/var/lib/updates.json"⟩ [] Disk.empty =
      .ok ⟨[(["var"], .directory), (["var", "lib"], .directory),
        (["var", "lib", "updates.json"], .file [])]⟩ := by
    decide +kernel
  exact ⟨⟨[], by decide +kernel⟩, _, hoverwrite, by decide +kernel⟩

end FileStore

namespace MemoryStore

variable {name : String} {s t : MemoryStore} {call : StoreCall}

/-- As far as the records of this host go, the one store is like the other one. -/
def Beside (name : String) (s t : MemoryStore) : Prop :=
  ∀ id, s.records.get? (name, id) = t.records.get? (name, id)

theorem Beside.find_eq (h : Beside name s t) (ids : List String) :
    s.find name ids = t.find name ids := by
  simp only [find, h _]

theorem Beside.step_own (h : Beside name s t) (hcall : call.host = name) :
    (s.handle call).1 = (t.handle call).1 ∧
      Beside name (s.handle call).2 (t.handle call).2 := by
  cases call with
  | save u =>
      refine ⟨rfl, fun id => ?_⟩
      simp only [handle, get?_save, h id]
  | delete host ids =>
      obtain rfl : host = name := hcall
      refine ⟨rfl, fun id => ?_⟩
      by_cases hid : id ∈ ids
      · simp only [handle, get?_delete_of_mem hid]
      · simp only [handle]
        rw [get?_delete_of_ne fun _ => hid, get?_delete_of_ne fun _ => hid, h id]
  | find host ids =>
      obtain rfl : host = name := hcall
      exact ⟨congrArg Except.ok (h.find_eq ids), h⟩

theorem Beside.step_other (h : Beside name s t) (hcall : call.host ≠ name) :
    Beside name (s.handle call).2 t := by
  cases call with
  | save u =>
      intro id
      have hne : u.key ≠ (name, id) := fun heq => hcall (congrArg Prod.fst heq)
      simp only [handle, get?_save, if_neg hne, h id]
  | delete host ids =>
      intro id
      have hne : name = host → id ∉ ids := fun heq => absurd heq.symm hcall
      simp only [handle]
      rw [get?_delete_of_ne hne, h id]
  | find host ids => exact h

end MemoryStore

namespace AnyStore

/-- As far as the records of this host go, the one store is like the other one. -/
inductive Beside (name : String) : AnyStore → AnyStore → Prop where
  | memory {s t : MemoryStore} (h : MemoryStore.Beside name s t) :
      Beside name (.memory s) (.memory t)
  | file {s : FileStore} {d e : Disk} (h : s.Beside name d e) : Beside name (.file s d) (.file s e)

variable {name : String} {s t : AnyStore} {call : StoreCall}

theorem Beside.refl (name : String) (s : AnyStore) : Beside name s s := by
  cases s with
  | memory s => exact .memory fun _ => rfl
  | file s d => exact .file ⟨rfl, .same rfl⟩

/-- A call of the host itself that succeeds gets the same reply from both stores, and leaves them
alike. -/
theorem Beside.step_own (h : Beside name s t) (hcall : call.host = name) {a : call.Answer}
    (hok : (s.handle call).1 = .ok a) :
    (t.handle call).1 = .ok a ∧ Beside name (s.handle call).2 (t.handle call).2 := by
  cases h with
  | memory h =>
      obtain ⟨hreply, hnext⟩ := h.step_own hcall
      exact ⟨hreply.symm.trans hok, .memory hnext⟩
  | @file s d e h =>
      have hrun : Disk.run (s.perform call) d = (.ok a, (Disk.run (s.perform call) d).2) :=
        Prod.ext hok rfl
      obtain ⟨enext, hother, hnext⟩ := h.step_own hcall hrun
      obtain rfl : (Disk.run (s.perform call) e).2 = enext := congrArg Prod.snd hother
      exact ⟨congrArg Prod.fst hother, .file hnext⟩

/-- A call of another host that succeeds leaves the stores alike. -/
theorem Beside.step_other (h : Beside name s t) (hcall : call.host ≠ name) {a : call.Answer}
    (hok : (s.handle call).1 = .ok a) : Beside name (s.handle call).2 t := by
  cases h with
  | memory h => exact .memory (h.step_other hcall)
  | @file s d e h =>
      have hrun : Disk.run (s.perform call) d = (.ok a, (Disk.run (s.perform call) d).2) :=
        Prod.ext hok rfl
      exact .file (h.step_other hcall hrun)

/-- The host finds the same records in both stores. -/
theorem Beside.find_eq (h : Beside name s t) (ids : List String) :
    (s.handle (.find name ids)).1 = (t.handle (.find name ids)).1 := by
  cases h with
  | memory h => exact congrArg Except.ok (h.find_eq ids)
  | file h => exact h.find_eq ids

/-- A store none of whose calls will fail. -/
inductive Works : AnyStore → Prop where
  | memory (s : MemoryStore) : Works (.memory s)
  | file {s : FileStore} {d : Disk} (h : s.Works d) : Works (.file s d)

theorem Works.step (h : s.Works) (call : StoreCall) :
    (∃ a, (s.handle call).1 = .ok a) ∧ (s.handle call).2.Works := by
  cases h with
  | memory s => exact ⟨s.exists_handle_eq_ok call, .memory _⟩
  | @file s d h =>
      obtain ⟨a, next, hrun, hnext⟩ := h.step call
      obtain rfl : (Disk.run (s.perform call) d).2 = next := congrArg Prod.snd hrun
      exact ⟨⟨a, congrArg Prod.fst hrun⟩, .file hnext⟩

end AnyStore

end ContainerFleet
