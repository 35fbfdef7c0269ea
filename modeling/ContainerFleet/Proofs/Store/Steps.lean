import ContainerFleet.Proofs.Program.Conversation
import ContainerFleet.Proofs.Store.File

/-!
The steps that a call to the store in a file takes: it reads the file, and if there is something to
write it makes the directory, writes the second file and renames it. Main statement:
`runs_perform_iff`, that a call takes no others, whatever the file system replies.
-/

namespace ContainerFleet

open Files

/-- A request to the file system with its reply. -/
abbrev FileExchange : Type :=
  Program.Exchange fileInterface

/-- The exchanges of a program with a disk, and what comes out of it. -/
def Disk.converse {α : Type} (p : FileProgram α) (d : Disk) : List FileExchange × α × Disk :=
  Program.converse (I := fileInterface) Disk.handle p d

theorem Disk.run_eq_converse {α : Type} (p : FileProgram α) (d : Disk) :
    Disk.run p d = (Disk.converse p d).2 :=
  Program.run_eq_converse (I := fileInterface) Disk.handle p d

theorem Disk.runs_converse {α : Type} (p : FileProgram α) (d : Disk) :
    Program.Runs p (Disk.converse p d).1 (Disk.converse p d).2.1 :=
  Program.runs_converse (I := fileInterface) Disk.handle p d

theorem Disk.leads_converse {α : Type} (p : FileProgram α) (d : Disk) :
    Program.Leads (Program.Replying (I := fileInterface) Disk.handle) d (Disk.converse p d).1
      (Disk.converse p d).2.2 :=
  Program.leads_converse (I := fileInterface) Disk.handle p d

theorem Disk.converse_bind {α β : Type} (p : FileProgram α) (f : α → FileProgram β) (d : Disk) :
    Disk.converse (p >>= f) d =
      ((Disk.converse p d).1 ++ (Disk.converse (f (Disk.converse p d).2.1) (Disk.converse p d).2.2).1,
        (Disk.converse (f (Disk.converse p d).2.1) (Disk.converse p d).2.2).2) :=
  Program.converse_bind (I := fileInterface) Disk.handle p f d

/-- Whether a request to the file system failed. Finding that there is no file to read is no
failure. -/
def FileExchange.failed (x : FileExchange) : Bool :=
  match (x.request : Request), x.reply with
  | .read _, .error e => e != .notFound
  | .makeDirectories _, .error _ => true
  | .write _ _, .error _ => true
  | .rename _ _, .error _ => true
  | _, _ => false

namespace FileStore

variable {s : FileStore} {records : List ImageUpdate} {trace : List FileExchange}

/-- The file is read. -/
def reading (s : FileStore) (r : Except FileError Bytes) : FileExchange :=
  ⟨Request.read s.path, r⟩

/-- A directory is made. -/
def making (dir : String) (r : Except FileError Unit) : FileExchange :=
  ⟨Request.makeDirectories dir, r⟩

/-- The second file is written. -/
def drafting (s : FileStore) (bytes : Bytes) (r : Except FileError Unit) : FileExchange :=
  ⟨Request.write s.draftPath bytes, r⟩

/-- The second file takes the place of the first. -/
def replacing (s : FileStore) (r : Except FileError Unit) : FileExchange :=
  ⟨Request.rename s.draftPath s.path, r⟩

/-- The records that the store finds in what it has read. -/
def understood : Except FileError Bytes → Except StoreError (List ImageUpdate)
  | .error .notFound => .ok []
  | .error e => .error (fileError e)
  | .ok bytes =>
    match decode? bytes with
    | some records => .ok records
    | none => .error (.malformed "")

theorem contents_eq_understood (s : FileStore) (d : Disk) :
    s.contents d = understood (d.read (Disk.resolve s.path)) := by
  rw [contents]
  rcases d.read (Disk.resolve s.path) with e | bytes
  · cases e <;> rfl
  · rfl

theorem runs_readAll_iff {r : Except StoreError (List ImageUpdate)} :
    Program.Runs s.readAll trace r ↔ ∃ reply, trace = [s.reading reply] ∧ r = understood reply := by
  have hanswer (reply : Except FileError Bytes) (t : List FileExchange) :
      Program.Runs (match reply with
        | .error .notFound => pure (.ok [])
        | .error e => pure (.error (fileError e))
        | .ok bytes =>
          match decode? bytes with
          | some records => pure (.ok records)
          | none => pure (.error (.malformed "")) : FileProgram _) t r ↔
        t = [] ∧ r = understood reply := by
    rcases reply with e | bytes
    · cases e <;> exact Program.runs_pure_iff
    · simp only [understood]
      cases decode? bytes <;> exact Program.runs_pure_iff
  constructor
  · intro h
    obtain ⟨t, u, reply, rfl, ht, hu⟩ := Program.runs_bind_iff.1 h
    obtain rfl := Program.runs_call_iff.1 ht
    obtain ⟨rfl, rfl⟩ := (hanswer reply u).1 hu
    exact ⟨reply, rfl, rfl⟩
  · rintro ⟨reply, rfl, rfl⟩
    exact Program.runs_bind_iff.2
      ⟨[s.reading reply], [], reply, rfl, Program.runs_call_iff.2 rfl, (hanswer reply []).2 ⟨rfl, rfl⟩⟩

/-- The step that makes the directory of the file. -/
inductive Preparing (s : FileStore) : List FileExchange → Except FileError Unit → Prop where
  | needless (h : FilePath.parent? s.path = none) : Preparing s [] (.ok ())
  | making {dir : String} (h : FilePath.parent? s.path = some dir) (r : Except FileError Unit) :
      Preparing s [making dir r] r

theorem runs_prepare_iff {r : Except FileError Unit} :
    Program.Runs s.prepare trace r ↔ s.Preparing trace r := by
  unfold prepare
  constructor
  · intro h
    split at h
    · next dir hdir =>
        obtain rfl := Program.runs_call_iff.1 h
        exact .making hdir r
    · next hnone =>
        obtain ⟨rfl, rfl⟩ := Program.runs_pure_iff.1 h
        exact .needless hnone
  · rintro (hnone | ⟨hdir, -⟩)
    · rw [hnone]
      exact Program.runs_pure_iff.2 ⟨rfl, rfl⟩
    · rw [hdir]
      exact Program.runs_call_iff.2 rfl

/-- The steps of overwriting the file, up to the first that fails. -/
inductive Writing (s : FileStore) (bytes : Bytes) :
    List FileExchange → Except StoreError Unit → Prop where
  | unprepared {made : List FileExchange} {e : FileError} (h : s.Preparing made (.error e)) :
      Writing s bytes made (.error (fileError e))
  | undrafted {made : List FileExchange} (h : s.Preparing made (.ok ())) (e : FileError) :
      Writing s bytes (made ++ [s.drafting bytes (.error e)]) (.error (fileError e))
  | drafted {made : List FileExchange} (h : s.Preparing made (.ok ())) (r : Except FileError Unit) :
      Writing s bytes (made ++ [s.drafting bytes (.ok ())] ++ [s.replacing r]) (r.mapError fileError)

theorem runs_writeAll_iff {r : Except StoreError Unit} :
    Program.Runs (s.writeAll records) trace r ↔ s.Writing (encode records) trace r := by
  constructor
  · intro h
    obtain ⟨made, t, prepared, rfl, hprepare, hafter⟩ := Program.runs_bind_iff.1 h
    rw [runs_prepare_iff] at hprepare
    rcases prepared with e | ⟨⟩
    · obtain ⟨rfl, rfl⟩ := Program.runs_pure_iff.1 hafter
      rw [List.append_nil]
      exact .unprepared hprepare
    · obtain ⟨drafted, u, draft, rfl, hdraft, hlast⟩ := Program.runs_bind_iff.1 hafter
      obtain rfl := Program.runs_call_iff.1 hdraft
      rcases draft with e | ⟨⟩
      · obtain ⟨rfl, rfl⟩ := Program.runs_pure_iff.1 hlast
        exact .undrafted hprepare e
      · obtain ⟨renamed, v, rename, rfl, hrename, hend⟩ := Program.runs_bind_iff.1 hlast
        obtain rfl := Program.runs_call_iff.1 hrename
        obtain ⟨rfl, rfl⟩ : v = [] ∧ r = rename.mapError fileError := by
          rcases rename with e | ⟨⟩ <;> exact Program.runs_pure_iff.1 hend
        rw [List.append_nil, ← List.append_assoc]
        exact .drafted hprepare rename
  · intro h
    have hdrafting (reply : Except FileError Unit) :
        Program.Runs (FileProgram.write s.draftPath (encode records))
          [s.drafting (encode records) reply] reply :=
      Program.runs_call_iff.2 rfl
    have hreplacing (reply : Except FileError Unit) :
        Program.Runs (FileProgram.rename s.draftPath s.path) [s.replacing reply] reply :=
      Program.runs_call_iff.2 rfl
    cases h with
    | unprepared hmade =>
        rw [← List.append_nil trace]
        exact (runs_prepare_iff.2 hmade).bind (.done _)
    | undrafted hmade e => exact (runs_prepare_iff.2 hmade).bind ((hdrafting _).bind (.done _))
    | drafted hmade r =>
        rw [List.append_assoc]
        refine (runs_prepare_iff.2 hmade).bind ((hdrafting (.ok ())).bind ?_)
        refine Program.Runs.bind (u := []) (hreplacing r) ?_
        rcases r with e | ⟨⟩ <;> exact .done _

/-- The steps of a call after the records were read. -/
inductive Proceeding (s : FileStore) (call : StoreCall) (records : List ImageUpdate) :
    List FileExchange → call.Reply → Prop where
  | unchanged (hwrites : writes call records = false) :
      Proceeding s call records [] (.ok (answer call records))
  | changed {trace : List FileExchange} {r : Except StoreError Unit}
      (hwrites : writes call records = true)
      (h : s.Writing (encode (after call records)) trace r) :
      Proceeding s call records trace (r.map fun _ => answer call records)

/-- The steps of a call, up to the first that fails. -/
inductive Performing (s : FileStore) (call : StoreCall) : List FileExchange → call.Reply → Prop where
  | unread {reply : Except FileError Bytes} {e : StoreError} (hread : understood reply = .error e) :
      Performing s call [s.reading reply] (.error e)
  | read {reply : Except FileError Bytes} {records : List ImageUpdate}
      {trace : List FileExchange} {r : call.Reply} (hread : understood reply = .ok records)
      (h : s.Proceeding call records trace r) : Performing s call (s.reading reply :: trace) r

theorem runs_readAll_bind_iff (call : StoreCall) {r : call.Reply}
    {f : Except StoreError (List ImageUpdate) → FileProgram call.Reply}
    (hstop : ∀ e, f (.error e) = pure (.error e))
    (hnext : ∀ records t, Program.Runs (f (.ok records)) t r ↔ s.Proceeding call records t r) :
    Program.Runs (s.readAll >>= f) trace r ↔ s.Performing call trace r := by
  constructor
  · intro h
    obtain ⟨t, u, found, rfl, ht, hu⟩ := Program.runs_bind_iff.1 h
    obtain ⟨reply, rfl, rfl⟩ := runs_readAll_iff.1 ht
    cases hread : understood reply with
    | error e =>
        rw [hread, hstop] at hu
        obtain ⟨rfl, rfl⟩ := Program.runs_pure_iff.1 hu
        exact .unread hread
    | ok records =>
        rw [hread, hnext] at hu
        exact .read hread hu
  · intro h
    cases h with
    | @unread reply e hread =>
        refine Program.runs_bind_iff.2 ⟨[s.reading reply], [], .error e, rfl,
          runs_readAll_iff.2 ⟨reply, rfl, hread.symm⟩, ?_⟩
        rw [hstop]
        exact .done _
    | @read reply records t r hread ht =>
        exact Program.runs_bind_iff.2 ⟨[s.reading reply], t, .ok records, rfl,
          runs_readAll_iff.2 ⟨reply, rfl, hread.symm⟩, (hnext records t).2 ht⟩

theorem proceeding_iff_of_not_writes {call : StoreCall} {r : call.Reply}
    (hwrites : writes call records = false) :
    s.Proceeding call records trace r ↔ trace = [] ∧ r = .ok (answer call records) := by
  constructor
  · rintro (- | ⟨hwrite, -⟩)
    · exact ⟨rfl, rfl⟩
    · rw [hwrites] at hwrite
      cases hwrite
  · rintro ⟨rfl, rfl⟩
    exact .unchanged hwrites

theorem proceeding_iff_of_writes {call : StoreCall} {r : call.Reply}
    (hwrites : writes call records = true) :
    s.Proceeding call records trace r ↔
      ∃ w, s.Writing (encode (after call records)) trace w ∧
        r = w.map fun _ => answer call records := by
  constructor
  · rintro (hwrite | ⟨-, h⟩)
    · rw [hwrites] at hwrite
      cases hwrite
    · exact ⟨_, h, rfl⟩
  · rintro ⟨w, h, rfl⟩
    exact .changed hwrites h

/-- A call takes these steps and no others, whatever the file system replies. -/
theorem runs_perform_iff {call : StoreCall} {r : call.Reply} :
    Program.Runs (s.perform call) trace r ↔ s.Performing call trace r := by
  have hself (w : Except StoreError Unit) : w.map (fun _ => ()) = w := by
    rcases w with e | ⟨⟩ <;> rfl
  have hwritten (after : List ImageUpdate) (t : List FileExchange) (r : Except StoreError Unit) :
      Program.Runs (s.writeAll after) t r ↔
        ∃ w, s.Writing (encode after) t w ∧ r = w.map fun _ => () := by
    simp [hself, runs_writeAll_iff]
  cases call with
  | save u =>
      refine runs_readAll_bind_iff (.save u) ?_ fun records t => ?_
      · exact fun _ => rfl
      · rw [proceeding_iff_of_writes rfl]
        exact hwritten _ t r
  | delete host ids =>
      refine runs_readAll_bind_iff (.delete host ids) ?_ fun records t => ?_
      · exact fun _ => rfl
      · by_cases hlength : (remove records host ids).length = records.length
        · rw [proceeding_iff_of_not_writes (by simp [writes, hlength])]
          simp only [hlength, if_true]
          exact Program.runs_pure_iff
        · rw [proceeding_iff_of_writes (by simp [writes, hlength])]
          simp only [hlength, if_false]
          exact hwritten _ t r
  | find host ids =>
      refine runs_readAll_bind_iff (.find host ids) ?_ fun records t => ?_
      · exact fun _ => rfl
      · rw [proceeding_iff_of_not_writes rfl]
        exact Program.runs_pure_iff

theorem Preparing.exists_failed {e : FileError} (h : s.Preparing trace (.error e)) :
    ∃ x ∈ trace, FileExchange.failed x = true := by
  cases h with
  | making => exact ⟨_, List.mem_singleton_self _, rfl⟩

theorem Writing.exists_failed {bytes : Bytes} {e : StoreError}
    (h : s.Writing bytes trace (.error e)) : ∃ x ∈ trace, FileExchange.failed x = true := by
  generalize hr : Except.error e = r at h
  cases h with
  | unprepared hmade => exact hmade.exists_failed
  | undrafted hmade err => exact ⟨_, List.mem_concat_self, rfl⟩
  | drafted hmade reply =>
      rcases reply with err | ⟨⟩
      · exact ⟨_, List.mem_concat_self, rfl⟩
      · cases hr

/-- A call fails when a request to the file system does, or when the file holds something else than
records. -/
theorem Performing.exists_failed {call : StoreCall} {e : StoreError}
    (h : s.Performing call trace (.error e)) :
    (∃ reply, understood reply = .error e ∧ trace = [s.reading reply]) ∨
      ∃ x ∈ trace, FileExchange.failed x = true := by
  generalize hr : Except.error e = r at h
  cases h with
  | unread hread =>
      cases hr
      exact .inl ⟨_, hread, rfl⟩
  | read hread hproceed =>
      cases hproceed with
      | unchanged => cases hr
      | @changed t w _ hwriting =>
          rcases w with err | ⟨⟩
          · obtain ⟨x, hx, hfailed⟩ := hwriting.exists_failed
            exact .inr ⟨x, List.mem_cons_of_mem _ hx, hfailed⟩
          · cases hr

theorem Preparing.not_failed (h : s.Preparing trace (.ok ())) :
    ∀ x ∈ trace, FileExchange.failed x = false := by
  cases h with
  | needless => exact List.forall_mem_nil _
  | making => exact List.forall_mem_singleton.2 rfl

/-- In a call that succeeds no request fails. -/
theorem Performing.not_failed {call : StoreCall} {a : call.Answer}
    (h : s.Performing call trace (.ok a)) : ∀ x ∈ trace, FileExchange.failed x = false := by
  have hreading {reply : Except FileError Bytes} {records : List ImageUpdate}
      (hread : understood reply = .ok records) : FileExchange.failed (s.reading reply) = false := by
    rcases reply with e | bytes
    · cases e <;> first | rfl | cases hread
    · rfl
  generalize hr : Except.ok a = r at h
  cases h with
  | unread => cases hr
  | read hread hproceed =>
      refine List.forall_mem_cons.2 ⟨hreading hread, ?_⟩
      cases hproceed with
      | unchanged => exact List.forall_mem_nil _
      | changed _ hwriting =>
          cases hwriting with
          | unprepared => cases hr
          | undrafted => cases hr
          | drafted hmade reply =>
              rcases reply with e | ⟨⟩
              · cases hr
              · rw [List.forall_mem_append, List.forall_mem_append]
                exact ⟨⟨hmade.not_failed, List.forall_mem_singleton.2 rfl⟩,
                  List.forall_mem_singleton.2 rfl⟩

end FileStore

end ContainerFleet
