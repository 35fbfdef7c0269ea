import ContainerFleet.Proofs.Disk
import ContainerFleet.Proofs.Json
import ContainerFleet.Proofs.Timestamp
import ContainerFleet.Store.File

/-!
What the calls to the store in a file do to it. Main statements: `decode?_encode`, that a file which
was written holds the records that it was written for, and `perform_eq_ok_iff`, what a call that
succeeds answers and leaves in the file.
-/

namespace ContainerFleet

namespace Files

theorem bytesOf_ne_nil {s : List Char} (h : s ≠ []) : bytesOf s ≠ [] := by
  intro hnil
  have hread := textOf?_bytesOf s
  have hempty := textOf?_bytesOf []
  have hnone : bytesOf [] = [] := by simp [bytesOf]
  rw [hnil] at hread
  rw [hnone, hread] at hempty
  exact h (Option.some.inj hempty)

end Files

namespace ImageUpdate

theorem ofJson?_toJson (u : ImageUpdate) : ofJson? u.toJson = some u := by
  have hchecked := Timestamp.ofText?_toText u.checkedAt
  simp [ofJson?, toJson, Json.record?, Json.Record.required?, Json.Record.get?, Json.str?, hchecked]

theorem ofTexts_toJson (u : ImageUpdate) (depth : Nat) : Json.OfTexts (depth + 1) u.toJson := by
  intro entry hentry
  simp only [List.mem_cons, List.not_mem_nil, or_false] at hentry
  rcases hentry with rfl | rfl | rfl | rfl <;> cases depth <;> trivial

end ImageUpdate

namespace FileStore

variable {s : FileStore} {d e : Disk} {records : List ImageUpdate}

theorem mapM_ofJson?_toJson (records : List ImageUpdate) :
    (records.map ImageUpdate.toJson).mapM ImageUpdate.ofJson? = some records := by
  induction records with
  | nil => rfl
  | cons u records ih => simp [ih, ImageUpdate.ofJson?_toJson]

theorem ofTexts_records (records : List ImageUpdate) :
    Json.OfTexts Json.Reader.maxDepth (.arr (records.map ImageUpdate.toJson)) := by
  intro v hv
  obtain ⟨u, -, rfl⟩ := List.mem_map.1 hv
  exact u.ofTexts_toJson _

/-- A file that was written is not empty, even when it holds no records. -/
theorem encode_ne_nil (records : List ImageUpdate) : encode records ≠ [] := by
  obtain ⟨c, more, hcons, -⟩ := Json.Reader.exists_indent_eq_cons (ofTexts_records records) 0
  rw [encode, hcons]
  exact Files.bytesOf_ne_nil (List.cons_ne_nil c more)

/-- A file that was written holds the records that it was written for. -/
theorem decode?_encode (records : List ImageUpdate) : decode? (encode records) = some records := by
  have hne : (encode records).isEmpty = false := by simpa using encode_ne_nil records
  rw [decode?, hne, encode, Files.textOf?_bytesOf]
  simp only [Option.bind_eq_bind, Option.bind_some, Json.parse?_indent (ofTexts_records records),
    Json.arr?, mapM_ofJson?_toJson]
  rfl

/-- What the file on a disk holds. -/
def contents (s : FileStore) (d : Disk) : Except StoreError (List ImageUpdate) :=
  match d.read (Disk.resolve s.path) with
  | .error .notFound => .ok []
  | .error e => .error (fileError e)
  | .ok bytes =>
    match decode? bytes with
    | some records => .ok records
    | none => .error (.malformed "")

theorem run_readAll (s : FileStore) (d : Disk) :
    Disk.run s.readAll d = (s.contents d, d) := by
  rw [readAll, Disk.run_bind]
  simp only [contents, Disk.run, FileProgram.read, Program.call, Program.run, Disk.handle]
  rcases d.read (Disk.resolve s.path) with e | bytes
  · cases e <;> rfl
  · dsimp only
    cases decode? bytes <;> rfl

/-- The disk with the directory that holds the file. -/
def prepared (s : FileStore) (d : Disk) : Except FileError Disk :=
  match FilePath.parent? s.path with
  | some dir => d.makeDirectories (Disk.resolve dir)
  | none => .ok d

/-- The disk with other contents of the file, written to a second file first. -/
def overwrite (s : FileStore) (bytes : Files.Bytes) (d : Disk) : Except FileError Disk := do
  let d ← s.prepared d
  let d ← d.write (Disk.resolve s.draftPath) bytes
  d.rename (Disk.resolve s.draftPath) (Disk.resolve s.path)

theorem run_prepare (s : FileStore) (d : Disk) :
    Disk.run s.prepare d =
      match s.prepared d with
      | .ok d => (.ok (), d)
      | .error e => (.error e, d) := by
  unfold prepare prepared
  cases FilePath.parent? s.path <;> rfl

theorem run_writeAll_eq_ok_iff :
    Disk.run (s.writeAll records) d = (.ok (), e) ↔ s.overwrite (encode records) d = .ok e := by
  rw [writeAll, Disk.run_bind, run_prepare, overwrite]
  rcases s.prepared d with err | made
  · constructor <;> intro h <;> cases h
  · simp only [Disk.run, Bind.bind, Program.bind, FileProgram.write, FileProgram.rename,
      Program.call, Program.run, Disk.handle, Except.bind]
    rcases made.write (Disk.resolve s.draftPath) (encode records) with err | drafted
    · constructor <;> intro h <;> cases h
    · simp only [Program.run, Disk.handle]
      rcases drafted.rename (Disk.resolve s.draftPath) (Disk.resolve s.path) with err | renamed
      · constructor <;> intro h <;> cases h
      · constructor <;> intro h <;> cases h <;> rfl

theorem exists_of_overwrite {bytes : Files.Bytes} (h : s.overwrite bytes d = .ok e) :
    ∃ made drafted, s.prepared d = .ok made ∧
      made.write (Disk.resolve s.draftPath) bytes = .ok drafted ∧
      drafted.rename (Disk.resolve s.draftPath) (Disk.resolve s.path) = .ok e := by
  unfold overwrite at h
  rcases hmade : s.prepared d with err | made
  · rw [hmade] at h
    cases h
  · rcases hdrafted : made.write (Disk.resolve s.draftPath) bytes with err | drafted
    · simp only [hmade, Bind.bind, Except.bind, hdrafted] at h
      cases h
    · simp only [hmade, Bind.bind, Except.bind, hdrafted] at h
      exact ⟨made, drafted, rfl, hdrafted, h⟩

theorem contents_of_overwrite (h : s.overwrite (encode records) d = .ok e) :
    s.contents e = .ok records := by
  obtain ⟨made, drafted, -, hwrite, hrename⟩ := exists_of_overwrite h
  have hfile := Disk.get?_of_rename hrename (Disk.get?_of_write hwrite)
  simp only [contents, Disk.read, hfile, decode?_encode]

/-- Whether the file can be overwritten does not depend on the contents of files. -/
theorem overwrite_outline (s : FileStore) (bytes : Files.Bytes) (d : Disk) :
    s.overwrite [] d.outline = (s.overwrite bytes d).map Disk.outline := by
  have hprepared : s.prepared d.outline = (s.prepared d).map Disk.outline := by
    unfold prepared
    cases FilePath.parent? s.path with
    | none => rfl
    | some dir => exact Disk.makeDirectories_outline d _
  unfold overwrite
  rw [hprepared]
  rcases s.prepared d with err | made
  · rfl
  · have hwrite := Disk.write_outline made (Disk.resolve s.draftPath) bytes
    simp only [Bind.bind, Except.bind, Except.map, hwrite]
    rcases made.write (Disk.resolve s.draftPath) bytes with err | drafted
    · rfl
    · exact Disk.rename_outline drafted _ _

/-- A program that reads the file and goes on with its records succeeds exactly when the file can be
read and what follows succeeds. -/
theorem run_readAll_bind_eq_ok_iff {α : Type} {a : α}
    {f : Except StoreError (List ImageUpdate) → FileProgram (Except StoreError α)}
    (hf : ∀ err, f (.error err) = pure (.error err)) :
    Disk.run (s.readAll >>= f) d = (.ok a, e) ↔
      ∃ records, s.contents d = .ok records ∧ Disk.run (f (.ok records)) d = (.ok a, e) := by
  rw [Disk.run_bind, run_readAll]
  rcases s.contents d with err | records
  · rw [hf]
    constructor
    · intro h
      cases h
    · rintro ⟨records, h, -⟩
      cases h
  · simp

theorem save_eq_ok_iff {u : ImageUpdate} :
    Disk.run (s.save u) d = (.ok (), e) ↔
      ∃ records, s.contents d = .ok records ∧
        s.overwrite (encode (insert records u)) d = .ok e := by
  rw [save, run_readAll_bind_eq_ok_iff]
  · simp only [run_writeAll_eq_ok_iff]
  · exact fun _ => rfl

theorem delete_eq_ok_iff {host : String} {ids : List String} :
    Disk.run (s.delete host ids) d = (.ok (), e) ↔
      ∃ records, s.contents d = .ok records ∧
        if (remove records host ids).length = records.length then e = d
        else s.overwrite (encode (remove records host ids)) d = .ok e := by
  rw [delete, run_readAll_bind_eq_ok_iff]
  · apply exists_congr
    intro records
    apply and_congr_right
    intro _
    dsimp only
    split
    · constructor <;> intro h <;> cases h <;> rfl
    · exact run_writeAll_eq_ok_iff
  · exact fun _ => rfl

theorem run_find (s : FileStore) (host : String) (ids : List String) (d : Disk) :
    Disk.run (s.find host ids) d =
      ((s.contents d).map fun records => select records host ids, d) := by
  rw [find, Disk.run_bind, run_readAll]
  cases s.contents d <;> rfl

theorem find_eq_ok_iff {host : String} {ids : List String} {found : Map String ImageUpdate} :
    Disk.run (s.find host ids) d = (.ok found, e) ↔
      ∃ records, s.contents d = .ok records ∧ found = select records host ids ∧ e = d := by
  rw [run_find]
  cases s.contents d <;> simp [Except.map, eq_comm]

/-- What a call makes of the records. -/
def after : StoreCall → List ImageUpdate → List ImageUpdate
  | .save u, records => insert records u
  | .delete host ids, records => remove records host ids
  | .find _ _, records => records

/-- What a call finds among the records. -/
def answer : (call : StoreCall) → List ImageUpdate → call.Answer
  | .save _, _ => ()
  | .delete _ _, _ => ()
  | .find host ids, records => select records host ids

/-- Whether a call writes the file. -/
def writes : StoreCall → List ImageUpdate → Bool
  | .save _, _ => true
  | .delete host ids, records => decide ((remove records host ids).length ≠ records.length)
  | .find _ _, _ => false

theorem after_eq_self {call : StoreCall} (h : writes call records = false) :
    after call records = records := by
  cases call with
  | save u => cases h
  | delete host ids =>
      have hlength : (remove records host ids).length = records.length := by simpa [writes] using h
      exact List.filter_eq_self.2 (List.length_filter_eq_length_iff.1 hlength)
  | find host ids => rfl

/-- A call succeeds exactly when the file can be read and, if there is something to write, can be
overwritten. -/
theorem perform_eq_ok_iff {call : StoreCall} {a : call.Answer} :
    Disk.run (s.perform call) d = (.ok a, e) ↔
      ∃ records, s.contents d = .ok records ∧ a = answer call records ∧
        if writes call records then s.overwrite (encode (after call records)) d = .ok e
        else e = d := by
  cases call with
  | save u =>
      refine save_eq_ok_iff.trans (exists_congr fun records => and_congr_right fun _ => ?_)
      exact (and_iff_right rfl).symm
  | delete host ids =>
      refine delete_eq_ok_iff.trans (exists_congr fun records => and_congr_right fun _ => ?_)
      have hunit : a = answer (.delete host ids) records := rfl
      by_cases hlength : (remove records host ids).length = records.length
      · simp [writes, hlength, hunit]
      · simp [writes, hlength, hunit, after]
  | find host ids =>
      refine find_eq_ok_iff.trans (exists_congr fun records => and_congr_right fun _ => ?_)
      exact Iff.rfl

/-- What a call that succeeds leaves in the file. -/
theorem contents_of_perform {call : StoreCall} {a : call.Answer}
    (h : Disk.run (s.perform call) d = (.ok a, e)) (hrecords : s.contents d = .ok records) :
    s.contents e = .ok (after call records) := by
  obtain ⟨found, hfound, -, hwrites⟩ := perform_eq_ok_iff.1 h
  obtain rfl : records = found := Except.ok.inj (hrecords.symm.trans hfound)
  by_cases hwrite : writes call records = true
  · rw [if_pos hwrite] at hwrites
    exact contents_of_overwrite hwrites
  · rw [if_neg hwrite] at hwrites
    rw [hwrites, hrecords, after_eq_self (Bool.eq_false_iff.2 hwrite)]

end FileStore

end ContainerFleet
