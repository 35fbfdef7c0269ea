import ContainerFleet.Proofs.FilePath
import ContainerFleet.Proofs.Store.Steps
import Mathlib.Data.List.Infix

/-!
Changes to the store in a file that stop somewhere: a step fails, or the program ends between two of
them. Main statement: `allOrNothing_iff`, that the file then holds what it held before or all of the
new records, for exactly the paths from which the path of a second file can be told.
-/

namespace ContainerFleet

open Files

namespace Disk

variable {d e : Disk} {path other : List String} {bytes : Bytes}

/-- What a request that breaks down may leave behind: directories that were made in part, a file
that was written up to some byte, a file that was renamed all the same. -/
def Broken (q : Request) (d : Disk) (r : q.Reply) (e : Disk) : Prop :=
  match q, r with
  | .read _, .error err => err ≠ .notFound ∧ e = d
  | .makeDirectories path, .error _ => ∃ n, d.makePrefix (resolve path) n = .ok e
  | .write path bytes, .error _ => e = d ∨ ∃ n, d.write (resolve path) (bytes.take n) = .ok e
  | .rename source target, .error _ => e = d ∨ d.rename (resolve source) (resolve target) = .ok e
  | _, _ => False

/-- What may happen to a disk when any request may break down. -/
def frail : Conduct fileInterface Disk := fun (q : Request) d (r : q.Reply) e =>
  handle q d = (r, e) ∨ Broken q d r e

theorem of_frail_read {path : String} {r : Except FileError Bytes}
    (h : frail (Request.read path) d r e) :
    e = d ∧ (r = d.read (resolve path) ∨ ∃ err, r = .error err ∧ err ≠ .notFound) := by
  rcases h with h | h
  · obtain ⟨rfl, rfl⟩ := Prod.mk.inj h
    exact ⟨rfl, .inl rfl⟩
  · rcases r with err | bytes
    · exact ⟨h.2, .inr ⟨err, rfl, h.1⟩⟩
    · exact h.elim

theorem of_frail_makeDirectories {path : String} {r : Except FileError Unit}
    (h : frail (Request.makeDirectories path) d r e) :
    (∃ n, d.makePrefix (resolve path) n = .ok e) ∧
      (r = .ok () → d.makeDirectories (resolve path) = .ok e) := by
  rcases h with h | h
  · simp only [handle] at h
    split at h
    · next made hmade =>
        cases h
        exact ⟨⟨_, hmade⟩, fun _ => hmade⟩
    · cases h
      exact ⟨⟨0, rfl⟩, fun hok => by cases hok⟩
  · rcases r with err | ⟨⟩
    · exact ⟨h, fun hok => by cases hok⟩
    · exact h.elim

theorem of_frail_write {path : String} {r : Except FileError Unit}
    (h : frail (Request.write path bytes) d r e) :
    (e = d ∨ ∃ n, d.write (resolve path) (bytes.take n) = .ok e) ∧
      (r = .ok () → d.write (resolve path) bytes = .ok e) := by
  rcases h with h | h
  · simp only [handle] at h
    split at h
    · next written hwritten =>
        cases h
        exact ⟨.inr ⟨bytes.length, by rwa [List.take_length]⟩, fun _ => hwritten⟩
    · cases h
      exact ⟨.inl rfl, fun hok => by cases hok⟩
  · rcases r with err | ⟨⟩
    · exact ⟨h, fun hok => by cases hok⟩
    · exact h.elim

theorem of_frail_rename {source target : String} {r : Except FileError Unit}
    (h : frail (Request.rename source target) d r e) :
    (e = d ∨ d.rename (resolve source) (resolve target) = .ok e) ∧
      (r = .ok () → d.rename (resolve source) (resolve target) = .ok e) := by
  rcases h with h | h
  · simp only [handle] at h
    split at h
    · next renamed hrenamed =>
        cases h
        exact ⟨.inr hrenamed, fun _ => hrenamed⟩
    · cases h
      exact ⟨.inl rfl, fun hok => by cases hok⟩
  · rcases r with err | ⟨⟩
    · exact ⟨h, fun hok => by cases hok⟩
    · exact h.elim

/-- Where some parts of a path lead. -/
def resolveParts (parts : List String) : List String :=
  parts.foldl (fun done part => if part = ".." then done.dropLast else done ++ [part]) []

theorem resolve_eq (path : String) : resolve path = resolveParts (FilePath.parts path) :=
  rfl

theorem resolveParts_concat (parts : List String) {name : String} (h : name ≠ "..") :
    resolveParts (parts ++ [name]) = resolveParts parts ++ [name] := by
  simp [resolveParts, List.foldl_append, h]

theorem resolveParts_concat_dots (parts : List String) :
    resolveParts (parts ++ [".."]) = (resolveParts parts).dropLast := by
  simp [resolveParts, List.foldl_append]

/-- A disk with one file, in a directory. -/
def holding (directory : List String) (name : String) (bytes : Bytes) : Disk :=
  ⟨directory.inits.map (·, .directory) ++ [(directory ++ [name], .file bytes)]⟩

theorem get?_holding (directory : List String) (name : String) (bytes : Bytes) :
    (holding directory name bytes).get? (directory ++ [name]) = some (.file bytes) := by
  have hnone : (directory.inits.map (·, DiskEntry.directory)).find?
      (fun entry => entry.1 = directory ++ [name]) = none := by
    rw [List.find?_eq_none]
    rintro ⟨path, entry⟩ hmem
    obtain ⟨above, habove, heq⟩ := List.mem_map.1 hmem
    cases heq
    have hlength := ((List.mem_inits _ _).1 habove).length_le
    intro heq
    have := congrArg List.length (of_decide_eq_true heq)
    simp at this
    omega
  simp only [get?, holding, List.find?_append, hnone, Option.none_or, List.find?_singleton]
  simp

/-- The directories of the disk are those that its file needs. -/
theorem isDirectory_holding {directory : List String} {name : String} {bytes : Bytes} :
    (holding directory name bytes).isDirectory path = true ↔ path <+: directory := by
  by_cases hnil : path = []
  · subst hnil
    exact iff_of_true rfl (List.nil_prefix)
  have hget : (holding directory name bytes).get? path =
      ((holding directory name bytes).entries.find? fun entry => entry.1 = path).map Prod.snd := by
    rw [get?, if_neg (by simpa using hnil)]
  rw [isDirectory_iff, hget, Option.map_eq_some_iff]
  constructor
  · rintro ⟨⟨found, entry⟩, hfind, rfl⟩
    obtain rfl : found = path := by simpa using List.find?_some hfind
    rcases List.mem_append.1 (List.mem_of_find?_eq_some hfind) with hmem | hmem
    · obtain ⟨above, habove, heq⟩ := List.mem_map.1 hmem
      cases heq
      exact (List.mem_inits _ _).1 habove
    · cases List.mem_singleton.1 hmem
  · intro hcut
    have hmem : (path, DiskEntry.directory) ∈ directory.inits.map (·, DiskEntry.directory) :=
      List.mem_map_of_mem ((List.mem_inits _ _).2 hcut)
    cases hfind : (directory.inits.map (·, DiskEntry.directory)).find? fun entry => entry.1 = path with
    | none => exact absurd (List.find?_eq_none.1 hfind _ hmem) (by simp)
    | some x =>
        refine ⟨x, by rw [holding, List.find?_append, hfind, Option.some_or], ?_⟩
        obtain ⟨above, -, rfl⟩ := List.mem_map.1 (List.mem_of_find?_eq_some hfind)
        rfl

theorem isTree_holding (directory : List String) (name : String) (bytes : Bytes) :
    (holding directory name bytes).IsTree := by
  intro path hpath
  rw [isDirectory_holding] at hpath ⊢
  exact (List.dropLast_prefix path).trans hpath

end Disk

namespace FileStore

open Program (Leads leads_nil_iff leads_cons_iff leads_append_iff)

variable {s : FileStore} {d e : Disk} {bytes : Bytes} {call : StoreCall}
  {before rest made : List FileExchange}

/-- The bytes of the file, if it is there. -/
def bytesOn (s : FileStore) (d : Disk) : Option Bytes :=
  d.bytesAt (Disk.resolve s.path)

/-- A call stopped in a run of its own: it has made the exchanges before this, in a file system in
which any request may break down. -/
structure Stopped (s : FileStore) (call : StoreCall) (d : Disk) (trace : List FileExchange)
    (r : call.Reply) (before : List FileExchange) (e : Disk) : Prop where
  isTree : d.IsTree
  runs : Program.Runs (s.perform call) trace r
  isPrefix : before <+: trace
  leads : Leads Disk.frail d before e

/-- Wherever a call stops, the file holds what it held before or all of the new records; it holds
what it held before if the call fails and does not come to renaming the second file. -/
structure AllOrNothing (s : FileStore) : Prop where
  whole {call : StoreCall} {d e : Disk} {trace before : List FileExchange} {r : call.Reply}
    (h : s.Stopped call d trace r before e) :
    s.bytesOn e = s.bytesOn d ∨
      ∃ records, s.contents d = .ok records ∧ s.bytesOn e = some (encode (after call records))
  unchanged {call : StoreCall} {d e : Disk} {trace : List FileExchange} {err : StoreError}
    (h : s.Stopped call d trace (.error err) trace e)
    (hrename : ∀ reply, s.replacing reply ∉ trace) : s.bytesOn e = s.bytesOn d

/-- The directory of the file is there. -/
structure Ready (s : FileStore) (d : Disk) : Prop where
  isTree : d.IsTree
  isDirectory {dir : String} (h : FilePath.parent? s.path = some dir) :
    d.isDirectory (Disk.resolve dir) = true

/-- Where the directory of the file is there, the second file is another file, or cannot be
written. -/
def DraftsAside (s : FileStore) : Prop :=
  ∀ d, s.Ready d → Disk.resolve s.draftPath = Disk.resolve s.path →
    d.isDirectory (Disk.resolve s.draftPath) = true

theorem Preparing.bytesOn_eq {r : Except FileError Unit} (h : s.Preparing made r)
    (hcut : before <+: made) (hleads : Leads Disk.frail d before e) :
    s.bytesOn e = s.bytesOn d := by
  cases h with
  | needless hnone =>
      rw [List.prefix_nil.1 hcut, leads_nil_iff] at hleads
      rw [hleads]
  | making hdir r =>
      rcases List.prefix_cons_iff.1 hcut with rfl | ⟨more, rfl, hmore⟩
      · rw [leads_nil_iff.1 hleads]
      · rw [List.prefix_nil.1 hmore] at hleads
        obtain ⟨next, hstep, hnext⟩ := leads_cons_iff.1 hleads
        rw [leads_nil_iff.1 hnext]
        obtain ⟨⟨n, hmade⟩, -⟩ := Disk.of_frail_makeDirectories hstep
        exact Disk.bytesAt_of_makePrefix hmade

theorem Preparing.ready (h : s.Preparing made (.ok ())) (htree : d.IsTree)
    (hleads : Leads Disk.frail d made e) : s.Ready e := by
  cases h with
  | needless hnone =>
      rw [leads_nil_iff.1 hleads]
      exact ⟨htree, fun hdir => by rw [hnone] at hdir; cases hdir⟩
  | making hdir _ =>
      obtain ⟨next, hstep, hnext⟩ := leads_cons_iff.1 hleads
      rw [leads_nil_iff.1 hnext]
      have hmade := (Disk.of_frail_makeDirectories hstep).2 rfl
      refine ⟨Disk.isTree_of_makePrefix htree hmade, fun hother => ?_⟩
      obtain rfl := Option.some.inj (hdir.symm.trans hother)
      exact Disk.isDirectory_of_makeDirectories hmade

/-- The file is not touched while the second file is written, whether that succeeds or not. -/
theorem Preparing.bytesOn_drafted {r : Except FileError Unit} (haside : s.DraftsAside)
    (htree : d.IsTree) (h : s.Preparing made (.ok ()))
    (hcut : before <+: made ++ [s.drafting bytes r]) (hleads : Leads Disk.frail d before e) :
    s.bytesOn e = s.bytesOn d := by
  rcases List.prefix_concat_iff.1 hcut with rfl | hcut
  · obtain ⟨prepared, hmade, hlast⟩ := leads_append_iff.1 hleads
    obtain ⟨next, hstep, hnext⟩ := leads_cons_iff.1 hlast
    rw [leads_nil_iff.1 hnext, ← h.bytesOn_eq List.prefix_rfl hmade]
    rcases (Disk.of_frail_write hstep).1 with rfl | ⟨n, hwritten⟩
    · rfl
    · refine Disk.bytesAt_of_write hwritten fun heq => ?_
      have hdirectory := haside prepared (h.ready htree hmade) heq
      rw [(Disk.exists_of_write hwritten).1] at hdirectory
      cases hdirectory
  · exact h.bytesOn_eq hcut hleads

/-- Once the second file is written as a whole, the file is left alone or replaced by it. -/
theorem bytesOn_of_replacing {r : Except FileError Unit}
    (hdraft : d.get? (Disk.resolve s.draftPath) = some (.file bytes))
    (h : Disk.frail (Request.rename s.draftPath s.path) d r e) :
    s.bytesOn e = s.bytesOn d ∨ s.bytesOn e = some bytes := by
  rcases (Disk.of_frail_rename h).1 with rfl | hrename
  · exact .inl rfl
  · exact .inr (Disk.bytesAt_eq_some_iff.2 (Disk.get?_of_rename hrename hdraft))

/-- While the file is overwritten it holds what it held before, until the second file is renamed. -/
theorem Writing.whole {trace : List FileExchange} {r : Except StoreError Unit}
    (haside : s.DraftsAside) (htree : d.IsTree) (h : s.Writing bytes trace r)
    (hcut : before <+: trace) (hleads : Leads Disk.frail d before e) :
    s.bytesOn e = s.bytesOn d ∨ (∃ reply, s.replacing reply ∈ before) ∧ s.bytesOn e = some bytes := by
  cases h with
  | unprepared hmade => exact .inl (hmade.bytesOn_eq hcut hleads)
  | undrafted hmade err => exact .inl (hmade.bytesOn_drafted haside htree hcut hleads)
  | drafted hmade reply =>
      rcases List.prefix_concat_iff.1 hcut with rfl | hcut
      · obtain ⟨drafted, hfirst, hlast⟩ := leads_append_iff.1 hleads
        have hkept := hmade.bytesOn_drafted haside htree List.prefix_rfl hfirst
        obtain ⟨prepared, -, hdraft⟩ := leads_append_iff.1 hfirst
        obtain ⟨written, hwrite, hwritten⟩ := leads_cons_iff.1 hdraft
        rw [leads_nil_iff.1 hwritten] at hkept hlast
        obtain ⟨next, hstep, hnext⟩ := leads_cons_iff.1 hlast
        rw [leads_nil_iff.1 hnext, ← hkept]
        have hfile := Disk.get?_of_write ((Disk.of_frail_write hwrite).2 rfl)
        rcases bytesOn_of_replacing hfile hstep with hleft | hreplaced
        · exact .inl hleft
        · exact .inr ⟨⟨reply, by simp⟩, hreplaced⟩
      · exact .inl (hmade.bytesOn_drafted haside htree hcut hleads)

/-- What the store has read, the file holds. -/
theorem contents_of_reading {reply : Except FileError Bytes} {records : List ImageUpdate}
    (h : Disk.frail (Request.read s.path) d reply e) (hread : understood reply = .ok records) :
    s.contents d = .ok records := by
  obtain ⟨-, rfl | ⟨err, rfl, herr⟩⟩ := Disk.of_frail_read h
  · rw [contents_eq_understood, hread]
  · cases err <;> first | exact absurd rfl herr | cases hread

/-- Reading the file does not change it. -/
theorem leads_of_reading {reply : Except FileError Bytes} {t : List FileExchange}
    (hcut : before <+: s.reading reply :: t) (hleads : Leads Disk.frail d before e) :
    before = [] ∧ e = d ∨ ∃ more, before = s.reading reply :: more ∧ more <+: t ∧
      Disk.frail (Request.read s.path) d reply d ∧ Leads Disk.frail d more e := by
  rcases List.prefix_cons_iff.1 hcut with rfl | ⟨more, rfl, hmore⟩
  · exact .inl ⟨rfl, leads_nil_iff.1 hleads⟩
  · obtain ⟨next, hstep, hrest⟩ := leads_cons_iff.1 hleads
    obtain rfl : next = d := (Disk.of_frail_read hstep).1
    exact .inr ⟨more, rfl, hmore, hstep, hrest⟩

/-- A call that stops has not touched the file, or has put all of the new records in its place. -/
theorem Stopped.whole {trace : List FileExchange} {r : call.Reply} (haside : s.DraftsAside)
    (h : s.Stopped call d trace r before e) :
    s.bytesOn e = s.bytesOn d ∨ (∃ reply, s.replacing reply ∈ before) ∧
      ∃ records, s.contents d = .ok records ∧ s.bytesOn e = some (encode (after call records)) := by
  obtain ⟨htree, hruns, hcut, hleads⟩ := h
  have hread {reply : Except FileError Bytes} (hcut : before <+: [s.reading reply]) : e = d := by
    rcases leads_of_reading hcut hleads with ⟨-, rfl⟩ | ⟨more, rfl, hmore, -, hrest⟩
    · rfl
    · rw [List.prefix_nil.1 hmore] at hrest
      exact leads_nil_iff.1 hrest
  cases runs_perform_iff.1 hruns with
  | unread => exact .inl (congrArg s.bytesOn (hread hcut))
  | read hunderstood hproceed =>
      cases hproceed with
      | unchanged => exact .inl (congrArg s.bytesOn (hread hcut))
      | changed _ hwriting =>
          rcases leads_of_reading hcut hleads with ⟨-, rfl⟩ | ⟨more, rfl, hmore, hstep, hrest⟩
          · exact .inl rfl
          · have hrecords := contents_of_reading hstep hunderstood
            refine (hwriting.whole haside htree hmore hrest).imp_right ?_
            rintro ⟨⟨reply, hreply⟩, hbytes⟩
            exact ⟨⟨reply, List.mem_cons_of_mem _ hreply⟩, _, hrecords, hbytes⟩

/-- Where the path of the second file leads to another file, changes are all or nothing. -/
theorem allOrNothing_of_draftsAside (haside : s.DraftsAside) : s.AllOrNothing where
  whole h := (h.whole haside).imp id And.right
  unchanged h hrename := (h.whole haside).resolve_right fun ⟨⟨reply, hreply⟩, _⟩ => hrename reply hreply

/-- The paths of files that are called like second files already. -/
def NamedLikeDraft (path : String) : Prop :=
  ∃ st, st ≠ "" ∧ FilePath.fileName? path = some (st ++ "." ++ "tmp")

theorem resolve_draftPath {name : String} (hname : FilePath.fileName? s.path = some name) :
    Disk.resolve s.draftPath = Disk.resolveParts (FilePath.parts s.path).dropLast ++
      [FilePath.stem name ++ "." ++ "tmp"] := by
  rw [Disk.resolve_eq, draftPath, FilePath.parts_withExtension hname (by decide) (by decide),
    Disk.resolveParts_concat]
  intro hdots
  have hlast := congrArg (fun t : String => t.toList.getLast?) hdots
  simp at hlast

theorem resolve_path {name : String} (hname : FilePath.fileName? s.path = some name) :
    Disk.resolve s.path = Disk.resolveParts (FilePath.parts s.path).dropLast ++ [name] := by
  obtain ⟨hparts, hne⟩ := FilePath.parts_of_fileName? hname
  rw [Disk.resolve_eq, hparts, Disk.resolveParts_concat _ hne, ← hparts]

/-- The second file is the file itself for the paths that are called like second files. -/
theorem resolve_draftPath_eq_iff {name : String} (hname : FilePath.fileName? s.path = some name) :
    Disk.resolve s.draftPath = Disk.resolve s.path ↔ NamedLikeDraft s.path := by
  have hne := (FilePath.isPart_of_fileName? hname).ne_empty
  rw [resolve_draftPath hname, resolve_path hname, List.append_cancel_left_eq, List.cons.injEq,
    and_iff_left rfl, FilePath.stem_append_eq_iff hne (by decide), NamedLikeDraft, hname]
  simp

theorem draftsAside_of_not_namedLikeDraft (h : ¬ NamedLikeDraft s.path) : s.DraftsAside := by
  intro d hready heq
  cases hname : FilePath.fileName? s.path with
  | some name => exact absurd ((resolve_draftPath_eq_iff hname).1 heq) h
  | none =>
      rw [heq, Disk.resolve_eq]
      rcases FilePath.parts_of_fileName?_eq_none hname with hnil | ⟨above, habove⟩
      · rw [hnil]
        exact d.isDirectory_nil
      · cases hparent : FilePath.parent? s.path with
        | none =>
            rw [FilePath.parts_of_parent?_eq_none hparent] at habove
            simp at habove
        | some dir =>
            have hdir := hready.isDirectory hparent
            rw [Disk.resolve_eq, FilePath.parts_of_parent? hparent, habove,
              List.dropLast_concat] at hdir
            rw [habove, Disk.resolveParts_concat_dots]
            exact hready.isTree _ hdir

/-- The steps of saving a record in a file without records, when no space is left for the second
file. -/
def tornSteps (s : FileStore) (dir : String) (u : ImageUpdate) : List FileExchange :=
  s.reading (.ok (encode [])) ::
    ([making dir (.ok ())] ++ [s.drafting (encode [u]) (.error (.other "no space left"))])

theorem leads_making {dir : String} (h : d.isDirectory (Disk.resolve dir) = true) :
    Disk.frail (Request.makeDirectories dir) d (.ok ()) d := by
  refine .inl ?_
  simp only [Disk.handle, Disk.makeDirectories_eq_self h]

/-- When the second file is the file itself, the file can be left empty. -/
theorem stopped_tornSteps {dir : String} (htree : d.IsTree)
    (hparent : FilePath.parent? s.path = some dir)
    (hdir : d.isDirectory (Disk.resolve dir) = true)
    (hfile : d.get? (Disk.resolve s.path) = some (.file (encode [])))
    (hdraft : Disk.resolve s.draftPath = Disk.resolve s.path) (u : ImageUpdate) :
    s.Stopped (.save u) d (s.tornSteps dir u) (.error (.file "no space left")) (s.tornSteps dir u)
      (d.put (Disk.resolve s.path) (.file [])) where
  isTree := htree
  runs := by
    have hread : understood (.ok (encode [])) = .ok [] := by simp only [understood, decode?_encode]
    exact runs_perform_iff.2
      (.read hread (.changed rfl (.undrafted (.making hparent _) (.other "no space left"))))
  isPrefix := List.prefix_rfl
  leads := by
    have hreading : Disk.frail (Request.read s.path) d (.ok (encode [])) d := by
      refine .inl ?_
      simp only [Disk.handle, Disk.read, hfile]
    have hdrafting : Disk.frail (Request.write s.draftPath (encode [u])) d
        (.error (.other "no space left")) (d.put (Disk.resolve s.path) (.file [])) := by
      refine .inr (.inr ⟨0, ?_⟩)
      simp only [hdraft, List.take_zero, Disk.write, hfile]
    exact .cons hreading (.cons (leads_making hdir) (.cons hdrafting (.nil _)))

/-- Where the second file is the file itself, its records can be lost. -/
theorem not_allOrNothing (h : NamedLikeDraft s.path) : ¬ s.AllOrNothing := by
  obtain ⟨st, hst, hname⟩ := h
  obtain ⟨hparts, -⟩ := FilePath.parts_of_fileName? hname
  obtain ⟨dir, hparent⟩ : ∃ dir, FilePath.parent? s.path = some dir := by
    refine Option.ne_none_iff_exists'.1 fun hnone => ?_
    rw [FilePath.parts_of_parent?_eq_none hnone] at hparts
    simp at hparts
  have hdraft := (resolve_draftPath_eq_iff hname).2 ⟨st, hst, hname⟩
  have hplace : Disk.resolve s.path = Disk.resolve dir ++ [st ++ "." ++ "tmp"] := by
    rw [resolve_path hname, Disk.resolve_eq dir, FilePath.parts_of_parent? hparent]
  let u : ImageUpdate := ⟨"local", "sha256:old", "sha256:new", .epoch⟩
  let d := Disk.holding (Disk.resolve dir) (st ++ "." ++ "tmp") (encode [])
  have hfile : d.get? (Disk.resolve s.path) = some (.file (encode [])) := by
    rw [hplace]
    exact Disk.get?_holding _ _ _
  have htorn : s.bytesOn (d.put (Disk.resolve s.path) (.file [])) = some [] :=
    Disk.bytesAt_eq_some_iff.2 (Disk.get?_put (by simp [hplace]))
  have hstopped := stopped_tornSteps (Disk.isTree_holding _ _ _) hparent
    (Disk.isDirectory_holding.2 List.prefix_rfl) hfile hdraft u
  intro hwhole
  rcases hwhole.whole hstopped with hsame | ⟨records, -, hnew⟩
  · rw [htorn, bytesOn, Disk.bytesAt_eq_some_iff.2 hfile] at hsame
    exact encode_ne_nil [] (Option.some.inj hsame).symm
  · rw [htorn] at hnew
    exact encode_ne_nil _ (Option.some.inj hnew).symm

/-- A store whose file is called like a second file. -/
theorem not_allOrNothing_updatesTmp : ¬ AllOrNothing ⟨"updates.tmp"⟩ :=
  not_allOrNothing ⟨"updates", by decide, by decide⟩

/-- Changes to the store are all or nothing exactly when its file is not called like a second file. -/
theorem allOrNothing_iff (s : FileStore) : s.AllOrNothing ↔ ¬ NamedLikeDraft s.path := by
  constructor
  · intro h hdraft
    exact not_allOrNothing hdraft h
  · intro h
    exact allOrNothing_of_draftsAside (draftsAside_of_not_namedLikeDraft h)

end FileStore

end ContainerFleet
