import ContainerFleet.Files

/-!
What the changes to a disk leave behind. Main statements: that a text which was encoded reads back
(`textOf?_bytesOf`), that a file can be read once it was put somewhere, and that the contents of files
never decide whether a change succeeds: `write_outline`, `makeDirectories_outline` and
`rename_outline`.
-/

namespace ContainerFleet

open Files

namespace Files

theorem toList_loop (b : ByteArray) (i : Nat) (r : List UInt8) :
    ByteArray.toList.loop b i r = r.reverse ++ b.data.toList.drop i := by
  fun_induction ByteArray.toList.loop b i r with
  | case1 i r hi ih =>
      have hsize : i < b.data.toList.length := hi
      have hbyte : b.get! i = b.data.toList[i] := by
        rw [Array.getElem_toList]
        exact getElem!_pos b.data i hi
      rw [ih, List.drop_eq_getElem_cons hsize, hbyte]
      simp
  | case2 i r hi =>
      have hsize : b.data.toList.length ≤ i := Nat.le_of_not_lt hi
      rw [List.drop_of_length_le hsize, List.append_nil]

/-- A text that is encoded reads back. -/
theorem textOf?_bytesOf (s : List Char) : textOf? (bytesOf s) = some s := by
  have hbytes : (⟨(String.ofList s).toUTF8.toList.toArray⟩ : ByteArray) =
      (String.ofList s).toByteArray := by
    rw [ByteArray.toList, toList_loop]
    rfl
  rw [textOf?, bytesOf, hbytes, String.fromUTF8?, dif_pos (String.isValidUTF8 _)]
  exact congrArg some String.toList_ofList

end Files

/-- What stands at a path, without the contents of a file. -/
def DiskEntry.outline : DiskEntry → DiskEntry
  | .file _ => .file []
  | .directory => .directory

namespace Disk

variable {d e : Disk} {path source target : List String} {bytes : Bytes} {entry : DiskEntry}

/-- What comes out of a program on a disk. -/
def run {α : Type} (p : FileProgram α) (d : Disk) : α × Disk :=
  Program.run (I := fileInterface) handle p d

theorem run_bind {α β : Type} (p : FileProgram α) (f : α → FileProgram β) (d : Disk) :
    run (p >>= f) d = run (f (run p d).1) (run p d).2 :=
  Program.run_bind (I := fileInterface) handle p f d

/-- The disk with all files empty. -/
def outline (d : Disk) : Disk :=
  ⟨d.entries.map fun x => (x.1, x.2.outline)⟩

theorem get?_put (hpath : path ≠ []) : (d.put path entry).get? path = some entry := by
  have hnone : (d.entries.filter (fun e => e.1 ≠ path)).find? (fun e => e.1 = path) = none := by
    simp
  simp only [get?, put, List.isEmpty_iff, hpath, List.find?_append, hnone]
  simp

theorem ne_nil_of_get?_ne (h : d.get? path ≠ some .directory) : path ≠ [] := by
  rintro rfl
  exact h rfl

/-- What was written can be read. -/
theorem get?_of_write (h : d.write path bytes = .ok e) : e.get? path = some (.file bytes) := by
  unfold write at h
  split at h
  · cases h
  · next hfile =>
      cases h
      exact get?_put (ne_nil_of_get?_ne (d := d) (by simp [hfile]))
  · next hnone =>
      split at h
      · cases h
      · cases h
        exact get?_put (ne_nil_of_get?_ne (d := d) (by simp [hnone]))

/-- A file that is renamed can be read in its new place. -/
theorem get?_of_rename (h : d.rename source target = .ok e)
    (hsource : d.get? source = some (.file bytes)) : e.get? target = some (.file bytes) := by
  unfold rename at h
  rw [hsource] at h
  split at h
  · cases h
  · next heq htarget =>
      cases h
      cases heq
      exact get?_put (ne_nil_of_get?_ne (d := d) (by simp [htarget]))
  · next heq htarget =>
      cases heq
      split at h
      · cases h
      · cases h
        exact get?_put (ne_nil_of_get?_ne (d := d) (by simp [htarget]))
  · next heq => cases heq
  · next heq => cases heq

theorem outline_put (d : Disk) (path : List String) (entry : DiskEntry) :
    (d.put path entry).outline = d.outline.put path entry.outline := by
  simp [outline, put, List.filter_map, Function.comp_def]

theorem outline_erase : (d.erase path).outline = d.outline.erase path := by
  simp [outline, erase, List.filter_map, Function.comp_def]

theorem get?_outline (d : Disk) (path : List String) :
    d.outline.get? path = (d.get? path).map DiskEntry.outline := by
  unfold get?
  split
  · rfl
  · simp [outline, List.find?_map, Function.comp_def]

theorem isDirectory_outline (d : Disk) (path : List String) :
    d.outline.isDirectory path = d.isDirectory path := by
  rw [isDirectory, isDirectory, get?_outline]
  rcases d.get? path with _ | _ | _ <;> rfl

theorem parentError?_outline (d : Disk) (path : List String) :
    d.outline.parentError? path = d.parentError? path := by
  have hdirectory : d.outline.isDirectory = d.isDirectory := funext (isDirectory_outline d)
  simp only [parentError?, hdirectory]
  congr 3
  funext p
  rw [get?_outline]
  rcases d.get? p with _ | _ | _ <;> rfl

theorem write_outline (d : Disk) (path : List String) (bytes : Bytes) :
    d.outline.write path [] = (d.write path bytes).map outline := by
  unfold write
  rw [get?_outline, parentError?_outline]
  rcases d.get? path with _ | _ | _
  · rcases d.parentError? path with _ | e
    · exact congrArg Except.ok (outline_put d path (.file bytes)).symm
    · rfl
  · exact congrArg Except.ok (outline_put d path (.file bytes)).symm
  · rfl

theorem makeDirectory_outline (d : Disk) (path : List String) :
    d.outline.makeDirectory path = (d.makeDirectory path).map outline := by
  unfold makeDirectory
  rw [get?_outline, parentError?_outline]
  rcases d.get? path with _ | entry
  · rcases d.parentError? path with _ | e
    · exact congrArg Except.ok (outline_put d path .directory).symm
    · rfl
  · rfl

/-- The disk with a directory, made unless it is there. -/
def ensureDirectory (d : Disk) (path : List String) : Except FileError Disk :=
  match d.makeDirectory path with
  | .ok d => .ok d
  | .error e => if d.isDirectory path then .ok d else .error e

theorem ensureDirectory_outline (d : Disk) (path : List String) :
    d.outline.ensureDirectory path = (d.ensureDirectory path).map outline := by
  unfold ensureDirectory
  rw [makeDirectory_outline, isDirectory_outline]
  cases d.makeDirectory path with
  | ok made => rfl
  | error e => cases d.isDirectory path <;> rfl

theorem makePrefix_succ (d : Disk) (path : List String) (n : Nat) :
    d.makePrefix path (n + 1) =
      match d.ensureDirectory (path.take (n + 1)) with
      | .error .notFound =>
        match d.makePrefix path n with
        | .ok d => d.ensureDirectory (path.take (n + 1))
        | .error e => .error e
      | made => made :=
  rfl

theorem makePrefix_outline (d : Disk) (path : List String) (n : Nat) :
    d.outline.makePrefix path n = (d.makePrefix path n).map outline := by
  induction n generalizing d with
  | zero => rfl
  | succ n ih =>
      rw [makePrefix_succ, makePrefix_succ, ensureDirectory_outline, ih]
      rcases d.ensureDirectory (path.take (n + 1)) with e | made
      · cases e with
        | notFound =>
            rcases d.makePrefix path n with e | above
            · rfl
            · exact ensureDirectory_outline above _
        | _ => rfl
      · rfl

theorem makeDirectories_outline (d : Disk) (path : List String) :
    d.outline.makeDirectories path = (d.makeDirectories path).map outline :=
  makePrefix_outline d path path.length

theorem rename_outline (d : Disk) (source target : List String) :
    d.outline.rename source target = (d.rename source target).map outline := by
  have hplaced (bytes : Bytes) : ((d.outline.erase source).put target (.file [])) =
      ((d.erase source).put target (.file bytes)).outline := by
    rw [outline_put, outline_erase]
    rfl
  unfold rename
  rw [get?_outline, get?_outline, parentError?_outline, parentError?_outline]
  rcases d.get? source with _ | bytes | _
  · rfl
  · rcases d.get? target with _ | old | _
    · rcases d.parentError? target with _ | e
      · exact congrArg Except.ok (hplaced bytes)
      · rfl
    · exact congrArg Except.ok (hplaced bytes)
    · rfl
  · rcases d.get? target with _ | old | _ <;> rfl

section Elsewhere

variable {other : List String}

theorem get?_erase_of_ne (h : path ≠ other) : (d.erase path).get? other = d.get? other := by
  have hsame :
      (fun x : List String × DiskEntry => decide (decide (x.1 ≠ path) ∧ decide (x.1 = other))) =
        fun x => decide (x.1 = other) := by
    funext x
    by_cases hx : x.1 = other <;> simp [hx, h.symm]
  simp only [get?, erase, List.find?_filter, hsame]

theorem get?_put_of_ne (h : path ≠ other) : (d.put path entry).get? other = d.get? other := by
  have hnone : [(path, entry)].find? (fun x => x.1 = other) = none := by simp [h]
  rw [← get?_erase_of_ne (d := d) h]
  simp only [get?, put, erase, List.find?_append, hnone, Option.or_none]

/-- The bytes of the file that stands at a path, if one does. -/
def bytesAt (d : Disk) (path : List String) : Option Bytes :=
  match d.get? path with
  | some (.file bytes) => some bytes
  | _ => none

theorem bytesAt_eq_of_get?_eq (h : d.get? path = e.get? path) : d.bytesAt path = e.bytesAt path := by
  rw [bytesAt, bytesAt, h]

theorem bytesAt_eq_some_iff : d.bytesAt path = some bytes ↔ d.get? path = some (.file bytes) := by
  unfold bytesAt
  split <;> simp_all

end Elsewhere

section Changes

variable {other : List String} {n : Nat}

/-- Each directory stands in a directory. -/
def IsTree (d : Disk) : Prop :=
  ∀ path, d.isDirectory path → d.isDirectory path.dropLast

theorem isDirectory_iff : d.isDirectory path = true ↔ d.get? path = some .directory := by
  simp [isDirectory]

theorem isDirectory_nil (d : Disk) : d.isDirectory [] = true :=
  rfl

theorem ne_nil_of_get?_eq_none (h : d.get? path = none) : path ≠ [] :=
  ne_nil_of_get?_ne (d := d) (by simp [h])

/-- Where something can stand, there is a directory. -/
theorem isDirectory_dropLast_of_parentError? (h : d.parentError? path = none) (hpath : path ≠ []) :
    d.isDirectory path.dropLast = true := by
  simp only [parentError?] at h
  split at h
  · cases h
  · split at h
    · next hall =>
        rw [List.all_eq_true] at hall
        apply hall
        have hlength := List.length_pos_iff.2 hpath
        exact List.mem_map.2 ⟨path.length - 1, List.mem_range.2 (by omega),
          List.dropLast_eq_take.symm⟩
    · cases h

/-- What `makeDirectory` does when it succeeds. -/
theorem exists_of_makeDirectory (h : d.makeDirectory path = .ok e) :
    d.get? path = none ∧ d.parentError? path = none ∧ e = d.put path .directory := by
  unfold makeDirectory at h
  split at h
  · cases h
  · next hnone =>
      split at h
      · cases h
      · next hparent => exact ⟨hnone, hparent, (Except.ok.inj h).symm⟩

/-- What `write` does when it succeeds. -/
theorem exists_of_write (h : d.write path bytes = .ok e) :
    d.isDirectory path = false ∧ e = d.put path (.file bytes) := by
  unfold write at h
  split at h
  · cases h
  · next hfile => exact ⟨by simp [isDirectory, hfile], (Except.ok.inj h).symm⟩
  · next hnone =>
      split at h
      · cases h
      · exact ⟨by simp [isDirectory, hnone], (Except.ok.inj h).symm⟩

theorem bytesAt_of_write (h : d.write path bytes = .ok e) (hne : path ≠ other) :
    e.bytesAt other = d.bytesAt other := by
  rw [(exists_of_write h).2]
  exact bytesAt_eq_of_get?_eq (get?_put_of_ne hne)

theorem bytesAt_of_makeDirectory (h : d.makeDirectory path = .ok e) :
    e.bytesAt other = d.bytesAt other := by
  obtain ⟨hnone, -, rfl⟩ := exists_of_makeDirectory h
  by_cases hother : path = other
  · subst hother
    simp only [bytesAt, hnone, get?_put (ne_nil_of_get?_eq_none hnone)]
  · exact bytesAt_eq_of_get?_eq (get?_put_of_ne hother)

theorem isTree_of_makeDirectory (hd : d.IsTree) (h : d.makeDirectory path = .ok e) : e.IsTree := by
  obtain ⟨hnone, hparent, rfl⟩ := exists_of_makeDirectory h
  have hpath := ne_nil_of_get?_eq_none hnone
  have hkept {q : List String} (hq : d.isDirectory q = true) :
      (d.put path .directory).isDirectory q = true := by
    rw [isDirectory_iff] at hq ⊢
    rwa [get?_put_of_ne]
    rintro rfl
    simp [hnone] at hq
  intro q hq
  by_cases hpq : path = q
  · subst hpq
    exact hkept (isDirectory_dropLast_of_parentError? hparent hpath)
  · rw [isDirectory_iff, get?_put_of_ne hpq, ← isDirectory_iff] at hq
    exact hkept (hd q hq)

theorem ensureDirectory_cases (h : d.ensureDirectory path = .ok e) :
    d.makeDirectory path = .ok e ∨ e = d ∧ d.isDirectory path = true := by
  unfold ensureDirectory at h
  split at h
  · next hmade => exact .inl (hmade.trans h)
  · split at h
    · next hthere => exact .inr ⟨(Except.ok.inj h).symm, hthere⟩
    · cases h

/-- What holds when a directory is made holds when several are. By induction on the number of
parts: the directories above are made before the last one is. -/
theorem makePrefix_preserves {P : Disk → Prop}
    (hstep : ∀ {d e : Disk} {m : Nat}, m ≤ n → P d → d.makeDirectory (path.take m) = .ok e → P e)
    (hd : P d) (h : d.makePrefix path n = .ok e) : P e := by
  induction n generalizing d e with
  | zero =>
      cases h
      exact hd
  | succ n ih =>
      have hensure {d : Disk} (hd : P d) (h : d.ensureDirectory (path.take (n + 1)) = .ok e) :
          P e := by
        rcases ensureDirectory_cases h with h | ⟨rfl, -⟩
        · exact hstep (Nat.le_refl _) hd h
        · exact hd
      rw [makePrefix_succ] at h
      split at h
      · split at h
        · next above habove =>
            exact hensure (ih (fun hm => hstep (Nat.le_succ_of_le hm)) hd habove) h
        · cases h
      · exact hensure hd h

theorem bytesAt_of_makePrefix (h : d.makePrefix path n = .ok e) : e.bytesAt other = d.bytesAt other :=
  makePrefix_preserves (P := fun next => next.bytesAt other = d.bytesAt other)
    (fun _ hnext hmade => (bytesAt_of_makeDirectory hmade).trans hnext) rfl h

theorem isTree_of_makePrefix (hd : d.IsTree) (h : d.makePrefix path n = .ok e) : e.IsTree :=
  makePrefix_preserves (P := IsTree) (fun _ => isTree_of_makeDirectory) hd h

/-- Paths that are longer than those made are left as they are. -/
theorem get?_of_makePrefix (h : d.makePrefix path n = .ok e) (hother : n < other.length) :
    e.get? other = d.get? other := by
  refine makePrefix_preserves (P := fun next => next.get? other = d.get? other) ?_ rfl h
  intro next made m hm hnext hmade
  obtain ⟨-, -, rfl⟩ := exists_of_makeDirectory hmade
  rw [get?_put_of_ne, hnext]
  rintro rfl
  rw [List.length_take] at hother
  omega

theorem isDirectory_of_makePrefix (h : d.makePrefix path n = .ok e) :
    e.isDirectory (path.take n) = true := by
  have hensure {d : Disk} {q : List String} (h : d.ensureDirectory q = .ok e) :
      e.isDirectory q = true := by
    rcases ensureDirectory_cases h with h | ⟨rfl, hthere⟩
    · obtain ⟨hnone, -, rfl⟩ := exists_of_makeDirectory h
      rw [isDirectory_iff, get?_put (ne_nil_of_get?_eq_none hnone)]
    · exact hthere
  cases n with
  | zero => exact isDirectory_nil e
  | succ n =>
      rw [makePrefix_succ] at h
      split at h
      · split at h
        · exact hensure h
        · cases h
      · exact hensure h

theorem isDirectory_of_makeDirectories (h : d.makeDirectories path = .ok e) :
    e.isDirectory path = true := by
  simpa using isDirectory_of_makePrefix h

/-- Nothing has to be made where a directory is. -/
theorem makeDirectories_eq_self (h : d.isDirectory path = true) : d.makeDirectories path = .ok d := by
  cases hlength : path.length with
  | zero => rw [makeDirectories, hlength, makePrefix]
  | succ n =>
      have htake : path.take (n + 1) = path := List.take_of_length_le (Nat.le_of_eq hlength)
      have hget := isDirectory_iff.1 h
      have hensure : d.ensureDirectory path = .ok d := by
        simp [ensureDirectory, makeDirectory, hget, h]
      rw [makeDirectories, hlength, makePrefix_succ, htake, hensure]

end Changes

end Disk

end ContainerFleet
