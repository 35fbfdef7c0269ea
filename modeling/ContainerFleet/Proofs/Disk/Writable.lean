import ContainerFleet.Proofs.Disk
import ContainerFleet.Proofs.FilePath
import Mathlib.Data.List.Induction

/-!
Where a file can be written, once the directory above it has been made. Main statements:
`exists_makeDirectories`, that directories can be made where no file is in the way, and
`exists_write`, that a file can be written into a directory.
-/

namespace ContainerFleet.Disk

open Files

variable {d e : Disk} {path : List String} {bytes : Bytes} {n : Nat}

/-- In a tree every path above a directory leads to a directory. -/
theorem isDirectory_take (hd : d.IsTree) (h : d.isDirectory path = true) (n : Nat) :
    d.isDirectory (path.take n) = true := by
  induction path using List.reverseRecOn with
  | nil => rw [List.take_nil, isDirectory_nil]
  | append_singleton above part ih =>
      by_cases hn : n ≤ above.length
      · have habove := hd _ h
        rw [List.dropLast_concat] at habove
        rw [List.take_append_of_le_length hn]
        exact ih habove
      · rwa [List.take_of_length_le (by rw [List.length_append, List.length_singleton]; omega)]

theorem bytesAt_eq_none_iff :
    d.bytesAt path = none ↔ ∀ bytes, d.get? path ≠ some (.file bytes) := by
  unfold bytesAt
  split <;> simp_all

theorem bytesAt_eq_none_of_isDirectory (h : d.isDirectory path = true) : d.bytesAt path = none := by
  rw [bytesAt, isDirectory_iff.1 h]

/-- Without a file in the way, what can be missing is a directory above. -/
theorem parentError?_of_bytesAt_eq_none (h : ∀ m < path.length, d.bytesAt (path.take m) = none) :
    d.parentError? path =
      if ((List.range path.length).map path.take).all d.isDirectory then none
      else some .notFound := by
  unfold parentError?
  dsimp only
  rw [if_neg]
  intro hany
  obtain ⟨p, hp, hfile⟩ := List.any_eq_true.1 hany
  obtain ⟨m, hm, rfl⟩ := List.mem_map.1 hp
  have hnone := bytesAt_eq_none_iff.1 (h m (List.mem_range.1 hm))
  split at hfile
  · next bytes hget => exact hnone bytes hget
  · cases hfile

theorem parentError?_eq_none (h : ∀ m < path.length, d.isDirectory (path.take m) = true) :
    d.parentError? path = none := by
  rw [parentError?_of_bytesAt_eq_none fun m hm => bytesAt_eq_none_of_isDirectory (h m hm), if_pos]
  rw [List.all_eq_true]
  intro p hp
  obtain ⟨m, hm, rfl⟩ := List.mem_map.1 hp
  exact h m (List.mem_range.1 hm)

/-- `ensureDirectory` fails at most for want of a directory above. -/
theorem ensureDirectory_of_bytesAt_eq_none (h : ∀ m ≤ path.length, d.bytesAt (path.take m) = none) :
    (∃ e, d.ensureDirectory path = .ok e) ∨ d.ensureDirectory path = .error .notFound := by
  have hself : d.bytesAt path = none := by simpa using h path.length (Nat.le_refl _)
  have hparent : d.parentError? path = _ :=
    parentError?_of_bytesAt_eq_none fun m hm => h m (Nat.le_of_lt hm)
  unfold ensureDirectory makeDirectory
  cases hget : d.get? path with
  | some entry =>
      cases entry with
      | file bytes => exact absurd hget (bytesAt_eq_none_iff.1 hself bytes)
      | directory => exact .inl ⟨d, by simp [isDirectory, hget]⟩
  | none =>
      rw [hparent]
      by_cases hall : ((List.range path.length).map path.take).all d.isDirectory = true
      · rw [if_pos hall]
        exact .inl ⟨_, rfl⟩
      · rw [if_neg hall]
        exact .inr (by simp [isDirectory, hget])

theorem exists_ensureDirectory (habove : ∀ m < path.length, d.isDirectory (path.take m) = true)
    (h : d.bytesAt path = none) : ∃ e, d.ensureDirectory path = .ok e := by
  unfold ensureDirectory makeDirectory
  cases hget : d.get? path with
  | some entry =>
      cases entry with
      | file bytes => exact absurd hget (bytesAt_eq_none_iff.1 h bytes)
      | directory => exact ⟨d, by simp [isDirectory, hget]⟩
  | none => exact ⟨d.put path .directory, by simp [parentError?_eq_none habove]⟩

/-- By induction on the number of parts: what is missing above is made first, and no file comes into
the way by that. -/
theorem exists_makePrefix (hd : d.IsTree) (hn : n ≤ path.length)
    (h : ∀ m ≤ n, d.bytesAt (path.take m) = none) : ∃ e, d.makePrefix path n = .ok e := by
  induction n with
  | zero => exact ⟨d, rfl⟩
  | succ n ih =>
      have hlength : (path.take (n + 1)).length = n + 1 := by rw [List.length_take]; omega
      rw [makePrefix_succ]
      have hclear (m : Nat) (hm : m ≤ (path.take (n + 1)).length) :
          d.bytesAt ((path.take (n + 1)).take m) = none := by
        rw [hlength] at hm
        rw [List.take_take, Nat.min_eq_left hm]
        exact h m hm
      rcases ensureDirectory_of_bytesAt_eq_none hclear with ⟨e, he⟩ | hmissing
      · exact ⟨e, by rw [he]⟩
      · obtain ⟨above, habove⟩ := ih (by omega) fun m hm => h m (by omega)
        have htree := isTree_of_makePrefix hd habove
        have hthere := isDirectory_of_makePrefix habove
        have hnone : above.bytesAt (path.take (n + 1)) = none :=
          (bytesAt_of_makePrefix habove).trans (h (n + 1) (Nat.le_refl _))
        obtain ⟨e, he⟩ := exists_ensureDirectory (d := above) (fun m hm => by
          have hprefix := isDirectory_take htree hthere m
          rw [List.take_take] at hprefix ⊢
          rwa [Nat.min_eq_left (by omega)] at hprefix ⊢) hnone
        refine ⟨e, ?_⟩
        rw [hmissing, habove]
        exact he

theorem exists_makeDirectories (hd : d.IsTree)
    (h : ∀ m ≤ path.length, d.bytesAt (path.take m) = none) :
    ∃ e, d.makeDirectories path = .ok e :=
  exists_makePrefix hd (Nat.le_refl _) h

theorem exists_write (hd : d.IsTree) (habove : d.isDirectory path.dropLast = true)
    (h : d.isDirectory path = false) (bytes : Bytes) : ∃ e, d.write path bytes = .ok e := by
  unfold write
  cases hget : d.get? path with
  | some entry =>
      cases entry with
      | file old => exact ⟨_, rfl⟩
      | directory => simp [isDirectory, hget] at h
  | none =>
      have hparent : d.parentError? path = none := parentError?_eq_none fun m hm => by
        have hprefix := isDirectory_take hd habove m
        rwa [List.dropLast_eq_take, List.take_take, Nat.min_eq_left (by omega)] at hprefix
      exact ⟨_, by rw [hparent]⟩

/-- A file can be at this path: the path names one, no file stands above it, and there is no
directory in its place. -/
structure IsWritable (d : Disk) (path : String) : Prop where
  named : FilePath.fileName? path ≠ none
  above : ∀ m < (resolve path).length, d.bytesAt ((resolve path).take m) = none
  free : d.isDirectory (resolve path) = false

theorem exists_parent?_of_fileName? {path : String} (h : FilePath.fileName? path ≠ none) :
    ∃ dir name, FilePath.parent? path = some dir ∧ resolve path = resolve dir ++ [name] := by
  obtain ⟨name, hname⟩ := Option.ne_none_iff_exists'.1 h
  obtain ⟨hparts, hdots⟩ := FilePath.parts_of_fileName? hname
  cases hparent : FilePath.parent? path with
  | none =>
      rw [FilePath.parts_of_parent?_eq_none hparent] at hparts
      cases hparts
  | some dir =>
      refine ⟨dir, name, rfl, ?_⟩
      rw [resolve, hparts, List.foldl_append, resolve, FilePath.parts_of_parent? hparent]
      simp [hdots]

/-- What it takes to put a file at a writable path: the directory above is made, then the file is
written. -/
theorem IsWritable.exists_write {path : String} (hd : d.IsTree) (h : d.IsWritable path)
    (bytes : Bytes) :
    ∃ dir made e, FilePath.parent? path = some dir ∧ d.makeDirectories (resolve dir) = .ok made ∧
      made.write (resolve path) bytes = .ok e := by
  obtain ⟨dir, name, hparent, hpath⟩ := exists_parent?_of_fileName? h.named
  have hlength : (resolve path).length = (resolve dir).length + 1 := by rw [hpath]; simp
  obtain ⟨made, hmade⟩ : ∃ made, d.makeDirectories (resolve dir) = .ok made := by
    refine exists_makeDirectories hd fun m hm => ?_
    have hclear := h.above m (by omega)
    rwa [hpath, List.take_append_of_le_length hm] at hclear
  have hfree : made.isDirectory (resolve path) = false := by
    rw [← h.free, isDirectory, isDirectory, get?_of_makePrefix hmade (by omega)]
  have habove : made.isDirectory (resolve path).dropLast = true := by
    rw [hpath, List.dropLast_concat]
    exact isDirectory_of_makeDirectories hmade
  obtain ⟨e, hwrite⟩ := Disk.exists_write (isTree_of_makePrefix hd hmade) habove hfree bytes
  exact ⟨dir, made, e, hparent, hmade, hwrite⟩

theorem isDirectory_empty_iff : empty.isDirectory path = true ↔ path = [] := by
  cases path <;> simp [isDirectory, get?, empty]

theorem isTree_empty : empty.IsTree := by
  intro path hpath
  rw [isDirectory_empty_iff.1 hpath]
  rfl

/-- On an empty disk any path that names a file will do. -/
theorem isWritable_empty {path : String} (hname : FilePath.fileName? path ≠ none)
    (hpath : resolve path ≠ []) : empty.IsWritable path where
  named := hname
  above m _ := by
    cases hprefix : (resolve path).take m <;> rfl
  free := Bool.eq_false_iff.2 fun h => hpath (isDirectory_empty_iff.1 h)

end ContainerFleet.Disk
