/-!
Finite maps as lists of entries, newest last. Main statements: what `get?` finds after `insert`
and `erase`.
-/

namespace ContainerFleet

/-- A finite map. A key that `insert` put in occurs once. -/
abbrev Map (κ α : Type) : Type :=
  List (κ × α)

namespace Map

variable {κ α : Type} [DecidableEq κ]

def get? (m : Map κ α) (k : κ) : Option α :=
  (m.find? fun entry => entry.1 = k).map Prod.snd

def contains (m : Map κ α) (k : κ) : Bool :=
  (m.get? k).isSome

def erase (m : Map κ α) (k : κ) : Map κ α :=
  m.filter fun entry => entry.1 ≠ k

def insert (m : Map κ α) (k : κ) (a : α) : Map κ α :=
  m.erase k ++ [(k, a)]

/-- The map with the entries of another one put in, in their order. -/
def insertAll (m : Map κ α) (entries : List (κ × α)) : Map κ α :=
  entries.foldl (fun m entry => m.insert entry.1 entry.2) m

/-- A map of the entries; of two with one key the later one stays. -/
def ofEntries (entries : List (κ × α)) : Map κ α :=
  insertAll [] entries

def keys (m : Map κ α) : List κ :=
  m.map Prod.fst

omit [DecidableEq κ] in
theorem keys_cons (entry : κ × α) (m : Map κ α) : keys (entry :: m) = entry.1 :: keys m := rfl

theorem get?_nil (k : κ) : get? ([] : Map κ α) k = none := rfl

theorem get?_cons (entry : κ × α) (m : Map κ α) (k : κ) :
    get? (entry :: m) k = if entry.1 = k then some entry.2 else get? m k := by
  unfold get?
  by_cases h : entry.1 = k <;> simp [h]

theorem get?_append (m n : Map κ α) (k : κ) :
    get? (m ++ n) k = (get? m k).or (get? n k) := by
  induction m with
  | nil => simp [get?_nil]
  | cons entry m ih =>
    rw [List.cons_append, get?_cons, get?_cons, ih]
    split <;> simp

theorem get?_erase (m : Map κ α) (k j : κ) :
    get? (m.erase k) j = if k = j then none else get? m j := by
  induction m with
  | nil => simp [erase, get?_nil]
  | cons entry m ih =>
    unfold erase at ih ⊢
    by_cases h : entry.1 = k
    · rw [List.filter_cons_of_neg (by simp [h]), ih, get?_cons, h]
      split <;> simp_all
    · rw [List.filter_cons_of_pos (by simp [h]), get?_cons, get?_cons, ih]
      by_cases hj : k = j
      · subst hj; simp [h]
      · simp [hj]

theorem get?_insert (m : Map κ α) (k j : κ) (a : α) :
    get? (m.insert k a) j = if k = j then some a else get? m j := by
  rw [insert, get?_append, get?_erase, get?_cons, get?_nil]
  split <;> simp_all

theorem get?_insert_self (m : Map κ α) (k : κ) (a : α) : get? (m.insert k a) k = some a := by
  simp [get?_insert]

theorem mem_keys_iff {m : Map κ α} {k : κ} : k ∈ keys m ↔ ∃ a, get? m k = some a := by
  induction m with
  | nil => simp [keys, get?_nil]
  | cons entry m ih =>
    rw [keys_cons, List.mem_cons, ih, get?_cons]
    by_cases h : entry.1 = k
    · simp [h]
    · simp [h, Ne.symm h]

theorem not_mem_keys_erase (m : Map κ α) (k : κ) : k ∉ keys (m.erase k) := by
  simp [keys, erase]

theorem nodup_keys_erase {m : Map κ α} (h : (keys m).Nodup) (k : κ) : (keys (m.erase k)).Nodup :=
  h.sublist (List.Sublist.map _ List.filter_sublist)

theorem nodup_keys_insert {m : Map κ α} (h : (keys m).Nodup) (k : κ) (a : α) :
    (keys (m.insert k a)).Nodup := by
  have hk := not_mem_keys_erase m k
  have hm := nodup_keys_erase h k
  unfold insert
  rw [keys, List.map_append, List.nodup_append]
  exact ⟨hm, by simp, fun x hx y hy hxy => hk (by simp_all [keys])⟩

theorem nodup_keys_insertAll {m : Map κ α} (h : (keys m).Nodup) (entries : List (κ × α)) :
    (keys (m.insertAll entries)).Nodup := by
  induction entries generalizing m with
  | nil => exact h
  | cons entry entries ih => exact ih (nodup_keys_insert h entry.1 entry.2)

theorem nodup_keys_ofEntries (entries : List (κ × α)) : (keys (ofEntries entries)).Nodup :=
  nodup_keys_insertAll (by simp [keys]) entries

end Map

end ContainerFleet
