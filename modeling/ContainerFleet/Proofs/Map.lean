import ContainerFleet.Map
import Mathlib.Data.List.Nodup
import Mathlib.Data.List.Perm.Basic

/-!
Finite maps and their entries. Main statements: `get?_eq_some_iff_mem`, what a map leads to when no two
entries for one key differ, `ofEntries_eq_self`, that entries with distinct keys are the map they make,
and `perm_of_get?_eq`, that maps which lead to the same have the same entries.
-/

namespace ContainerFleet

namespace Map

variable {κ α : Type} [DecidableEq κ] {m n : Map κ α} {k : κ} {a : α}

theorem get?_eq_some_iff_mem (hsame : ∀ a b, (k, a) ∈ m → (k, b) ∈ m → a = b) :
    get? m k = some a ↔ (k, a) ∈ m := by
  have hfound {b : α} (h : get? m k = some b) : (k, b) ∈ m := by
    obtain ⟨⟨j, c⟩, hfind, rfl⟩ := Option.map_eq_some_iff.1 h
    obtain rfl : j = k := by simpa using List.find?_some hfind
    exact List.mem_of_find?_eq_some hfind
  constructor
  · exact hfound
  · intro hmem
    cases hget : get? m k with
    | none =>
        have hnone := List.find?_eq_none.1 (Option.map_eq_none_iff.1 hget) _ hmem
        simp at hnone
    | some b => rw [hsame b a (hfound hget) hmem]

theorem get?_insertAll (m : Map κ α) (entries : List (κ × α)) (k : κ) :
    get? (m.insertAll entries) k = (get? entries.reverse k).or (get? m k) := by
  induction entries generalizing m with
  | nil => rfl
  | cons entry entries ih =>
      change get? ((m.insert entry.1 entry.2).insertAll entries) k = _
      rw [ih, get?_insert, List.reverse_cons, get?_append, get?_cons, get?_nil, Option.or_assoc]
      split <;> rfl

/-- A map of entries among which no two differ for one key has all of them. -/
theorem get?_ofEntries_eq_some_iff {entries : List (κ × α)}
    (hsame : ∀ a b, (k, a) ∈ entries → (k, b) ∈ entries → a = b) :
    get? (ofEntries entries) k = some a ↔ (k, a) ∈ entries := by
  rw [ofEntries, get?_insertAll, get?_nil, Option.or_none, get?_eq_some_iff_mem, List.mem_reverse]
  simpa only [List.mem_reverse] using hsame

theorem insertAll_eq_append {m entries : Map κ α} (h : (keys (m ++ entries)).Nodup) :
    m.insertAll entries = m ++ entries := by
  induction entries generalizing m with
  | nil => simp [insertAll]
  | cons entry entries ih =>
      have hnew : entry.1 ∉ keys m := by
        intro hmem
        rw [keys, List.map_append, List.nodup_append] at h
        exact h.2.2 entry.1 hmem entry.1 (by simp) rfl
      have herase : m.erase entry.1 = m := by
        apply List.filter_eq_self.2
        intro other hother
        simp only [decide_not, Bool.not_eq_eq_eq_not, Bool.not_true, decide_eq_false_iff_not]
        rintro heq
        exact hnew (heq ▸ List.mem_map_of_mem hother)
      have hinsert : m.insert entry.1 entry.2 = m ++ [entry] := by rw [insert, herase]
      change (m.insert entry.1 entry.2).insertAll entries = _
      rw [hinsert, ih (by simpa using h), List.append_assoc]
      rfl

theorem ofEntries_eq_self {m : Map κ α} (h : (keys m).Nodup) : ofEntries m = m :=
  insertAll_eq_append (m := []) h

omit [DecidableEq κ] in
theorem eq_of_nodup_keys (h : (keys m).Nodup) {b : α} (ha : (k, a) ∈ m) (hb : (k, b) ∈ m) : a = b :=
  congrArg Prod.snd (List.inj_on_of_nodup_map h ha hb rfl)

/-- Maps that lead to the same have the same entries. -/
theorem perm_of_get?_eq (hm : (keys m).Nodup) (hn : (keys n).Nodup)
    (h : ∀ k, get? m k = get? n k) : m.Perm n := by
  rw [List.perm_ext_iff_of_nodup hm.of_map hn.of_map]
  rintro ⟨k, a⟩
  rw [← get?_eq_some_iff_mem fun _ _ => eq_of_nodup_keys hm,
    ← get?_eq_some_iff_mem fun _ _ => eq_of_nodup_keys hn, h]

end Map

end ContainerFleet
