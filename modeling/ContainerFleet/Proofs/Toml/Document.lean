import ContainerFleet.Proofs.Map
import ContainerFleet.Proofs.Toml.Statement

/-!
A TOML document reads back as the table it was written from. Main statement: `parse?_write`.

The statements under a header act on the table below it as they would act on a document of their own
(`foldlM_within`). So the run of a document is built up from the runs of its tables, from the inside
out. Only the order of the entries is not kept: a table's own entries come before its tables.
-/

namespace ContainerFleet.Toml

namespace Item

mutual

/-- The value that an item reads back as. -/
def toValue : Item → Value
  | str s => .str s
  | int n => .int n
  | bool b => .bool b
  | table entries => .table (plainValues entries ++ tableValues entries)

/-- The tables among the entries of a table. -/
def tableValues : List (String × Item) → List (String × Value)
  | [] => []
  | (key, item) :: entries =>
    if item.isTable then (key, toValue item) :: tableValues entries else tableValues entries

end

/-- The entries of a table that are no tables, as they are read. -/
def plainNodes (entries : List (String × Item)) : List (String × Node) :=
  (plainValues entries).map fun entry => (entry.1, .value entry.2)

mutual

/-- What a key stands for when all of the document has been read. -/
def toNode : Item → Node
  | str s => .value (.str s)
  | int n => .value (.int n)
  | bool b => .value (.bool b)
  | table entries => .table (!hasHeader entries) false (plainNodes entries ++ tableNodes entries)

def tableNodes : List (String × Item) → List (String × Node)
  | [] => []
  | (key, item) :: entries =>
    if item.isTable then (key, toNode item) :: tableNodes entries else tableNodes entries

end

theorem entriesToValue_append (ns ms : List (String × Node)) :
    Node.entriesToValue (ns ++ ms) = Node.entriesToValue ns ++ Node.entriesToValue ms := by
  induction ns with
  | nil => rfl
  | cons n ns ih =>
      rw [List.cons_append, Node.entriesToValue, Node.entriesToValue, ih, List.cons_append]

theorem entriesToValue_plainNodes (entries : List (String × Item)) :
    Node.entriesToValue (plainNodes entries) = plainValues entries := by
  unfold plainNodes
  induction plainValues entries with
  | nil => rfl
  | cons entry values ih => rw [List.map_cons, Node.entriesToValue, ih, Node.toValue]

mutual

theorem toValue_toNode : (item : Item) → item.toNode.toValue = item.toValue
  | str s => rfl
  | int n => rfl
  | bool b => rfl
  | table entries => by
      rw [toNode, Node.toValue, entriesToValue_append, entriesToValue_plainNodes,
        entriesToValue_tableNodes entries, toValue]

theorem entriesToValue_tableNodes :
    (entries : List (String × Item)) →
      Node.entriesToValue (tableNodes entries) = tableValues entries
  | [] => rfl
  | (key, item) :: entries => by
      rw [tableNodes, tableValues]
      split
      · rw [Node.entriesToValue, toValue_toNode item, entriesToValue_tableNodes entries]
      · exact entriesToValue_tableNodes entries

end

end Item

/-! ### Tables under construction -/

namespace Section

variable {s c : Section} {key : String} {node : Node}

theorem put_of_get?_eq_none (h : s.get? key = none) (node : Node) :
    s.put key node = { s with entries := s.entries ++ [(key, node)] } := by
  rw [put, h]
  rfl

theorem get?_map_replace {entries : List (String × Node)} (h : (Map.get? entries key).isSome) :
    Map.get? (entries.map fun entry => if entry.1 = key then (key, node) else entry) key =
      some node := by
  induction entries with
  | nil => cases h
  | cons entry entries ih =>
      rw [List.map_cons, Map.get?_cons]
      rw [Map.get?_cons] at h
      by_cases hkey : entry.1 = key
      · simp [hkey]
      · rw [if_neg hkey] at h
        simpa [hkey] using ih h

theorem get?_put_self (s : Section) (key : String) (node : Node) :
    (s.put key node).get? key = some node := by
  unfold put
  split
  · next h => exact get?_map_replace h
  · next h =>
      have hnone : Map.get? s.entries key = none := by simpa [get?] using h
      rw [get?, Map.get?_append, hnone, Map.get?_cons, if_pos rfl]
      rfl

/-- A key that is changed twice has its last meaning, and stays in its place. -/
theorem put_put (s : Section) (key : String) (old node : Node) :
    (s.put key old).put key node = s.put key node := by
  have hsome : ((s.put key old).get? key).isSome = true := by rw [get?_put_self]; rfl
  rw [put, if_pos hsome]
  unfold put
  split
  · simp only [List.map_map, Section.mk.injEq, true_and]
    refine List.map_congr_left fun entry _ => ?_
    by_cases hkey : entry.1 = key <;> simp [hkey]
  · next h =>
      have hnone : ∀ entry ∈ s.entries, entry.1 ≠ key := by
        rintro ⟨name, node⟩ hmem rfl
        have h : ∀ node, (name, node) ∉ s.entries := by simpa [get?, Map.get?] using h
        exact h node hmem
      simp only [List.map_append, List.map_cons, List.map_nil, if_true, Section.mk.injEq, true_and,
        List.append_cancel_right_eq]
      refine (List.map_congr_left fun entry hentry => ?_).trans (List.map_id _)
      exact if_neg (hnone entry hentry)

variable {change : Section → Option Section} {path : List String}

theorem update_cons (h : s.get? key = some c.toNode) :
    update false change (key :: path) s =
      (update false change path c).map fun child => s.put key child.toNode := by
  rw [update, h]
  cases hchild : update false change path c <;> simp [toNode, hchild]

theorem update_cons_new (h : s.get? key = none) :
    update false change (key :: path) s =
      (update false change path ⟨true, false, []⟩).map fun child => s.put key child.toNode := by
  rw [update, h]
  cases hchild : update false change path ⟨true, false, []⟩ <;> simp

end Section

/-! ### Statements within a table -/

/-- The statement does not open the table itself that its path starts from. -/
def Statement.IsInner : Statement → Prop
  | header path => path ≠ []
  | itemHeader path => path ≠ []
  | assign _ _ => True

namespace Progress

variable {s c : Section} {key : String} {under : List String} {st : Statement}

theorem step_within (h : s.get? key = some c.toNode) (hst : st.IsInner) :
    step ⟨s, key :: under⟩ (st.within [key]) =
      (step ⟨c, under⟩ st).map fun p => ⟨s.put key p.root.toNode, key :: p.under⟩ := by
  cases st with
  | assign path v =>
      rw [Statement.within, step, Section.update_cons h, step, Option.map_map, Option.map_map]
      rfl
  | header path =>
      obtain ⟨next, path, rfl⟩ := List.exists_cons_of_ne_nil hst
      simp only [Statement.within, List.singleton_append, step, Section.openTable,
        List.getLast?_cons_cons, List.dropLast_cons_cons]
      cases (next :: path).getLast? with
      | none => rfl
      | some last =>
          simp only [Section.update_cons h, Option.map_map]
          rfl
  | itemHeader path =>
      obtain ⟨next, path, rfl⟩ := List.exists_cons_of_ne_nil hst
      simp only [Statement.within, List.singleton_append, step, Section.openItem,
        List.getLast?_cons_cons, List.dropLast_cons_cons]
      cases (next :: path).getLast? with
      | none => rfl
      | some last =>
          simp only [Section.update_cons h, Option.map_map]
          rfl

/-- A header within a table that is missing makes the table. -/
theorem step_within_new (h : s.get? key = none) {path : List String} (hpath : path ≠ []) :
    step ⟨s, under⟩ (.header (key :: path)) =
      (step ⟨⟨true, false, []⟩, []⟩ (.header path)).map fun p =>
        ⟨s.put key p.root.toNode, key :: p.under⟩ := by
  obtain ⟨next, path, rfl⟩ := List.exists_cons_of_ne_nil hpath
  simp only [step, Section.openTable, List.getLast?_cons_cons, List.dropLast_cons_cons]
  cases (next :: path).getLast? with
  | none => rfl
  | some last =>
      simp only [Section.update_cons_new h, Option.map_map]
      rfl

/-- Statements within a table act on it alone. By induction on the statements. -/
theorem foldlM_within {sts : List Statement} (hsts : ∀ st ∈ sts, st.IsInner) :
    (sts.map (Statement.within [key])).foldlM step ⟨s.put key c.toNode, key :: under⟩ =
      (sts.foldlM step ⟨c, under⟩).map fun p => ⟨s.put key p.root.toNode, key :: p.under⟩ := by
  induction sts generalizing c under with
  | nil => rfl
  | cons st sts ih =>
      rw [List.forall_mem_cons] at hsts
      rw [List.map_cons, List.foldlM_cons, List.foldlM_cons,
        step_within (s.get?_put_self key c.toNode) hsts.1]
      cases hstep : step ⟨c, under⟩ st with
      | none => rfl
      | some p =>
          obtain ⟨root, under⟩ := p
          simp only [Option.map_some, Option.bind_eq_bind, Option.bind_some, Section.put_put]
          exact ih hsts.2

end Progress

/-! ### The run of a document -/

namespace Item

open Progress

theorem isInner_of_mem_tableStatements {entries : List (String × Item)} {st : Statement}
    (h : st ∈ tableStatements entries) : st.IsInner := by
  induction entries with
  | nil => cases h
  | cons entry entries ih =>
      rw [tableStatements, List.mem_append, List.mem_map] at h
      rcases h with ⟨st, -, rfl⟩ | h
      · cases st <;> simp [Statement.within, Statement.IsInner]
      · exact ih h

theorem isInner_of_mem_plainStatements {entries : List (String × Item)} {st : Statement}
    (h : st ∈ plainStatements entries) : st.IsInner := by
  obtain ⟨entry, -, rfl⟩ := List.mem_map.1 h
  trivial

/-- Without a header a table has tables alone. -/
theorem plainValues_eq_nil {entries : List (String × Item)} (h : hasHeader entries = false) :
    plainValues entries = [] := by
  rw [hasHeader, Bool.or_eq_false_iff, List.any_eq_false] at h
  refine List.filterMap_eq_nil_iff.2 fun entry hentry => ?_
  have htable : entry.2.isTable = true := by simpa using h.2 entry hentry
  rw [plainValue?_eq_none_iff.2 htable]
  rfl

/-- The first line of a table is a header: its own, or that of a table in it. -/
theorem exists_statements_eq_header {depth : Nat} {entries : List (String × Item)}
    (hfits : (table entries).Fits depth) :
    ∃ path more, (table entries).statements = .header path :: more := by
  induction depth generalizing entries with
  | zero => cases hfits
  | succ depth ih =>
      rw [statements]
      by_cases hheader : hasHeader entries = true
      · rw [if_pos hheader]
        exact ⟨_, _, rfl⟩
      · rw [if_neg hheader, List.nil_append]
        rw [hasHeader, Bool.not_eq_true, Bool.or_eq_false_iff, List.any_eq_false] at hheader
        cases entries with
        | nil => cases hheader.1
        | cons entry entries =>
            obtain ⟨key, item⟩ := entry
            have htable : item.isTable = true := by simpa using hheader.2 _ List.mem_cons_self
            cases item with
            | table inner =>
                obtain ⟨path, more, hmore⟩ := ih (hfits.2 _ List.mem_cons_self)
                exact ⟨_, _, by rw [tableStatements, hmore, List.map_cons, List.cons_append]; rfl⟩
            | _ => cases htable

variable (implicit : Bool) {ns : List (String × Node)} {entries : List (String × Item)}

theorem get?_eq_none_of_not_mem {key : String} (h : key ∉ Map.keys ns) :
    Section.get? ⟨implicit, false, ns⟩ key = none := by
  cases hget : Section.get? ⟨implicit, false, ns⟩ key with
  | none => rfl
  | some node => exact absurd (Map.mem_keys_iff.2 ⟨node, hget⟩) h

/-- A key that is put in is no key of the entries that follow. -/
theorem not_mem_keys_concat {key : String} {node : Node}
    (h : (key :: Map.keys entries).Nodup) {entry : String × Item} (hentry : entry ∈ entries)
    (hnew : entry.1 ∉ Map.keys ns) : entry.1 ∉ Map.keys (ns ++ [(key, node)]) := by
  have hne : entry.1 ≠ key := by
    intro heq
    exact (List.nodup_cons.1 h).1 (heq ▸ List.mem_map_of_mem hentry)
  simpa [Map.keys, hne] using hnew

theorem step_assign {key : String} (h : Section.get? ⟨implicit, false, ns⟩ key = none) (v : Value) :
    step ⟨⟨implicit, false, ns⟩, []⟩ (.assign [key] v) =
      some ⟨⟨implicit, false, ns ++ [(key, .value v)]⟩, []⟩ := by
  have hdefine : Section.define key v ⟨implicit, false, ns⟩ =
      some ⟨implicit, false, ns ++ [(key, .value v)]⟩ := by
    rw [Section.define, h, Section.put_of_get?_eq_none h]
    rfl
  simp [step, Section.update, Section.assign, hdefine]

/-- Plain entries are put into the table that is open. By induction on the entries. -/
theorem foldlM_plainStatements (h : (Map.keys entries).Nodup)
    (hnew : ∀ entry ∈ entries, entry.1 ∉ Map.keys ns) :
    (plainStatements entries).foldlM step ⟨⟨implicit, false, ns⟩, []⟩ =
      some ⟨⟨implicit, false, ns ++ plainNodes entries⟩, []⟩ := by
  induction entries generalizing ns with
  | nil => rw [show plainNodes [] = [] from rfl, List.append_nil]; rfl
  | cons entry entries ih =>
      obtain ⟨key, item⟩ := entry
      rw [Map.keys_cons] at h
      rw [List.forall_mem_cons] at hnew
      have hrest := (List.nodup_cons.1 h).2
      cases hv : item.plainValue? with
      | none =>
          simpa [plainStatements, plainNodes, plainValues, hv] using ih hrest hnew.2
      | some v =>
          have hstep := step_assign implicit (get?_eq_none_of_not_mem implicit hnew.1) v
          have hmore : (plainStatements entries).foldlM step
              ⟨⟨implicit, false, ns ++ [(key, .value v)]⟩, []⟩ = _ :=
            ih hrest fun entry hentry => not_mem_keys_concat h hentry (hnew.2 entry hentry)
          rw [List.append_assoc] at hmore
          simpa [plainStatements, plainNodes, plainValues, hv, hstep] using hmore

/-- The statements of these entries make a table of them, whether a header has opened it or not. -/
def Builds (entries : List (String × Item)) : Prop :=
  ∀ implicit, ∃ under,
    (plainStatements entries ++ tableStatements entries).foldlM step ⟨⟨implicit, false, []⟩, []⟩ =
      some ⟨⟨implicit, false, plainNodes entries ++ tableNodes entries⟩, under⟩

/-- The statements of an item make a table under any new key. -/
def BuildsWithin (item : Item) : Prop :=
  ∀ (s : Section) (key : String), s.get? key = none → ∀ under, ∃ under',
    (item.statements.map (Statement.within [key])).foldlM step ⟨s, under⟩ =
      some ⟨s.put key item.toNode, under'⟩

theorem step_header {s : Section} {key : String} (h : s.get? key = none) (under : List String) :
    step ⟨s, under⟩ (.header [key]) =
      some ⟨s.put key (Section.toNode ⟨false, false, []⟩), [key]⟩ := by
  simp [step, Section.openTable, Section.update, h, Section.toNode]

/-- A table that is built on its own is built within another one. -/
theorem Builds.within {depth : Nat} (hfits : (table entries).Fits depth) (h : Builds entries) :
    BuildsWithin (table entries) := by
  intro s key hnew under
  have hinner : ∀ st ∈ plainStatements entries ++ tableStatements entries, st.IsInner := by
    intro st hst
    rcases List.mem_append.1 hst with hst | hst
    · exact isInner_of_mem_plainStatements hst
    · exact isInner_of_mem_tableStatements hst
  by_cases hheader : hasHeader entries = true
  · obtain ⟨under', hrun⟩ := h false
    refine ⟨key :: under', ?_⟩
    rw [statements, if_pos hheader, List.cons_append, List.map_cons, List.foldlM_cons,
      Statement.within, List.append_nil, step_header hnew]
    simp only [Option.bind_eq_bind, Option.bind_some]
    rw [foldlM_within hinner, hrun, toNode, hheader]
    rfl
  · -- The table is made by the first header in it.
    have hplain : plainStatements entries = [] := by
      rw [plainStatements, plainValues_eq_nil (by simpa using hheader), List.map_nil]
    obtain ⟨path, more, hfirst⟩ := exists_statements_eq_header hfits
    obtain ⟨under', hrun⟩ := h true
    rw [statements, if_neg hheader, List.nil_append] at hfirst
    rw [hplain, List.nil_append, hfirst] at hrun hinner
    rw [List.forall_mem_cons] at hinner
    refine ⟨key :: under', ?_⟩
    rw [List.foldlM_cons] at hrun
    obtain ⟨p, hstep, hmore⟩ := Option.bind_eq_some_iff.1 hrun
    rw [statements, if_neg hheader, List.nil_append, hfirst, List.map_cons, List.foldlM_cons,
      Statement.within, List.singleton_append, step_within_new hnew hinner.1, hstep]
    simp only [Option.map_some, Option.bind_eq_bind, Option.bind_some]
    rw [foldlM_within hinner.2, hmore, toNode, Bool.eq_false_iff.2 hheader]
    rfl

/-- Tables are put in one after the other. By induction on the entries. -/
theorem foldlM_tableStatements
    (hbuilds : ∀ entry ∈ entries, entry.2.isTable = true → BuildsWithin entry.2)
    (h : (Map.keys entries).Nodup)
    (hnew : ∀ entry ∈ entries, entry.2.isTable = true → entry.1 ∉ Map.keys ns)
    (under : List String) :
    ∃ under', (tableStatements entries).foldlM step ⟨⟨implicit, false, ns⟩, under⟩ =
      some ⟨⟨implicit, false, ns ++ tableNodes entries⟩, under'⟩ := by
  induction entries generalizing ns under with
  | nil => exact ⟨under, by rw [tableNodes, List.append_nil]; rfl⟩
  | cons entry entries ih =>
      obtain ⟨key, item⟩ := entry
      rw [Map.keys_cons] at h
      rw [List.forall_mem_cons] at hbuilds hnew
      have hrest := (List.nodup_cons.1 h).2
      rw [tableStatements, List.foldlM_append, tableNodes]
      by_cases htable : item.isTable = true
      · have hnone := get?_eq_none_of_not_mem implicit (hnew.1 htable)
        obtain ⟨under₁, hfirst⟩ := hbuilds.1 htable ⟨implicit, false, ns⟩ key hnone under
        obtain ⟨under₂, hmore⟩ := ih hbuilds.2 hrest
          (fun entry hentry ht => not_mem_keys_concat h hentry (hnew.2 entry hentry ht)) under₁
        rw [Section.put_of_get?_eq_none hnone] at hfirst
        refine ⟨under₂, ?_⟩
        rw [hfirst, if_pos htable]
        simpa using hmore
      · have hnone : item.statements = [] := by
          cases item with
          | table inner => exact absurd rfl htable
          | _ => rfl
        rw [if_neg htable, hnone]
        exact ih hbuilds.2 hrest hnew.2 under

theorem exists_mem_of_mem_keys_plainNodes {key : String} (h : key ∈ Map.keys (plainNodes entries)) :
    ∃ item, (key, item) ∈ entries ∧ item.isTable = false := by
  obtain ⟨node, hnode, rfl⟩ := List.mem_map.1 h
  obtain ⟨value, hvalue, rfl⟩ := List.mem_map.1 hnode
  obtain ⟨⟨name, item⟩, hitem, hplain⟩ := List.mem_filterMap.1 hvalue
  obtain ⟨v, hv, rfl⟩ := Option.map_eq_some_iff.1 hplain
  refine ⟨item, hitem, Bool.eq_false_iff.2 fun htable => ?_⟩
  rw [plainValue?_eq_none_iff.2 htable] at hv
  cases hv

/-- By induction on how deep tables nest. -/
theorem builds_of_fits {depth : Nat} (hfits : (table entries).Fits depth) : Builds entries := by
  induction depth generalizing entries with
  | zero => cases hfits
  | succ depth ih =>
      intro implicit
      have hwithin (entry) (hentry : entry ∈ entries) (htable : entry.2.isTable = true) :
          BuildsWithin entry.2 := by
        obtain ⟨key, item⟩ := entry
        cases item with
        | table inner => exact (ih (hfits.2 _ hentry)).within (hfits.2 _ hentry)
        | _ => cases htable
      have hplain : (plainStatements entries).foldlM step ⟨⟨implicit, false, []⟩, []⟩ =
          some ⟨⟨implicit, false, plainNodes entries⟩, []⟩ :=
        foldlM_plainStatements implicit hfits.1 fun _ _ => List.not_mem_nil
      have hnew (entry) (hentry : entry ∈ entries) (htable : entry.2.isTable = true) :
          entry.1 ∉ Map.keys (plainNodes entries) := by
        intro hmem
        obtain ⟨item, hitem, hnot⟩ := exists_mem_of_mem_keys_plainNodes hmem
        rw [Map.eq_of_nodup_keys hfits.1 hitem hentry, htable] at hnot
        cases hnot
      obtain ⟨under, htables⟩ := foldlM_tableStatements implicit hwithin hfits.1 hnew []
      refine ⟨under, ?_⟩
      rw [List.foldlM_append, hplain]
      exact htables

/-- A document that can be read starts with no mark that would be skipped. -/
theorem skipMark_of_statements? {s : List Char} {sts : List Statement}
    (h : statements? s = some sts) : skipMark s = s := by
  unfold skipMark
  split
  · next rest =>
      have hskip : skipSpace ('\ufeff' :: rest) = '\ufeff' :: rest := skipSpace_cons rfl rest
      have hkey : key? ('\ufeff' :: rest) = none := by
        rw [key?, keyParts?, hskip]
        rfl
      have hstatement : statement? ('\ufeff' :: rest) = none := by
        simp [statement?, pair?, hkey]
      rw [statements?, hskip] at h
      simp [hstatement] at h
  · rfl

/-- What a document holds reads back from what is written. -/
theorem parse?_write {entries : List (String × Item)}
    (hfits : (table entries).Fits depthLimit) :
    parse? (write entries) = some (table entries).toValue := by
  have hread := statements?_write hfits
  obtain ⟨under, hrun⟩ := builds_of_fits hfits false
  rw [parse?, skipMark_of_statements? hread, hread, Option.bind_some, ofStatements?]
  change ((plainStatements entries ++ tableStatements entries).foldlM step
    ⟨⟨false, false, []⟩, []⟩).map _ = _
  rw [hrun, Option.map_some]
  change some (Node.table false false (plainNodes entries ++ tableNodes entries)).toValue = _
  rw [Node.toValue, entriesToValue_append, entriesToValue_plainNodes, entriesToValue_tableNodes,
    toValue]

end Item

end ContainerFleet.Toml
