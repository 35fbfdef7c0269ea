import ContainerFleet.Proofs.Toml.Value

/-!
The statements of a written document. Main statement: `statements?_write`.

A document has a line for each plain entry, in the order of the entries, and after these the tables,
each under its header. The statements of a table are first given as they would stand in a document
that is this table alone, and then moved within the tables around it.
-/

namespace ContainerFleet.Toml

namespace Item

/-- The entries of a table that are no tables. -/
def plainValues (entries : List (String × Item)) : List (String × Value) :=
  entries.filterMap fun entry => entry.2.plainValue?.map (entry.1, ·)

/-- One statement for each plain entry. -/
def plainStatements (entries : List (String × Item)) : List Statement :=
  (plainValues entries).map fun entry => .assign [entry.1] entry.2

end Item

/-- The statement as it stands under a header, in a document that the table at this path is a part
of. -/
def Statement.within (path : List String) : Statement → Statement
  | header p => header (path ++ p)
  | itemHeader p => itemHeader (path ++ p)
  | assign p v => assign p v

namespace Item

mutual

/-- The statements of a table from its header on. -/
def statements : Item → List Statement
  | table entries =>
    (if hasHeader entries then .header [] :: plainStatements entries else []) ++
      tableStatements entries
  | _ => []

/-- The statements of the tables in a table. -/
def tableStatements : List (String × Item) → List Statement
  | [] => []
  | (key, item) :: entries =>
    (statements item).map (Statement.within [key]) ++ tableStatements entries

end

/-- What a document can hold: no key twice in a table, integers of 64 bits, and tables that nest
less deep than this. -/
def Fits : Nat → Item → Prop
  | 0, table _ => False
  | depth + 1, table entries =>
    (entries.map Prod.fst).Nodup ∧ ∀ entry ∈ entries, Fits depth entry.2
  | _, item => item.InRange

theorem Fits.inRange {depth : Nat} {item : Item} (h : item.Fits depth) : item.InRange := by
  cases item with
  | table entries => trivial
  | str s => trivial
  | int n => cases depth <;> exact h
  | bool b => trivial

@[simp]
theorem fits_str (depth : Nat) (s : String) : (str s).Fits depth := by
  cases depth <;> trivial

@[simp]
theorem fits_bool (depth : Nat) (b : Bool) : (bool b).Fits depth := by
  cases depth <;> trivial

theorem fits_ofNat (depth : Nat) {n : Nat} (h : n < 9223372036854775808) :
    (int n).Fits depth := by
  have hrange : (int n).InRange := ⟨by omega, by omega⟩
  cases depth <;> exact hrange

end Item

theorem Statement.within_nil (st : Statement) : st.within [] = st := by
  cases st <;> rfl

theorem Statement.within_within (path more : List String) (st : Statement) :
    (st.within more).within path = st.within (path ++ more) := by
  cases st <;> simp [within]

theorem Statement.map_within_within (path more : List String) (sts : List Statement) :
    (sts.map (within more)).map (within path) = sts.map (within (path ++ more)) := by
  rw [List.map_map]
  exact List.map_congr_left fun st _ => st.within_within path more

/-! ### One line -/

theorem skipComment_newline (s : List Char) : skipComment ('\n' :: s) = '\n' :: s := rfl

theorem statementEnd?_newline (rest : List Char) : statementEnd? ('\n' :: rest) = some rest := rfl

theorem statements?_newline (s : List Char) : statements? ('\n' :: s) = statements? s := by
  rw [statements?, skipSpace_cons rfl]
  simp [skipComment_newline, lineEnd?, newline?]

/-- A statement that starts its line, and the statements after it. -/
theorem statements?_cons {c : Char} {s rest : List Char} {st : Statement} {sts : List Statement}
    (hspace : isSpace c = false) (hline : ¬ (c = '#' ∨ c = '\n' ∨ c = '\r'))
    (hread : statement? (c :: s) = some (st, rest)) (hlength : rest.length < (c :: s).length)
    (hrest : statements? rest = some sts) :
    statements? (c :: s) = some (st :: sts) := by
  rw [statements?, skipSpace_cons hspace]
  simp only [if_neg hline, hread, if_pos hlength, hrest]

theorem key?_writePath (key : String) (path : List String) (hpath : path.length + 1 < depthLimit)
    {c d : Char} {rest tail : List Char} (hc : isBareChar c = false)
    (hrest : skipSpace (c :: rest) = d :: tail) (hd : d ≠ '.') :
    key? (writePath (key :: path) ++ c :: rest) = some (key :: path, d :: tail) := by
  rw [key?, keyParts?_writePath key path hc hrest hd]
  simp [hpath]

theorem ne_of_isKeyStart {c d : Char} (h : isKeyStart c = true) (hd : isKeyStart d = false) :
    c ≠ d := by
  rintro rfl
  cases hd.symm.trans h

theorem statement?_assign {c : Char} (hc : c ≠ '[') (s : List Char) {path : List String} {v : Value}
    {rest tail : List Char}
    (hpair : pair? (value? (depthLimit - 1)) (c :: s) = some ((path, v), rest))
    (hend : statementEnd? rest = some tail) :
    statement? (c :: s) = some (.assign path v, tail) := by
  unfold statement?
  split
  · next heq => exact absurd (List.cons.inj heq).1 hc
  · next heq => exact absurd (List.cons.inj heq).1 hc
  · simp [hpair, hend]

theorem statement?_header {c : Char} (hc : c ≠ '[') {s : List Char} {path : List String}
    {rest tail : List Char} (hkey : key? (c :: s) = some (path, ']' :: rest))
    (hend : statementEnd? rest = some tail) :
    statement? ('[' :: c :: s) = some (.header path, tail) := by
  unfold statement?
  split
  · next heq => exact absurd (List.cons.inj (List.cons.inj heq).2).1 hc
  · next heq =>
      obtain rfl := (List.cons.inj heq).2
      simp [hkey, hend, char?]
  · next hother => exact absurd rfl (hother _)

theorem pair?_entry (key : String) {item : Item} (hrange : item.InRange) {text : List Char}
    (htext : item.plain? = some text) (rest : List Char) :
    ∃ v, item.plainValue? = some v ∧
      pair? (value? (depthLimit - 1))
          (writeKey key ++ ' ' :: '=' :: ' ' :: (text ++ '\n' :: rest)) =
        some (([key], v), '\n' :: rest) := by
  obtain ⟨v, hv, hvalue⟩ := value?_of_plain? (depthLimit - 1) hrange htext rest
  obtain ⟨c, more, hcons, hc⟩ := exists_plain?_eq_cons htext
  have hskip : skipSpace (' ' :: (text ++ '\n' :: rest)) = text ++ '\n' :: rest := by
    rw [hcons]
    exact (List.dropWhile_cons_of_pos (by decide)).trans (skipSpace_cons hc _)
  have hkey := key?_writePath key [] (by decide) (c := ' ') (d := '=') (by decide)
    (show skipSpace (' ' :: '=' :: ' ' :: (text ++ '\n' :: rest)) = _ from rfl) (by decide)
  rw [writePath_singleton] at hkey
  refine ⟨v, hv, ?_⟩
  simp [pair?, hkey, char?, hskip, hvalue]

theorem statements?_entry (key : String) {item : Item} (hrange : item.InRange) {text : List Char}
    (htext : item.plain? = some text) {rest : List Char} {sts : List Statement}
    (hrest : statements? rest = some sts) :
    ∃ v, item.plainValue? = some v ∧
      statements? (writeKey key ++ " = ".toList ++ text ++ '\n' :: rest) =
        some (.assign [key] v :: sts) := by
  obtain ⟨v, hv, hpair⟩ := pair?_entry key hrange htext rest
  refine ⟨v, hv, ?_⟩
  obtain ⟨c, more, hcons, hc⟩ := exists_writeKey_eq_cons key
  have hline : ¬ (c = '#' ∨ c = '\n' ∨ c = '\r') :=
    not_or.2 ⟨ne_of_isKeyStart hc rfl, not_or.2 ⟨ne_of_isKeyStart hc rfl, ne_of_isKeyStart hc rfl⟩⟩
  have hassoc : writeKey key ++ " = ".toList ++ text ++ '\n' :: rest =
      writeKey key ++ ' ' :: '=' :: ' ' :: (text ++ '\n' :: rest) := by simp
  rw [hcons, List.cons_append] at hpair
  rw [hassoc, hcons, List.cons_append]
  refine statements?_cons (isSpace_of_isKeyStart hc) hline
    (statement?_assign (ne_of_isKeyStart hc rfl) _ hpair (statementEnd?_newline rest)) ?_ hrest
  simp only [List.length_cons, List.length_append]
  omega

theorem statements?_header (key : String) (path : List String)
    (hpath : path.length + 1 < depthLimit) {rest : List Char} {sts : List Statement}
    (hrest : statements? rest = some sts) :
    statements? ('[' :: writePath (key :: path) ++ [']', '\n'] ++ rest) =
      some (.header (key :: path) :: sts) := by
  obtain ⟨c, more, hcons, hc⟩ := exists_writePath_eq_cons key path
  have hkey := key?_writePath key path hpath (c := ']') (d := ']') (by decide)
    (show skipSpace (']' :: '\n' :: rest) = _ from rfl) (by decide)
  rw [hcons, List.cons_append] at hkey
  have hassoc : '[' :: writePath (key :: path) ++ [']', '\n'] ++ rest =
      '[' :: c :: (more ++ ']' :: '\n' :: rest) := by simp [hcons]
  rw [hassoc]
  refine statements?_cons rfl (by decide)
    (statement?_header (ne_of_isKeyStart hc rfl) hkey (statementEnd?_newline rest)) ?_ hrest
  simp only [List.length_cons, List.length_append]
  omega

/-! ### Whole tables -/

namespace Item

/-- A plain entry stands below the header of its table, and is written without the path. -/
theorem map_within_plainStatements (path : List String) (entries : List (String × Item)) :
    (plainStatements entries).map (Statement.within path) = plainStatements entries := by
  rw [plainStatements, List.map_map]
  rfl

theorem plain?_eq_none_iff {item : Item} : item.plain? = none ↔ item.plainValue? = none := by
  cases item with
  | bool b => cases b <;> simp [plain?, plainValue?]
  | _ => simp [plain?, plainValue?]

theorem statements?_writePlain {entries : List (String × Item)}
    (hrange : ∀ entry ∈ entries, entry.2.InRange) {rest : List Char} {sts : List Statement}
    (hrest : statements? rest = some sts) :
    statements? (writePlain entries ++ rest) = some (plainStatements entries ++ sts) := by
  induction entries with
  | nil => exact hrest
  | cons entry entries ih =>
      obtain ⟨key, item⟩ := entry
      rw [List.forall_mem_cons] at hrange
      have hmore := ih hrange.2
      cases htext : item.plain? with
      | none =>
          have hvalue := plain?_eq_none_iff.1 htext
          simpa [writePlain, htext, plainStatements, plainValues, hvalue] using hmore
      | some text =>
          obtain ⟨v, hv, hentry⟩ := statements?_entry key hrange.1 htext hmore
          simpa [writePlain, htext, plainStatements, plainValues, hv] using hentry

/-- By induction on the tables: the statements of one come before those of the next. -/
theorem statements?_writeTables (path : List String) {entries : List (String × Item)}
    (hread : ∀ entry ∈ entries, ∀ rest sts, statements? rest = some sts →
      statements? (writeTable (path ++ [entry.1]) entry.2 ++ rest) =
        some (entry.2.statements.map (Statement.within (path ++ [entry.1])) ++ sts))
    {rest : List Char} {sts : List Statement} (hrest : statements? rest = some sts) :
    statements? (writeTables path entries ++ rest) =
      some ((tableStatements entries).map (Statement.within path) ++ sts) := by
  induction entries with
  | nil => exact hrest
  | cons entry entries ih =>
      obtain ⟨key, item⟩ := entry
      rw [List.forall_mem_cons] at hread
      rw [writeTables, tableStatements, List.map_append, Statement.map_within_within,
        List.append_assoc, List.append_assoc]
      exact hread.1 _ _ (ih hread.2)

/-- The statements of a table below some path. By induction on how deep its tables nest; each level
adds a part to the path. -/
theorem statements?_writeTable {depth : Nat} {item : Item} (hfits : item.Fits depth) (key : String)
    (path : List String) (hpath : path.length + 1 + depth ≤ depthLimit) {rest : List Char}
    {sts : List Statement} (hrest : statements? rest = some sts) :
    statements? (writeTable (key :: path) item ++ rest) =
      some (item.statements.map (Statement.within (key :: path)) ++ sts) := by
  induction depth generalizing item key path rest sts with
  | zero =>
      cases item with
      | table entries => cases hfits
      | _ => exact hrest
  | succ depth ih =>
      cases item with
      | table entries =>
          have htables := statements?_writeTables (key :: path)
            (fun entry hentry _ _ => ih (hfits.2 entry hentry) key (path ++ [entry.1])
              (by rw [List.length_append, List.length_singleton]; omega)) hrest
          rw [writeTable, statements]
          by_cases hheader : hasHeader entries = true
          · have hplain := statements?_writePlain
              (fun entry hentry => (hfits.2 entry hentry).inRange) htables
            have hread := statements?_header key path (by omega) hplain
            rw [if_pos hheader, if_pos hheader, List.map_append, List.map_cons,
              map_within_plainStatements]
            simpa [statements?_newline, Statement.within] using hread
          · rw [if_neg hheader, if_neg hheader]
            exact htables
      | _ => exact hrest

theorem statements?_write {entries : List (String × Item)}
    (hfits : (table entries).Fits depthLimit) :
    statements? (write entries) = some (plainStatements entries ++ tableStatements entries) := by
  have hend : statements? [] = some [] := by rw [statements?]; rfl
  have htables := statements?_writeTables []
    (fun entry hentry _ _ => statements?_writeTable (hfits.2 entry hentry) entry.1 [] (by decide))
    hend
  have hwithin : (tableStatements entries).map (Statement.within []) = tableStatements entries :=
    (List.map_congr_left fun st _ => st.within_nil).trans (List.map_id _)
  have hplain := statements?_writePlain
    (fun entry hentry => (hfits.2 entry hentry).inRange) htables
  rw [List.append_nil, List.append_nil, hwithin] at hplain
  rw [← hplain]
  unfold write
  dsimp only
  split
  · next heq => rw [heq, statements?_newline]
  · rfl

end Item

end ContainerFleet.Toml
