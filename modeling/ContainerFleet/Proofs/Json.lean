import ContainerFleet.Json.Reader
import ContainerFleet.Json.Writer

/-!
JSON text: what is written reads back. Main statement: `parse?_indent`, for values that are made of
texts.
-/

namespace ContainerFleet.Json

namespace Reader

theorem hexValue?_hexDigit (n : Nat) : hexValue? (hexDigit n) = some (n % 16) := by
  have hdigits : ∀ m : Fin 16, hexValue? (Nat.digitChar m) = some m.val := by decide
  exact hdigits ⟨n % 16, Nat.mod_lt n (by decide)⟩

/-- A control character reads back from its code. -/
theorem unicodeEscape?_control {c : Char} (hc : c.toNat < 0x20) (rest : List Char) :
    unicodeEscape? ('0' :: '0' :: hexDigit (c.toNat / 16) :: hexDigit c.toNat :: rest) =
      some (c, rest) := by
  have hzero : hexValue? '0' = some 0 := rfl
  have hcode : ((0 * 16 + 0) * 16 + c.toNat / 16 % 16) * 16 + c.toNat % 16 = c.toNat := by omega
  have hunit : unit? ('0' :: '0' :: hexDigit (c.toNat / 16) :: hexDigit c.toNat :: rest) =
      some (c.toNat, rest) := by
    simp only [unit?, hzero, hexValue?_hexDigit, Option.bind_eq_bind, Option.bind_some, hcode]
    rfl
  have hhigh : ¬ (0xd800 ≤ c.toNat ∧ c.toNat < 0xdc00) := by omega
  have hlow : ¬ (0xdc00 ≤ c.toNat ∧ c.toNat < 0xe000) := by omega
  rw [unicodeEscape?, hunit]
  simp [hhigh, hlow]

/-- A character is quoted by an escape that reads back, or stands for itself. -/
theorem escape_cases (c : Char) :
    (∃ code, escape c = '\\' :: code ∧ ∀ rest, escape? (code ++ rest) = some (c, rest)) ∨
      (escape c = [c] ∧ c ≠ '"' ∧ c ≠ '\\' ∧ ¬ c.toNat < 0x20) := by
  unfold escape
  split
  · exact .inl ⟨['"'], rfl, fun _ => rfl⟩
  · exact .inl ⟨['\\'], rfl, fun _ => rfl⟩
  · exact .inl ⟨['b'], rfl, fun _ => rfl⟩
  · exact .inl ⟨['f'], rfl, fun _ => rfl⟩
  · exact .inl ⟨['n'], rfl, fun _ => rfl⟩
  · exact .inl ⟨['r'], rfl, fun _ => rfl⟩
  · exact .inl ⟨['t'], rfl, fun _ => rfl⟩
  · next hquote hbackslash _ _ _ _ _ =>
      split
      · next hcontrol => exact .inl ⟨_, rfl, unicodeEscape?_control hcontrol⟩
      · next hplain => exact .inr ⟨rfl, hquote, hbackslash, hplain⟩

/-- A quoted text reads back. By induction on the text: one character is read at a time, and its
escape is longer than nothing. -/
theorem quoted?_escaped (s rest : List Char) :
    quoted? (s.flatMap escape ++ '"' :: rest) = some (s, rest) := by
  induction s with
  | nil =>
      rw [List.flatMap_nil, List.nil_append, quoted?]
  | cons c s ih =>
      rw [List.flatMap_cons, List.append_assoc]
      rcases escape_cases c with ⟨code, hcode, hread⟩ | ⟨hself, hquote, hbackslash, hplain⟩
      · rw [hcode, List.cons_append, quoted?, hread]
        simp [ih]
      · rw [hself, List.singleton_append, quoted?, if_neg hplain, ih]
        · exact hquote
        · exact hbackslash

theorem skipSpace_append {lead : List Char} (hlead : ∀ c ∈ lead, isSpace c = true)
    (s : List Char) : skipSpace (lead ++ s) = skipSpace s :=
  List.dropWhile_append_of_pos hlead

theorem isSpace_of_mem_breakLine {level : Nat} {c : Char} (h : c ∈ breakLine level) :
    isSpace c = true := by
  rcases List.mem_cons.1 h with rfl | h
  · rfl
  · rw [List.eq_of_mem_replicate h]
    rfl

section Members

variable {β : Type} {member : Read β} {members : Read (List β)} {write : β → List Char}
  {close : Char} {pad closing rest : List Char}

/-- A sequence of members with commas between them reads back, when each member does. By induction
on the members that follow the first. -/
theorem members_written
    (hlast : ∀ s v r t, member s = some (v, r) → skipSpace r = close :: t →
      members s = some ([v], t))
    (hmore : ∀ s v r t vs u, member s = some (v, r) → skipSpace r = ',' :: t →
      t.length < s.length → members t = some (vs, u) → members s = some (v :: vs, u))
    (hskip : ∀ lead s, (∀ c ∈ lead, isSpace c = true) → member (lead ++ s) = member s)
    (hpad : ∀ c ∈ pad, isSpace c = true) (hclosing : skipSpace closing = close :: rest)
    {v : β} {vs : List β} (hread : ∀ w ∈ v :: vs, ∀ r, member (write w ++ r) = some (w, r))
    {lead : List Char} (hlead : ∀ c ∈ lead, isSpace c = true) :
    members (lead ++ (write v ++ (vs.flatMap (fun w => ',' :: (pad ++ write w)) ++ closing))) =
      some (v :: vs, rest) := by
  have hfirst (r : List Char) : member (lead ++ (write v ++ r)) = some (v, r) := by
    rw [hskip lead _ hlead]
    exact hread v List.mem_cons_self r
  induction vs generalizing v lead with
  | nil => exact hlast _ _ _ _ (hfirst _) hclosing
  | cons w ws ih =>
      rw [List.forall_mem_cons] at hread
      have hnext (r : List Char) : member (pad ++ (write w ++ r)) = some (w, r) := by
        rw [hskip pad _ hpad]
        exact hread.2 w List.mem_cons_self r
      refine hmore _ _ _ _ _ _ (hfirst _) ?_ ?_ (ih hread.2 hpad hnext)
      · simp [skipSpace, isSpace]
      · simp only [List.length_append, List.flatMap_cons, List.length_cons]
        omega

end Members

section Values

variable {item : Read Json} {v : Json} {vs : List Json} {s r t u : List Char}

theorem items?_last (hitem : item (skipSpace s) = some (v, r)) (hr : skipSpace r = ']' :: t) :
    items? item s = some ([v], t) := by
  rw [items?, hitem]
  simp only [hr]

theorem items?_more (hitem : item (skipSpace s) = some (v, r)) (hr : skipSpace r = ',' :: t)
    (hlength : t.length < s.length) (hvs : items? item t = some (vs, u)) :
    items? item s = some (v :: vs, u) := by
  rw [items?, hitem]
  simp only [hr, if_pos hlength, hvs]

variable {entry : String × Json} {entries : List (String × Json)}

theorem fields?_last (hentry : field? item s = some (entry, r)) (hr : skipSpace r = '\x7d' :: t) :
    fields? item s = some ([entry], t) := by
  rw [fields?, hentry]
  simp only [hr]

theorem fields?_more (hentry : field? item s = some (entry, r)) (hr : skipSpace r = ',' :: t)
    (hlength : t.length < s.length) (hentries : fields? item t = some (entries, u)) :
    fields? item s = some (entry :: entries, u) := by
  rw [fields?, hentry]
  simp only [hr, if_pos hlength, hentries]

end Values

end Reader

/-- A value that is made of texts, and nests less deep than this. -/
def OfTexts : Nat → Json → Prop
  | _, str _ => True
  | depth + 1, arr items => ∀ v ∈ items, OfTexts depth v
  | depth + 1, obj fields => ∀ entry ∈ fields, OfTexts depth entry.2
  | _, _ => False

/-- A field of an object as it is written. -/
def writeField (level : Nat) (entry : String × Json) : List Char :=
  quote entry.1 ++ ':' :: ' ' :: indent level entry.2

theorem indentItems_eq_map (level : Nat) (items : List Json) :
    indentItems level items = items.map (indent level) := by
  induction items with
  | nil => rfl
  | cons v items ih => rw [indentItems, ih, List.map_cons]

theorem indentFields_eq_map (level : Nat) (fields : List (String × Json)) :
    indentFields level fields = fields.map (writeField level) := by
  induction fields with
  | nil => rfl
  | cons entry fields ih =>
      rw [indentFields, ih, List.map_cons]
      rfl

theorem intercalate_comma_cons (x : List Char) (xs : List (List Char)) :
    List.intercalate [','] (x :: xs) = x ++ xs.flatMap (',' :: ·) := by
  induction xs generalizing x with
  | nil => simp
  | cons y ys ih => rw [List.intercalate_cons_cons, ih]; simp

/-- An array or object that has members, and what follows it. -/
theorem bracket_cons_append (level : Nat) (opening closing : Char) {β : Type}
    (write : β → List Char) (v : β) (vs : List β) (rest : List Char) :
    bracket level opening closing ((v :: vs).map write) ++ rest =
      opening :: (breakLine (level + 1) ++ (write v ++
        (vs.flatMap (fun u => ',' :: (breakLine (level + 1) ++ write u)) ++
          (breakLine level ++ closing :: rest)))) := by
  rw [List.map_cons, bracket, List.map_cons, intercalate_comma_cons]
  · simp [List.flatMap_map]
  · simp

namespace Reader

variable {depth : Nat} {v : Json}

theorem quote_append (s : String) (rest : List Char) :
    quote s ++ rest = '"' :: (s.toList.flatMap escape ++ '"' :: rest) := by
  simp [quote]

theorem value?_quote (depth : Nat) (s : String) (rest : List Char) :
    value? depth (quote s ++ rest) = some (str s, rest) := by
  rw [quote_append]
  cases depth <;> simp [value?, quoted?_escaped]

theorem exists_indent_eq_cons (h : OfTexts depth v) (level : Nat) :
    ∃ c more, indent level v = c :: more ∧ (c = '"' ∨ c = '[' ∨ c = '\x7b') := by
  cases v with
  | str s => exact ⟨_, _, rfl, .inl rfl⟩
  | arr items => cases items <;> exact ⟨_, _, rfl, .inr (.inl rfl)⟩
  | obj fields => cases fields <;> exact ⟨_, _, rfl, .inr (.inr rfl)⟩
  | _ => cases depth <;> cases h

/-- No blank stands in front of a value that is written. -/
theorem skipSpace_indent (h : OfTexts depth v) (level : Nat) (rest : List Char) :
    skipSpace (indent level v ++ rest) = indent level v ++ rest := by
  obtain ⟨c, more, heq, hc⟩ := exists_indent_eq_cons h level
  rw [heq, List.cons_append]
  rcases hc with rfl | rfl | rfl <;> rfl

theorem skipSpace_breakLine (level : Nat) (s : List Char) :
    skipSpace (breakLine level ++ s) = skipSpace s :=
  skipSpace_append (fun _ => isSpace_of_mem_breakLine) s

theorem skipSpace_writeField (level : Nat) (entry : String × Json) (rest : List Char) :
    skipSpace (writeField level entry ++ rest) = writeField level entry ++ rest := by
  rw [writeField, List.append_assoc, quote_append]
  rfl

theorem field?_writeField {item : Read Json} {entry : String × Json} {level : Nat}
    (h : OfTexts depth entry.2)
    (hread : ∀ r, item (indent level entry.2 ++ r) = some (entry.2, r)) (rest : List Char) :
    field? item (writeField level entry ++ rest) = some (entry, rest) := by
  have hcolon (s : List Char) : skipSpace (':' :: s) = ':' :: s := rfl
  have hvalue : skipSpace (' ' :: (indent level entry.2 ++ rest)) = indent level entry.2 ++ rest :=
    skipSpace_indent h level rest
  rw [field?, skipSpace_writeField, writeField, List.append_assoc, quote_append]
  simp only [List.cons_append, quoted?_escaped, Option.bind_eq_bind, Option.bind_some, hcolon,
    hvalue, hread, String.ofList_toList]
  rfl

theorem field?_append {item : Read Json} (lead s : List Char)
    (hlead : ∀ c ∈ lead, isSpace c = true) : field? item (lead ++ s) = field? item s := by
  rw [field?, field?, skipSpace_append hlead]

theorem items?_written {vs : List Json} {l : Nat} (hv : ∀ u ∈ v :: vs, OfTexts depth u)
    (hread : ∀ u ∈ v :: vs, ∀ r, value? depth (indent l u ++ r) = some (u, r)) (level : Nat)
    (rest : List Char) :
    items? (value? depth) (indent l v ++
        (vs.flatMap (fun u => ',' :: (breakLine l ++ indent l u)) ++
          (breakLine level ++ ']' :: rest))) = some (v :: vs, rest) := by
  have hmember : ∀ u ∈ v :: vs, ∀ r, value? depth (skipSpace (indent l u ++ r)) = some (u, r) := by
    intro u hu r
    rw [skipSpace_indent (hv u hu), hread u hu r]
  exact members_written (fun _ _ _ _ => items?_last) (fun _ _ _ _ _ _ => items?_more)
    (fun lead s hlead => by rw [skipSpace_append hlead]) (fun _ => isSpace_of_mem_breakLine)
    (skipSpace_breakLine level (']' :: rest)) hmember (List.forall_mem_nil _)

theorem fields?_written {entry : String × Json} {entries : List (String × Json)} {l : Nat}
    (hv : ∀ e ∈ entry :: entries, OfTexts depth e.2)
    (hread : ∀ e ∈ entry :: entries, ∀ r, value? depth (indent l e.2 ++ r) = some (e.2, r))
    (level : Nat) (rest : List Char) :
    fields? (value? depth) (writeField l entry ++
        (entries.flatMap (fun e => ',' :: (breakLine l ++ writeField l e)) ++
          (breakLine level ++ '\x7d' :: rest))) = some (entry :: entries, rest) := by
  have hmember : ∀ e ∈ entry :: entries, ∀ r,
      field? (value? depth) (writeField l e ++ r) = some (e, r) :=
    fun e he => field?_writeField (hv e he) (hread e he)
  exact members_written (fun _ _ _ _ => fields?_last) (fun _ _ _ _ _ _ => fields?_more)
    field?_append (fun _ => isSpace_of_mem_breakLine) (skipSpace_breakLine level ('\x7d' :: rest))
    hmember (List.forall_mem_nil _)

theorem value?_arr {s t : List Char} (hs : skipSpace s = t) (ht : ∀ more, t ≠ ']' :: more) :
    value? (depth + 1) ('[' :: s) =
      (items? (value? depth) t).map fun found => (arr found.1, found.2) := by
  simp only [value?, hs]

theorem value?_obj {s t : List Char} (hs : skipSpace s = t) (ht : ∀ more, t ≠ '\x7d' :: more) :
    value? (depth + 1) ('\x7b' :: s) =
      (fields? (value? depth) t).map fun found => (obj found.1, found.2) := by
  simp only [value?, hs]

theorem indent_append_ne (h : OfTexts depth v) (level : Nat) (rest more : List Char) :
    indent level v ++ rest ≠ ']' :: more := by
  obtain ⟨c, t, heq, hc⟩ := exists_indent_eq_cons h level
  rw [heq, List.cons_append]
  intro hcons
  obtain ⟨rfl, -⟩ := List.cons.inj hcons
  revert hc
  decide

theorem writeField_append_ne (level : Nat) (entry : String × Json) (rest more : List Char) :
    writeField level entry ++ rest ≠ '\x7d' :: more := by
  rw [writeField, List.append_assoc, quote_append]
  intro hcons
  cases (List.cons.inj hcons).1

/-- A value that is made of texts reads back, wherever it stands. By induction on the depth: the
members of an array or object nest one less deep. -/
theorem value?_indent (h : OfTexts depth v) (level : Nat) (rest : List Char) :
    value? depth (indent level v ++ rest) = some (v, rest) := by
  induction depth generalizing v level rest with
  | zero =>
      cases v with
      | str s => exact value?_quote 0 s rest
      | _ => cases h
  | succ depth ih =>
      cases v with
      | str s => exact value?_quote _ s rest
      | arr items =>
          cases items with
          | nil => rfl
          | cons v vs =>
              have hv : OfTexts depth v := h v List.mem_cons_self
              have hskip (r : List Char) :
                  skipSpace (breakLine (level + 1) ++ (indent (level + 1) v ++ r)) =
                    indent (level + 1) v ++ r := by
                rw [skipSpace_breakLine, skipSpace_indent hv]
              rw [indent, indentItems_eq_map, bracket_cons_append,
                value?_arr (hskip _) (indent_append_ne hv _ _),
                items?_written h fun u hu => ih (h u hu) _]
              rfl
      | obj fields =>
          cases fields with
          | nil => rfl
          | cons entry entries =>
              have hskip (r : List Char) :
                  skipSpace (breakLine (level + 1) ++ (writeField (level + 1) entry ++ r)) =
                    writeField (level + 1) entry ++ r := by
                rw [skipSpace_breakLine, skipSpace_writeField]
              rw [indent, indentFields_eq_map, bracket_cons_append,
                value?_obj (hskip _) (writeField_append_ne _ entry _),
                fields?_written h fun e he => ih (h e he) _]
              rfl
      | _ => cases h

end Reader

/-- A value that is made of texts is what its text stands for. -/
theorem parse?_indent {v : Json} (h : OfTexts Reader.maxDepth v) :
    parse? (indent 0 v) = some v := by
  have hskip := Reader.skipSpace_indent h 0 []
  have hread := Reader.value?_indent h 0 []
  rw [List.append_nil] at hskip hread
  rw [parse?, hskip, hread]
  rfl

end ContainerFleet.Json
