import ContainerFleet.Toml.Lexeme
import ContainerFleet.Toml.Writer

/-!
Texts and keys of a TOML document: what is written reads back. Main statements: `text?_writeText`
and `keyParts?_writePath`.

A text is written in one of four kinds of quotes. Between double quotes every character that could
end the text or be misread is escaped; between apostrophes nothing is, so such a text must not hold
what would end it.
-/

namespace ContainerFleet.Toml

/-! ### Escapes -/

theorem hexValue?_toUpper_digitChar (n : Nat) :
    Json.Reader.hexValue? (Nat.digitChar (n % 16)).toUpper = some (n % 16) := by
  have hdigits : ∀ m : Fin 16, Json.Reader.hexValue? (Nat.digitChar m).toUpper = some m.val := by
    decide
  exact hdigits ⟨n % 16, Nat.mod_lt n (by decide)⟩

/-- A character of the first 256 reads back from its code. -/
theorem scalar?_code {c : Char} (hc : c.toNat < 256) :
    scalar? ['0', '0', (Nat.digitChar (c.toNat / 16 % 16)).toUpper,
      (Nat.digitChar (c.toNat % 16)).toUpper] = some c := by
  have hzero : Json.Reader.hexValue? '0' = some 0 := rfl
  have hcode : ((0 * 16 + 0) * 16 + c.toNat / 16 % 16) * 16 + c.toNat % 16 = c.toNat := by omega
  have hvalid : c.toNat.isValidChar := c.valid
  simp only [scalar?, List.foldlM_cons, List.foldlM_nil, hzero, hexValue?_toUpper_digitChar,
    Option.map_some, Option.bind_eq_bind, Option.bind_some, Option.pure_def, hcode, if_pos hvalid,
    Char.ofNat_toNat]

/-- A character between double quotes is an escape that reads back, or stands for itself. -/
theorem escapeBasic_cases (keep : Bool) (c : Char) :
    (∃ code, escapeBasic keep c = '\\' :: code ∧ (∀ rest, escape? (code ++ rest) = some (c, rest)) ∧
      ∀ rest, skipLineBreak? (code ++ rest) = none) ∨
    (escapeBasic keep c = ['\n'] ∧ c = '\n' ∧ keep = true) ∨
    (escapeBasic keep c = [c] ∧ c ≠ '"' ∧ c ≠ '\\' ∧ isCommentChar c = true) := by
  unfold escapeBasic
  split
  · exact .inl ⟨['b'], rfl, fun _ => rfl, fun _ => rfl⟩
  · exact .inl ⟨['t'], rfl, fun _ => rfl, fun _ => rfl⟩
  · cases keep with
    | true => exact .inr (.inl ⟨rfl, rfl, rfl⟩)
    | false => exact .inl ⟨['n'], rfl, fun _ => rfl, fun _ => rfl⟩
  · exact .inl ⟨['f'], rfl, fun _ => rfl, fun _ => rfl⟩
  · exact .inl ⟨['r'], rfl, fun _ => rfl, fun _ => rfl⟩
  · exact .inl ⟨['"'], rfl, fun _ => rfl, fun _ => rfl⟩
  · exact .inl ⟨['\\'], rfl, fun _ => rfl, fun _ => rfl⟩
  · next hquote hbackslash =>
      split
      · next hcontrol =>
          refine .inl ⟨_, rfl, fun rest => ?_, fun _ => rfl⟩
          have hcode := scalar?_code (c := c) (by omega)
          simp [escape?, hcode]
      · next hplain =>
          refine .inr (.inr ⟨rfl, hquote, hbackslash, ?_⟩)
          rw [isCommentChar, Bool.or_eq_true, Bool.and_eq_true]
          exact .inr ⟨by simp; omega, by simp; omega⟩

/-! ### Texts between double quotes -/

theorem basicText?_escape {code rest tail : List Char} {c : Char}
    (hread : escape? (code ++ rest) = some (c, rest)) {s : List Char}
    (hrest : basicText? rest = some (s, tail)) :
    basicText? ('\\' :: (code ++ rest)) = some (c :: s, tail) := by
  rw [basicText?, hread]
  simp [hrest]

theorem basicText?_self {c : Char} (hquote : c ≠ '"') (hbackslash : c ≠ '\\')
    (hc : isCommentChar c = true) {rest s tail : List Char}
    (hrest : basicText? rest = some (s, tail)) :
    basicText? (c :: rest) = some (c :: s, tail) := by
  rw [basicText?, if_pos hc, hrest]
  · exact hquote
  · exact hbackslash

theorem basicText?_escaped (s rest : List Char) :
    basicText? (s.flatMap (escapeBasic false) ++ '"' :: rest) = some (s, rest) := by
  induction s with
  | nil => rw [List.flatMap_nil, List.nil_append, basicText?]
  | cons c s ih =>
      rw [List.flatMap_cons, List.append_assoc]
      rcases escapeBasic_cases false c with ⟨code, hcode, hread, -⟩ | ⟨-, -, hkeep⟩ |
        ⟨hself, hquote, hbackslash, hc⟩
      · rw [hcode]
        exact basicText?_escape (hread _) ih
      · cases hkeep
      · rw [hself]
        exact basicText?_self hquote hbackslash hc ih

/-! ### Texts in three quotes -/

theorem newline?_eq_none {c : Char} (hc : isCommentChar c = true) (rest : List Char) :
    newline? (c :: rest) = none := by
  have hfeed : c ≠ '\n' := by rintro rfl; cases hc
  have hreturn : c ≠ '\r' := by rintro rfl; cases hc
  unfold newline?
  split
  · next h => exact absurd (List.cons.inj h).1 hfeed
  · next h => exact absurd (List.cons.inj h).1 hreturn
  · rfl

section LongText

variable {quote c : Char} {escapes : Bool} {rest s tail : List Char}

/-- Up to two quotes and the three that close the text. -/
theorem longText?_quotes (hc : c ≠ quote) {n : Nat} (hn : n ≤ 2) :
    longText? quote escapes (List.replicate (n + 3) quote ++ c :: rest) =
      some (List.replicate n quote, c :: rest) := by
  have hcount : countQuotes quote (List.replicate (n + 3) quote ++ c :: rest) = n + 3 := by
    rw [countQuotes, List.takeWhile_append_of_pos (by simp)]
    simp [hc]
  have hdrop : (List.replicate (n + 3) quote ++ c :: rest).drop (n + 3) = c :: rest :=
    List.drop_left' List.length_replicate
  have hcons : List.replicate (n + 3) quote ++ c :: rest =
      quote :: (List.replicate (n + 2) quote ++ c :: rest) := by
    rw [List.replicate_succ, List.cons_append]
  rw [hcons] at hcount hdrop ⊢
  simp only [longText?, hcount, hdrop, if_true]
  rw [if_pos (by omega), if_pos (by omega), Nat.add_sub_cancel]

/-- A quote that fewer than two more follow is a part of the text. -/
theorem longText?_quote (hcount : countQuotes quote (quote :: rest) < 3)
    (hrest : longText? quote escapes rest = some (s, tail)) :
    longText? quote escapes (quote :: rest) = some (quote :: s, tail) := by
  simp only [longText?, if_true, hrest, if_neg (Nat.not_le.2 hcount), Nat.le_refl,
    List.singleton_append]

theorem longText?_self (hquote : c ≠ quote) (hbackslash : escapes = true → c ≠ '\\')
    (hc : isCommentChar c = true) (hrest : longText? quote escapes rest = some (s, tail)) :
    longText? quote escapes (c :: rest) = some (c :: s, tail) := by
  have hescape : (escapes && decide (c = '\\')) = false := by
    cases escapes with
    | true => simpa using hbackslash rfl
    | false => rfl
  simp only [longText?, if_neg hquote, hescape, newline?_eq_none hc, hc, hrest, Nat.le_refl,
    Bool.false_eq_true, if_true, if_false, List.singleton_append]

theorem longText?_newline (hquote : '\n' ≠ quote)
    (hrest : longText? quote escapes rest = some (s, tail)) :
    longText? quote escapes ('\n' :: rest) = some ('\n' :: s, tail) := by
  have hescape : (escapes && decide ('\n' = '\\')) = false := by cases escapes <;> rfl
  simp only [longText?, if_neg hquote, hescape, newline?, hrest, Nat.le_refl, Bool.false_eq_true,
    if_true, if_false, List.singleton_append]

theorem longText?_escape {code : List Char} (hquote : '\\' ≠ quote)
    (hread : escape? (code ++ rest) = some (c, rest))
    (hbreak : skipLineBreak? (code ++ rest) = none)
    (hrest : longText? quote true rest = some (s, tail)) :
    longText? quote true ('\\' :: (code ++ rest)) = some (c :: s, tail) := by
  simp only [longText?, if_neg hquote, Bool.true_and, decide_true, if_true, hbreak, hread, hrest]
  simp

end LongText

theorem longText?_escaped {c : Char} (hc : c ≠ '"') (s rest : List Char) :
    longText? '"' true (s.flatMap (escapeBasic true) ++ '"' :: '"' :: '"' :: c :: rest) =
      some (s, c :: rest) := by
  induction s with
  | nil => exact longText?_quotes hc (Nat.zero_le 2)
  | cons d s ih =>
      rw [List.flatMap_cons, List.append_assoc]
      rcases escapeBasic_cases true d with ⟨code, hcode, hread, hbreak⟩ | ⟨hfeed, rfl, -⟩ |
        ⟨hself, hquote, hbackslash, hd⟩
      · rw [hcode]
        exact longText?_escape (by decide) (hread _) (hbreak _) ih
      · rw [hfeed]
        exact longText?_newline (by decide) ih
      · rw [hself]
        exact longText?_self hquote (fun _ => hbackslash) hd ih

/-! ### Texts between apostrophes -/

theorem literalText?_closed {s : List Char} (h : ∀ c ∈ s, isCommentChar c = true ∧ c ≠ '\'')
    (rest : List Char) : literalText? (s ++ '\'' :: rest) = some (s, rest) := by
  induction s with
  | nil => rfl
  | cons c s ih =>
      rw [List.forall_mem_cons] at h
      rw [List.cons_append, literalText?, if_pos h.1.1, ih h.2]
      · rfl
      · exact h.1.2

/-- Characters that may stand between three apostrophes. -/
theorem isCommentChar_of_not_needsEscape {c : Char} (h : needsEscape c = false) (hc : c ≠ '\n') :
    isCommentChar c = true := by
  simp only [needsEscape, bne, Bool.and_eq_false_iff, Bool.or_eq_false_iff, Bool.not_eq_false',
    beq_iff_eq, decide_eq_false_iff_not, Nat.not_lt] at h
  rcases h with (⟨hlow, hdelete⟩ | htab) | hfeed
  · rw [isCommentChar, Bool.or_eq_true, Bool.and_eq_true]
    exact .inr ⟨decide_eq_true hlow, by simpa using hdelete⟩
  · subst htab
    rfl
  · exact absurd hfeed hc

/-- By cases of how many apostrophes stand at the front: with three closing ones behind them they
are told apart from these by their number. -/
theorem longText?_literal {s : List Char} (h : ∀ c ∈ s, needsEscape c = false)
    (hthree : hasThreeApostrophes s = false) {c : Char} (hc : c ≠ '\'') (rest : List Char) :
    longText? '\'' false (s ++ '\'' :: '\'' :: '\'' :: c :: rest) = some (s, c :: rest) := by
  fun_induction hasThreeApostrophes s with
  | case1 => cases hthree
  | case2 d s hnot ih =>
      rw [List.forall_mem_cons] at h
      have hrest := ih h.2 hthree
      by_cases hd : d = '\''
      · subst hd
        rcases s with _ | ⟨e, s⟩
        · exact longText?_quotes (n := 1) hc (by decide)
        · by_cases he : e = '\''
          · subst he
            rcases s with _ | ⟨f, s⟩
            · exact longText?_quotes (n := 2) hc (by decide)
            · have hf : f ≠ '\'' := by rintro rfl; exact hnot s rfl rfl
              exact longText?_quote (by simp [countQuotes, hf]) hrest
          · exact longText?_quote (by simp [countQuotes, he]) hrest
      · by_cases hfeed : d = '\n'
        · subst hfeed
          exact longText?_newline (by decide) hrest
        · exact longText?_self hd (fun hescapes => by cases hescapes)
            (isCommentChar_of_not_needsEscape h.1 hfeed) hrest
  | case3 => exact longText?_quotes hc (Nat.zero_le 2)

/-! ### Texts as values -/

theorem skipNewline_eq_self {c : Char} (hc : isCommentChar c = true) (s : List Char) :
    skipNewline (c :: s) = c :: s := by
  rw [skipNewline, newline?_eq_none hc, Option.getD_none]

theorem text?_basic {s : List Char} (h : ∀ t, s ≠ '"' :: '"' :: t) :
    text? ('"' :: s) = basicText? s := by
  unfold text?
  split
  · next heq => exact absurd (List.cons.inj heq).2 (h _)
  · next heq => cases (List.cons.inj heq).1
  · next heq => rw [(List.cons.inj heq).2]
  · next heq => cases (List.cons.inj heq).1
  · next _ _ hbasic _ => exact absurd rfl (hbasic s)

theorem text?_literal {s : List Char} (h : ∀ t, s ≠ '\'' :: '\'' :: t) :
    text? ('\'' :: s) = literalText? s := by
  unfold text?
  split
  · next heq => cases (List.cons.inj heq).1
  · next heq => exact absurd (List.cons.inj heq).2 (h _)
  · next heq => cases (List.cons.inj heq).1
  · next heq => rw [(List.cons.inj heq).2]
  · next hother => exact absurd rfl (hother s)

/-- The text is empty, or its first character is no quote any more. -/
theorem escaped_ne_quotes (s : List Char) {c : Char} (hc : c ≠ '"') (rest t : List Char) :
    s.flatMap (escapeBasic false) ++ '"' :: c :: rest ≠ '"' :: '"' :: t := by
  intro heq
  cases s with
  | nil => exact hc (List.cons.inj (List.cons.inj heq).2).1
  | cons d s =>
      rw [List.flatMap_cons, List.append_assoc] at heq
      rcases escapeBasic_cases false d with ⟨code, hcode, -⟩ | ⟨-, -, hkeep⟩ | ⟨hself, hquote, -⟩
      · rw [hcode] at heq
        cases (List.cons.inj heq).1
      · cases hkeep
      · rw [hself] at heq
        exact hquote (List.cons.inj heq).1

/-- What `prefersLiteral` asks of a text. -/
theorem prefersLiteral_eq_true_iff {s : List Char} :
    prefersLiteral s = true ↔ (∃ c ∈ s, c = '"' ∨ c = '\\') ∧
      (∀ c ∈ s, needsEscape c = false) ∧ hasThreeApostrophes s = false := by
  simp [prefersLiteral, and_assoc]

theorem text?_writeText_literal {s : List Char} (hs : prefersLiteral s = true) (rest : List Char) :
    text? (writeText s ++ '\n' :: rest) = some (s, '\n' :: rest) := by
  obtain ⟨⟨c, hmem, hc⟩, hplain, hthree⟩ := prefersLiteral_eq_true_iff.1 hs
  have hread := longText?_literal hplain hthree (c := '\n') (by decide) rest
  rw [writeText, if_pos hs]
  by_cases hlong : s.contains '\n' = true
  · rw [if_pos hlong, List.append_assoc, List.append_assoc]
    exact hread
  have hcomment (d : Char) (hd : d ∈ s) : isCommentChar d = true :=
    isCommentChar_of_not_needsEscape (hplain d hd) (by rintro rfl; exact hlong (by simpa using hd))
  rw [if_neg hlong]
  by_cases happ : s.contains '\'' = true
  · rw [if_pos happ, List.append_assoc, List.append_assoc]
    change longText? '\'' false (skipNewline (s ++ '\'' :: '\'' :: '\'' :: '\n' :: rest)) = _
    cases s with
    | nil => cases hmem
    | cons d s =>
        rw [List.cons_append, skipNewline_eq_self (hcomment d List.mem_cons_self)]
        exact hread
  · rw [if_neg happ, List.cons_append, List.cons_append, List.append_assoc]
    have hnone (d : Char) (hd : d ∈ s) : d ≠ '\'' := by
      rintro rfl
      exact happ (by simpa using hd)
    change text? ('\'' :: (s ++ '\'' :: '\n' :: rest)) = _
    rw [text?_literal]
    · exact literalText?_closed (fun d hd => ⟨hcomment d hd, hnone d hd⟩) _
    · intro t heq
      cases s with
      | nil => cases hmem
      | cons d s => exact hnone d List.mem_cons_self (List.cons.inj heq).1

/-- A text reads back from the end of a line. -/
theorem text?_writeText (s rest : List Char) :
    text? (writeText s ++ '\n' :: rest) = some (s, '\n' :: rest) := by
  by_cases hs : prefersLiteral s = true
  · exact text?_writeText_literal hs rest
  rw [writeText, if_neg hs]
  by_cases hlong : s.contains '\n' = true
  · rw [if_pos hlong, List.append_assoc, List.append_assoc]
    exact longText?_escaped (c := '\n') (by decide) s rest
  · rw [if_neg hlong, List.cons_append, List.cons_append, List.append_assoc]
    change text? ('"' :: (s.flatMap (escapeBasic false) ++ '"' :: '\n' :: rest)) = _
    rw [text?_basic (escaped_ne_quotes s (by decide) rest), basicText?_escaped]

/-! ### Keys -/

theorem keyPart?_bare {part : List Char} (hne : part ≠ []) (hbare : part.all isBareChar = true)
    {c : Char} (hc : isBareChar c = false) (rest : List Char) :
    keyPart? (part ++ c :: rest) = some (part, c :: rest) := by
  have hpart := List.all_eq_true.1 hbare
  have htake : (part ++ c :: rest).takeWhile isBareChar = part := by
    rw [List.takeWhile_append_of_pos hpart]
    simp [hc]
  have hdrop : (part ++ c :: rest).dropWhile isBareChar = c :: rest := by
    rw [List.dropWhile_append_of_pos hpart]
    simp [hc]
  cases part with
  | nil => exact absurd rfl hne
  | cons d part =>
      have hd := hpart d List.mem_cons_self
      unfold keyPart?
      rw [List.cons_append] at htake hdrop ⊢
      split
      · next heq =>
          obtain rfl := (List.cons.inj heq).1
          cases hd
      · next heq =>
          obtain rfl := (List.cons.inj heq).1
          cases hd
      · rw [htake, hdrop]

theorem keyPart?_writeKey (key : String) {c : Char} (hc : isBareChar c = false)
    (rest : List Char) : keyPart? (writeKey key ++ c :: rest) = some (key.toList, c :: rest) := by
  unfold writeKey
  by_cases hbare : (!key.toList.isEmpty && key.toList.all isBareChar) = true
  · rw [if_pos hbare]
    rw [Bool.and_eq_true, Bool.not_eq_true', List.isEmpty_eq_false_iff] at hbare
    exact keyPart?_bare hbare.1 hbare.2 hc rest
  rw [if_neg hbare]
  by_cases hliteral : (key.toList.any (fun c => c == '"' || c == '\\') &&
      key.toList.all (fun c => isCommentChar c && c != '\'')) = true
  · rw [if_pos hliteral, List.cons_append, List.cons_append, List.append_assoc]
    rw [Bool.and_eq_true, List.all_eq_true] at hliteral
    exact literalText?_closed (fun d hd => by simpa using hliteral.2 d hd) _
  · rw [if_neg hliteral, List.cons_append, List.cons_append, List.append_assoc]
    exact basicText?_escaped key.toList (c :: rest)

/-- How a part of a key may start: not with a blank, a bracket or the mark of a comment. -/
def isKeyStart (c : Char) : Bool :=
  isBareChar c || c == '"' || c == '\''

theorem exists_writeKey_eq_cons (key : String) :
    ∃ c rest, writeKey key = c :: rest ∧ isKeyStart c = true := by
  unfold writeKey
  dsimp only
  split
  · next hbare =>
      cases hkey : key.toList with
      | nil => simp [hkey] at hbare
      | cons c rest => exact ⟨c, rest, rfl, by simp_all [isKeyStart]⟩
  · split
    · exact ⟨_, _, rfl, rfl⟩
    · exact ⟨_, _, rfl, rfl⟩

theorem writePath_cons_cons (key next : String) (path : List String) :
    writePath (key :: next :: path) = writeKey key ++ '.' :: writePath (next :: path) := by
  simp [writePath, List.intercalate_cons_cons]

theorem writePath_singleton (key : String) : writePath [key] = writeKey key := by
  simp [writePath]

theorem exists_writePath_eq_cons (key : String) (path : List String) :
    ∃ c rest, writePath (key :: path) = c :: rest ∧ isKeyStart c = true := by
  obtain ⟨c, rest, hcons, hc⟩ := exists_writeKey_eq_cons key
  cases path with
  | nil => exact ⟨c, rest, by rw [writePath_singleton, hcons], hc⟩
  | cons next path => exact ⟨c, _, by rw [writePath_cons_cons, hcons]; rfl, hc⟩

theorem isSpace_of_isKeyStart {c : Char} (h : isKeyStart c = true) : isSpace c = false := by
  rw [Bool.eq_false_iff]
  intro hspace
  rw [isSpace, Bool.or_eq_true, beq_iff_eq, beq_iff_eq] at hspace
  rcases hspace with rfl | rfl <;> cases h

theorem skipSpace_cons {c : Char} (h : isSpace c = false) (s : List Char) :
    skipSpace (c :: s) = c :: s :=
  List.dropWhile_cons_of_neg (by simp [h])

theorem skipSpace_writeKey (key : String) (rest : List Char) :
    skipSpace (writeKey key ++ rest) = writeKey key ++ rest := by
  obtain ⟨c, more, heq, hc⟩ := exists_writeKey_eq_cons key
  rw [heq, List.cons_append, skipSpace_cons (isSpace_of_isKeyStart hc)]

/-- A path reads back up to a character that stands in no key, with blanks in front of it or not. By
induction on the parts that follow the first. -/
theorem keyParts?_writePath (key : String) (path : List String) {c d : Char} {rest tail : List Char}
    (hc : isBareChar c = false) (hrest : skipSpace (c :: rest) = d :: tail) (hd : d ≠ '.') :
    keyParts? (writePath (key :: path) ++ c :: rest) = some (key :: path, d :: tail) := by
  induction path generalizing key with
  | nil =>
      rw [writePath_singleton, keyParts?, skipSpace_writeKey, keyPart?_writeKey key hc]
      simp only [hrest, String.ofList_toList]
      split
      · next heq => exact absurd (List.cons.inj heq).1 hd
      · rfl
  | cons next path ih =>
      rw [writePath_cons_cons, List.append_assoc, List.cons_append, keyParts?, skipSpace_writeKey,
        keyPart?_writeKey key (by decide)]
      have hlength : (writePath (next :: path) ++ c :: rest).length <
          (writeKey key ++ '.' :: (writePath (next :: path) ++ c :: rest)).length := by
        simp only [List.length_append, List.length_cons]
        omega
      simp only [skipSpace_cons (show isSpace '.' = false from rfl), if_pos hlength, ih next,
        String.ofList_toList]

end ContainerFleet.Toml
