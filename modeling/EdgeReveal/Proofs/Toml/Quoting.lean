import EdgeReveal.Toml.Printer
import EdgeReveal.Toml.Quoting
import Mathlib.Tactic.Common

/-!
# Written strings are read back

Every text is read back from what is written for it, in each of the four
styles. Behind a string stands a newline, so the quotes that end a text and
the quotes that close it are never followed by another one.
-/
namespace EdgeReveal.Toml

variable {multi : Bool} {c : Char} {more text rest : List Char}

theorem isTriple_of_ne {quote : Char} (other : c ≠ quote) : isTriple quote (c :: more) = false := by
  match more with
  | [] | [_] => rfl
  | _ :: _ :: _ => simp [isTriple, other]

theorem isPlain_of_not_isControl (control : isControl c = false) : isPlain c = true := by
  simp only [isControl, isPlain, Bool.or_eq_false_iff, decide_eq_false_iff_not] at *
  grind

theorem startsLine_of_isPlain (plain : isPlain c = true) : startsLine (c :: more) = false := by
  have newline : c ≠ '\n' := by rintro rfl; contradiction
  have carriage : c ≠ '\r' := by rintro rfl; contradiction
  simp [startsLine, newline, carriage]

section Escapes

/-! ## Characters of a basic string

One lemma for each way a character is written: it is read back in front of
whatever the rest is read as.
-/

theorem basicBody_raw (quote : c ≠ '"') (backslash : c ≠ '\\')
    (plain : isPlain c ∨ (multi ∧ startsLine (c :: more)))
    (body : basicBody multi .plain more = some (text, rest)) :
    basicBody multi .plain (c :: more) = some (c :: text, rest) := by
  simp [basicBody, quote, backslash, plain, isTriple_of_ne quote, body]

theorem basicBody_simple {mark : Char} (simple : simpleEscape? mark = some c)
    (body : basicBody multi .plain more = some (text, rest)) :
    basicBody multi .plain ('\\' :: mark :: more) = some (c :: text, rest) := by
  simp [basicBody, simple, body]

theorem hexValue?_digitChar : ∀ d < 16, Text.hexValue? (Nat.digitChar d).toUpper = some d := by
  decide

/-- Only characters below the surrogates are written by their number. -/
theorem basicBody_number (small : c.toNat < 0xD800)
    (body : basicBody multi .plain more = some (text, rest)) :
    basicBody multi .plain ('\\' :: 'u' :: (Text.hexDigits4 c.toNat ++ more)) =
      some (c :: text, rest) := by
  -- Four digits are enough, so the value that is gathered is the whole number.
  have digit (n : Nat) : Text.hexValue? (Nat.digitChar (n % 16)).toUpper = some (n % 16) :=
    hexValue?_digitChar _ (Nat.mod_lt _ (by decide))
  have value : ((c.toNat / 4096 % 16 * 16 + c.toNat / 256 % 16) * 16 + c.toNat / 16 % 16) * 16 +
      c.toNat % 16 = c.toNat := by omega
  have whole : scalar? c.toNat = some c := by simp [scalar?, small]
  simp [basicBody, simpleEscape?, numberDigits?, Text.hexDigits4, digit, value, whole, body]

theorem toNat_of_isControl (control : isControl c = true) : c.toNat < 0xD800 := by
  simp only [isControl, Bool.or_eq_true, decide_eq_true_eq, beq_iff_eq] at control
  obtain below | rfl := control
  · have : c.toNat < 32 := below
    omega
  · decide

/-- Whatever is escaped, and however, is read back. -/
theorem basicBody_escapeChar (quote : c ≠ '"')
    (body : basicBody multi .plain more = some (text, rest)) :
    basicBody multi .plain (escapeChar c ++ more) = some (c :: text, rest) := by
  unfold escapeChar
  split
  -- What has no letter of its own is escaped by its number or stands as it is.
  case h_6 backslash =>
    split
    case isTrue control => exact basicBody_number (toNat_of_isControl control) body
    case isFalse control =>
      have plain := isPlain_of_not_isControl (Bool.eq_false_iff.mpr control)
      exact basicBody_raw quote backslash (.inl plain) body
  all_goals exact basicBody_simple rfl body

/-- Nothing that is written for a character could end the string or the line. -/
theorem escapeChar_head (c : Char) :
    ∃ d written, escapeChar c = d :: written ∧ isPlain d = true ∧ (c ≠ '"' → d ≠ '"') := by
  unfold escapeChar
  split
  case h_6 =>
    split
    case isTrue => exact ⟨_, _, rfl, rfl, fun _ => by decide⟩
    case isFalse control =>
      exact ⟨c, [], rfl, isPlain_of_not_isControl (Bool.eq_false_iff.mpr control), id⟩
  all_goals exact ⟨_, _, rfl, rfl, fun _ => by decide⟩

end Escapes

section OneLine

/-! ## Strings of one line -/

theorem writeBasic_cons (quote : c ≠ '"') :
    writeBasic (c :: text) = escapeChar c ++ writeBasic text := by simp [writeBasic]

theorem basicBody_writeBasic (text rest : List Char) :
    basicBody false .plain (writeBasic text ++ '"' :: rest) = some (text, rest) := by
  induction text with
  | nil => simp [writeBasic, basicBody]
  | cons c text ih =>
    by_cases quote : c = '"'
    · subst quote
      exact basicBody_simple rfl ih
    · rw [writeBasic_cons quote, List.append_assoc]
      exact basicBody_escapeChar quote ih

theorem writeBasic_head (c : Char) (text : List Char) :
    ∃ d written, writeBasic (c :: text) = d :: written ∧ d ≠ '"' := by
  by_cases quote : c = '"'
  · subst quote
    exact ⟨_, _, rfl, by decide⟩
  · obtain ⟨d, written, escaped, -, other⟩ := escapeChar_head c
    exact ⟨d, _, by rw [writeBasic_cons quote, escaped, List.cons_append], other quote⟩

/-- Characters that no style without escapes refuses. -/
theorem isPlain_of_not_needsEscape (free : needsEscape c = false) :
    isPlain c = true ∨ c = '\n' := by
  by_cases control : isControl c = true
  · simp only [needsEscape, control, Bool.true_and, Bool.and_eq_false_iff] at free
    obtain tab | newline := free
    · obtain rfl : c = '\t' := by simpa using tab
      exact .inl rfl
    · exact .inr (by simpa using newline)
  · exact .inl (isPlain_of_not_isControl (Bool.eq_false_iff.mpr control))

theorem literalBody_raw (quote : c ≠ '\'') (plain : isPlain c ∨ (multi ∧ startsLine (c :: more)))
    (body : literalBody multi more = some (text, rest)) :
    literalBody multi (c :: more) = some (c :: text, rest) := by
  simp [literalBody, quote, plain, isTriple_of_ne quote, body]

theorem literalBody_single (quote : '\'' ∉ text) (plain : ∀ c ∈ text, isPlain c = true) :
    literalBody false (text ++ '\'' :: rest) = some (text, rest) := by
  induction text with
  | nil => simp [literalBody]
  | cons c text ih =>
    simp only [List.mem_cons, not_or, forall_eq_or_imp] at quote plain
    exact literalBody_raw (Ne.symm quote.1) (.inl plain.1) (ih quote.2 plain.2)

end OneLine

section Lines

/-! ## Strings over several lines -/

/-- The closing quotes, and the newline behind them. -/
def tripleEnd (quote : Char) (rest : List Char) : List Char :=
  quote :: quote :: quote :: '\n' :: rest

/-- At most so many quotes stand at the front, and behind them nothing or something else. What
is written without an escape keeps such rows, so the closing quotes are found. -/
inductive ShortRow (quote : Char) : Nat → List Char → Prop where
  | nil (n : Nat) : ShortRow quote n []
  | other {c : Char} (n : Nat) (text : List Char) (other : c ≠ quote) : ShortRow quote n (c :: text)
  | quote {n : Nat} {text : List Char} : ShortRow quote n text →
      ShortRow quote (n + 1) (quote :: text)

/-- Three quotes that begin inside a text are met only where a row of quotes is its end. -/
theorem ShortRow.ends {quote : Char} (row : ShortRow quote 2 text) (newline : quote ≠ '\n')
    (triple : isTriple quote (text ++ tripleEnd quote rest) = true) :
    (∀ c ∈ text, c = quote) ∧
      closing quote ((text ++ tripleEnd quote rest).drop 3) = (text, '\n' :: rest) := by
  -- A row that something else follows is no part of three; the others are closed behind them.
  cases row with
  | nil => cases rest <;> simp [closing, tripleEnd, newline.symm]
  | other _ _ other => simp [isTriple_of_ne other] at triple
  | quote row =>
    cases row with
    | nil => simp [closing, tripleEnd, newline.symm]
    | other _ text other => cases text <;> simp [isTriple, tripleEnd, other] at triple
    | quote row =>
      cases row with
      | nil => simp [closing, tripleEnd]
      | other _ _ other => simp [isTriple, other] at triple

theorem basicBody_triple (triple : isTriple '"' more = true) :
    basicBody true .plain more = some (closing '"' (more.drop 3)) := by
  match more, triple with
  | a :: b :: c :: more, triple =>
    obtain rfl : a = '"' := by simp only [isTriple, Bool.and_eq_true, beq_iff_eq] at triple; tauto
    simp [basicBody, triple]

theorem literalBody_triple (triple : isTriple '\'' more = true) :
    literalBody true more = some (closing '\'' (more.drop 3)) := by
  match more, triple with
  | a :: b :: c :: more, triple => simp [literalBody, triple]

/-- A quote that is not the first of three is read as it stands. -/
theorem basicBody_quote (triple : isTriple '"' ('"' :: more) = false)
    (body : basicBody true .plain more = some (text, rest)) :
    basicBody true .plain ('"' :: more) = some ('"' :: text, rest) := by
  have plain : isPlain '"' = true := by decide
  simp [basicBody, triple, plain, body]

theorem literalBody_quote (triple : isTriple '\'' ('\'' :: more) = false)
    (body : literalBody true more = some (text, rest)) :
    literalBody true ('\'' :: more) = some ('\'' :: text, rest) := by
  have plain : isPlain '\'' = true := by decide
  simp [literalBody, triple, plain, body]

theorem writeMultiBasic_cons (quotes : Nat) (quote : c ≠ '"') (newline : c ≠ '\n') :
    writeMultiBasic quotes (c :: text) = escapeChar c ++ writeMultiBasic 0 text := by
  simp [writeMultiBasic]

/-- The only quotes that stand as they are belong to a row not yet full. -/
theorem writeMultiBasic_head (quotes : Nat) (text : List Char) (full : c = '"' → quotes = 2) :
    ∃ d written, writeMultiBasic quotes (c :: text) = d :: written ∧ d ≠ '"' := by
  by_cases quote : c = '"'
  · subst quote
    exact ⟨_, _, by rw [writeMultiBasic, if_pos (full rfl)], by decide⟩
  by_cases newline : c = '\n'
  · subst newline
    exact ⟨_, _, rfl, by decide⟩
  · obtain ⟨d, written, escaped, -, other⟩ := escapeChar_head c
    exact ⟨d, _, by rw [writeMultiBasic_cons quotes quote newline, escaped, List.cons_append],
      other quote⟩

/-- `quotes` of the row stand before the text already, and a third one is escaped. -/
theorem writeMultiBasic_row (text : List Char) {n quotes : Nat} (few : quotes ≤ 2)
    (full : 2 ≤ n + quotes) : ShortRow '"' n (writeMultiBasic quotes text) := by
  induction text generalizing n quotes with
  | nil => exact .nil n
  | cons c text ih =>
    by_cases raw : c = '"' ∧ quotes ≠ 2
    · obtain ⟨rfl, room⟩ := raw
      rw [writeMultiBasic, if_neg room]
      cases n with
      | zero => omega
      | succ n => exact .quote (ih (by omega) (by omega))
    · obtain ⟨d, written, head, other⟩ :=
        writeMultiBasic_head quotes text (by tauto : c = '"' → quotes = 2)
      exact head ▸ .other n written other

/-- Where nothing but quotes is written, nothing is escaped. -/
theorem writeMultiBasic_eq_self {quotes : Nat}
    (row : ∀ d ∈ writeMultiBasic quotes text, d = '"') : writeMultiBasic quotes text = text := by
  induction text generalizing quotes with
  | nil => rfl
  | cons c text ih =>
    by_cases raw : c = '"' ∧ quotes ≠ 2
    · obtain ⟨rfl, room⟩ := raw
      rw [writeMultiBasic, if_neg room] at row ⊢
      rw [ih fun d mem => row d (.tail _ mem)]
    · obtain ⟨d, written, head, other⟩ :=
        writeMultiBasic_head quotes text (by tauto : c = '"' → quotes = 2)
      exact absurd (row d (head ▸ .head _)) other

theorem basicBody_writeMultiBasic (text rest : List Char) {quotes : Nat} (few : quotes ≤ 2) :
    basicBody true .plain (writeMultiBasic quotes text ++ tripleEnd '"' rest) =
      some (text, '\n' :: rest) := by
  induction text generalizing quotes with
  | nil =>
    have row : ShortRow '"' 2 [] := .nil 2
    exact (basicBody_triple rfl).trans (congrArg some (row.ends (by decide) rfl).2)
  | cons c text ih =>
    by_cases quote : c = '"'
    · subst quote
      by_cases full : quotes = 2
      · rw [writeMultiBasic, if_pos full]
        exact basicBody_simple rfl (ih (by omega))
      -- The quotes at the end of the text are read together with those that close it.
      by_cases triple : isTriple '"' (writeMultiBasic quotes ('"' :: text) ++ tripleEnd '"' rest)
      · have ⟨row, ends⟩ := (writeMultiBasic_row _ few (by omega)).ends (by decide) triple
        rw [basicBody_triple triple, ends, writeMultiBasic_eq_self row]
      · rw [writeMultiBasic, if_neg full] at triple ⊢
        exact basicBody_quote (Bool.eq_false_iff.mpr triple) (ih (by omega))
    by_cases newline : c = '\n'
    · subst newline
      exact basicBody_raw (by decide) (by decide) (.inr ⟨rfl, rfl⟩) (ih (by omega))
    · rw [writeMultiBasic_cons quotes quote newline, List.append_assoc]
      exact basicBody_escapeChar quote (ih (by omega))

theorem le_longestRow (mark : Char) (k : Nat) (text : List Char) : k ≤ longestRow mark k text := by
  induction text generalizing k with
  | nil => exact Nat.le_refl k
  | cons c text ih =>
    unfold longestRow
    split
    · exact Nat.le_of_succ_le (ih (k + 1))
    · exact Nat.le_max_left ..

theorem row_of_longestRow {mark : Char} (n k : Nat) (short : longestRow mark k text ≤ n + k) :
    ShortRow mark n text := by
  induction text generalizing n k with
  | nil => exact .nil n
  | cons c text ih =>
    by_cases same : c = mark
    · subst same
      rw [longestRow, if_pos rfl] at short
      have := le_longestRow c (k + 1) text
      cases n with
      | zero => omega
      | succ n => exact .quote (ih n (k + 1) (by omega))
    · exact .other n text same

/-- The counterpart without escapes: no row of the text is long enough to close it. -/
theorem literalBody_lines (rest : List Char) (k : Nat) (short : longestRow '\'' k text ≤ 2)
    (plain : ∀ c ∈ text, isPlain c = true ∨ c = '\n') :
    literalBody true (text ++ tripleEnd '\'' rest) = some (text, '\n' :: rest) := by
  induction text generalizing k with
  | nil =>
    have row : ShortRow '\'' 2 [] := .nil 2
    exact (literalBody_triple rfl).trans (congrArg some (row.ends (by decide) rfl).2)
  | cons c text ih =>
    have row : ShortRow '\'' 2 (c :: text) := row_of_longestRow 2 k (by omega)
    have others := fun d mem => plain d (List.mem_cons_of_mem c mem)
    unfold longestRow at short
    split at short
    case isTrue quote =>
      subst quote
      by_cases triple : isTriple '\'' ('\'' :: text ++ tripleEnd '\'' rest)
      · rw [literalBody_triple triple, (row.ends (by decide) triple).2]
      · exact literalBody_quote (Bool.eq_false_iff.mpr triple) (ih (k + 1) short others)
    case isFalse quote =>
      have allowed := plain c (.head _)
      refine literalBody_raw quote (allowed.imp_right ?_) (ih 0 (by omega) others)
      rintro rfl
      exact ⟨rfl, rfl⟩

/-- The newline that is dropped is the one that was put in front. -/
theorem skipFirstLine_firstLine {body : List Char}
    (starts : '\n' ∉ text → startsLine body = false) :
    skipFirstLine (firstLine text ++ body) = body := by
  by_cases lines : '\n' ∈ text
  · simp [firstLine, lines, skipFirstLine]
  · have := starts lines
    unfold firstLine skipFirstLine
    grind [startsLine]

theorem startsLine_writeMultiBasic (text rest : List Char) (lines : '\n' ∉ text) :
    startsLine (writeMultiBasic 0 text ++ tripleEnd '"' rest) = false := by
  match text with
  | [] => rfl
  | c :: text =>
    by_cases quote : c = '"'
    · subst quote
      rfl
    · have newline : c ≠ '\n' := by rintro rfl; simp at lines
      obtain ⟨d, written, escaped, plain, -⟩ := escapeChar_head c
      rw [writeMultiBasic_cons 0 quote newline, escaped]
      exact startsLine_of_isPlain plain

theorem startsLine_literal (rest : List Char) (lines : '\n' ∉ text)
    (plain : ∀ c ∈ text, isPlain c = true ∨ c = '\n') :
    startsLine (text ++ tripleEnd '\'' rest) = false := by
  match text with
  | [] => rfl
  | c :: text =>
    have newline : c ≠ '\n' := by rintro rfl; simp at lines
    exact startsLine_of_isPlain ((plain c (.head _)).resolve_right newline)

end Lines

section Styles

/-! ## The style of a text can hold it -/

theorem plain_of_not_any_needsEscape (free : text.any needsEscape = false) :
    ∀ c ∈ text, isPlain c = true ∨ c = '\n' := by
  intro c mem
  exact isPlain_of_not_needsEscape (by simpa using List.any_eq_false.mp free c mem)

theorem style_literal (chosen : style text = .literal) :
    (∀ c ∈ text, isPlain c = true ∨ c = '\n') ∧ longestRow '\'' 0 text = 0 ∧ '\n' ∉ text := by
  -- The second condition of `style` is the only one that picks this style.
  simp only [style, Bool.not_eq_true'] at chosen
  split_ifs at chosen with _ conditions
  exact ⟨plain_of_not_any_needsEscape conditions.1, conditions.2⟩

theorem style_multiLiteral (chosen : style text = .multiLiteral) :
    (∀ c ∈ text, isPlain c = true ∨ c = '\n') ∧ longestRow '\'' 0 text ≤ 2 := by
  simp only [style, Bool.not_eq_true'] at chosen
  split_ifs at chosen with _ _ _ conditions
  exact ⟨plain_of_not_any_needsEscape conditions.1, conditions.2⟩

theorem not_mem_of_longestRow {mark : Char} (none : longestRow mark 0 text = 0) : mark ∉ text := by
  induction text with
  | nil => exact List.not_mem_nil
  | cons c text ih =>
    unfold longestRow at none
    split at none
    case isTrue =>
      have := le_longestRow mark (0 + 1) text
      omega
    case isFalse other =>
      simp only [List.mem_cons, not_or]
      exact ⟨Ne.symm other, ih (by omega)⟩

theorem isTriple_quoted {quote : Char} {written : List Char} (rest : List Char)
    (newline : quote ≠ '\n')
    (starts : written = [] ∨ ∃ d more, written = d :: more ∧ d ≠ quote) :
    isTriple quote (quote :: (written ++ quote :: '\n' :: rest)) = false := by
  obtain rfl | ⟨d, more, rfl, other⟩ := starts
  · simp [isTriple, newline.symm]
  · cases more <;> simp [isTriple, other]

theorem string?_basic (text rest : List Char) :
    string? ('"' :: (writeBasic text ++ '"' :: '\n' :: rest)) = some (text, '\n' :: rest) := by
  have starts : writeBasic text = [] ∨ ∃ d more, writeBasic text = d :: more ∧ d ≠ '"' := by
    cases text with
    | nil => exact .inl rfl
    | cons c text => exact .inr (writeBasic_head c text)
  have triple := isTriple_quoted rest (by decide) starts
  have other : ('"' : Char) ≠ '\'' := by decide
  simp [string?, triple, isTriple_of_ne other, singleLine?, basicBody_writeBasic]

theorem string?_literal (quote : '\'' ∉ text) (plain : ∀ c ∈ text, isPlain c = true) :
    string? ('\'' :: (text ++ '\'' :: '\n' :: rest)) = some (text, '\n' :: rest) := by
  have starts : text = [] ∨ ∃ d more, text = d :: more ∧ d ≠ '\'' := by
    cases text with
    | nil => exact .inl rfl
    | cons c text => exact .inr ⟨c, text, rfl, by rintro rfl; simp at quote⟩
  have triple := isTriple_quoted rest (by decide) starts
  have other : ('\'' : Char) ≠ '"' := by decide
  simp [string?, triple, isTriple_of_ne other, singleLine?, literalBody_single quote plain]

theorem string?_multiBasic (text rest : List Char) :
    string? ('"' :: '"' :: '"' :: (firstLine text ++
      (writeMultiBasic 0 text ++ tripleEnd '"' rest))) = some (text, '\n' :: rest) := by
  have skip := skipFirstLine_firstLine (startsLine_writeMultiBasic text rest)
  have body := basicBody_writeMultiBasic text rest (Nat.zero_le 2)
  simp [string?, isTriple, skip, body]

theorem string?_multiLiteral (short : longestRow '\'' 0 text ≤ 2)
    (plain : ∀ c ∈ text, isPlain c = true ∨ c = '\n') :
    string? ('\'' :: '\'' :: '\'' :: (firstLine text ++ (text ++ tripleEnd '\'' rest))) =
      some (text, '\n' :: rest) := by
  have skip := skipFirstLine_firstLine fun lines => startsLine_literal rest lines plain
  have body := literalBody_lines rest 0 short plain
  simp [string?, isTriple, skip, body]

/-- Every text is read back from what is written for it. -/
theorem string?_writeString (text rest : List Char) :
    string? (writeString text ++ '\n' :: rest) = some (text, '\n' :: rest) := by
  cases chosen : style text with
  | basic => simpa [writeString, chosen] using string?_basic text rest
  | literal =>
    obtain ⟨plain, single, lines⟩ := style_literal chosen
    have quote : '\'' ∉ text := not_mem_of_longestRow single
    have plain : ∀ c ∈ text, isPlain c = true := fun c mem =>
      (plain c mem).resolve_right (by rintro rfl; exact lines mem)
    simpa [writeString, chosen] using string?_literal quote plain
  | multiBasic => simpa [writeString, chosen, tripleEnd] using string?_multiBasic text rest
  | multiLiteral =>
    obtain ⟨plain, single⟩ := style_multiLiteral chosen
    simpa [writeString, chosen, tripleEnd] using string?_multiLiteral single plain

/-- Of five quotes at the end of a text the third is escaped; the others are raw, and so the last
two stand right before the three that close the string. -/
example : writeString "\n\x07\"\"\"\"\"".toList =
    "\"\"\"\n\n\\u0007\"\"\\\"\"\"\"\"\"".toList := by decide

end Styles

end EdgeReveal.Toml
