import EdgeReveal.Proofs.Json.Values

/-!
# Nothing else is read

What the reader takes off the front of a text spells the value that it reads. So a text is read
exactly if the grammar has a value for it.
-/
namespace EdgeReveal.Json

variable {text rest : List Char}

/-- White space is all that is skipped. -/
theorem exists_blank (text : List Char) :
    ∃ blank, Blank blank ∧ text = blank ++ skipSpace text := by
  refine ⟨text.takeWhile isSpace, fun c mem => ?_, (List.takeWhile_append_dropWhile).symm⟩
  exact isSpace_iff.mp (List.mem_takeWhile_imp mem)

/-! ### Numerals -/

namespace Numeral

variable {digits : List Char} {n : Numeral} {fraction : Option (List Char)}
  {exponent : Option (Bool × List Char)}

theorem row_of_digits? (read : digits? text = some (digits, rest)) :
    Row digits ∧ text = digits ++ rest := by
  simp only [digits?, Option.ite_none_left_eq_some, Option.some.injEq, Prod.mk.injEq] at read
  obtain ⟨nonempty, rfl, rfl⟩ := read
  exact ⟨⟨nonempty, fun c mem => List.mem_takeWhile_imp mem⟩,
    (List.takeWhile_append_dropWhile).symm⟩

theorem whole_of_whole? (read : whole? text = some (digits, rest)) :
    Whole digits ∧ text = digits ++ rest := by
  unfold whole? at read
  split at read
  next => cases read
  next single =>
    obtain ⟨row, split⟩ := row_of_digits? read
    refine ⟨⟨row, fun zero => ?_⟩, split⟩
    rcases digits with _ | ⟨c, _ | ⟨d, more⟩⟩
    · cases zero
    · cases zero
      rfl
    · cases zero
      exact absurd read (single d more rest)

theorem spelled_of_fraction? (read : fraction? text = some (fraction, rest)) :
    ∃ part, FractionSpelled part fraction ∧ text = part ++ rest := by
  unfold fraction? at read
  split at read
  next behind =>
    obtain ⟨⟨digits, behind⟩, taken, same⟩ := Option.map_eq_some_iff.mp read
    cases same
    obtain ⟨row, rfl⟩ := row_of_digits? taken
    exact ⟨_, .present row, rfl⟩
  next =>
    cases read
    exact ⟨[], .absent, rfl⟩

theorem row_of_exponentDigits? {negative : Bool}
    (read : exponentDigits? negative text = some (exponent, rest)) :
    ∃ digits, Row digits ∧ exponent = some (negative, digits) ∧ text = digits ++ rest := by
  obtain ⟨⟨digits, behind⟩, taken, same⟩ := Option.map_eq_some_iff.mp read
  cases same
  obtain ⟨row, split⟩ := row_of_digits? taken
  exact ⟨digits, row, rfl, split⟩

theorem spelled_of_exponent? (read : exponent? text = some (exponent, rest)) :
    ∃ part, ExponentSpelled part exponent ∧ text = part ++ rest := by
  unfold exponent? at read
  split at read
  next c behind =>
    split at read
    next marked =>
      split at read
      all_goals obtain ⟨digits, row, rfl, rfl⟩ := row_of_exponentDigits? read
      · exact ⟨_, .minus marked row, rfl⟩
      · exact ⟨_, .plus marked row, rfl⟩
      · exact ⟨_, .unsigned marked row, rfl⟩
    next =>
      cases read
      exact ⟨[], .absent, rfl⟩
  next =>
    cases read
    exact ⟨[], .absent, rfl⟩

theorem spelled_of_unsigned? {negative : Bool}
    (read : unsigned? negative text = some (n, rest)) :
    ∃ part, UnsignedSpelled negative part n ∧ text = part ++ rest := by
  simp only [unsigned?, Option.bind_eq_bind, Option.bind_eq_some_iff, Prod.exists] at read
  obtain ⟨whole, _, first, fraction, _, second, exponent, _, third, same⟩ := read
  cases same
  obtain ⟨isWhole, rfl⟩ := whole_of_whole? first
  obtain ⟨point, isFraction, rfl⟩ := spelled_of_fraction? second
  obtain ⟨power, isExponent, rfl⟩ := spelled_of_exponent? third
  exact ⟨_, .parts isWhole isFraction isExponent, by simp only [List.append_assoc]⟩

theorem spelled_of_read? (read : read? text = some (n, rest)) :
    ∃ part, n.Spelled part ∧ text = part ++ rest := by
  unfold read? at read
  split at read
  all_goals obtain ⟨part, spelled, rfl⟩ := spelled_of_unsigned? read
  · exact ⟨_, .minus spelled, rfl⟩
  · exact ⟨_, .natural spelled, rfl⟩

end Numeral

/-! ### Strings -/

theorem hexDigit_of_hexValue? {c : Char} {d : Nat} (read : Text.hexValue? c = some d) :
    HexDigit c d := by
  -- hexadecimal digits are ASCII, so the first 128 characters decide
  have each : ∀ n < 128, ∀ d ∈ Text.hexValue? (Char.ofNat n), d < 16 ∧
      (Char.ofNat n = Nat.digitChar d ∨ Char.ofNat n = (Nat.digitChar d).toUpper) := by
    decide +kernel
  have ascii : c.toNat < 128 := by
    by_contra large
    have beyond {limit : Char} (small : limit.toNat < 128) : ¬ c ≤ limit := fun le =>
      large (Nat.lt_of_le_of_lt (UInt32.le_iff_toNat_le.mp le) small)
    simp [Text.hexValue?, beyond] at read
  obtain ⟨digit, lower | upper⟩ := each c.toNat ascii d (by rwa [Char.ofNat_toNat])
  · rw [← Char.ofNat_toNat c, lower]
    exact .lower digit
  · rw [← Char.ofNat_toNat c, upper]
    exact .upper digit

theorem hexDigits_of_hexNumber? {a b c d : Char} {n : Nat}
    (read : Text.hexNumber? [a, b, c, d] = some n) :
    ∃ i j k l, HexDigit a i ∧ HexDigit b j ∧ HexDigit c k ∧ HexDigit d l ∧
      n = ((i * 16 + j) * 16 + k) * 16 + l := by
  simp only [Text.hexNumber?, List.foldlM_cons, List.foldlM_nil, Option.bind_eq_bind,
    Option.bind_eq_some_iff, Option.map_eq_some_iff, Option.pure_def, Option.some.injEq] at read
  obtain ⟨_, ⟨i, first, rfl⟩, _, ⟨j, second, rfl⟩, _, ⟨k, third, rfl⟩, _, ⟨l, fourth, rfl⟩, rfl⟩ :=
    read
  exact ⟨i, j, k, l, hexDigit_of_hexValue? first, hexDigit_of_hexValue? second,
    hexDigit_of_hexValue? third, hexDigit_of_hexValue? fourth, by simp⟩

theorem mem_escapes_of_simpleEscape? {mark c : Char} (read : simpleEscape? mark = some c) :
    (mark, c) ∈ escapes := by
  unfold simpleEscape? at read
  split at read <;> cases read <;> decide

theorem spelled_of_pieces? {pieces : List Piece} (read : pieces? text = some (pieces, rest)) :
    ∃ body, PiecesSpelled body pieces ∧ text = body ++ '"' :: rest := by
  fun_induction pieces? text generalizing pieces with
  | case1 => cases read
  | case2 =>
    cases read
    exact ⟨[], .nil, rfl⟩
  | case3 a b c d behind ih =>
    simp only [Option.bind_eq_bind, Option.bind_eq_some_iff, Prod.exists] at read
    obtain ⟨unit, number, more, _, rest, same⟩ := read
    cases same
    obtain ⟨i, j, k, l, first, second, third, fourth, rfl⟩ := hexDigits_of_hexNumber? number
    obtain ⟨body, spelled, rfl⟩ := ih rest
    exact ⟨_, .unit first second third fourth spelled, rfl⟩
  | case4 mark behind _ ih =>
    simp only [Option.bind_eq_bind, Option.bind_eq_some_iff, Prod.exists] at read
    obtain ⟨c, escaped, more, _, rest, same⟩ := read
    cases same
    obtain ⟨body, spelled, rfl⟩ := ih rest
    exact ⟨_, .escape (mem_escapes_of_simpleEscape? escaped) spelled, rfl⟩
  | case5 => cases read
  | case6 c behind unquoted _ _ plain ih =>
    simp only [Option.bind_eq_bind, Option.bind_eq_some_iff, Prod.exists] at read
    obtain ⟨more, _, rest, same⟩ := read
    cases same
    obtain ⟨visible, unescaped⟩ := not_or.mp plain
    obtain ⟨body, spelled, rfl⟩ := ih rest
    exact ⟨_, .plain (Char.not_lt.mp visible) unquoted unescaped spelled, rfl⟩

theorem spelled_of_characters? {chars : Characters} (read : characters? text = some (chars, rest)) :
    ∃ quoted, CharactersSpelled quoted chars ∧ '"' :: text = quoted ++ rest := by
  obtain ⟨⟨pieces, behind⟩, taken, same⟩ := Option.map_eq_some_iff.mp read
  cases same
  obtain ⟨body, spelled, rfl⟩ := spelled_of_pieces? taken
  refine ⟨'"' :: (body ++ ['"']), ?_, by simp⟩
  cases joined : joinPieces pieces with
  | some chars =>
    refine .whole spelled (encodes_of_joinPieces (fun _ => spelled.small) ?_)
    simpa using joined
  | none =>
    refine .broken spelled fun chars encodes => ?_
    rw [joinPieces_of_encodes encodes] at joined
    cases joined

/-! ### Values -/

theorem eq_append_of_expect? {word : List Char} (read : expect? word text = some rest) :
    text = word ++ rest := by
  fun_induction expect? word text with
  | case1 =>
    cases read
    rfl
  | case2 c word text ih => rw [ih read, List.cons_append]
  | case3 | case4 => cases read

/-- The text begins with white space and a spelling of the value. -/
def Begins (text : List Char) (value : Value) (rest : List Char) : Prop :=
  ∃ before part, Blank before ∧ Spelled part value ∧ text = before ++ (part ++ rest)

/-- The white space behind the value belongs to it as well. -/
theorem Begins.padded {value : Value} {behind : List Char} (begins : Begins text value behind)
    (next : skipSpace behind = rest) : ∃ part, Padded part value ∧ text = part ++ rest := by
  obtain ⟨before, part, front, spelled, rfl⟩ := begins
  obtain ⟨after, back, split⟩ := exists_blank behind
  rw [next] at split
  exact ⟨before ++ (part ++ after), .pad front spelled back, by simp [split]⟩

/-- What is read with this much fuel is spelled. -/
structure Sound (fuel : Nat) : Prop where
  value {text rest : List Char} {value : Value} (read : value? fuel text = some (value, rest)) :
    Begins text value rest
  items {text rest : List Char} {items : List Value}
    (read : items? fuel text = some (items, rest)) :
    ∃ part, ItemsSpelled part items ∧ text = part ++ ']' :: rest
  members {text rest : List Char} {members : List (Characters × Value)}
    (read : members? fuel text = some (members, rest)) :
    ∃ part, MembersSpelled part members ∧ text = part ++ '\x7d' :: rest

variable {fuel : Nat}

theorem Sound.value_succ (sound : Sound fuel) {value : Value}
    (read : value? (fuel + 1) text = some (value, rest)) : Begins text value rest := by
  obtain ⟨blank, white, split⟩ := exists_blank text
  -- in every case what is left to show is which spelling stands behind the white space
  suffices ∃ part, Spelled part value ∧ skipSpace text = part ++ rest by
    obtain ⟨part, spelled, head⟩ := this
    exact ⟨blank, part, white, spelled, by rw [← head, ← split]⟩
  rw [value?] at read
  split at read
  next => cases read
  next head =>
    obtain ⟨⟨chars, behind⟩, taken, same⟩ := Option.map_eq_some_iff.mp read
    cases same
    obtain ⟨quoted, spelled, body⟩ := spelled_of_characters? taken
    exact ⟨quoted, .text spelled, by rw [head, body]⟩
  next behind head =>
    obtain ⟨inner, inside, body⟩ := exists_blank behind
    split at read
    next closes =>
      cases read
      exact ⟨_, .noItems inside, by rw [head, body, closes]; simp⟩
    next =>
      obtain ⟨⟨items, behind⟩, taken, same⟩ := Option.map_eq_some_iff.mp read
      cases same
      -- the white space behind the bracket belongs to the first item
      rw [items?_skipSpace] at taken
      obtain ⟨part, listed, rfl⟩ := sound.items taken
      exact ⟨_, .array listed, by rw [head]; simp⟩
  next behind head =>
    obtain ⟨inner, inside, body⟩ := exists_blank behind
    split at read
    next closes =>
      cases read
      exact ⟨_, .noMembers inside, by rw [head, body, closes]; simp⟩
    next =>
      obtain ⟨⟨members, behind⟩, taken, same⟩ := Option.map_eq_some_iff.mp read
      cases same
      rw [members?_skipSpace] at taken
      obtain ⟨part, listed, rfl⟩ := sound.members taken
      exact ⟨_, .object listed, by rw [head]; simp⟩
  next head =>
    obtain ⟨behind, word, same⟩ := Option.map_eq_some_iff.mp read
    cases same
    exact ⟨_, .yes, by rw [head, eq_append_of_expect? word]; rfl⟩
  next head =>
    obtain ⟨behind, word, same⟩ := Option.map_eq_some_iff.mp read
    cases same
    exact ⟨_, .no, by rw [head, eq_append_of_expect? word]; rfl⟩
  next head =>
    obtain ⟨behind, word, same⟩ := Option.map_eq_some_iff.mp read
    cases same
    exact ⟨_, .null, by rw [head, eq_append_of_expect? word]; rfl⟩
  next =>
    obtain ⟨⟨n, behind⟩, taken, same⟩ := Option.map_eq_some_iff.mp read
    cases same
    obtain ⟨part, numeral, head⟩ := Numeral.spelled_of_read? taken
    exact ⟨part, .number numeral, head⟩

theorem Sound.items_succ (sound : Sound fuel) {items : List Value}
    (read : items? (fuel + 1) text = some (items, rest)) :
    ∃ part, ItemsSpelled part items ∧ text = part ++ ']' :: rest := by
  simp only [items?, Option.bind_eq_bind, Option.bind_eq_some_iff, Prod.exists] at read
  obtain ⟨first, behind, item, read⟩ := read
  have begins := sound.value item
  split at read
  next next =>
    cases read
    obtain ⟨part, padded, rfl⟩ := begins.padded next
    exact ⟨part, .last padded, rfl⟩
  next next =>
    obtain ⟨part, padded, rfl⟩ := begins.padded next
    simp only [Option.bind_eq_some_iff, Prod.exists] at read
    obtain ⟨others, _, read, same⟩ := read
    cases same
    obtain ⟨tail, listed, rfl⟩ := sound.items read
    exact ⟨_, .more padded listed, by simp⟩
  next => cases read

theorem Sound.members_succ (sound : Sound fuel) {members : List (Characters × Value)}
    (read : members? (fuel + 1) text = some (members, rest)) :
    ∃ part, MembersSpelled part members ∧ text = part ++ '\x7d' :: rest := by
  obtain ⟨before, front, split⟩ := exists_blank text
  rw [members?] at read
  split at read
  next head =>
    simp only [Option.bind_eq_bind, Option.bind_eq_some_iff, Prod.exists] at read
    obtain ⟨key, behind, named, read⟩ := read
    obtain ⟨name, isName, body⟩ := spelled_of_characters? named
    obtain ⟨after, back, gap⟩ := exists_blank behind
    rw [head, body] at split
    split at read
    next colon =>
      rw [colon] at gap
      simp only [Option.bind_eq_some_iff, Prod.exists] at read
      obtain ⟨first, behind, item, read⟩ := read
      have begins := sound.value item
      split at read
      next next =>
        cases read
        obtain ⟨part, padded, rfl⟩ := begins.padded next
        exact ⟨_, .last front isName back padded, by rw [split, gap]; simp⟩
      next next =>
        obtain ⟨part, padded, rfl⟩ := begins.padded next
        simp only [Option.bind_eq_some_iff, Prod.exists] at read
        obtain ⟨others, _, read, same⟩ := read
        cases same
        obtain ⟨tail, listed, rfl⟩ := sound.members read
        exact ⟨_, .more front isName back padded listed, by rw [split, gap]; simp⟩
      next => cases read
    next => cases read
  next => cases read

theorem sound (fuel : Nat) : Sound fuel := by
  induction fuel with
  | zero => exact ⟨nofun, nofun, nofun⟩
  | succ fuel ih => exact ⟨ih.value_succ, ih.items_succ, ih.members_succ⟩

/-- A text is read as a value exactly if it spells the value. -/
theorem parse?_eq_some_iff {text : String} {value : Value} :
    parse? text = some value ↔ Padded text.toList value := by
  constructor
  · intro read
    unfold parse? at read
    split at read
    next taken =>
      rw [Option.ite_none_right_eq_some] at read
      obtain ⟨ended, same⟩ := read
      cases same
      obtain ⟨part, padded, split⟩ := ((sound _).value taken).padded ended
      rw [split, List.append_nil]
      exact padded
    next => cases read
  · exact parse?_of_padded

end EdgeReveal.Json
