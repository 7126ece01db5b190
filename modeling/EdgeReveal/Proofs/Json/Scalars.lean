import EdgeReveal.Proofs.Json.Grammar
import EdgeReveal.Proofs.Text.Decimal
import Mathlib

/-!
# Numerals and strings are read

A spelled numeral is read in front of anything that does not go on with it, and a spelled string in
front of anything at all. The characters of a string are those that its pieces encode, if any.
-/
namespace EdgeReveal.Json

/-! ### White space -/

theorem isSpace_iff {c : Char} : isSpace c = true ↔ c ∈ [' ', '\t', '\n', '\r'] := by
  simp [isSpace, or_assoc]

/-- White space in front makes no difference. -/
theorem skipSpace_blank {blank : List Char} (white : Blank blank) (rest : List Char) :
    skipSpace (blank ++ rest) = skipSpace rest :=
  List.dropWhile_append_of_pos fun c mem => isSpace_iff.mpr (white c mem)

theorem skipSpace_cons {c : Char} (dark : isSpace c = false) (rest : List Char) :
    skipSpace (c :: rest) = c :: rest := List.dropWhile_cons_of_neg (by simp [dark])

/-! ### Numerals -/

namespace Numeral

variable {digits rest text : List Char} {n : Numeral}

/-- What a numeral may go on with behind a digit. -/
def goesOn (c : Char) : Bool := Text.isDigit c || c == '.' || c == 'e' || c == 'E'

/-- Nothing that could still belong to a numeral comes first. -/
def Stops (rest : List Char) : Prop := ∀ c, rest.head? = some c → goesOn c = false

/-- No digit comes first. -/
def Pauses (rest : List Char) : Prop := ∀ c, rest.head? = some c → Text.isDigit c = false

theorem not_goesOn_iff {c : Char} :
    goesOn c = false ↔ Text.isDigit c = false ∧ c ≠ '.' ∧ c ≠ 'e' ∧ c ≠ 'E' := by
  simp [goesOn, and_assoc]

theorem Stops.pauses (stops : Stops rest) : Pauses rest :=
  fun c first => (not_goesOn_iff.mp (stops c first)).1

theorem stops_cons {c : Char} (ends : goesOn c = false) : Stops (c :: rest) := by
  rintro d ⟨⟩
  exact ends

theorem pauses_cons {c : Char} (other : Text.isDigit c = false) : Pauses (c :: rest) := by
  rintro d ⟨⟩
  exact other

theorem takeWhile_row (row : Row digits) (pauses : Pauses rest) :
    (digits ++ rest).takeWhile Text.isDigit = digits ∧
      (digits ++ rest).dropWhile Text.isDigit = rest := by
  rw [List.takeWhile_append_of_pos row.decimal, List.dropWhile_append_of_pos row.decimal]
  cases rest with
  | nil => simp
  | cons c rest =>
    have other : ¬ Text.isDigit c = true := by simp [pauses c rfl]
    rw [List.takeWhile_cons_of_neg other, List.dropWhile_cons_of_neg other, List.append_nil]
    exact ⟨rfl, rfl⟩

theorem digits?_row (row : Row digits) (pauses : Pauses rest) :
    digits? (digits ++ rest) = some (digits, rest) := by
  obtain ⟨taken, left⟩ := takeWhile_row row pauses
  simp [digits?, taken, left, row.nonempty]

theorem whole?_whole (whole : Whole digits) (pauses : Pauses rest) :
    whole? (digits ++ rest) = some (digits, rest) := by
  unfold whole?
  rw [digits?_row whole.toRow pauses]
  split
  next read =>
    -- a zero with more digits behind it is no whole
    cases read
    cases whole.lead rfl
  next => rfl

theorem fraction?_spelled {fraction : Option (List Char)} (spelled : FractionSpelled text fraction)
    (pauses : Pauses rest) (unpointed : ∀ c, rest.head? = some c → c ≠ '.') :
    fraction? (text ++ rest) = some (fraction, rest) := by
  cases spelled with
  | absent =>
    rw [List.nil_append, fraction?]
    rintro more rfl
    exact unpointed '.' rfl rfl
  | present row => rw [List.cons_append, fraction?, digits?_row row pauses]; rfl

theorem exponent?_marked {mark : Char} (marked : mark = 'e' ∨ mark = 'E') (rest : List Char) :
    exponent? (mark :: rest) =
      match rest with
      | '-' :: rest => exponentDigits? true rest
      | '+' :: rest => exponentDigits? false rest
      | rest => exponentDigits? false rest := by
  rw [exponent?.eq_def]
  exact if_pos marked

theorem exponentDigits?_row (negative : Bool) (row : Row digits) (pauses : Pauses rest) :
    exponentDigits? negative (digits ++ rest) = some (some (negative, digits), rest) := by
  rw [exponentDigits?, digits?_row row pauses]
  rfl

theorem Row.cons (row : Row digits) : ∃ c more, digits = c :: more ∧ Text.isDigit c = true := by
  cases digits with
  | nil => exact absurd rfl row.nonempty
  | cons c more => exact ⟨c, more, rfl, row.decimal c List.mem_cons_self⟩

theorem exponent?_spelled {exponent : Option (Bool × List Char)}
    (spelled : ExponentSpelled text exponent) (stops : Stops rest) :
    exponent? (text ++ rest) = some (exponent, rest) := by
  cases spelled with
  | absent =>
    cases rest with
    | nil => rfl
    | cons c rest =>
      obtain ⟨-, -, small, large⟩ := not_goesOn_iff.mp (stops c rfl)
      rw [List.nil_append, exponent?.eq_def]
      exact if_neg (by simp [small, large])
  | @unsigned mark digits marked row =>
    rw [List.cons_append, exponent?_marked marked]
    -- the first digit is no sign
    obtain ⟨c, more, rfl, digit⟩ := row.cons
    rw [List.cons_append]
    split
    next same => cases same; cases digit
    next same => cases same; cases digit
    next => exact exponentDigits?_row false row stops.pauses
  | plus marked row =>
    rw [List.cons_append, exponent?_marked marked]
    exact exponentDigits?_row false row stops.pauses
  | minus marked row =>
    rw [List.cons_append, exponent?_marked marked]
    exact exponentDigits?_row true row stops.pauses

theorem ExponentSpelled.head {exponent : Option (Bool × List Char)}
    (spelled : ExponentSpelled text exponent) (stops : Stops rest) :
    Pauses (text ++ rest) ∧ ∀ c, (text ++ rest).head? = some c → c ≠ '.' := by
  have marks {mark : Char} (marked : mark = 'e' ∨ mark = 'E') :
      Text.isDigit mark = false ∧ mark ≠ '.' := by
    obtain rfl | rfl := marked <;> decide
  cases spelled with
  | absent => exact ⟨stops.pauses, fun c first => (not_goesOn_iff.mp (stops c first)).2.1⟩
  | unsigned marked | plus marked | minus marked =>
    refine ⟨pauses_cons (marks marked).1, ?_⟩
    rintro c ⟨⟩
    exact (marks marked).2

theorem FractionSpelled.pauses {fraction : Option (List Char)}
    (spelled : FractionSpelled text fraction) (pauses : Pauses rest) : Pauses (text ++ rest) := by
  cases spelled with
  | absent => exact pauses
  | present => exact pauses_cons rfl

theorem unsigned?_spelled {negative : Bool} (spelled : UnsignedSpelled negative text n)
    (stops : Stops rest) : unsigned? negative (text ++ rest) = some (n, rest) := by
  cases spelled with
  | parts first second third =>
    obtain ⟨pauses, unpointed⟩ := third.head stops
    rw [List.append_assoc, List.append_assoc, unsigned?,
      whole?_whole first (second.pauses pauses)]
    simp only [Option.bind_eq_bind, Option.bind_some, fraction?_spelled second pauses unpointed,
      exponent?_spelled third stops]
    rfl

/-- A minus sign or a digit comes first. -/
theorem Spelled.head (spelled : n.Spelled text) :
    ∃ c more, text = c :: more ∧ isSpace c = false ∧
      ∀ d, Text.isDigit d = false → d ≠ '-' → c ≠ d := by
  cases spelled with
  | natural rest =>
    obtain ⟨first, -, -⟩ := rest
    obtain ⟨c, more, rfl, digit⟩ := first.toRow.cons
    have other {d : Char} (none : Text.isDigit d = false) : c ≠ d := Text.ne_of_isDigit digit none
    refine ⟨c, _, rfl, ?_, fun d none _ => other none⟩
    simp [isSpace, other (d := ' ') rfl, other (d := '\t') rfl, other (d := '\n') rfl,
      other (d := '\r') rfl]
  | minus => exact ⟨'-', _, rfl, rfl, fun d _ other => other.symm⟩

theorem read?_spelled (spelled : n.Spelled text) (stops : Stops rest) :
    read? (text ++ rest) = some (n, rest) := by
  cases spelled with
  | natural unsigned =>
    have read := unsigned?_spelled unsigned stops
    obtain ⟨first, -, -⟩ := unsigned
    obtain ⟨c, more, rfl, digit⟩ := first.toRow.cons
    rw [read?]
    · exact read
    · rintro rest' same
      cases (List.cons.inj same).1
      cases digit
  | minus unsigned => exact unsigned?_spelled unsigned stops

end Numeral

/-! ### Strings -/

section Strings

variable {text rest : List Char} {pieces : List Piece} {chars : List Char}

theorem hexValue?_of_hexDigit {c : Char} {d : Nat} (digit : HexDigit c d) :
    Text.hexValue? c = some d := by
  have lower : ∀ d < 16, Text.hexValue? (Nat.digitChar d) = some d := by decide
  have upper : ∀ d < 16, Text.hexValue? (Nat.digitChar d).toUpper = some d := by decide
  cases digit with
  | lower digit => exact lower d digit
  | upper digit => exact upper d digit

theorem HexDigit.lt {c : Char} {d : Nat} (digit : HexDigit c d) : d < 16 := by
  cases digit <;> assumption

theorem hexNumber?_of_hexDigits {a b c d : Char} {i j k l : Nat} (first : HexDigit a i)
    (second : HexDigit b j) (third : HexDigit c k) (fourth : HexDigit d l) :
    Text.hexNumber? [a, b, c, d] = some (((i * 16 + j) * 16 + k) * 16 + l) := by
  simp [Text.hexNumber?, hexValue?_of_hexDigit first, hexValue?_of_hexDigit second,
    hexValue?_of_hexDigit third, hexValue?_of_hexDigit fourth]

theorem simpleEscape?_of_mem {mark c : Char} (known : (mark, c) ∈ escapes) :
    simpleEscape? mark = some c ∧ mark ≠ 'u' := by
  have all : ∀ pair ∈ escapes, simpleEscape? pair.1 = some pair.2 ∧ pair.1 ≠ 'u' := by decide
  exact all _ known

theorem pieces?_spelled (spelled : PiecesSpelled text pieces) (rest : List Char) :
    pieces? (text ++ '"' :: rest) = some (pieces, rest) := by
  induction spelled with
  | nil => simp [pieces?]
  | plain visible unquoted unescaped more ih =>
    rw [List.cons_append, pieces?]
    · have raw : ¬ (_ < ' ' ∨ _ = '\\') := not_or.mpr ⟨Char.not_lt.mpr visible, unescaped⟩
      rw [if_neg raw, ih]
      rfl
    all_goals simp [unquoted, unescaped]
  | escape known more ih =>
    obtain ⟨escaped, short⟩ := simpleEscape?_of_mem known
    rw [List.cons_append, List.cons_append, pieces?, escaped, ih]
    · rfl
    · intro a b c d rest same
      exact absurd same short
  | unit first second third fourth more ih =>
    have number := hexNumber?_of_hexDigits first second third fourth
    simp only [List.cons_append]
    rw [pieces?, number, ih]
    rfl

/-- Units are words of 16 bits. -/
theorem PiecesSpelled.small (spelled : PiecesSpelled text pieces) {n : Nat}
    (mem : .unit n ∈ pieces) : n < 0x10000 := by
  induction spelled with
  | nil => cases mem
  | plain _ _ _ _ ih | escape _ _ ih =>
    obtain impossible | mem := List.mem_cons.mp mem
    · cases impossible
    · exact ih mem
  | unit first second third fourth _ ih =>
    obtain same | mem := List.mem_cons.mp mem
    · cases same
      have digits := And.intro (And.intro first.lt second.lt) (And.intro third.lt fourth.lt)
      omega
    · exact ih mem

/-- No character is half of a pair. -/
theorem not_surrogate (c : Char) :
    isHighSurrogate c.toNat = false ∧ isLowSurrogate c.toNat = false := by
  have valid : c.toNat < 0xD800 ∨ 0xDFFF < c.toNat ∧ c.toNat < 0x110000 := c.valid
  simp only [isHighSurrogate, isLowSurrogate, Bool.and_eq_false_iff, decide_eq_false_iff_not]
  omega

theorem joinPieces_unit {n : Nat} (high : isHighSurrogate n = false)
    (low : isLowSurrogate n = false) (pieces : List Piece) :
    joinPieces (.unit n :: pieces) = (joinPieces pieces).map (Char.ofNat n :: ·) := by
  rcases pieces with _ | ⟨c | m, pieces⟩ <;> simp [joinPieces, high, low]

theorem joinPieces_pair {high low : Nat} (first : isHighSurrogate high = true)
    (second : isLowSurrogate low = true) (pieces : List Piece) :
    joinPieces (.unit high :: .unit low :: pieces) = (joinPieces pieces).map
      (Char.ofNat (0x10000 + (high - 0xD800) * 0x400 + (low - 0xDC00)) :: ·) := by
  simp [joinPieces, first, second]

theorem joinPieces_of_encodes (encodes : Encodes pieces chars) :
    joinPieces pieces = some chars := by
  induction encodes with
  | nil => rfl
  | char _ ih => simp [joinPieces, ih]
  | @unit c _ _ _ _ ih =>
    obtain ⟨high, low⟩ := not_surrogate c
    rw [joinPieces_unit high low, ih, Option.map_some, Char.ofNat_toNat]
  | @pair c _ _ beyond _ ih =>
    have valid : c.toNat < 0xD800 ∨ 0xDFFF < c.toNat ∧ c.toNat < 0x110000 := c.valid
    have value : 0x10000 + (0xD800 + (c.toNat - 0x10000) / 0x400 - 0xD800) * 0x400 +
        (0xDC00 + (c.toNat - 0x10000) % 0x400 - 0xDC00) = c.toNat := by omega
    rw [joinPieces_pair, ih, value, Option.map_some, Char.ofNat_toNat]
    all_goals
      simp only [isHighSurrogate, isLowSurrogate, Bool.and_eq_true, decide_eq_true_eq]
      omega

/-- A unit that is no half of a pair encodes a character by itself. -/
theorem encodes_unit {n : Nat} (high : ¬ isHighSurrogate n = true)
    (low : ¬ isLowSurrogate n = true) (small : n < 0x10000) (more : Encodes pieces chars) :
    Encodes (.unit n :: pieces) (Char.ofNat n :: chars) := by
  simp only [isHighSurrogate, isLowSurrogate, Bool.and_eq_true, decide_eq_true_eq] at high low
  have scalar : n.isValidChar := by unfold Nat.isValidChar; omega
  have value : (Char.ofNat n).toNat = n := by rw [Char.toNat_ofNat, if_pos scalar]
  have basic : (Char.ofNat n).toNat < 0x10000 := by rwa [value]
  have encodes := Encodes.unit basic more
  rwa [value] at encodes

theorem encodes_pair {high low : Nat} (first : isHighSurrogate high = true)
    (second : isLowSurrogate low = true) (more : Encodes pieces chars) :
    Encodes (.unit high :: .unit low :: pieces)
      (Char.ofNat (0x10000 + (high - 0xD800) * 0x400 + (low - 0xDC00)) :: chars) := by
  simp only [isHighSurrogate, isLowSurrogate, Bool.and_eq_true, decide_eq_true_eq] at first second
  have scalar : (0x10000 + (high - 0xD800) * 0x400 + (low - 0xDC00)).isValidChar := by
    unfold Nat.isValidChar
    omega
  have value := Char.toNat_ofNat (0x10000 + (high - 0xD800) * 0x400 + (low - 0xDC00))
  rw [if_pos scalar] at value
  have beyond : 0x10000 ≤ (Char.ofNat (0x10000 + (high - 0xD800) * 0x400 + (low - 0xDC00))).toNat :=
    by rw [value, Nat.add_assoc]; exact Nat.le_add_right _ _
  have front : 0xD800 + (0x10000 + (high - 0xD800) * 0x400 + (low - 0xDC00) - 0x10000) / 0x400 =
      high := by omega
  have back : 0xDC00 + (0x10000 + (high - 0xD800) * 0x400 + (low - 0xDC00) - 0x10000) % 0x400 =
      low := by omega
  have encodes := Encodes.pair beyond more
  rwa [value, front, back] at encodes

theorem encodes_of_joinPieces (small : ∀ n, .unit n ∈ pieces → n < 0x10000)
    (joined : joinPieces pieces = some chars) : Encodes pieces chars := by
  fun_induction joinPieces pieces generalizing chars with
  | case1 =>
    cases joined
    exact .nil
  | case2 c pieces ih =>
    obtain ⟨more, read, rfl⟩ := Option.map_eq_some_iff.mp joined
    exact .char (ih (fun n mem => small n (.tail _ mem)) read)
  | case3 high low pieces first second ih =>
    obtain ⟨more, read, rfl⟩ := Option.map_eq_some_iff.mp joined
    exact encodes_pair first second (ih (fun n mem => small n (.tail _ (.tail _ mem))) read)
  | case4 | case5 | case7 => cases joined
  | case6 n low pieces first second ih =>
    obtain ⟨more, read, rfl⟩ := Option.map_eq_some_iff.mp joined
    exact encodes_unit first second (small n (.head _))
      (ih (fun n mem => small n (.tail _ mem)) read)
  | case8 n pieces last unpaired ih =>
    obtain ⟨more, read, rfl⟩ := Option.map_eq_some_iff.mp joined
    rw [Bool.or_eq_true, not_or] at unpaired
    exact encodes_unit unpaired.1 unpaired.2 (small n (.head _))
      (ih (fun n mem => small n (.tail _ mem)) read)

theorem characters?_spelled {chars : Characters} (spelled : CharactersSpelled text chars)
    (rest : List Char) :
    ∃ body, text = '"' :: body ∧ characters? (body ++ rest) = some (chars, rest) := by
  cases spelled with
  | @whole body pieces s spelled encodes =>
    refine ⟨body ++ ['"'], rfl, ?_⟩
    rw [List.append_assoc, List.singleton_append, characters?, pieces?_spelled spelled]
    simp [joinPieces_of_encodes encodes]
  | @broken body pieces spelled halved =>
    have unjoined : joinPieces pieces = none := by
      rw [Option.eq_none_iff_forall_ne_some]
      exact fun chars joined => halved chars (encodes_of_joinPieces (fun _ => spelled.small) joined)
    refine ⟨body ++ ['"'], rfl, ?_⟩
    rw [List.append_assoc, List.singleton_append, characters?, pieces?_spelled spelled]
    simp [unjoined]

end Strings

end EdgeReveal.Json
