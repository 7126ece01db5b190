import EdgeReveal.Text.Decimal
import Mathlib.Algebra.Group.Int.Defs
import Mathlib.Data.List.Induction
import Mathlib.Tactic.Common

/-!
# Written integers

How integers are written, as rules: ASCII digits give a value, one sign may stand before them, and
leading zeros change nothing. Reading follows the rules exactly, and a printed integer is written
by them.
-/
namespace EdgeReveal.Text

variable {c : Char} {digits text : List Char} {n : Nat}

theorem isDigit_of_mem_toDigits (mem : c ∈ Nat.toDigits 10 n) : isDigit c = true := by
  have digit := Nat.isDigit_of_mem_toDigits (by decide) (by decide) mem
  simpa [Char.isDigit, isDigit, Char.le_def] using digit

theorem ne_of_isDigit {d : Char} (digit : isDigit c = true) (other : isDigit d = false) :
    c ≠ d := by
  rintro rfl
  exact Bool.eq_false_iff.mp other digit

theorem digitsValue_toDigits (n : Nat) : digitsValue (Nat.toDigits 10 n) = n := by
  have value := Nat.ofDigitChars_ten_toDigits (n := n)
  simpa only [Nat.ofDigitChars_eq_foldl, Nat.mul_comm 10, digitsValue] using value

/-- At least one decimal digit, and the value of the row. -/
inductive Digits : List Char → Nat → Prop
  | one {d : Nat} (digit : d < 10) : Digits [Nat.digitChar d] d
  | more {front : List Char} {n d : Nat} (before : Digits front n) (digit : d < 10) :
      Digits (front ++ [Nat.digitChar d]) (10 * n + d)

/-- At most one sign and then digits, with the value of the whole. -/
inductive Numeral : List Char → Int → Prop
  | unsigned {digits : List Char} {n : Nat} (written : Digits digits n) : Numeral digits n
  | plus {digits : List Char} {n : Nat} (written : Digits digits n) : Numeral ('+' :: digits) n
  | minus {digits : List Char} {n : Nat} (written : Digits digits n) : Numeral ('-' :: digits) (-n)

/-! ### Reading by the rules -/

theorem isDigit_iff : isDigit c = true ↔ ∃ d < 10, c = Nat.digitChar d := by
  constructor
  · intro digit
    simp only [isDigit, Bool.and_eq_true, decide_eq_true_eq, Char.le_def, UInt32.le_iff_toNat_le]
      at digit
    obtain ⟨low, high⟩ := digit
    have low : 48 ≤ c.toNat := low
    have high : c.toNat ≤ 57 := high
    refine ⟨c.toNat - 48, by omega, Char.toNat_inj.mp ?_⟩
    rw [Nat.toNat_digitChar_of_lt_ten (by omega)]
    omega
  · rintro ⟨d, digit, rfl⟩
    have each : ∀ d < 10, isDigit (Nat.digitChar d) = true := by decide
    exact each d digit

theorem digitsValue_concat {d : Nat} (digit : d < 10) :
    digitsValue (digits ++ [Nat.digitChar d]) = 10 * digitsValue digits + d := by
  have value := Nat.toNat_digitChar_sub_48_of_lt_ten digit
  rw [digitsValue, List.foldl_append, ← digitsValue, List.foldl_cons, List.foldl_nil,
    Nat.mul_comm 10]
  exact congrArg (digitsValue digits * 10 + ·) value

theorem Digits.nonempty (written : Digits digits n) : digits ≠ [] := by
  cases written <;> simp

theorem Digits.isDigit (written : Digits digits n) : ∀ c ∈ digits, isDigit c = true := by
  induction written with
  | one digit =>
    rintro c mem
    exact isDigit_iff.mpr ⟨_, digit, List.mem_singleton.mp mem⟩
  | more _ digit ih =>
    intro c mem
    rcases List.mem_append.mp mem with mem | mem
    · exact ih c mem
    · exact isDigit_iff.mpr ⟨_, digit, List.mem_singleton.mp mem⟩

theorem Digits.value (written : Digits digits n) : digitsValue digits = n := by
  induction written with
  | @one d digit => simpa [digitsValue] using @digitsValue_concat [] d digit
  | more _ digit ih => rw [digitsValue_concat digit, ih]

theorem digits_digitsValue (nonempty : digits ≠ []) (decimal : ∀ c ∈ digits, isDigit c = true) :
    Digits digits (digitsValue digits) := by
  -- from the last digit on, as the value is gathered
  induction digits using List.reverseRecOn with
  | nil => contradiction
  | append_singleton front c ih =>
    obtain ⟨d, digit, rfl⟩ := isDigit_iff.mp (decimal c (by simp))
    rw [digitsValue_concat digit]
    by_cases first : front = []
    · subst first
      simpa [digitsValue] using Digits.one digit
    · exact .more (ih first fun c mem => decimal c (List.mem_append_left _ mem)) digit

theorem natural?_eq_some_iff : natural? digits = some n ↔ Digits digits n := by
  unfold natural?
  rw [Option.ite_none_right_eq_some, List.all_eq_true]
  constructor
  · rintro ⟨⟨nonempty, decimal⟩, same⟩
    cases same
    exact digits_digitsValue nonempty decimal
  · intro written
    exact ⟨⟨written.nonempty, written.isDigit⟩, congrArg some written.value⟩

/-- A sign is no digit, so it can only be read as a sign. -/
theorem Digits.head_ne {sign : Char} (written : Digits (c :: digits) n)
    (other : Text.isDigit sign = false) : c ≠ sign :=
  ne_of_isDigit (written.isDigit c List.mem_cons_self) other

theorem signed_eq_some_iff {sign : Int → Int} {value : Int} :
    Option.map sign (do return (← natural? digits : Int)) = some value ↔
      ∃ n, Digits digits n ∧ sign n = value := by
  simp only [← natural?_eq_some_iff]
  cases natural? digits with
  | none => simp
  | some n => simp

theorem integer?_eq_some_iff {value : Int} : integer? text = some value ↔ Numeral text value := by
  constructor
  · intro read
    unfold integer? at read
    split at read
    all_goals obtain ⟨n, written, rfl⟩ := signed_eq_some_iff.mp read
    · exact .minus written
    · exact .plus written
    · exact .unsigned written
  · rintro (@⟨digits, n, written⟩ | @⟨digits, n, written⟩ | @⟨digits, n, written⟩)
    · -- a digit comes first, so neither branch for a sign is taken
      unfold integer?
      split
      · exact absurd rfl (written.head_ne rfl)
      · exact absurd rfl (written.head_ne rfl)
      · exact signed_eq_some_iff.mpr ⟨n, written, rfl⟩
    · exact signed_eq_some_iff.mpr ⟨n, written, rfl⟩
    · exact signed_eq_some_iff.mpr ⟨n, written, rfl⟩

/-- The values of 32-bit integers; there is one more below zero than above. -/
def InRange (value : Int) : Prop := -2 ^ 31 ≤ value ∧ value < 2 ^ 31

theorem inRange_toInt (word : Int32) : InRange word.toInt := ⟨word.le_toInt, word.toInt_lt⟩

theorem int32?_eq_some_iff {word : Int32} : int32? text = some word ↔ Numeral text word.toInt := by
  have limits (value : Int) : Int32.minValue.toInt ≤ value ∧ value ≤ Int32.maxValue.toInt ↔
      InRange value := by
    have low : Int32.minValue.toInt = -2 ^ 31 := by decide
    have high : Int32.maxValue.toInt = 2 ^ 31 - 1 := by decide
    rw [low, high, InRange, Int.le_sub_one_iff]
  unfold int32?
  cases read : integer? text with
  | none =>
    simp only [reduceCtorEq, false_iff]
    intro numeral
    rw [integer?_eq_some_iff.mpr numeral] at read
    cases read
  | some value =>
    have numeral := integer?_eq_some_iff.mp read
    simp only [limits, Option.ite_none_right_eq_some, Option.some.injEq]
    constructor
    · rintro ⟨⟨low, high⟩, rfl⟩
      rw [Int32.toInt_ofInt_of_le low high]
      exact numeral
    · intro same
      -- a text has one value
      have same := read.symm.trans (integer?_eq_some_iff.mpr same)
      rw [Option.some.inj same]
      exact ⟨inRange_toInt word, Int32.ofInt_toInt word⟩

/-! ### Printed integers -/

theorem digits_toDigits (n : Nat) : Digits (Nat.toDigits 10 n) n := by
  have written := digits_digitsValue Nat.toDigits_ne_nil fun _ => isDigit_of_mem_toDigits (n := n)
  rwa [digitsValue_toDigits] at written

theorem numeral_repr (value : Int) : Numeral value.repr.toList value := by
  cases value with
  | ofNat n =>
    have written := digits_toDigits n
    rw [← Nat.toList_repr] at written
    exact .unsigned written
  | negSucc n =>
    have written := digits_toDigits (n + 1)
    rw [← Nat.toList_repr] at written
    have sign : (Int.negSucc n).repr.toList = '-' :: (n + 1).repr.toList := by
      simp [Int.repr]
    rw [sign]
    exact .minus written

end EdgeReveal.Text
