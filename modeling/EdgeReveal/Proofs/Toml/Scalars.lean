import EdgeReveal.Proofs.Text.Decimal
import EdgeReveal.Toml.Scalar
import Mathlib.Data.List.Basic

/-!
# Written numbers and booleans are read back

A natural number is written in decimal digits without a leading zero, which is
the one restriction on the digits of a decimal that is read.
-/
namespace EdgeReveal.Toml.Scalar

variable {digits token rest : List Char}

theorem ungroup_of_digits (nonempty : digits ≠ []) (all : ∀ c ∈ digits, Text.isDigit c = true) :
    ungroup Text.isDigit digits = some digits := by
  induction digits with
  | nil => contradiction
  | cons c digits ih =>
    cases digits with
    | nil => simp [ungroup, all c (.head _)]
    | cons d digits =>
      have separate : d ≠ '_' := Text.ne_of_isDigit (all d (by simp)) rfl
      have others := ih (List.cons_ne_nil d digits) fun e mem => all e (.tail c mem)
      rw [ungroup, if_pos (all c (.head _)), others, Option.map_some]
      · exact List.cons_ne_nil d digits
      · exact fun _ same => separate (List.cons.inj same).1

/-- No number but zero itself begins with a zero. -/
theorem toDigits_head {n : Nat} (positive : n ≠ 0) : (Nat.toDigits 10 n).head? ≠ some '0' := by
  have single : ∀ d < 10, d ≠ 0 → Nat.digitChar d ≠ '0' := by decide
  induction n using Nat.strongRecOn with
  | ind n ih =>
    by_cases small : n < 10
    · simpa [Nat.toDigits_of_lt_base small] using single n small positive
    · rw [Nat.toDigits_of_base_le (by decide) (by omega),
        List.head?_append_of_ne_nil _ Nat.toDigits_ne_nil]
      exact ih (n / 10) (by omega) (by omega)

theorem decimal?_toDigits (n : Nat) : decimal? (Nat.toDigits 10 n) = some n := by
  have digits : ∀ c ∈ Nat.toDigits 10 n, Text.isDigit c = true :=
    fun _ => Text.isDigit_of_mem_toDigits
  have read := ungroup_of_digits Nat.toDigits_ne_nil digits
  unfold decimal?
  rw [read]
  split
  case h_1 leading =>
    have leading := Option.some.inj leading
    by_cases zero : n = 0
    · simp [zero, Nat.toDigits_zero] at leading
    · exact absurd (by rw [leading]; rfl) (toDigits_head zero)
  case h_2 same => rw [← Option.some.inj same, Text.digitsValue_toDigits]
  case h_3 absent => contradiction

theorem integer?_of_decimal? {n : Nat} (all : ∀ c ∈ digits, Text.isDigit c = true)
    (read : decimal? digits = some n) : integer? digits = some (n : Int) := by
  unfold integer?
  split
  case h_6 => simp [read]
  all_goals simp [Text.isDigit] at all

theorem value?_toDigits (n : Nat) : value? (Nat.toDigits 10 n) = some (.integer n) := by
  have digits : ∀ c ∈ Nat.toDigits 10 n, Text.isDigit c = true :=
    fun _ => Text.isDigit_of_mem_toDigits
  have yes : Nat.toDigits 10 n ≠ "true".toList := fun same => by simp [same, Text.isDigit] at digits
  have no : Nat.toDigits 10 n ≠ "false".toList := fun same => by simp [same, Text.isDigit] at digits
  rw [value?, if_neg yes, if_neg no, integer?_of_decimal? digits (decimal?_toDigits n)]

theorem value?_boolean (b : Bool) :
    value? (if b then "true".toList else "false".toList) = some (.boolean b) := by
  cases b <;> rfl

theorem endsToken_of_isDigit {c : Char} (digit : Text.isDigit c = true) : endsToken c = false := by
  by_contra ends
  simp only [endsToken, Bool.not_eq_false, Bool.or_eq_true, beq_iff_eq] at ends
  rcases ends with ((((((rfl | rfl) | rfl) | rfl) | rfl) | rfl) | rfl) | rfl <;> contradiction

theorem read?_token {value : Value} (inside : ∀ c ∈ token, endsToken c = false)
    (read : value? token = some value) :
    read? (token ++ '\n' :: rest) = some (value, '\n' :: rest) := by
  have inside : ∀ c ∈ token, (!endsToken c) = true := fun c mem => by simp [inside c mem]
  have front : (token ++ '\n' :: rest).takeWhile (!endsToken ·) = token := by
    rw [List.takeWhile_append_of_pos inside]
    simp [endsToken]
  have back : (token ++ '\n' :: rest).dropWhile (!endsToken ·) = '\n' :: rest := by
    rw [List.dropWhile_append_of_pos inside]
    simp [endsToken]
  simp [read?, front, back, read]

end EdgeReveal.Toml.Scalar
