import EdgeReveal.Compositor.Client
import EdgeReveal.Proofs.Text.Decimal
import EdgeReveal.Proofs.Text.Cutting

/-!
# Replies that hold a position

A reply holds a position if it is two integers with a comma between them, and blanks anywhere
around them. The grammar says which texts those are; reading a reply gives the two integers exactly
if it is in the grammar and both are 32-bit words, and hands the reply back otherwise.
-/
namespace EdgeReveal

open Text (Trims Numeral InRange isBlank)

variable {text before after reply : List Char} {x y : Int} {p : Position}

/-- The text is two integers and a comma. The first comma is the one that separates, so any other
comma falls into the second half and spoils it. -/
inductive HoldsPair : List Char → Int → Int → Prop
  | pair {reply before after left right : List Char} {x y : Int}
      (whole : Trims reply (before ++ ',' :: after)) (first : ',' ∉ before)
      (front : Trims before left) (back : Trims after right)
      (horizontal : Numeral left x) (vertical : Numeral right y) : HoldsPair reply x y

/-! ### Reading by the grammar -/

theorem splitComma_append (first : ',' ∉ before) (after : List Char) :
    splitComma (before ++ ',' :: after) = some (before, after) := by
  rw [splitComma, Text.dropWhile_ne_append first, Text.takeWhile_ne_append first]

theorem splitComma_eq_some_iff :
    splitComma text = some (before, after) ↔ text = before ++ ',' :: after ∧ ',' ∉ before := by
  constructor
  · intro parted
    have comma : ',' ∈ text := by
      by_contra none
      have all : text.dropWhile (· != ',') = [] := List.dropWhile_eq_nil_iff.mpr fun c mem => by
        simpa using ne_of_mem_of_not_mem mem none
      rw [splitComma, all] at parted
      cases parted
    -- the parts at the first comma are the only ones that are read
    obtain ⟨front, back, rfl, first⟩ := List.eq_append_cons_of_mem comma
    rw [splitComma_append first] at parted
    cases parted
    exact ⟨rfl, first⟩
  · rintro ⟨rfl, first⟩
    exact splitComma_append first after

theorem holdsPair_iff : HoldsPair reply x y ↔
    ∃ before after, splitComma (Text.trim reply) = some (before, after) ∧
      Numeral (Text.trim before) x ∧ Numeral (Text.trim after) y := by
  constructor
  · rintro ⟨whole, first, front, back, horizontal, vertical⟩
    refine ⟨_, _, splitComma_eq_some_iff.mpr ⟨Text.trim_eq_iff.mpr whole, first⟩, ?_, ?_⟩
    · rwa [Text.trim_eq_iff.mpr front]
    · rwa [Text.trim_eq_iff.mpr back]
  · rintro ⟨before, after, parted, horizontal, vertical⟩
    obtain ⟨whole, first⟩ := splitComma_eq_some_iff.mp parted
    exact .pair (Text.trim_eq_iff.mp whole) first (Text.trim_eq_iff.mp rfl)
      (Text.trim_eq_iff.mp rfl) horizontal vertical

theorem ofReply?_eq_some_iff {reply : String} :
    Position.ofReply? reply = some p ↔ HoldsPair reply.toList p.x.toInt p.y.toInt := by
  simp only [Position.ofReply?, Option.bind_eq_bind, Option.bind_eq_some_iff, Option.pure_def,
    Prod.exists, holdsPair_iff, ← Text.int32?_eq_some_iff]
  constructor
  · rintro ⟨before, after, parted, x, horizontal, y, vertical, same⟩
    cases same
    exact ⟨before, after, parted, horizontal, vertical⟩
  · rintro ⟨before, after, parted, horizontal, vertical⟩
    exact ⟨before, after, parted, _, horizontal, _, vertical, rfl⟩

theorem ofReply_eq_ok_iff {reply : String} :
    Position.ofReply reply = .ok p ↔ HoldsPair reply.toList p.x.toInt p.y.toInt := by
  rw [← ofReply?_eq_some_iff, Position.ofReply]
  cases Position.ofReply? reply <;> simp

theorem exists_ofReply_iff {reply : String} :
    (∃ p, Position.ofReply reply = .ok p) ↔
      ∃ x y, HoldsPair reply.toList x y ∧ InRange x ∧ InRange y := by
  constructor
  · rintro ⟨p, read⟩
    exact ⟨_, _, ofReply_eq_ok_iff.mp read, Text.inRange_toInt p.x, Text.inRange_toInt p.y⟩
  · rintro ⟨x, y, held, ⟨lowX, highX⟩, lowY, highY⟩
    refine ⟨⟨.ofInt x, .ofInt y⟩, ofReply_eq_ok_iff.mpr ?_⟩
    rwa [Int32.toInt_ofInt_of_le lowX highX, Int32.toInt_ofInt_of_le lowY highY]

theorem ofReply_eq_error_iff {reply : String} {fault : PointerFault} :
    Position.ofReply reply = .error fault ↔
      fault = .malformed reply ∧ ¬ ∃ x y, HoldsPair reply.toList x y ∧ InRange x ∧ InRange y := by
  rw [← exists_ofReply_iff, Position.ofReply]
  cases Position.ofReply? reply <;> simp [eq_comm]

/-! ### Printed pairs -/

theorem dark_of_numeral (numeral : Numeral text x) :
    text ≠ [] ∧ ∀ c ∈ text, isBlank c = false ∧ c ≠ ',' := by
  have digit {digits : List Char} {n : Nat} (written : Text.Digits digits n) :
      ∀ c ∈ digits, isBlank c = false ∧ c ≠ ',' := by
    intro c mem
    obtain ⟨d, small, rfl⟩ := Text.isDigit_iff.mp (written.isDigit c mem)
    have each : ∀ d < 10, isBlank (Nat.digitChar d) = false ∧ Nat.digitChar d ≠ ',' := by decide
    exact each d small
  cases numeral with
  | unsigned written => exact ⟨written.nonempty, digit written⟩
  | plus written | minus written =>
    refine ⟨List.cons_ne_nil _ _, fun c mem => ?_⟩
    rcases List.mem_cons.mp mem with rfl | mem
    · decide
    · exact digit written c mem

/-- Two written integers with a comma between them, whatever blanks stand around them. -/
theorem holdsPair_of_numerals {left right a b c d : List Char} (horizontal : Numeral left x)
    (vertical : Numeral right y) (blank : ∀ ch ∈ a ++ b ++ c ++ d, isBlank ch = true) :
    HoldsPair (a ++ left ++ b ++ ',' :: (c ++ right ++ d)) x y := by
  obtain ⟨someLeft, darkLeft⟩ := dark_of_numeral horizontal
  obtain ⟨someRight, darkRight⟩ := dark_of_numeral vertical
  simp only [List.mem_append, or_imp, forall_and] at blank
  obtain ⟨⟨⟨blankA, blankB⟩, blankC⟩, blankD⟩ := blank
  have begins : ∀ ch, left.head? = some ch → isBlank ch = false := fun ch head =>
    (darkLeft ch (List.mem_of_head? head)).1
  have ends : ∀ ch, right.getLast? = some ch → isBlank ch = false := fun ch last =>
    (darkRight ch (List.mem_of_getLast? last)).1
  -- the blanks next to the comma stay when the whole is trimmed, and go with the halves
  have whole : Trims (a ++ left ++ b ++ ',' :: (c ++ right ++ d))
      (left ++ b ++ ',' :: (c ++ right)) := by
    refine ⟨⟨a, d, by simp, blankA, blankD⟩, fun ch head => begins ch ?_, fun ch last => ends ch ?_⟩
    · rwa [List.append_assoc, List.head?_append_of_ne_nil _ someLeft] at head
    · rwa [← List.cons_append, ← List.append_assoc, List.getLast?_append_of_ne_nil _ someRight]
        at last
  have front : Trims (left ++ b) left := by
    refine ⟨⟨[], b, rfl, by simp, blankB⟩, begins, fun ch last => ?_⟩
    exact (darkLeft ch (List.mem_of_getLast? last)).1
  have back : Trims (c ++ right) right := by
    refine ⟨⟨c, [], by simp, blankC, by simp⟩, fun ch head => ?_, ends⟩
    exact (darkRight ch (List.mem_of_head? head)).1
  -- neither digits nor signs nor blanks are commas, so the one between the halves is the first
  refine .pair whole (fun mem => ?_) front back horizontal vertical
  rcases List.mem_append.mp mem with mem | mem
  · exact (darkLeft _ mem).2 rfl
  · exact absurd (blankB _ mem) (by decide)

/-- A reply is read as a position exactly if it is in the grammar with two integers that are
32-bit words, and then it is read as these two; any other reply comes back unchanged as malformed.
So every printed position is read back, whatever blanks are put around its halves. -/
theorem reply_read_by_grammar :
    (∀ reply p, Position.ofReply reply = .ok p ↔
      HoldsPair reply.toList p.x.toInt p.y.toInt) ∧
    (∀ reply, (∃ p, Position.ofReply reply = .ok p) ↔
      ∃ x y, HoldsPair reply.toList x y ∧ InRange x ∧ InRange y) ∧
    (∀ reply fault, Position.ofReply reply = .error fault ↔ fault = .malformed reply ∧
      ¬ ∃ x y, HoldsPair reply.toList x y ∧ InRange x ∧ InRange y) ∧
    ∀ (p : Position) (a b c d : String),
      (∀ ch ∈ (a ++ b ++ c ++ d).toList, isBlank ch = true) →
        Position.ofReply
          (a ++ toString p.x.toInt ++ b ++ "," ++ (c ++ toString p.y.toInt ++ d)) = .ok p := by
  refine ⟨fun _ _ => ofReply_eq_ok_iff, fun _ => exists_ofReply_iff,
    fun _ _ => ofReply_eq_error_iff, fun p a b c d blank => ?_⟩
  have horizontal := Text.numeral_repr p.x.toInt
  have vertical := Text.numeral_repr p.y.toInt
  simp only [String.toList_append] at blank
  rw [ofReply_eq_ok_iff]
  simpa using holdsPair_of_numerals horizontal vertical blank

/-- The corners of the coordinates between ideographic and ASCII blanks, a reply with signs and
leading zeros, one with a second comma and one just beyond the range. -/
theorem reply_read_by_grammar_corners :
    Position.ofReply "\u3000-2147483648 \t,\u00a02147483647\r\n" =
      .ok ⟨-2147483648, 2147483647⟩ ∧
    HoldsPair "+0002147483647,-00".toList 2147483647 0 ∧
    (¬ ∃ x y, HoldsPair "1,2,3".toList x y ∧ InRange x ∧ InRange y) ∧
    ¬ ∃ x y, HoldsPair "2147483648,-2147483649".toList x y ∧ InRange x ∧ InRange y := by
  obtain ⟨accepted, -, refused, printed⟩ := reply_read_by_grammar
  have blank : ("\u3000" ++ " \t" ++ "\u00a0" ++ "\r\n").toList.all isBlank = true := by
    decide +kernel
  have corner := printed ⟨-2147483648, 2147483647⟩ "\u3000" " \t" "\u00a0" "\r\n"
    (List.all_eq_true.mp blank)
  refine ⟨corner, ?signs, ?comma, ?beyond⟩
  case signs => exact (accepted "+0002147483647,-00" ⟨2147483647, 0⟩).mp rfl
  case comma => exact ((refused "1,2,3" _).mp rfl).2
  case beyond => exact ((refused "2147483648,-2147483649" _).mp rfl).2

end EdgeReveal
