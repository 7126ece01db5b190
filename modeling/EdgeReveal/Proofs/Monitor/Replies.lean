import EdgeReveal.Compositor.Client
import EdgeReveal.Proofs.Json.Exact
import EdgeReveal.Proofs.Monitor.Entries
import EdgeReveal.Proofs.Text.Utf8

/-!
# Listings of monitors

A reply that is an array of objects lists one monitor for each of them, in their order. An entry
that describes no monitor rejects the whole reply.
-/
namespace EdgeReveal

open Json (Value Characters)

variable {entries : List (List (Characters × Value))} {monitors : List Monitor} {text : String}

/-! ### Entry by entry -/

/-- A traversal that may fail goes through exactly if every element does. -/
theorem mapM_eq_some_iff {α β : Type} {f : α → Option β} {xs : List α} {ys : List β} :
    xs.mapM f = some ys ↔ List.Forall₂ (fun x y => f x = some y) xs ys := by
  induction xs generalizing ys with
  | nil => cases ys <;> simp
  | cons x xs ih => cases ys <;> simp [Option.bind_eq_some_iff, ih]

theorem exists_forall₂_iff {α β : Type} {related : α → β → Prop} {xs : List α} :
    (∃ ys, List.Forall₂ related xs ys) ↔ ∀ x ∈ xs, ∃ y, related x y := by
  induction xs with
  | nil => simp
  | cons x xs ih =>
    simp only [List.forall₂_cons_left_iff, List.forall_mem_cons, ← ih]
    constructor
    · rintro ⟨_, y, ys, first, others, rfl⟩
      exact ⟨⟨y, first⟩, ys, others⟩
    · rintro ⟨⟨y, first⟩, ys, others⟩
      exact ⟨y :: ys, y, ys, first, others, rfl⟩

namespace Monitor

theorem ofReply?_eq_some_iff (spelled : Json.Padded text.toList (.array (entries.map .object))) :
    ofReply? text = some monitors ↔ List.Forall₂ Describes entries monitors := by
  simp only [ofReply?, Json.parse?_eq_some_iff.mpr spelled, mapM_eq_some_iff,
    List.forall₂_map_left_iff, ofValue?, ofMembers?_eq_some_iff]

theorem ofReply?_eq_none_iff (spelled : Json.Padded text.toList (.array (entries.map .object))) :
    ofReply? text = none ↔
      ∃ entry ∈ entries, Faulty entry ∨ ∃ member ∈ entry, member.1 = none := by
  rw [← not_iff_not, ← ne_eq, Option.ne_none_iff_exists']
  simp only [ofReply?_eq_some_iff spelled, exists_forall₂_iff, exists_describes_iff]
  simp only [not_exists, not_and, not_or, and_comm, ne_eq]

end Monitor

/-! ### The reply of the compositor -/

/-- A bracket is no blank, so the reply does not count as empty. -/
theorem not_blank_of_spelled {chars : List Char} {items : List Value}
    (spelled : Json.Padded chars (.array items)) : chars.all Text.isBlank = false := by
  have bracket : '[' ∈ chars := by
    cases spelled with
    | pad front core back => cases core <;> simp
  exact List.all_eq_false.mpr ⟨'[', bracket, by decide⟩

namespace Client

theorem monitors_of_text (path : String) (dark : text.toList.all Text.isBlank = false) :
    Client.monitors ⟨path, .replying (Text.encodeUtf8 text)⟩ =
      (Monitor.ofReply? text).elim (.error .invalidReply) .ok := by
  have replied : request ⟨path, .replying (Text.encodeUtf8 text)⟩ monitorsCommand = .ok text := by
    simp [request, Text.decodeUtf8?_encodeUtf8, dark]
  rw [Client.monitors, replied]
  cases read : Monitor.ofReply? text <;> simp [read]

/-- A reply that spells an array of objects, however it is spaced and escaped, lists the monitors
that the objects describe, one for each and in their order, whatever else the objects hold. It is
rejected as a whole exactly if some entry has a fault or a key that cannot be read. -/
theorem listing_of_reply (path : String) {text : String}
    {entries : List (List (Characters × Value))}
    (spelled : Json.Padded text.toList (.array (entries.map .object))) :
    let listing := Client.monitors ⟨path, .replying (Text.encodeUtf8 text)⟩
    (∀ monitors, listing = .ok monitors ↔ List.Forall₂ Monitor.Describes entries monitors) ∧
    (listing = .error .invalidReply ↔
      ∃ entry ∈ entries, Monitor.Faulty entry ∨ ∃ member ∈ entry, member.1 = none) := by
  have dark := not_blank_of_spelled spelled
  simp only [monitors_of_text path dark, ← Monitor.ofReply?_eq_some_iff spelled,
    ← Monitor.ofReply?_eq_none_iff spelled]
  cases Monitor.ofReply? text <;> simp

/-- An entry among other keys, with its own keys inside one of them, and one that leaves nothing to
the defaults; and a null in the second of two entries. -/
theorem listing_of_reply_nested :
    Client.monitors ⟨"s", .replying (Text.encodeUtf8
      "[\x7b\"id\": \x7b\"name\":\"1\",\"x\":[null]\x7d,\t\"y\" :-5,\"na\\u006De\":\"DP-1\",
        \"x\":0,\"height\":9,\"width\":16\x7d,
        \x7b\"scale\":1.50,\"transform\":3,\"disabled\":true,\"focused\":true,
        \"name\":\"B\",\"x\":16,\"y\":0,\"width\":4,\"height\":2\x7d]")⟩ =
      .ok [⟨"DP-1", 0, -5, 16, 9, 1.0, 0, false, false⟩,
        ⟨"B", 16, 0, 4, 2, UInt64.toFloat 150 / Json.Numeral.powerOfTen 2, 3, true, true⟩] ∧
    Client.monitors ⟨"s", .replying (Text.encodeUtf8
      "[\x7b\"name\":\"A\",\"x\":0,\"y\":0,\"width\":1,\"height\":1\x7d,
        \x7b\"name\":\"B\",\"x\":0,\"y\":0,\"width\":1,\"height\":null\x7d]")⟩ =
      .error .invalidReply := by
  constructor
  · have scale : Json.Numeral.toFloat? ⟨false, ['1'], some ['5', '0'], none⟩ =
        some (UInt64.toFloat 150 / Json.Numeral.powerOfTen 2) := by
      rw [show Json.Numeral.toFloat? _ = some (Json.Numeral.scaleDown (UInt64.toFloat 150) 2)
        from rfl, Json.Numeral.scaleDown]
      rfl
    refine ((@listing_of_reply "s" _
      [[(some "id", .object [(some "name", .text (some "1")), (some "x", .array [.null])]),
        (some "y", .number ⟨true, ['5'], none, none⟩),
        (some "name", .text (some "DP-1")),
        (some "x", .number ⟨false, ['0'], none, none⟩),
        (some "height", .number ⟨false, ['9'], none, none⟩),
        (some "width", .number ⟨false, ['1', '6'], none, none⟩)],
       [(some "scale", .number ⟨false, ['1'], some ['5', '0'], none⟩),
        (some "transform", .number ⟨false, ['3'], none, none⟩),
        (some "disabled", .boolean true),
        (some "focused", .boolean true),
        (some "name", .text (some "B")),
        (some "x", .number ⟨false, ['1', '6'], none, none⟩),
        (some "y", .number ⟨false, ['0'], none, none⟩),
        (some "width", .number ⟨false, ['4'], none, none⟩),
        (some "height", .number ⟨false, ['2'], none, none⟩)]]
      (Json.parse?_eq_some_iff.mp (by cbv))).1 _).mpr (.cons ?sparse (.cons ?full .nil))
    case sparse => exact {
      readable := by decide
      name := ⟨_, rfl, rfl⟩
      x := ⟨_, rfl, .natural⟩
      y := ⟨_, rfl, .negative (by decide)⟩
      width := ⟨_, rfl, .natural⟩
      height := ⟨_, rfl, .natural⟩
      scale := .inr ⟨rfl, rfl⟩
      transform := .inr ⟨rfl, rfl⟩
      focused := .inr ⟨rfl, rfl⟩
      disabled := .inr ⟨rfl, rfl⟩ }
    case full => exact {
      readable := by decide
      name := ⟨_, rfl, rfl⟩
      x := ⟨_, rfl, .natural⟩
      y := ⟨_, rfl, .natural⟩
      width := ⟨_, rfl, .natural⟩
      height := ⟨_, rfl, .natural⟩
      scale := .inl ⟨_, rfl, _, rfl, scale⟩
      transform := .inl ⟨_, rfl, .natural⟩
      focused := .inl ⟨_, rfl, rfl⟩
      disabled := .inl ⟨_, rfl, rfl⟩ }
  · refine (@listing_of_reply "s" _
      [[(some "name", .text (some "A")),
        (some "x", .number ⟨false, ['0'], none, none⟩),
        (some "y", .number ⟨false, ['0'], none, none⟩),
        (some "width", .number ⟨false, ['1'], none, none⟩),
        (some "height", .number ⟨false, ['1'], none, none⟩)],
       [(some "name", .text (some "B")),
        (some "x", .number ⟨false, ['0'], none, none⟩),
        (some "y", .number ⟨false, ['0'], none, none⟩),
        (some "width", .number ⟨false, ['1'], none, none⟩),
        (some "height", .null)]]
      (Json.parse?_eq_some_iff.mp (by cbv))).2.mpr ⟨_, .tail _ (.head _), .inl ?_⟩
    refine @Monitor.Faulty.misfit _ "height" .null (.head _) ?_
    rintro ⟨i, integer, -⟩
    cases integer

end Client

end EdgeReveal
