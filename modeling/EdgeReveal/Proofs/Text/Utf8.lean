import EdgeReveal.Text.Utf8

/-!
# The bytes of a text are read as the text

A character takes one to four bytes: the first one says how many, and every other one carries six
bits. The reader refuses a longer form than needed and what is no scalar value, so for each length
the bits of the first two bytes are bounded by what only that length is for.
-/
namespace EdgeReveal.Text

theorem toList_bytes (bytes : ByteArray) : bytes.toList = bytes.data.toList := by
  have from_place (place : Nat) (read : List UInt8) :
      ByteArray.toList.loop bytes place read = read.reverse ++ bytes.data.toList.drop place := by
    fun_induction ByteArray.toList.loop bytes place read with
    | case1 place read inside ih =>
      have bound : place < bytes.data.toList.length := by simpa using inside
      rw [ih, List.drop_eq_getElem_cons (l := bytes.data.toList) bound]
      simp [ByteArray.get!, inside]
    | case2 place read outside =>
      rw [List.drop_eq_nil_of_le (by simpa using Nat.le_of_not_lt outside), List.append_nil]
  simp [ByteArray.toList, from_place]

theorem encodeUtf8_eq (text : String) :
    encodeUtf8 text = text.toList.flatMap String.utf8EncodeChar := by
  rw [encodeUtf8, String.toUTF8_eq_toByteArray, toList_bytes]
  conv => lhs; rw [← String.ofList_toList (s := text)]
  exact List.toList_data_toByteArray

/-! ### Reading one character -/

theorem toNat_byte {n : Nat} (small : n < 256) : (UInt8.ofNat n).toNat = n :=
  UInt8.toNat_ofNat_of_lt' small

variable {a : UInt8} {x y z w : Nat} {rest : List UInt8}

/-- A byte from here on is the first of several and is never refused by itself. -/
theorem leads (lower : 0xC2 ≤ a.toNat) (upper : a.toNat ≤ 0xF4) :
    ¬a < 0x80 ∧ ¬(a < 0xC2 || 0xF4 < a) = true := by
  simp only [UInt8.lt_iff_toNat_lt, Bool.or_eq_true, decide_eq_true_eq, UInt8.reduceToNat]
  omega

theorem isContinuation_byte (bits : y < 64) : isContinuation (.ofNat (y + 128)) = true := by
  simp only [isContinuation, Bool.and_eq_true, decide_eq_true_eq, UInt8.le_iff_toNat_le,
    toNat_byte (n := y + 128) (by omega), UInt8.reduceToNat]
  omega

/-- Four leading bytes narrow what may come second: too long a form, or no scalar value. -/
theorem isSecondByte_byte (bits : y < 64) (shortThree : a.toNat = 0xE0 → 32 ≤ y)
    (scalar : a.toNat = 0xED → y < 32) (shortFour : a.toNat = 0xF0 → 16 ≤ y)
    (range : a.toNat = 0xF4 → y < 16) : isSecondByte a (.ofNat (y + 128)) = true := by
  simp only [isSecondByte, secondByteRange, ← UInt8.toNat_inj, Bool.and_eq_true,
    decide_eq_true_eq, UInt8.le_iff_toNat_le, toNat_byte (n := y + 128) (by omega),
    UInt8.reduceToNat]
  repeat' split
  all_goals simp only [UInt8.reduceToNat]
  all_goals constructor <;> omega

theorem scanUtf8_one (bits : x < 128) :
    scanUtf8 (.ofNat x :: rest) = some (Char.ofNat x) :: scanUtf8 rest := by
  have value := toNat_byte (n := x) (by omega)
  have short : UInt8.ofNat x < 0x80 := by
    simp only [UInt8.lt_iff_toNat_lt, value, UInt8.reduceToNat]
    exact bits
  rw [scanUtf8.eq_def]
  simp only [if_pos short, value]

theorem scanUtf8_two (first : 2 ≤ x ∧ x < 32) (second : y < 64) :
    scanUtf8 (.ofNat (x + 192) :: .ofNat (y + 128) :: rest) =
      some (Char.ofNat (x * 64 + y)) :: scanUtf8 rest := by
  have lead := toNat_byte (n := x + 192) (by omega)
  have tail := toNat_byte (n := y + 128) (by omega)
  obtain ⟨long, known⟩ := leads (a := .ofNat (x + 192)) (by omega) (by omega)
  have continued := isSecondByte_byte (a := .ofNat (x + 192)) second (by omega) (by omega)
    (by omega) (by omega)
  have two : UInt8.ofNat (x + 192) < 0xE0 := by
    simp only [UInt8.lt_iff_toNat_lt, lead, UInt8.reduceToNat]
    omega
  have bits : (UInt8.ofNat (x + 192)).toNat % 32 * 64 + (UInt8.ofNat (y + 128)).toNat % 64 =
      x * 64 + y := by omega
  rw [scanUtf8.eq_def]
  simp only [if_neg long, if_neg known, continued, if_pos two, Bool.not_true]
  exact congrArg (fun n => some (Char.ofNat n) :: scanUtf8 rest) bits

theorem scanUtf8_three (first : x < 16) (second : y < 64) (third : z < 64)
    (short : x = 0 → 32 ≤ y) (scalar : x = 13 → y < 32) :
    scanUtf8 (.ofNat (x + 224) :: .ofNat (y + 128) :: .ofNat (z + 128) :: rest) =
      some (Char.ofNat ((x * 64 + y) * 64 + z)) :: scanUtf8 rest := by
  have lead := toNat_byte (n := x + 224) (by omega)
  have middle := toNat_byte (n := y + 128) (by omega)
  have tail := toNat_byte (n := z + 128) (by omega)
  obtain ⟨long, known⟩ := leads (a := .ofNat (x + 224)) (by omega) (by omega)
  have continued := isSecondByte_byte (a := .ofNat (x + 224)) second (by omega) (by omega)
    (by omega) (by omega)
  have three : ¬UInt8.ofNat (x + 224) < 0xE0 ∧ UInt8.ofNat (x + 224) < 0xF0 := by
    simp only [UInt8.lt_iff_toNat_lt, lead, UInt8.reduceToNat]
    omega
  have bits : ((UInt8.ofNat (x + 224)).toNat % 16 * 64 + (UInt8.ofNat (y + 128)).toNat % 64) * 64 +
      (UInt8.ofNat (z + 128)).toNat % 64 = (x * 64 + y) * 64 + z := by omega
  rw [scanUtf8.eq_def]
  simp only [if_neg long, if_neg known, continued, if_neg three.1, if_pos three.2,
    isContinuation_byte third, Bool.not_true]
  exact congrArg (fun n => some (Char.ofNat n) :: scanUtf8 rest) bits

theorem scanUtf8_four (first : x ≤ 4) (second : y < 64) (third : z < 64) (fourth : w < 64)
    (short : x = 0 → 16 ≤ y) (range : x = 4 → y < 16) :
    scanUtf8 (.ofNat (x + 240) :: .ofNat (y + 128) :: .ofNat (z + 128) :: .ofNat (w + 128) ::
        rest) =
      some (Char.ofNat (((x * 64 + y) * 64 + z) * 64 + w)) :: scanUtf8 rest := by
  have lead := toNat_byte (n := x + 240) (by omega)
  have upper := toNat_byte (n := y + 128) (by omega)
  have lower := toNat_byte (n := z + 128) (by omega)
  have tail := toNat_byte (n := w + 128) (by omega)
  obtain ⟨long, known⟩ := leads (a := .ofNat (x + 240)) (by omega) (by omega)
  have continued := isSecondByte_byte (a := .ofNat (x + 240)) second (by omega) (by omega)
    (by omega) (by omega)
  have four : ¬UInt8.ofNat (x + 240) < 0xE0 ∧ ¬UInt8.ofNat (x + 240) < 0xF0 := by
    simp only [UInt8.lt_iff_toNat_lt, lead, UInt8.reduceToNat]
    omega
  have bits : (((UInt8.ofNat (x + 240)).toNat % 8 * 64 + (UInt8.ofNat (y + 128)).toNat % 64) * 64 +
      (UInt8.ofNat (z + 128)).toNat % 64) * 64 + (UInt8.ofNat (w + 128)).toNat % 64 =
      ((x * 64 + y) * 64 + z) * 64 + w := by omega
  rw [scanUtf8.eq_def]
  simp only [if_neg long, if_neg known, continued, if_neg four.1, if_neg four.2,
    isContinuation_byte third, isContinuation_byte fourth, Bool.not_true]
  exact congrArg (fun n => some (Char.ofNat n) :: scanUtf8 rest) bits

/-! ### Reading a text -/

/-- The bytes of a character are read as that character, whatever follows them. -/
theorem scanUtf8_encodeChar (c : Char) (rest : List UInt8) :
    scanUtf8 (String.utf8EncodeChar c ++ rest) = some c :: scanUtf8 rest := by
  have scalar : c.val.toNat < 0xD800 ∨ 0xDFFF < c.val.toNat ∧ c.val.toNat < 0x110000 := c.valid
  have whole : Char.ofNat c.val.toNat = c := Char.ofNat_toNat c
  unfold String.utf8EncodeChar
  generalize c.val.toNat = v at scalar whole
  dsimp only
  split
  next one => rw [List.cons_append, List.nil_append, scanUtf8_one (by omega), whole]
  split
  next two =>
    have bits : v / 64 % 32 * 64 + v % 64 = v := by omega
    rw [List.cons_append, List.cons_append, List.nil_append,
      scanUtf8_two (by omega) (by omega), bits, whole]
  split
  next three =>
    have bits : (v / 4096 % 16 * 64 + v / 64 % 64) * 64 + v % 64 = v := by omega
    rw [List.cons_append, List.cons_append, List.cons_append, List.nil_append,
      scanUtf8_three (by omega) (by omega) (by omega) (by omega) (by omega), bits, whole]
  next four =>
    have bits : ((v / 262144 % 8 * 64 + v / 4096 % 64) * 64 + v / 64 % 64) * 64 + v % 64 = v := by
      omega
    rw [List.cons_append, List.cons_append, List.cons_append, List.cons_append, List.nil_append,
      scanUtf8_four (by omega) (by omega) (by omega) (by omega) (by omega) (by omega), bits, whole]

theorem scanUtf8_encodeUtf8 (text : String) :
    scanUtf8 (encodeUtf8 text) = text.toList.map some := by
  rw [encodeUtf8_eq]
  induction text.toList with
  | nil => rfl
  | cons c rest ih => rw [List.flatMap_cons, scanUtf8_encodeChar, ih, List.map_cons]

/-- A text is read back from its bytes. -/
theorem decodeUtf8?_encodeUtf8 (text : String) : decodeUtf8? (encodeUtf8 text) = some text := by
  have characters : (text.toList.map some).mapM id = some text.toList := by
    induction text.toList with
    | nil => rfl
    | cons c rest ih => simp [ih]
  rw [decodeUtf8?, scanUtf8_encodeUtf8, characters, Option.map_some, String.ofList_toList]

end EdgeReveal.Text
