import EdgeReveal.Monitor.Reply
import Mathlib

/-!
# What an entry says of a monitor

An entry has the known keys in any order and among any others. It says what it says of each of them
once, or leaves it out where there is a default, and an entry with a fault says nothing at all.
-/
namespace EdgeReveal.Monitor

open Json (Value Numeral Characters)

variable {members : List (Characters × Value)} {key : String} {kind : Value → Prop} {unset : Prop}
  {value : Value} {m : Monitor}

/-- The values that an object has under a key. -/
def valuesAt (members : List (Characters × Value)) (key : String) : List Value :=
  (members.filter (·.1 == some key)).map (·.2)

/-- A number with neither a fraction nor an exponent. Minus zero is none. -/
inductive IsInteger : Value → Int → Prop
  | natural {digits : List Char} :
      IsInteger (.number ⟨false, digits, none, none⟩) (Text.digitsValue digits)
  | negative {digits : List Char} (nonzero : Text.digitsValue digits ≠ 0) :
      IsInteger (.number ⟨true, digits, none, none⟩) (-(Text.digitsValue digits : Int))

/-- The key stands once, and its value is of the kind. -/
def Has (members : List (Characters × Value)) (key : String) (kind : Value → Prop) : Prop :=
  ∃ value, valuesAt members key = [value] ∧ kind value

/-- The key stands once with a value of the kind, or it is left out and the default holds. -/
def HasOr (members : List (Characters × Value)) (key : String) (kind : Value → Prop)
    (unset : Prop) : Prop :=
  Has members key kind ∨ (valuesAt members key = [] ∧ unset)

/-- The object is an entry for the monitor. -/
structure Describes (members : List (Characters × Value)) (m : Monitor) : Prop where
  readable : ∀ member ∈ members, member.1 ≠ none
  name : Has members "name" (· = .text (some m.name))
  x : Has members "x" (IsInteger · m.x.toInt)
  y : Has members "y" (IsInteger · m.y.toInt)
  width : Has members "width" (IsInteger · m.width.toInt)
  height : Has members "height" (IsInteger · m.height.toInt)
  scale : HasOr members "scale" (fun value => ∃ n, value = .number n ∧ n.toFloat? = some m.scale)
    (m.scale = 1.0)
  transform : HasOr members "transform" (IsInteger · m.transform.toNat) (m.transform = 0)
  focused : HasOr members "focused" (· = .boolean m.focused) (m.focused = false)
  disabled : HasOr members "disabled" (· = .boolean m.disabled) (m.disabled = false)

/-- The value is of the type of its key and in its range. A key that is not known takes any. -/
def Fits (key : String) (value : Value) : Prop :=
  match key with
  | "name" => ∃ s, value = .text (some s)
  | "x" | "y" | "width" | "height" => ∃ i, IsInteger value i ∧ -2 ^ 31 ≤ i ∧ i < 2 ^ 31
  | "scale" => ∃ n f, value = .number n ∧ n.toFloat? = some f
  | "transform" => ∃ i, IsInteger value i ∧ 0 ≤ i ∧ i < 2 ^ 8
  | "focused" | "disabled" => ∃ b, value = .boolean b
  | _ => True

/-- A required key is missing, a known key stands twice, or its value does not fit. -/
inductive Faulty (members : List (Characters × Value)) : Prop
  | missing {key : String} (required : key ∈ ["name", "x", "y", "width", "height"])
      (absent : valuesAt members key = [])
  | repeated {key : String} (known : key ∈ keys) (twice : 2 ≤ (valuesAt members key).length)
  | misfit {key : String} {value : Value} (there : value ∈ valuesAt members key)
      (unfit : ¬ Fits key value)

/-! ### Reading a value -/

theorem integer?_eq_some_iff {n : Numeral} {i : Int} :
    n.integer? = some i ↔ IsInteger (.number n) i := by
  obtain ⟨negative, whole, fraction, exponent⟩ := n
  constructor
  · intro read
    unfold Numeral.integer? at read
    split at read
    next plain =>
      obtain ⟨rfl, rfl⟩ := plain
      cases negative with
      | false =>
        cases read
        exact .natural
      | true =>
        obtain ⟨nonzero, rfl⟩ : Text.digitsValue whole ≠ 0 ∧ _ = i := by simpa using read
        exact .negative nonzero
    next => cases read
  · intro integer
    cases integer with
    | natural => simp [Numeral.integer?]
    | negative nonzero => simp [Numeral.integer?, nonzero]

/-- An integer of a range is read as the word that it is the value of. -/
theorem ranged_eq_some_iff {α : Type} {inRange : Int → Prop} [DecidablePred inRange]
    {word : Int → α} (toInt : α → Int) (same : ∀ i, inRange i → toInt (word i) = i)
    (ranged : ∀ a, inRange (toInt a) ∧ word (toInt a) = a) {n : Numeral} {a : α} :
    (match n.integer? with
      | some i => if inRange i then some (word i) else none
      | none => none) = some a ↔ IsInteger (.number n) (toInt a) := by
  rw [← integer?_eq_some_iff]
  cases n.integer? with
  | none => simp
  | some i =>
    simp only [Option.ite_none_right_eq_some, Option.some.injEq]
    constructor
    · rintro ⟨inside, rfl⟩
      exact (same i inside).symm
    · rintro rfl
      exact ranged a

theorem int32?_eq_some_iff {word : Int32} :
    int32? value = some word ↔ IsInteger value word.toInt := by
  cases value with
  | number n =>
    refine ranged_eq_some_iff Int32.toInt (fun i inside => ?_) fun word =>
      ⟨⟨word.minValue_le_toInt, word.toInt_le⟩, Int32.ofInt_toInt word⟩
    exact Int32.toInt_ofInt_of_le inside.1 (Int.lt_of_le_sub_one inside.2)
  | _ => exact ⟨nofun, nofun⟩

theorem byte?_eq_some_iff {byte : UInt8} :
    byte? value = some byte ↔ IsInteger value byte.toNat := by
  cases value with
  | number n =>
    refine ranged_eq_some_iff (fun byte : UInt8 => (byte.toNat : Int)) (fun i inside => ?_)
      fun byte => ⟨?_, ?_⟩
    · obtain ⟨n, rfl⟩ := Int.eq_ofNat_of_zero_le inside.1
      have small : n < 256 := by omega
      simp [Nat.mod_eq_of_lt small]
    · have small := byte.toNat_lt
      omega
    · simp
  | _ => exact ⟨nofun, nofun⟩

theorem float?_eq_some_iff {f : Float} :
    float? value = some f ↔ ∃ n, value = .number n ∧ n.toFloat? = some f := by
  cases value <;> simp [float?]

theorem boolean?_eq_some_iff {b : Bool} : boolean? value = some b ↔ value = .boolean b := by
  cases value <;> simp [boolean?]

theorem text?_eq_some_iff {s : String} : text? value = some s ↔ value = .text (some s) := by
  cases value <;> simp [text?]

/-! ### Finding a key -/

theorem member?_eq (members : List (Characters × Value)) (key : String) :
    member? members key = (valuesAt members key).head? := by
  rw [member?, valuesAt, List.head?_map, List.head?_filter]

theorem keysAgree_iff : keysAgree members = true ↔
    (∀ member ∈ members, member.1 ≠ none) ∧
      ∀ key ∈ keys, (valuesAt members key).length ≤ 1 := by
  simp [keysAgree, valuesAt, List.countP_eq_length_filter, Option.isSome_iff_ne_none]

theorem has_iff (once : (valuesAt members key).length ≤ 1) :
    Has members key kind ↔ ∃ value, member? members key = some value ∧ kind value := by
  rw [member?_eq, Has]
  match valuesAt members key, once with
  | [], _ => simp
  | [value], _ => simp

theorem withDefault_iff {α : Type} {read : Value → Option α} {default a : α}
    (once : (valuesAt members key).length ≤ 1) :
    withDefault read default (member? members key) = some a ↔
      HasOr members key (fun value => read value = some a) (a = default) := by
  rw [member?_eq, HasOr, Has]
  match valuesAt members key, once with
  | [], _ => simp [withDefault, eq_comm]
  | [value], _ => simp [withDefault]

theorem Has.once (has : Has members key kind) : (valuesAt members key).length ≤ 1 := by
  obtain ⟨value, only, -⟩ := has
  simp [only]

theorem HasOr.once (has : HasOr members key kind unset) :
    (valuesAt members key).length ≤ 1 := by
  obtain has | ⟨absent, -⟩ := has
  · exact has.once
  · simp [absent]

theorem ofFields?_eq_some_iff {name x y width height : Value}
    {scale transform focused disabled : Option Value} :
    ofFields? name x y width height scale transform focused disabled = some m ↔
      text? name = some m.name ∧ int32? x = some m.x ∧ int32? y = some m.y ∧
      int32? width = some m.width ∧ int32? height = some m.height ∧
      withDefault float? 1.0 scale = some m.scale ∧
      withDefault byte? 0 transform = some m.transform ∧
      withDefault boolean? false focused = some m.focused ∧
      withDefault boolean? false disabled = some m.disabled := by
  simp only [ofFields?, Option.bind_eq_bind, Option.bind_eq_some_iff, Option.pure_def,
    Option.some.injEq]
  constructor
  · rintro ⟨_, isName, _, isX, _, isY, _, isWidth, _, isHeight, _, isScale, _, isTransform, _,
      isFocused, _, isDisabled, rfl⟩
    exact ⟨isName, isX, isY, isWidth, isHeight, isScale, isTransform, isFocused, isDisabled⟩
  · rintro ⟨isName, isX, isY, isWidth, isHeight, isScale, isTransform, isFocused, isDisabled⟩
    exact ⟨_, isName, _, isX, _, isY, _, isWidth, _, isHeight, _, isScale, _, isTransform, _,
      isFocused, _, isDisabled, rfl⟩

/-! ### Reading an entry -/

theorem Describes.once (describes : Describes members m) :
    ∀ key ∈ keys, (valuesAt members key).length ≤ 1 := by
  simp only [keys, List.forall_mem_cons, List.not_mem_nil, false_implies, implies_true, and_true]
  exact ⟨describes.name.once, describes.x.once, describes.y.once, describes.width.once,
    describes.height.once, describes.scale.once, describes.transform.once,
    describes.focused.once, describes.disabled.once⟩

theorem ofMembers?_eq_some_iff : ofMembers? members = some m ↔ Describes members m := by
  unfold ofMembers?
  rw [Option.ite_none_right_eq_some, keysAgree_iff]
  simp only [Option.bind_eq_bind, Option.bind_eq_some_iff, ofFields?_eq_some_iff]
  constructor
  · -- no known key stands twice, so the first value of a key is its only one
    rintro ⟨⟨readable, once⟩, name, atName, x, atX, y, atY, width, atWidth, height, atHeight,
      isName, isX, isY, isWidth, isHeight, isScale, isTransform, isFocused, isDisabled⟩
    exact {
      readable
      name := (has_iff (once _ (by decide))).mpr ⟨name, atName, text?_eq_some_iff.mp isName⟩
      x := (has_iff (once _ (by decide))).mpr ⟨x, atX, int32?_eq_some_iff.mp isX⟩
      y := (has_iff (once _ (by decide))).mpr ⟨y, atY, int32?_eq_some_iff.mp isY⟩
      width := (has_iff (once _ (by decide))).mpr ⟨width, atWidth, int32?_eq_some_iff.mp isWidth⟩
      height := (has_iff (once _ (by decide))).mpr
        ⟨height, atHeight, int32?_eq_some_iff.mp isHeight⟩
      scale := by
        simpa only [float?_eq_some_iff] using (withDefault_iff (once _ (by decide))).mp isScale
      transform := by
        simpa only [byte?_eq_some_iff] using (withDefault_iff (once _ (by decide))).mp isTransform
      focused := by
        simpa only [boolean?_eq_some_iff] using (withDefault_iff (once _ (by decide))).mp isFocused
      disabled := by
        simpa only [boolean?_eq_some_iff] using
          (withDefault_iff (once _ (by decide))).mp isDisabled }
  · intro describes
    obtain ⟨name, atName, isName⟩ := (has_iff describes.name.once).mp describes.name
    obtain ⟨x, atX, isX⟩ := (has_iff describes.x.once).mp describes.x
    obtain ⟨y, atY, isY⟩ := (has_iff describes.y.once).mp describes.y
    obtain ⟨width, atWidth, isWidth⟩ := (has_iff describes.width.once).mp describes.width
    obtain ⟨height, atHeight, isHeight⟩ := (has_iff describes.height.once).mp describes.height
    refine ⟨⟨describes.readable, describes.once⟩, name, atName, x, atX, y, atY, width, atWidth,
      height, atHeight, text?_eq_some_iff.mpr isName, int32?_eq_some_iff.mpr isX,
      int32?_eq_some_iff.mpr isY, int32?_eq_some_iff.mpr isWidth, int32?_eq_some_iff.mpr isHeight,
      (withDefault_iff describes.scale.once).mpr ?_,
      (withDefault_iff describes.transform.once).mpr ?_,
      (withDefault_iff describes.focused.once).mpr ?_,
      (withDefault_iff describes.disabled.once).mpr ?_⟩
    · simpa only [float?_eq_some_iff] using describes.scale
    · simpa only [byte?_eq_some_iff] using describes.transform
    · simpa only [boolean?_eq_some_iff] using describes.focused
    · simpa only [boolean?_eq_some_iff] using describes.disabled

/-! ### Faults -/

theorem Has.of_mem (has : Has members key kind) (there : value ∈ valuesAt members key) :
    kind value := by
  obtain ⟨only, stands, isKind⟩ := has
  rw [stands, List.mem_singleton] at there
  exact there ▸ isKind

theorem HasOr.of_mem (has : HasOr members key kind unset)
    (there : value ∈ valuesAt members key) : kind value := by
  obtain has | ⟨absent, -⟩ := has
  · exact has.of_mem there
  · rw [absent] at there
    cases there

theorem Describes.fits (describes : Describes members m) (there : value ∈ valuesAt members key) :
    Fits key value := by
  unfold Fits
  split
  · exact ⟨_, describes.name.of_mem there⟩
  · exact ⟨_, describes.x.of_mem there, m.x.le_toInt, m.x.toInt_lt⟩
  · exact ⟨_, describes.y.of_mem there, m.y.le_toInt, m.y.toInt_lt⟩
  · exact ⟨_, describes.width.of_mem there, m.width.le_toInt, m.width.toInt_lt⟩
  · exact ⟨_, describes.height.of_mem there, m.height.le_toInt, m.height.toInt_lt⟩
  · obtain ⟨n, isNumber, finite⟩ := describes.scale.of_mem there
    exact ⟨n, _, isNumber, finite⟩
  · exact ⟨_, describes.transform.of_mem there, by omega, mod_cast m.transform.toNat_lt⟩
  · exact ⟨_, describes.focused.of_mem there⟩
  · exact ⟨_, describes.disabled.of_mem there⟩
  · trivial

theorem Has.ne_nil (has : Has members key kind) : valuesAt members key ≠ [] := by
  obtain ⟨only, stands, -⟩ := has
  simp [stands]

theorem Describes.present (describes : Describes members m) :
    ∀ key ∈ ["name", "x", "y", "width", "height"], valuesAt members key ≠ [] := by
  simp only [List.forall_mem_cons, List.not_mem_nil, false_implies, implies_true, and_true]
  exact ⟨describes.name.ne_nil, describes.x.ne_nil, describes.y.ne_nil, describes.width.ne_nil,
    describes.height.ne_nil⟩

theorem Describes.not_faulty (describes : Describes members m) : ¬ Faulty members := by
  rintro (⟨required, absent⟩ | ⟨known, twice⟩ | ⟨there, unfit⟩)
  · exact describes.present _ required absent
  · exact Nat.not_lt.mpr (describes.once _ known) twice
  · exact unfit (describes.fits there)

/-! ### Entries without a fault -/

theorem hasOr_of_not_faulty (sound : ¬ Faulty members) (known : key ∈ keys) :
    HasOr members key (Fits key) True := by
  have fits : ∀ value ∈ valuesAt members key, Fits key value := fun value there =>
    not_not.mp fun unfit => sound (.misfit there unfit)
  match values : valuesAt members key with
  | [] => exact .inr ⟨values, trivial⟩
  | [value] => exact .inl ⟨value, values, fits value (by simp [values])⟩
  | _ :: _ :: _ => exact (sound (.repeated known (by simp [values]))).elim

theorem has_of_not_faulty (sound : ¬ Faulty members)
    (required : key ∈ ["name", "x", "y", "width", "height"]) : Has members key (Fits key) := by
  have known : key ∈ keys :=
    List.subset_append_left _ ["scale", "transform", "focused", "disabled"] required
  obtain has | ⟨absent, -⟩ := hasOr_of_not_faulty sound known
  · exact has
  · exact (sound (.missing required absent)).elim

/-- The value that the key stands for, or the default. -/
theorem HasOr.exists_value {α : Type} {kindOf : α → Value → Prop} (default : α)
    (has : HasOr members key kind True) (value_of : ∀ value, kind value → ∃ a, kindOf a value) :
    ∃ a, HasOr members key (kindOf a) (a = default) := by
  obtain ⟨value, stands, isKind⟩ | ⟨absent, -⟩ := has
  · obtain ⟨a, isValue⟩ := value_of value isKind
    exact ⟨a, .inl ⟨value, stands, isValue⟩⟩
  · exact ⟨default, .inr ⟨absent, rfl⟩⟩

theorem exists_word (has : Has members key fun value =>
      ∃ i, IsInteger value i ∧ -2 ^ 31 ≤ i ∧ i < 2 ^ 31) :
    ∃ word : Int32, Has members key (IsInteger · word.toInt) := by
  obtain ⟨value, stands, i, integer, low, high⟩ := has
  refine ⟨.ofInt i, value, stands, ?_⟩
  rwa [Int32.toInt_ofInt_of_le low high]

theorem exists_byte (value : Value) (fits : ∃ i, IsInteger value i ∧ 0 ≤ i ∧ i < 2 ^ 8) :
    ∃ byte : UInt8, IsInteger value byte.toNat := by
  obtain ⟨i, integer, low, high⟩ := fits
  obtain ⟨n, rfl⟩ := Int.eq_ofNat_of_zero_le low
  have small : n < 2 ^ 8 := mod_cast high
  exact ⟨.ofNat n, by rwa [UInt8.toNat_ofNat_of_lt' small]⟩

/-- Nothing but a fault or an unreadable key keeps an object from being an entry. -/
theorem exists_describes_iff : (∃ m, Describes members m) ↔
    (∀ member ∈ members, member.1 ≠ none) ∧ ¬ Faulty members := by
  constructor
  · rintro ⟨m, describes⟩
    exact ⟨describes.readable, describes.not_faulty⟩
  · rintro ⟨readable, sound⟩
    -- what each key stands for, and then the monitor that has it all
    obtain ⟨_, atName, name, rfl⟩ : Has members "name" (Fits "name") :=
      has_of_not_faulty sound (by decide)
    obtain ⟨x, atX⟩ := exists_word (has_of_not_faulty sound (by decide) : Has members "x" _)
    obtain ⟨y, atY⟩ := exists_word (has_of_not_faulty sound (by decide) : Has members "y" _)
    obtain ⟨width, atWidth⟩ :=
      exists_word (has_of_not_faulty sound (by decide) : Has members "width" _)
    obtain ⟨height, atHeight⟩ :=
      exists_word (has_of_not_faulty sound (by decide) : Has members "height" _)
    have optional {key : String} (known : key ∈ keys) := hasOr_of_not_faulty sound known
    obtain ⟨scale, atScale⟩ : ∃ scale, HasOr members "scale"
        (fun value => ∃ n, value = .number n ∧ n.toFloat? = some scale) (scale = 1.0) :=
      (optional (by decide)).exists_value 1.0 fun value ⟨n, f, fits⟩ => ⟨f, n, fits⟩
    obtain ⟨transform, atTransform⟩ : ∃ transform : UInt8, HasOr members "transform"
        (IsInteger · transform.toNat) (transform = 0) :=
      (optional (by decide)).exists_value 0 exists_byte
    obtain ⟨focused, atFocused⟩ : ∃ focused, HasOr members "focused"
        (· = .boolean focused) (focused = false) :=
      (optional (by decide)).exists_value false fun value fits => fits
    obtain ⟨disabled, atDisabled⟩ : ∃ disabled, HasOr members "disabled"
        (· = .boolean disabled) (disabled = false) :=
      (optional (by decide)).exists_value false fun value fits => fits
    exact ⟨⟨name, x, y, width, height, scale, transform, focused, disabled⟩,
      ⟨readable, ⟨_, atName, rfl⟩, atX, atY, atWidth, atHeight, atScale, atTransform, atFocused,
        atDisabled⟩⟩

end EdgeReveal.Monitor
