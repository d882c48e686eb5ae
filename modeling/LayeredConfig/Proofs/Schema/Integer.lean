import LayeredConfig.Proofs.Decimal.Numeral
import LayeredConfig.Proofs.Outcome
import LayeredConfig.Proofs.Text.Blank
import LayeredConfig.Schema.Decode
import Mathlib.Algebra.Field.Rat

namespace LayeredConfig

namespace Decimal.Binary64

def toRat? : Binary64 → Option ℚ
  | .finite s n => some ((if s then -(n : ℚ) else n) / (2 ^ unitBits : ℕ))
  | _ => none

theorem natCast_eq_mul_iff {n unit : ℕ} (hunit : 0 < unit) {i : ℤ} :
    (n : ℤ) = i * unit ↔ n % unit = 0 ∧ ((n / unit : ℕ) : ℤ) = i := by
  constructor
  · intro h
    obtain ⟨k, rfl⟩ : unit ∣ n := Int.natCast_dvd_natCast.1 ⟨i, by rw [h, mul_comm]⟩
    have hne : (unit : ℤ) ≠ 0 := by exact_mod_cast hunit.ne'
    rw [Nat.cast_mul, mul_comm i] at h
    rw [Nat.mul_div_cancel_left _ hunit]
    exact ⟨Nat.mul_mod_right _ _, mul_left_cancel₀ hne h⟩
  · rintro ⟨hmod, rfl⟩
    exact_mod_cast (Nat.div_mul_cancel (Nat.dvd_of_mod_eq_zero hmod)).symm

/-- What is converted to an integer is its exact value, and all integers are converted. -/
theorem toInt?_eq_some_iff {x : Binary64} {i : ℤ} :
    x.toInt? = some i ↔ x.toRat? = some (i : ℚ) := by
  cases x with
  | nan => simp [toInt?, toRat?]
  | infinite s => simp [toInt?, toRat?]
  | finite s n =>
    have hpos : 0 < 2 ^ unitBits := Nat.two_pow_pos unitBits
    rw [toRat?, toInt?]
    generalize 2 ^ unitBits = unit at hpos
    have hne : (unit : ℚ) ≠ 0 := by exact_mod_cast hpos.ne'
    rw [Option.some_inj, div_eq_iff hne, Option.ite_none_right_eq_some, Option.some_inj]
    cases s with
    | false =>
      rw [if_neg Bool.false_ne_true, if_neg Bool.false_ne_true, ← natCast_eq_mul_iff hpos]
      norm_cast
    | true =>
      rw [if_pos rfl, if_pos rfl, neg_eq_iff_eq_neg, neg_eq_iff_eq_neg, ← neg_mul,
        ← natCast_eq_mul_iff hpos]
      norm_cast

end Decimal.Binary64

/-- The integer that a document denotes: a flag is zero or one, a float has it for its exact value,
and a text is blank for zero or decimal digits after an optional sign. -/
inductive Document.Denotes : Document → ℤ → Prop
  | bool (b : Bool) : Denotes (.bool b) (if b then 1 else 0)
  | integer (i : ℤ) : Denotes (.number (.integer i)) i
  | float {x : Decimal.Binary64} {i : ℤ} (h : x.toRat? = some (i : ℚ)) :
      Denotes (.number (.float x)) i
  | blank {s : String} (h : Text.trimChars s.toList = []) : Denotes (.string s) 0
  | positive {s : String} {ds : List Char} {n : ℕ} (hds : Decimal.IsNumeral ds n)
      (h : Text.trimChars s.toList = ds ∨ Text.trimChars s.toList = '+' :: ds) :
      Denotes (.string s) n
  | negative {s : String} {ds : List Char} {n : ℕ} (hds : Decimal.IsNumeral ds n)
      (h : Text.trimChars s.toList = '-' :: ds) : Denotes (.string s) (-n)

namespace Document

variable {s : String} {d d' : Document} {x y : ℤ}

theorem denotes_string_iff : (string s).Denotes x ↔
    Text.trimChars s.toList = [] ∧ x = 0 ∨
      Decimal.signed? 10 (Text.trimChars s.toList) = some x := by
  rw [Decimal.signed?_eq_some_iff]
  constructor
  · intro h
    cases h with
    | blank h => exact .inl ⟨h, rfl⟩
    | positive hds h => exact .inr ⟨_, _, hds, .inl ⟨h, rfl⟩⟩
    | negative hds h => exact .inr ⟨_, _, hds, .inr ⟨h, rfl⟩⟩
  · rintro (⟨h, rfl⟩ | ⟨ds, n, hds, ⟨h, rfl⟩ | ⟨h, rfl⟩⟩)
    · exact .blank h
    · exact .positive hds h
    · exact .negative hds h

theorem Denotes.isNull_eq_false (h : d.Denotes x) : d.isNull = false := by
  cases h <;> rfl

/-- A document denotes one integer at most. -/
theorem Denotes.unique (h : d.Denotes x) (h' : d.Denotes y) : x = y := by
  cases d with
  | string s =>
    rw [denotes_string_iff] at h h'
    rcases h with ⟨hblank, rfl⟩ | h <;> rcases h' with ⟨hblank', rfl⟩ | h'
    · rfl
    · simp [hblank, Decimal.signed?, Decimal.unsigned?, Decimal.natural?] at h'
    · simp [hblank', Decimal.signed?, Decimal.unsigned?, Decimal.natural?] at h
    · exact Option.some.inj (h.symm.trans h')
  | bool b =>
    cases h
    cases h'
    rfl
  | number n =>
    cases h with
    | integer i =>
      cases h'
      rfl
    | float h =>
      cases h' with
      | float h' => exact_mod_cast Option.some.inj (h.symm.trans h')
  | _ => cases h

/-- An integer is denoted by its decimal text. -/
theorem denotes_toString (x : ℤ) : (string (toString x)).Denotes x := by
  have hdigits (n : ℕ) : (toString n).toList = Nat.toDigits 10 n := by
    rw [Nat.toString_eq_ofList_toDigits, String.toList_ofList]
  have hunbroken (n : ℕ) : Text.Unbroken (Nat.toDigits 10 n) :=
    Decimal.unbroken_toDigits (by decide) (by decide) n
  cases x with
  | ofNat n =>
    refine .positive (Decimal.isNumeral_toDigits n) (.inl ?_)
    calc Text.trimChars (toString (Int.ofNat n)).toList
        = Text.trimChars (Nat.toDigits 10 n) := congrArg Text.trimChars (hdigits n)
      _ = Nat.toDigits 10 n := (hunbroken n).trimChars_eq
  | negSucc n =>
    -- The sign is no blank, so nothing is trimmed off before it.
    have htext : (toString (Int.negSucc n)).toList = '-' :: Nat.toDigits 10 (n + 1) := by
      rw [← hdigits]
      exact String.toList_append
    refine .negative (Decimal.isNumeral_toDigits (n + 1)) ?_
    rw [htext]
    exact Text.Unbroken.trimChars_eq (Text.unbroken_cons.2 ⟨by decide, hunbroken (n + 1)⟩)

end Document

namespace Schema

/-! ### Within 128 bits -/

def IsWide (x : ℤ) : Prop := wideLow ≤ x ∧ x ≤ wideHigh

instance (x : ℤ) : Decidable (IsWide x) := by unfold IsWide; infer_instance

variable {kind : IntegerKind} {d d' : Document} {x : ℤ} {v w : Value} {path : String}

theorem clampWide_of_isWide (h : IsWide x) : clampWide x = x := by
  obtain ⟨hlow, hhigh⟩ := h
  unfold clampWide
  omega

theorem IntegerKind.Holds.isWide (h : kind.Holds x) : IsWide x := by
  have hkind : wideLow ≤ kind.low ∧ kind.high ≤ wideHigh := by cases kind <;> decide
  exact ⟨hkind.1.trans h.1, h.2.trans hkind.2⟩

/-- The ends of the 128 bits are in no type, so what is held there instead of what lies beyond does
not come into one. -/
theorem holds_clampWide_iff : kind.Holds (clampWide x) ↔ kind.Holds x := by
  by_cases hx : IsWide x
  · rw [clampWide_of_isWide hx]
  · refine iff_of_false (fun h => ?_) fun h => hx h.isWide
    -- Beyond 128 bits one of their ends is held instead.
    have hends : ¬kind.Holds wideLow ∧ ¬kind.Holds wideHigh := by cases kind <;> decide
    have hclamp : clampWide x = wideLow ∨ clampWide x = wideHigh := by
      unfold IsWide at hx
      unfold clampWide
      have : wideLow ≤ wideHigh := by decide
      omega
    rcases hclamp with hclamp | hclamp <;> rw [hclamp] at h
    · exact hends.1 h
    · exact hends.2 h

/-- Reads an integer by way of 128 bits. One beyond them is held as the nearest within before it is
brought into the type. -/
def readWide (kind : IntegerKind) (d : Document) : Except Reason Scalar :=
  match (integerOf? d).map clampWide with
  | none => .error (.notInteger d)
  | some i => if kind.Holds i then .ok (.integer i) else .error (.outOfRange i kind)

theorem read_integer_eq_readWide (kind : IntegerKind) (d : Document) :
    (Leaf.integer kind).read d = readWide kind d := by
  unfold Leaf.read readWide
  cases integerOf? d with
  | none => rfl
  | some x =>
    by_cases hx : kind.Holds x
    · simp [hx, clampWide_of_isWide hx.isWide]
    · simp [hx, holds_clampWide_iff]

/-! ### Reading -/

/-- A blank text has no digits. -/
theorem signed?_nil : Decimal.signed? 10 [] = none := rfl

theorem readInteger?_eq_some_iff {s : String} :
    readInteger? s = some x ↔ (Document.string s).Denotes x ∧ IsWide x := by
  have hzero : IsWide 0 := by decide
  rw [Document.denotes_string_iff, readInteger?]
  split
  · next hblank =>
    rw [hblank, signed?_nil, Option.some_inj]
    constructor
    · rintro rfl
      exact ⟨.inl ⟨rfl, rfl⟩, hzero⟩
    · rintro ⟨⟨-, rfl⟩ | h, -⟩
      · rfl
      · cases h
  · next hblank =>
    have hblank : Text.trimChars s.toList ≠ [] := hblank
    rw [Option.filter_eq_some_iff]
    simp [hblank, IsWide]

/-- A document is read as the integer it denotes, unless it is a text beyond 128 bits. -/
theorem integerOf?_eq_some_iff : integerOf? d = some x ↔
    d.Denotes x ∧ ∀ s, d = .string s → IsWide x := by
  cases d with
  | string s =>
    rw [integerOf?, readInteger?_eq_some_iff]
    simp
  | bool b =>
    simp only [integerOf?, Option.some_inj]
    constructor
    · rintro rfl
      exact ⟨.bool b, by simp⟩
    · rintro ⟨h, -⟩
      exact (Document.Denotes.bool b).unique h
  | number n =>
    simp only [integerOf?, reduceCtorEq, false_implies, implies_true, and_true]
    cases n with
    | integer i =>
      rw [Number.toInt?, Option.some_inj]
      exact ⟨fun h => h ▸ .integer i, fun h => (Document.Denotes.integer i).unique h⟩
    | float y =>
      rw [Number.toInt?, Decimal.Binary64.toInt?_eq_some_iff]
      constructor
      · exact .float
      · rintro ⟨h⟩
        assumption
  | _ =>
    refine iff_of_false (by simp [integerOf?]) fun h => ?_
    cases h.1

theorem Leaf.keeps_integer : (Leaf.integer kind).keeps d = d.isNull := by
  cases d <;> rfl

/-- What is beyond 128 bits is in no type, so a text there is refused like a number. -/
theorem Leaf.read_integer_eq_ok_iff {s : Scalar} : (Leaf.integer kind).read d = .ok s ↔
    ∃ x, d.Denotes x ∧ kind.Holds x ∧ s = .integer x := by
  have hread (x : ℤ) (hx : kind.Holds x) : integerOf? d = some x ↔ d.Denotes x := by
    rw [integerOf?_eq_some_iff]
    exact and_iff_left fun _ _ => hx.isWide
  unfold Leaf.read
  constructor
  · intro h
    cases hof : integerOf? d with
    | none => simp [hof] at h
    | some x =>
      simp only [hof] at h
      split at h
      · next hx => exact ⟨x, (hread x hx).1 hof, hx, (Except.ok.inj h).symm⟩
      · cases h
  · rintro ⟨x, hd, hx, rfl⟩
    simp [(hread x hx).2 hd, hx]

variable (kind v path)

theorem decodeLeaf_integer_eq_done_iff : decodeLeaf (.integer kind) v d path = .done w ↔
    d.isNull = true ∧ w = v ∨ ∃ x, d.Denotes x ∧ kind.Holds x ∧ w = .scalar (.integer x) := by
  rw [decodeLeaf, Leaf.keeps_integer]
  by_cases hnull : d.isNull = true
  · rw [if_pos hnull]
    constructor
    · intro h
      exact .inl ⟨hnull, (congrArg Outcome.value h).symm⟩
    · rintro (⟨-, rfl⟩ | ⟨x, hd, -⟩)
      · rfl
      · cases hnull.symm.trans hd.isNull_eq_false
  · rw [if_neg hnull]
    cases hread : (Leaf.integer kind).read d with
    | error reason =>
      refine iff_of_false (fun h => by cases congrArg Outcome.error h) ?_
      rintro (⟨hnull', -⟩ | ⟨x, hd, hx, -⟩)
      · exact hnull hnull'
      · cases hread.symm.trans (Leaf.read_integer_eq_ok_iff.2 ⟨x, hd, hx, rfl⟩)
    | ok s =>
      obtain ⟨x, hd, hx, rfl⟩ := Leaf.read_integer_eq_ok_iff.1 hread
      constructor
      · intro h
        exact .inr ⟨x, hd, hx, (congrArg Outcome.value h).symm⟩
      · rintro (⟨hnull', -⟩ | ⟨y, hd', -, rfl⟩)
        · exact absurd hnull' hnull
        · rw [hd.unique hd']

theorem decodeLeaf_done_or_failed (kind : Leaf) (d : Document) :
    (∃ w, decodeLeaf kind v d path = .done w) ∨
      ∃ reason, decodeLeaf kind v d path = .failed v (.coercion path reason) := by
  unfold decodeLeaf
  split
  · exact .inl ⟨v, rfl⟩
  · split
    · exact .inl ⟨_, rfl⟩
    · exact .inr ⟨_, rfl⟩

/-- The integer alone decides what is left, and not how it is denoted. -/
theorem decodeLeaf_integer_of_denotes (hd : d.Denotes x) :
    (decodeLeaf (.integer kind) v d path).value =
        (if kind.Holds x then .scalar (.integer x) else v) ∧
      ((decodeLeaf (.integer kind) v d path).error = none ↔ kind.Holds x) := by
  have hiff (w : Value) : decodeLeaf (.integer kind) v d path = .done w ↔
      kind.Holds x ∧ w = .scalar (.integer x) := by
    rw [decodeLeaf_integer_eq_done_iff, hd.isNull_eq_false]
    simp only [Bool.false_eq_true, false_and, false_or]
    constructor
    · rintro ⟨y, hd', hy, rfl⟩
      rw [hd.unique hd']
      exact ⟨hy, rfl⟩
    · exact fun h => ⟨x, hd, h⟩
  by_cases hx : kind.Holds x
  · rw [(hiff _).2 ⟨hx, rfl⟩, if_pos hx]
    exact ⟨rfl, iff_of_true rfl hx⟩
  · obtain ⟨w, h⟩ | ⟨reason, h⟩ := decodeLeaf_done_or_failed v path (.integer kind) d
    · exact absurd ((hiff w).1 h).1 hx
    · rw [h, if_neg hx]
      exact ⟨rfl, iff_of_false (by simp) hx⟩

/-- Within 128 bits not even the reason of a failure depends on how the integer is denoted. -/
theorem decodeLeaf_integer_eq (hd : d.Denotes x) (hd' : d'.Denotes x) (hx : IsWide x) :
    decodeLeaf (.integer kind) v d path = decodeLeaf (.integer kind) v d' path := by
  have hof {d : Document} (hd : d.Denotes x) : integerOf? d = some x :=
    integerOf?_eq_some_iff.2 ⟨hd, fun _ _ => hx⟩
  have hkeeps {d : Document} (hd : d.Denotes x) : (Leaf.integer kind).keeps d = false :=
    Leaf.keeps_integer.trans hd.isNull_eq_false
  simp only [decodeLeaf, Leaf.read, hkeeps hd, hkeeps hd', hof hd, hof hd']

/-- A type takes an integer of its own, however it is denoted, and is left as it is by any other. -/
theorem Shape.decode_integer_exact :
    let decode (d : Document) := (Shape.leaf (.integer kind)).decode v d path
    (∀ d w, decode d = .done w ↔
      d.isNull = true ∧ w = v ∨
        ∃ x, d.Denotes x ∧ kind.Holds x ∧ w = .scalar (.integer x)) ∧
      (∀ d, (∃ w, decode d = .done w) ∨ ∃ reason, decode d = .failed v (.coercion path reason)) ∧
      (∀ d x, d.Denotes x →
        (decode d).value = (if kind.Holds x then .scalar (.integer x) else v) ∧
          ((decode d).error = none ↔ kind.Holds x)) ∧
      (∀ d d' x, d.Denotes x → d'.Denotes x → IsWide x → decode d = decode d') ∧
      (∀ x, (Document.number (.integer x)).Denotes x ∧
        (Document.string (toString x)).Denotes x) ∧
      ∀ d, (Leaf.integer kind).read d = readWide kind d := by
  intro decode
  exact ⟨fun d w => decodeLeaf_integer_eq_done_iff kind v path,
    decodeLeaf_done_or_failed v path (.integer kind),
    fun d x => decodeLeaf_integer_of_denotes kind v path,
    fun d d' x => decodeLeaf_integer_eq kind v path,
    fun x => ⟨.integer x, Document.denotes_toString x⟩, read_integer_eq_readWide kind⟩

/-- A text with a sign and a leading zero is a byte. The float 2 ^ 200 is none, though no type comes
near it, and leaves the byte as it is. -/
theorem Shape.decode_integer_exact_byte :
    let decode (d : Document) := (Shape.leaf (.integer .u8)).decode (.scalar (.integer 7)) d "byte"
    let float := Document.number (.float (.finite false (2 ^ 200 * 2 ^ Decimal.Binary64.unitBits)))
    decode (.string " +0255") = .done (.scalar (.integer 255)) ∧ float.Denotes (2 ^ 200) ∧
      (decode float).value = .scalar (.integer 7) ∧ (decode float).error ≠ none := by
  intro decode float
  have hfloat : float.Denotes (2 ^ 200) :=
    .float (Decimal.Binary64.toInt?_eq_some_iff.1 (by decide +kernel))
  have hnot : ¬IntegerKind.u8.Holds (2 ^ 200) := by decide
  obtain ⟨hvalue, herror⟩ :=
    (Shape.decode_integer_exact .u8 (.scalar (.integer 7)) "byte").2.2.1 float _ hfloat
  exact ⟨by rfl, hfloat, hvalue.trans (if_neg hnot), herror.not.2 hnot⟩

end Schema

end LayeredConfig
