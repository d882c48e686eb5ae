import LayeredConfig.Proofs.Decimal.Numeral
import LayeredConfig.Proofs.Schema.Entry

namespace LayeredConfig.Schema

/-! ### Texts of indexes -/

/-- The trimmed text is decimal digits with a value, after a plus sign or not. -/
def CountsTo (text : String) (i : ℕ) : Prop :=
  ∃ ds, Decimal.IsNumeral ds i ∧
    (Text.trimChars text.toList = ds ∨ Text.trimChars text.toList = '+' :: ds)

variable {start : Value} {decode : Decoder} {us vs : List Value} {text path : String} {i n : ℕ}
  {d : Document}

theorem countsTo_iff :
    CountsTo text i ↔ Decimal.unsigned? 10 (Text.trimChars text.toList) = some i :=
  Decimal.unsigned?_eq_some_iff.symm

theorem index?_of_countsTo (h : CountsTo text i) (hi : i < 2 ^ 64) : index? text = some i :=
  (index?_eq_some_iff "").2 (sequenceIndex_eq_ok_iff.2 ⟨countsTo_iff.1 h, hi⟩)

/-- Digits beyond a word are out of range. -/
theorem sequenceIndex_of_digits (h : Decimal.IsNumeral (Text.trimChars text.toList) n)
    (hn : 2 ^ 64 ≤ n) (path : String) :
    sequenceIndex text path = .error (.coercion path .indexOutOfRange) := by
  have hvalue := countsTo_iff.1 ⟨_, h, .inl rfl⟩
  have hdigits : (Text.trimChars text.toList).all Char.isDigit = true :=
    List.all_eq_true.2 h.2.1
  simp only [sequenceIndex, hvalue, hdigits, if_neg (not_lt.2 hn), if_true]

/-- With a sign in front they are no index at all, and nor is any other text. -/
theorem sequenceIndex_of_other (hcounts : ∀ i, CountsTo text i → 2 ^ 64 ≤ i)
    (hdigits : ∀ n, ¬Decimal.IsNumeral (Text.trimChars text.toList) n) (path : String) :
    sequenceIndex text path = .error (.unknownKey path) := by
  cases hvalue : Decimal.unsigned? 10 (Text.trimChars text.toList) with
  | none => simp only [sequenceIndex, hvalue]
  | some i =>
    have hi : ¬i < 2 ^ 64 := not_lt.2 (hcounts i (countsTo_iff.2 hvalue))
    have hsign : ¬(Text.trimChars text.toList).all Char.isDigit = true := by
      intro hall
      have hne : Text.trimChars text.toList ≠ [] := by
        rintro hnil
        simp [hnil, Decimal.unsigned?, Decimal.natural?] at hvalue
      exact hdigits _ ⟨hne, List.all_eq_true.1 hall, rfl⟩
    simp only [sequenceIndex, hvalue, if_neg hi, if_neg hsign]

/-! ### One element -/

/-- A sequence grows to have an element that it can reach, with start values up to it, before the
element is decoded onto. -/
theorem exists_grown (h : Reachable us.length i) (start : Value) (decode : Decoder) (d : Document)
    (path : String) : ∃ grown u, grown.length = max us.length (i + 1) ∧ us <+: grown ∧
      (∀ w ∈ grown.drop us.length, w = start) ∧ grown[i]? = some u ∧
      decodeElement start decode us i d path = (decode u d path).map (grown.set i) := by
  have hgrow : grow? start us i = some (us ++ List.replicate (i + 1 - us.length) start) :=
    grow?_eq_some_iff.2 ⟨h, rfl⟩
  have hlt := lt_length_of_grow? hgrow
  refine ⟨us ++ List.replicate (i + 1 - us.length) start, _, ?_, List.prefix_append _ _, ?_,
    List.getElem?_eq_getElem hlt, ?_⟩
  · simp only [List.length_append, List.length_replicate]
    omega
  · intro w hw
    rw [List.drop_left] at hw
    exact List.eq_of_mem_replicate hw
  · rw [decodeElement_of_grow? hgrow, List.getD_eq_getElem _ _ hlt]

def wordSum? (a b : ℕ) : Option ℕ := if a + b < 2 ^ 64 then some (a + b) else none

def wordDifference? (a b : ℕ) : Option ℕ := if b ≤ a then some (a - b) else none

/-- Decodes onto an element, counting in words. A sum that is out of range refuses the index; where
a difference or a place is out of range there is no outcome at all. -/
def elementInWords (start : Value) (decode : Decoder) (vs : List Value) (index : ℕ)
    (d : Document) (path : String) : Option (Decoded (List Value)) :=
  let refused := some (.failed vs (.coercion path .indexOutOfRange))
  let onto (vs : List Value) := vs[index]?.map fun v => (decode v d path).map (vs.set index)
  if vs.length ≤ index then
    match wordSum? index 1 with
    | none => refused
    | some length => do
      let gap ← wordDifference? index vs.length
      if gap ≤ maxGrowth then
        let added ← wordDifference? length vs.length
        onto (vs ++ List.replicate added start)
      else refused
  else onto vs

/-- Counting in words goes well for every index and comes to the same. -/
theorem elementInWords_eq (start : Value) (decode : Decoder) (vs : List Value) (index : ℕ)
    (d : Document) (path : String) : elementInWords start decode vs index d path =
      some (decodeElement start decode vs index d path) := by
  unfold elementInWords decodeElement grow?
  by_cases hle : vs.length ≤ index
  · -- The differences are taken behind this test, so they never go below zero.
    have hadded : vs.length ≤ index + 1 := by omega
    by_cases hword : index + 1 < 2 ^ 64
    · by_cases hgap : index - vs.length ≤ maxGrowth
      · simp [wordSum?, wordDifference?, hle, not_lt.2 hle, hword, hgap, hadded]
      · simp [wordSum?, wordDifference?, hle, not_lt.2 hle, hword, hgap]
    · simp [wordSum?, hle, not_lt.2 hle, hword]
  · simp [hle, not_le.1 hle]

/-! ### Entries -/

/-- What an entry with a key of some text does to the elements of a sequence. -/
structure Shape.TakesIndex (item : Shape) (us : List Value) (text here : String) (d : Document)
    (o : Decoded (List Value)) : Prop where
  /-- The element is there or is made, and the item is decoded onto it. -/
  element : ∀ i, CountsTo text i → i < 2 ^ 64 → Reachable us.length i →
    ∃ grown u, grown.length = max us.length (i + 1) ∧ us <+: grown ∧
      (∀ w ∈ grown.drop us.length, w = item.start) ∧ grown[i]? = some u ∧
      o = (item.decode u d here).map (grown.set i)
  outOfReach : ∀ i, CountsTo text i → i < 2 ^ 64 → ¬Reachable us.length i →
    o = .failed us (.coercion here .indexOutOfRange)
  outOfRange : ∀ n, Decimal.IsNumeral (Text.trimChars text.toList) n → 2 ^ 64 ≤ n →
    o = .failed us (.coercion here .indexOutOfRange)
  noIndex : (∀ i, CountsTo text i → 2 ^ 64 ≤ i) →
    (∀ n, ¬Decimal.IsNumeral (Text.trimChars text.toList) n) →
    o = .failed us (.unknownKey here)

theorem Shape.takesIndex (item : Shape) {e : Document × Document} (hkey : keyText? e.1 = some text)
    (us : List Value) (path : String) : item.TakesIndex us text (joinPath path text) e.2
      (indexStep item.start item.decode path us e) where
  element i hi hword hreach := by
    rw [indexStep_of_text hkey (index?_of_countsTo hi hword)]
    exact exists_grown hreach item.start item.decode e.2 (joinPath path text)
  outOfReach i hi hword hreach := by
    rw [indexStep_of_text hkey (index?_of_countsTo hi hword)]
    exact decodeElement_of_not_reachable hreach
  outOfRange n hn hword := indexStep_of_error hkey (sequenceIndex_of_digits hn hword _)
  noIndex hcounts hdigits := indexStep_of_error hkey (sequenceIndex_of_other hcounts hdigits _)

/-- An entry adds no elements, or some up to one more than the bound. -/
theorem length_indexStep (start : Value) (decode : Decoder) (path : String) (us : List Value)
    (e : Document × Document) :
    us.length ≤ (indexStep start decode path us e).value.length ∧
      (indexStep start decode path us e).value.length ≤ us.length + 1025 ∧
      (us.length < 2 ^ 64 → (indexStep start decode path us e).value.length < 2 ^ 64) := by
  rcases indexStep_cases start decode path us e with ⟨error, h⟩ | ⟨key, i, -, -, h⟩
  · rw [h, Outcome.value_failed]
    exact ⟨le_rfl, Nat.le_add_right _ _, id⟩
  · rw [h]
    by_cases hreach : Reachable us.length i
    · have hgrowth : maxGrowth = 1024 := rfl
      rw [length_decodeElement hreach]
      unfold Reachable at hreach
      omega
    · rw [decodeElement_of_not_reachable hreach, Outcome.value_failed]
      exact ⟨le_rfl, Nat.le_add_right _ _, id⟩

/-- So many entries add so many times that at most, whether or not one fails. -/
theorem length_each_indexStep (start : Value) (decode : Decoder) (path : String)
    (us : List Value) (entries : List (Document × Document)) :
    us.length ≤ (Outcome.each (indexStep start decode path) us entries).value.length ∧
      (Outcome.each (indexStep start decode path) us entries).value.length ≤
        us.length + 1025 * entries.length ∧
      (us.length < 2 ^ 64 →
        (Outcome.each (indexStep start decode path) us entries).value.length < 2 ^ 64) := by
  induction entries generalizing us with
  | nil => simp
  | cons e entries ih =>
    obtain ⟨hlow, hhigh, hword⟩ := length_indexStep start decode path us e
    rw [Outcome.each_cons, Outcome.andThen, List.length_cons]
    cases (indexStep start decode path us e).error with
    | none =>
      obtain ⟨hlow', hhigh', hword'⟩ := ih (indexStep start decode path us e).value
      exact ⟨hlow.trans hlow', hhigh'.trans (by omega), fun h => hword' (hword h)⟩
    | some error => exact ⟨hlow, hhigh.trans (by omega), hword⟩

/-- A mapping is decoded onto a sequence entry by entry, each onto the element that its key counts
to. Every entry adds at most 1025 elements, and nothing on the way leaves the words. -/
theorem Shape.decode_indexed_growth (item : Shape) (vs : List Value)
    (entries : List (Document × Document)) (path : String) :
    let step := indexStep item.start item.decode path
    let left := (Shape.sequence item).decode (.items vs) (.mapping entries) path
    left = (Outcome.each step vs entries).map .items ∧
      (∀ us e text, keyText e.1 path = .ok text →
        item.TakesIndex us text (joinPath path text) e.2 (step us e)) ∧
      vs.length ≤ left.value.elements.length ∧
      left.value.elements.length ≤ vs.length + 1025 * entries.length ∧
      (vs.length < 2 ^ 64 → left.value.elements.length < 2 ^ 64) ∧
      ∀ us i d here, elementInWords item.start item.decode us i d here =
        some (decodeElement item.start item.decode us i d here) := by
  intro step left
  obtain ⟨hlow, hhigh, hword⟩ :=
    length_each_indexStep item.start item.decode path vs entries
  exact ⟨rfl, fun us e text hkey => item.takesIndex (keyText_eq_ok_iff.1 hkey) us path, hlow,
    hhigh, hword, elementInWords_eq item.start item.decode⟩

/-- A key with blanks, a sign and a leading zero counts to an element. The next one is a step too
far for four elements, and leaves them as they are. -/
theorem Shape.decode_indexed_growth_bytes :
    let item : Shape := .leaf (.integer .u8)
    let vs : List Value := [.scalar (.integer 1)]
    let entries : List (Document × Document) := [(.string " +03", .number (.integer 7)),
      (.string "1029", .number (.integer 8)), (.string "0", .number (.integer 9))]
    let left := (Shape.sequence item).decode (.items vs) (.mapping entries) "bytes"
    left = .failed (.items [.scalar (.integer 1), .scalar (.integer 0), .scalar (.integer 0),
        .scalar (.integer 7)]) (.coercion "bytes.1029" .indexOutOfRange) ∧
      left.value.elements.length ≤ 1 + 1025 * 3 := by
  intro item vs entries left
  exact ⟨rfl, (Shape.decode_indexed_growth item vs entries "bytes").2.2.2.1⟩

end LayeredConfig.Schema
