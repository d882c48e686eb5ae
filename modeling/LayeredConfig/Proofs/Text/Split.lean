import LayeredConfig.Proofs.Text.Blank
import LayeredConfig.Proofs.Text.LowerCase
import Mathlib.Data.List.Basic

namespace LayeredConfig.Text

theorem pieces_eq_splitOn (separator : Char) (cs : List Char) :
    pieces separator cs = cs.splitOn separator := by
  unfold List.splitOn
  induction cs with
  | nil => rfl
  | cons c cs ih =>
    rw [pieces, List.splitOnP_cons_eq_if_modifyHead, ih]
    by_cases h : c = separator
    · simp [h]
    · rw [if_neg h, if_neg (by simpa using h)]
      cases hrest : List.splitOnP (· == separator) cs with
      | nil => exact absurd (ih.trans hrest) (pieces_ne_nil separator cs)
      | cons p ps => rfl

/-- Texts that were joined are found again, unless the separator is in one. -/
theorem splitAt_intercalate {separator : Char} {parts : List String}
    (h : ∀ s ∈ parts, separator ∉ s.toList) (hne : parts ≠ []) :
    splitAt separator ((String.singleton separator).intercalate parts) = parts := by
  have hparts : ∀ cs ∈ parts.map String.toList, separator ∉ cs := by
    simpa using h
  rw [splitAt, pieces_eq_splitOn, String.toList_intercalate, String.toList_singleton,
    List.splitOn_intercalate separator hparts (by simpa using hne), List.map_map]
  simp [Function.comp_def]

theorem not_mem_of_mem_pieces {separator : Char} {cs p : List Char}
    (h : p ∈ pieces separator cs) : separator ∉ p := by
  induction cs generalizing p with
  | nil =>
    obtain rfl : p = [] := by simpa [pieces] using h
    simp
  | cons c cs ih =>
    unfold pieces at h
    split at h
    · rcases List.mem_cons.1 h with rfl | h
      · simp
      · exact ih h
    · next hc =>
      split at h
      · next hnil => exact absurd hnil (pieces_ne_nil separator cs)
      · next q qs hq =>
        rw [hq] at ih
        rcases List.mem_cons.1 h with rfl | h
        · rw [List.mem_cons, not_or]
          exact ⟨Ne.symm hc, ih (by simp)⟩
        · exact ih (by simp [h])

/-- The pieces of a text are the only texts without the separator that it is joined from. -/
theorem splitAt_eq_iff {separator : Char} {s : String} {parts : List String} :
    splitAt separator s = parts ↔ s = (String.singleton separator).intercalate parts ∧
      parts ≠ [] ∧ ∀ t ∈ parts, separator ∉ t.toList := by
  constructor
  · rintro rfl
    refine ⟨?_, by simp [splitAt, pieces_ne_nil], ?_⟩
    · apply String.toList_injective
      rw [splitAt, String.toList_intercalate, String.toList_singleton, List.map_map,
        pieces_eq_splitOn]
      simp [Function.comp_def, List.intercalate_splitOn]
    · intro t ht
      obtain ⟨p, hp, rfl⟩ := List.mem_map.1 ht
      simpa using not_mem_of_mem_pieces hp
  · rintro ⟨rfl, hne, hparts⟩
    exact splitAt_intercalate hparts hne

/-! ### ASCII case -/

theorem toLower_of_not_ascii {c : Char} (h : ¬c.toNat < 0x80) : c.toLower = c := by
  have hval : ¬(c.val ≥ 'A'.val ∧ c.val ≤ 'Z'.val) := by
    rintro ⟨-, hle⟩
    have hZ : c.toNat ≤ 'Z'.toNat := UInt32.le_iff_toNat_le.1 hle
    exact h (Nat.lt_of_le_of_lt hZ (by decide))
  exact dif_neg hval

theorem toLower_eq_underscore_iff {c : Char} : c.toLower = '_' ↔ c = '_' := by
  by_cases h : c.toNat < 0x80
  · have hlower := (toLower_ascii c.toNat h).2.2
    rw [Char.ofNat_toNat] at hlower
    constructor
    · intro hc
      rw [← hlower (.inr hc), hc]
    · rintro rfl
      rfl
  · rw [toLower_of_not_ascii h]

theorem toLower_of_isCounting {c : Char} (h : IsCounting c ∨ IsCounting c.toLower) :
    c.toLower = c := by
  by_cases hascii : c.toNat < 0x80
  · have hlower := toLower_counting c.toNat hascii
    rw [Char.ofNat_toNat] at hlower
    exact hlower h
  · exact toLower_of_not_ascii hascii

theorem pieces_map {separator : Char} {f : Char → Char} (hf : ∀ c, f c = separator ↔ c = separator)
    (cs : List Char) : pieces separator (cs.map f) = (pieces separator cs).map (List.map f) := by
  induction cs with
  | nil => rfl
  | cons c cs ih =>
    rw [List.map_cons, pieces, pieces, ih]
    by_cases h : c = separator
    · rw [if_pos h, if_pos ((hf c).2 h), List.map_cons, List.map_nil]
    · rw [if_neg h, if_neg fun h' => h ((hf c).1 h')]
      cases pieces separator cs <;> rfl

theorem toList_asciiLower (s : String) : (asciiLower s).toList = s.toList.map Char.toLower := by
  rw [asciiLower, String.toList_ofList]

theorem splitAt_asciiLower (s : String) :
    splitAt '_' (asciiLower s) = (splitAt '_' s).map asciiLower := by
  rw [splitAt, splitAt, toList_asciiLower, pieces_map fun _ => toLower_eq_underscore_iff]
  simp [asciiLower, Function.comp_def]

theorem asciiLower_eq_self {s : String} (h : ∀ c ∈ s.toList, c.toLower = c) :
    asciiLower s = s := by
  apply String.toList_injective
  rw [toList_asciiLower]
  calc s.toList.map Char.toLower
      = s.toList.map id := List.map_congr_left h
    _ = s.toList := List.map_id s.toList

/-- A text of digits has one case. -/
theorem eq_of_asciiLower_counting {s t : String} (h : asciiLower s = t)
    (ht : ∀ c ∈ t.toList, IsCounting c) : s = t := by
  subst h
  rw [toList_asciiLower, List.forall_mem_map] at ht
  exact (asciiLower_eq_self fun c hc => toLower_of_isCounting (.inr (ht c hc))).symm

end LayeredConfig.Text
