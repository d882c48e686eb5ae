import LayeredConfig.Proofs.Text.LowerCase

namespace LayeredConfig

namespace Text

def IsAscii (s : String) : Prop := ∀ c ∈ s.toList, c.toNat < 0x80

instance (s : String) : Decidable (IsAscii s) := by unfold IsAscii; infer_instance

theorem lowerAfter_of_no_sigma (before cs : List Char) (h : ∀ c ∈ cs, c.toNat ≠ 0x3A3) :
    lowerAfter before cs = cs.flatMap lowerChar := by
  induction cs generalizing before with
  | nil => rfl
  | cons c cs ih =>
    have hc : c.toNat ≠ 0x3A3 := h c (by simp)
    rw [lowerAfter, if_neg hc, ih _ fun x hx => h x (by simp [hx]), List.flatMap_cons]

theorem sigma_mem_lowerAfter (before cs : List Char) (h : ∃ c ∈ cs, c.toNat = 0x3A3) :
    'σ' ∈ lowerAfter before cs ∨ 'ς' ∈ lowerAfter before cs := by
  induction cs generalizing before with
  | nil => simp at h
  | cons c cs ih =>
    by_cases hc : c.toNat = 0x3A3
    · rw [lowerAfter, if_pos hc]
      by_cases hend : endsWord before cs = true
      · exact .inr (by simp [hend])
      · exact .inl (by simp [hend])
    · obtain ⟨x, hx, hsigma⟩ := h
      rcases List.mem_cons.1 hx with rfl | hx
      · exact absurd hsigma hc
      · rw [lowerAfter]
        rcases ih (c :: before) ⟨x, hx, hsigma⟩ with h | h
        · exact .inl (by simp [h])
        · exact .inr (by simp [h])

end Text

namespace Schema
open Text

theorem toList_normalizeKey (key : String) : (normalizeKey key).toList =
    (key.toList.filter fun c => c ≠ '-' ∧ c ≠ '_').flatMap lowerChar := by
  simp [normalizeKey]

/-- Small letters that are no joiners stay as they are. -/
theorem flatMap_lowerChar_of_final {cs : List Char}
    (h : ∀ c ∈ cs, lowerChar c = [c] ∧ c ≠ '-' ∧ c ≠ '_') :
    (cs.filter fun c => c ≠ '-' ∧ c ≠ '_').flatMap lowerChar = cs := by
  have hfilter : cs.filter (fun c => c ≠ '-' ∧ c ≠ '_') = cs := by
    rw [List.filter_eq_self]
    intro c hc
    simp [(h c hc).2]
  rw [hfilter]
  calc cs.flatMap lowerChar
      = cs.flatMap fun c => [c] := List.flatMap_congr fun c hc => (h c hc).1
    _ = cs := List.flatMap_singleton' cs

theorem final_of_mem_lowerChar {c x : Char} (hc : c ≠ '-' ∧ c ≠ '_') (hx : x ∈ lowerChar c) :
    lowerChar x = [x] ∧ x ≠ '-' ∧ x ≠ '_' := by
  have h := lowerChar_of_mem hx
  refine ⟨h.1, ?_, ?_⟩
  · intro he
    exact hc.1 (h.2 (.inl he) ▸ he)
  · intro he
    exact hc.2 (h.2 (.inr he) ▸ he)

theorem final_of_mem_normalizeKey {key : String} {x : Char} (hx : x ∈ (normalizeKey key).toList) :
    lowerChar x = [x] ∧ x ≠ '-' ∧ x ≠ '_' := by
  rw [toList_normalizeKey, List.mem_flatMap] at hx
  obtain ⟨c, hc, hx⟩ := hx
  obtain ⟨-, hkept⟩ : c ∈ key.toList ∧ c ≠ '-' ∧ c ≠ '_' := by simpa using hc
  exact final_of_mem_lowerChar hkept hx

/-- The form in which keys are compared is a normal form. -/
theorem normalizeKey_normalizeKey (key : String) :
    normalizeKey (normalizeKey key) = normalizeKey key := by
  apply String.toList_injective
  rw [toList_normalizeKey]
  exact flatMap_lowerChar_of_final fun x hx => final_of_mem_normalizeKey hx

theorem isAscii_normalizeKey {name : String} (h : IsAscii name) : IsAscii (normalizeKey name) := by
  rw [IsAscii, toList_normalizeKey]
  intro x hx
  obtain ⟨c, hc, hx⟩ := List.mem_flatMap.1 hx
  have hlt : c.toNat < 0x80 := h c (List.mem_filter.1 hc).1
  rw [lowerChar_ascii hlt, List.mem_singleton] at hx
  rw [hx]
  have hlower := (toLower_ascii c.toNat hlt).1
  rwa [Char.ofNat_toNat] at hlower

theorem flatMap_filter_lowerChar (cs : List Char) :
    ((cs.flatMap lowerChar).filter fun c => c ≠ '-' ∧ c ≠ '_').flatMap lowerChar =
      (cs.filter fun c => c ≠ '-' ∧ c ≠ '_').flatMap lowerChar := by
  induction cs with
  | nil => rfl
  | cons c cs ih =>
    by_cases hc : c = '-' ∨ c = '_'
    · have hlower : lowerChar c = [c] := by rcases hc with rfl | rfl <;> decide
      have hdrop : (decide (c ≠ '-' ∧ c ≠ '_')) = false := by rcases hc with rfl | rfl <;> decide
      rw [List.flatMap_cons, hlower, List.singleton_append, List.filter_cons, hdrop,
        if_neg Bool.false_ne_true, ih, List.filter_cons, hdrop, if_neg Bool.false_ne_true]
    · have hkeep : decide (c ≠ '-' ∧ c ≠ '_') = true := by simpa [not_or] using hc
      have hfinal : ∀ x ∈ lowerChar c, lowerChar x = [x] ∧ x ≠ '-' ∧ x ≠ '_' := fun x hx =>
        final_of_mem_lowerChar (not_or.1 hc) hx
      rw [List.flatMap_cons, List.filter_append, List.flatMap_append,
        flatMap_lowerChar_of_final hfinal, ih, List.filter_cons, hkeep, if_pos rfl,
        List.flatMap_cons]

/-- A key that holds a capital sigma is no ASCII key, in whatever form it is compared. -/
theorem not_isAscii_of_sigma {cs : List Char} {x : Char} (hx : x = 'σ' ∨ x = 'ς') (hmem : x ∈ cs) :
    ¬∀ c ∈ (cs.filter fun c => c ≠ '-' ∧ c ≠ '_').flatMap lowerChar, c.toNat < 0x80 := by
  intro h
  have hfinal : lowerChar x = [x] ∧ x ≠ '-' ∧ x ≠ '_' ∧ 0x80 ≤ x.toNat := by
    rcases hx with rfl | rfl <;> decide +kernel
  have := h x (List.mem_flatMap.2 ⟨x, by simp [hmem, hfinal], by simp [hfinal]⟩)
  omega

/-- An ASCII key is met by the same texts whether or not they are brought into lower case first. -/
theorem normalizeKey_lowercase_eq_iff {key s : String} (hkey : IsAscii key) :
    normalizeKey (lowercase s) = key ↔ normalizeKey s = key := by
  -- A capital sigma is the only character whose small letter depends on what stands around it.
  -- Neither form of a text that has one is an ASCII key.
  by_cases hsigma : ∃ c ∈ s.toList, c.toNat = 0x3A3
  · have hlower : ¬normalizeKey (lowercase s) = key := by
      rintro rfl
      rw [IsAscii, toList_normalizeKey, lowercase, String.toList_ofList] at hkey
      rcases sigma_mem_lowerAfter [] s.toList hsigma with h | h
      · exact not_isAscii_of_sigma (.inl rfl) h hkey
      · exact not_isAscii_of_sigma (.inr rfl) h hkey
    have hplain : ¬normalizeKey s = key := by
      rintro rfl
      rw [IsAscii, toList_normalizeKey, ← flatMap_filter_lowerChar] at hkey
      obtain ⟨c, hc, hn⟩ := hsigma
      obtain rfl : c = 'Σ' := Char.toNat_inj.1 hn
      have hmem : 'σ' ∈ s.toList.flatMap lowerChar :=
        List.mem_flatMap.2 ⟨'Σ', hc, by decide +kernel⟩
      exact not_isAscii_of_sigma (.inl rfl) hmem hkey
    exact iff_of_false hlower hplain
  · have hlower : normalizeKey (lowercase s) = normalizeKey s := by
      apply String.toList_injective
      rw [toList_normalizeKey, toList_normalizeKey, lowercase, String.toList_ofList,
        lowerAfter_of_no_sigma [] s.toList (by simpa using hsigma), flatMap_filter_lowerChar]
    rw [hlower]

end Schema

end LayeredConfig
