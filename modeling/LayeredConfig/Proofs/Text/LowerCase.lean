import LayeredConfig.Schema.Key
import LayeredConfig.Text.Blank
import Mathlib.Data.List.Basic

namespace LayeredConfig.Text

/-! ### Single characters -/

/-- No capital of one run is a small letter of the other. -/
def CaseRun.Apart (r q : CaseRun) : Prop :=
  (r.last + r.offset < q.first ∨ (q.last : Int) < r.first + r.offset) ∨
    (r.first = r.last ∨ r.step = 2) ∧ q.step = 2 ∧ (r.first + r.offset - q.first) % 2 = 1

/-- The small letters are characters; below 0x80 there is only the one of the Kelvin sign. -/
def CaseRun.Sound (r : CaseRun) : Prop :=
  (0x131 ≤ r.first + r.offset ∨ (0x80 ≤ r.first + r.offset ∧ r.last + r.offset ≤ 0x12F) ∨
      r.first = r.last ∧ r.first + r.offset = 'k'.toNat) ∧
    (r.last + r.offset < 0xD800 ∨ 0xE000 ≤ r.first + r.offset ∧ r.last + r.offset < 0x110000)

instance (r q : CaseRun) : Decidable (r.Apart q) := by unfold CaseRun.Apart; infer_instance

instance (r : CaseRun) : Decidable r.Sound := by unfold CaseRun.Sound; infer_instance

theorem caseRuns_apart : ∀ r ∈ caseRuns.toList, ∀ q ∈ caseRuns.toList, r.Apart q := by
  decide +kernel

theorem caseRuns_sound : ∀ r ∈ caseRuns.toList, r.Sound := by decide +kernel

theorem CaseRun.not_contains_of_apart {r q : CaseRun} {n : ℕ} (hs : r.Sound) (h : r.Apart q)
    (hn : r.contains n = true) : q.contains (n + r.offset).toNat = false := by
  simp only [CaseRun.contains, Bool.and_eq_true, decide_eq_true_eq, beq_iff_eq] at hn
  obtain ⟨⟨hfirst, hlast⟩, hstep⟩ := hn
  have hpos : 0 ≤ r.first + r.offset := by
    rcases hs.1 with h | h | ⟨-, h⟩
    · omega
    · omega
    · rw [h]
      exact Int.natCast_nonneg _
  -- An image within the other run would have its bounds and the parity of its start.
  by_contra hq
  simp only [CaseRun.contains, Bool.and_eq_true, decide_eq_true_eq, beq_iff_eq,
    Bool.not_eq_false] at hq
  obtain ⟨⟨hqfirst, hqlast⟩, hqstep⟩ := hq
  rcases h with (h | h) | ⟨hr, hq2, hodd⟩
  · omega
  · omega
  · rw [hq2] at hqstep
    rcases hr with hr | hr
    · omega
    · rw [hr] at hstep
      omega

theorem CaseRun.toNat_image {r : CaseRun} {n : ℕ} (h : r.Sound) (hn : r.contains n = true) :
    (Char.ofNat (n + r.offset).toNat).toNat = (n + r.offset).toNat := by
  simp only [CaseRun.contains, Bool.and_eq_true, decide_eq_true_eq] at hn
  have hvalid : (n + r.offset).toNat.isValidChar := by
    unfold Nat.isValidChar
    rcases h.2 with h | h <;> omega
  rw [Char.ofNat, dif_pos hvalid]
  rfl

theorem toLower_ascii : ∀ n < 0x80, (Char.ofNat n).toLower.toNat < 0x80 ∧
    (Char.ofNat n).toLower.toLower = (Char.ofNat n).toLower ∧
    ((Char.ofNat n).toLower = '-' ∨ (Char.ofNat n).toLower = '_' →
      (Char.ofNat n).toLower = Char.ofNat n) := by
  decide

theorem lowerChar_ascii {c : Char} (h : c.toNat < 0x80) : lowerChar c = [c.toLower] := by
  simp [lowerChar, h]

theorem not_joiner_of_le {x : Char} (h : 0x80 ≤ x.toNat) : ¬(x = '-' ∨ x = '_') := by
  rintro (rfl | rfl) <;> exact absurd h (by decide)

/-- The small letter that a run gives is no capital. -/
theorem lowerChar_image {r : CaseRun} (hr : r ∈ caseRuns) {n : ℕ} (hn : r.contains n = true) :
    lowerChar (Char.ofNat (n + r.offset).toNat) = [Char.ofNat (n + r.offset).toNat] ∧
      ¬(Char.ofNat (n + r.offset).toNat = '-' ∨ Char.ofNat (n + r.offset).toNat = '_') := by
  have hsound := caseRuns_sound r (Array.mem_def.1 hr)
  have himage := r.toNat_image hsound hn
  have hbounds := hn
  simp only [CaseRun.contains, Bool.and_eq_true, decide_eq_true_eq] at hbounds
  -- Runs are apart from each other and from themselves, so no run holds an image.
  have hnone : caseRuns.find? (·.contains (n + r.offset).toNat) = none := by
    rw [Array.find?_eq_none]
    intro q hq
    simp [r.not_contains_of_apart hsound
      (caseRuns_apart r (Array.mem_def.1 hr) q (Array.mem_def.1 hq)) hn]
  have hfinal (hlow : 0x80 ≤ (n + r.offset).toNat) (hdot : (n + r.offset).toNat ≠ 0x130) :
      lowerChar (Char.ofNat (n + r.offset).toNat) = [Char.ofNat (n + r.offset).toNat] := by
    rw [lowerChar, himage, if_neg (by omega), if_neg hdot, hnone]
  rcases hsound.1 with h | h | ⟨h, hk⟩
  · exact ⟨hfinal (by omega) (by omega), not_joiner_of_le (by omega)⟩
  · exact ⟨hfinal (by omega) (by omega), not_joiner_of_le (by omega)⟩
  · have heq : (n + r.offset).toNat = 'k'.toNat := by omega
    rw [heq]
    decide

/-- A small letter is its own small letter, and no capital is a hyphen or an underscore. -/
theorem lowerChar_of_mem {c x : Char} (hx : x ∈ lowerChar c) :
    lowerChar x = [x] ∧ (x = '-' ∨ x = '_' → x = c) := by
  unfold lowerChar at hx
  split at hx
  case isTrue hascii =>
    obtain rfl : x = c.toLower := by simpa using hx
    have h := toLower_ascii c.toNat hascii
    rw [Char.ofNat_toNat] at h
    exact ⟨by rw [lowerChar_ascii h.1, h.2.1], h.2.2⟩
  case isFalse hascii =>
    split at hx
    case isTrue =>
      have hpair : ∀ y ∈ ['i', Char.ofNat 0x307], lowerChar y = [y] ∧ ¬(y = '-' ∨ y = '_') := by
        decide +kernel
      exact ⟨(hpair x hx).1, fun h => absurd h (hpair x hx).2⟩
    case isFalse hdot =>
      split at hx
      case h_1 run hrun =>
        obtain rfl : x = Char.ofNat (c.toNat + run.offset).toNat := by simpa using hx
        have h := lowerChar_image (Array.mem_of_find?_eq_some hrun)
          (by simpa using Array.find?_some hrun)
        exact ⟨h.1, fun h' => absurd h' h.2⟩
      case h_2 hnone =>
        obtain rfl : x = c := by simpa using hx
        exact ⟨by rw [lowerChar, if_neg hascii, if_neg hdot, hnone], fun _ => rfl⟩

/-! ### Characters without case -/

def IsCounting (c : Char) : Prop := isBlank c = true ∨ 0x30 ≤ c.toNat ∧ c.toNat ≤ 0x39 ∨ c = '+'

instance (c : Char) : Decidable (IsCounting c) := by unfold IsCounting; infer_instance

def farBlanks : List (Nat × Nat) := [(0x85, 0x85), (0xA0, 0xA0), (0x1680, 0x1680),
  (0x2000, 0x200A), (0x2028, 0x2029), (0x202F, 0x202F), (0x205F, 0x205F), (0x3000, 0x3000)]

theorem IsCounting.toNat_lt_or {c : Char} (h : IsCounting c) :
    c.toNat < 0x80 ∨ ∃ b ∈ farBlanks, b.1 ≤ c.toNat ∧ c.toNat ≤ b.2 := by
  rcases h with h | h | rfl
  · simp only [isBlank, Bool.or_eq_true, Bool.and_eq_true, decide_eq_true_eq, beq_iff_eq] at h
    simp only [farBlanks, List.exists_mem_cons_iff, List.not_mem_nil, false_and, exists_false]
    omega
  · exact .inl (by omega)
  · exact .inl (by decide)

def CaseRun.Clear (r : CaseRun) : Prop :=
  0x80 ≤ r.first ∧ ∀ b ∈ farBlanks, (r.last < b.1 ∨ b.2 < r.first) ∧
    (r.last + r.offset < b.1 ∨ (b.2 : Int) < r.first + r.offset)

instance (r : CaseRun) : Decidable r.Clear := by unfold CaseRun.Clear; infer_instance

theorem caseRuns_clear : ∀ r ∈ caseRuns.toList, r.Clear := by decide +kernel

theorem toLower_counting : ∀ n < 0x80,
    IsCounting (Char.ofNat n) ∨ IsCounting (Char.ofNat n).toLower →
      (Char.ofNat n).toLower = Char.ofNat n := by
  decide

theorem CaseRun.not_isCounting {r : CaseRun} (hr : r ∈ caseRuns) {c : Char}
    (hc : r.contains c.toNat = true) :
    ¬IsCounting c ∧ ¬IsCounting (Char.ofNat (c.toNat + r.offset).toNat) := by
  have hsound := caseRuns_sound r (Array.mem_def.1 hr)
  have himage := r.toNat_image hsound hc
  obtain ⟨hfirst, hclear⟩ := caseRuns_clear r (Array.mem_def.1 hr)
  simp only [CaseRun.contains, Bool.and_eq_true, decide_eq_true_eq] at hc
  constructor
  · intro h
    rcases h.toNat_lt_or with h | ⟨b, hb, h⟩
    · omega
    · have := (hclear b hb).1
      omega
  · intro h
    by_cases hk : r.first = r.last ∧ r.first + r.offset = 'k'.toNat
    · -- Only the small letter of the Kelvin sign is an ASCII letter.
      have heq : (c.toNat + r.offset).toNat = 'k'.toNat := by omega
      rw [heq] at h
      exact absurd h (by decide)
    · have hfar := h.toNat_lt_or
      have hlow := hsound.1
      rw [himage] at hfar
      rcases hfar with h | ⟨b, hb, h⟩
      · omega
      · have hapart := (hclear b hb).2
        omega

/-- Lower case leaves what an index is written with, and nothing else becomes such a character. -/
theorem lowerChar_of_isCounting {c x : Char} (hx : x ∈ lowerChar c)
    (h : IsCounting c ∨ IsCounting x) : lowerChar c = [c] := by
  by_cases hascii : c.toNat < 0x80
  · rw [lowerChar_ascii hascii] at hx ⊢
    obtain rfl := List.mem_singleton.1 hx
    have hlower := toLower_counting c.toNat hascii
    rw [Char.ofNat_toNat] at hlower
    rw [hlower h]
  · by_cases hdot : c.toNat = 0x130
    · obtain rfl : c = 'İ' := Char.toNat_inj.1 hdot
      have hnot : ¬IsCounting 'İ' ∧ ∀ y ∈ lowerChar 'İ', ¬IsCounting y := by decide +kernel
      exact absurd h (by simp [hnot.1, hnot.2 x hx])
    · rw [lowerChar, if_neg hascii, if_neg hdot] at hx ⊢
      cases hrun : caseRuns.find? (·.contains c.toNat) with
      | none => rfl
      | some run =>
        rw [hrun] at hx
        obtain rfl := List.mem_singleton.1 hx
        have hnot := CaseRun.not_isCounting (Array.mem_of_find?_eq_some hrun)
          (by simpa using Array.find?_some hrun)
        exact absurd h (by simp [hnot])

theorem lowerChar_ne_nil (c : Char) : lowerChar c ≠ [] := by
  unfold lowerChar
  split
  · simp
  · split
    · simp
    · split <;> simp

theorem lowerAfter_counting {before cs : List Char}
    (h : (∀ c ∈ cs, IsCounting c) ∨ ∀ c ∈ lowerAfter before cs, IsCounting c) :
    lowerAfter before cs = cs := by
  induction cs generalizing before with
  | nil => rfl
  | cons c cs ih =>
    obtain ⟨x, hx⟩ := List.exists_mem_of_ne_nil _ (lowerChar_ne_nil c)
    have hsigma : c.toNat ≠ 0x3A3 := by
      intro hsigma
      obtain rfl : c = 'Σ' := Char.toNat_inj.1 hsigma
      rcases h with h | h
      · exact absurd (h 'Σ' (by simp)) (by decide +kernel)
      · have hfirst := h (if endsWord before cs then 'ς' else 'σ') (by simp [lowerAfter])
        split at hfirst <;> exact absurd hfirst (by decide +kernel)
    have heq : lowerAfter before (c :: cs) = lowerChar c ++ lowerAfter (c :: before) cs := by
      rw [lowerAfter, if_neg hsigma]
    rw [heq] at h ⊢
    have hc : lowerChar c = [c] := by
      refine lowerChar_of_isCounting hx (h.imp (fun h => h c (by simp)) fun h => h x ?_)
      simp [hx]
    rw [hc, ih (h.imp (fun h d hd => h d (by simp [hd])) fun h d hd => h d (by simp [hd]))]
    rfl

end LayeredConfig.Text
