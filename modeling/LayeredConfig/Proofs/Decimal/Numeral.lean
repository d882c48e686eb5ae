import LayeredConfig.Decimal.Numeral
import LayeredConfig.Proofs.Decimal.Digits

namespace LayeredConfig.Decimal

/-- One or more decimal digits with a value. -/
def IsNumeral (cs : List Char) (n : ℕ) : Prop :=
  cs ≠ [] ∧ (∀ c ∈ cs, c.isDigit = true) ∧ Nat.ofDigitChars 10 cs 0 = n

variable {cs ds : List Char} {n acc : ℕ}

theorem isNumeral_toDigits (n : ℕ) : IsNumeral (Nat.toDigits 10 n) n :=
  ⟨Nat.toDigits_ne_nil, fun _ => Nat.isDigit_of_mem_toDigits (by decide) (by decide),
    Nat.ofDigitChars_ten_toDigits⟩

theorem isDigit_iff {c : Char} : c.isDigit = true ↔ 0x30 ≤ c.toNat ∧ c.toNat ≤ 0x39 := by
  simp only [Char.isDigit, Bool.and_eq_true, decide_eq_true_eq, ge_iff_le, UInt32.le_iff_toNat_le]
  rfl

theorem digitValue?_ten (c : Char) :
    digitValue? 10 c = if c.isDigit then some (c.toNat - '0'.toNat) else none := by
  have hzero : '0'.toNat = 0x30 := rfl
  rw [hzero]
  unfold digitValue?
  dsimp only
  by_cases h : 0x30 ≤ c.toNat ∧ c.toNat ≤ 0x39
  · have hlt : c.toNat - 0x30 < 10 := by omega
    simp [h, isDigit_iff.2 h, hlt]
  · -- Letters stand for ten and more.
    rw [if_neg h, if_neg (mt isDigit_iff.1 h)]
    split
    · simp
    · split <;> simp

theorem digitsOnto?_eq_some_iff : digitsOnto? 10 acc cs = some n ↔
    (∀ c ∈ cs, c.isDigit = true) ∧ Nat.ofDigitChars 10 cs acc = n := by
  induction cs generalizing acc with
  | nil => simp [digitsOnto?, Nat.ofDigitChars]
  | cons c cs ih =>
    rw [digitsOnto?, digitValue?_ten, List.forall_mem_cons, Nat.ofDigitChars_cons]
    by_cases hc : c.isDigit = true
    · simp [hc, ih, Nat.mul_comm]
    · simp [hc]

theorem natural?_eq_some_iff : natural? 10 cs = some n ↔ IsNumeral cs n := by
  cases cs with
  | nil => simp [natural?, IsNumeral]
  | cons c cs => simp [natural?, IsNumeral, digitsOnto?_eq_some_iff]

theorem not_isNumeral_cons {c : Char} (hc : c.isDigit = false) : ¬IsNumeral (c :: cs) n := by
  intro h
  simp [h.2.1 c (by simp)] at hc

/-- Digits may follow a plus sign. -/
theorem unsigned?_eq_some_iff : unsigned? 10 cs = some n ↔
    ∃ ds, IsNumeral ds n ∧ (cs = ds ∨ cs = '+' :: ds) := by
  unfold unsigned?
  split
  · next ds =>
    rw [natural?_eq_some_iff]
    constructor
    · exact fun h => ⟨ds, h, .inr rfl⟩
    · rintro ⟨es, hes, rfl | h⟩
      · exact absurd hes (not_isNumeral_cons rfl)
      · rwa [(List.cons.inj h).2]
  · next hplus =>
    rw [natural?_eq_some_iff]
    constructor
    · exact fun h => ⟨cs, h, .inl rfl⟩
    · rintro ⟨es, hes, rfl | rfl⟩
      · exact hes
      · exact absurd rfl (hplus es)

/-- A decimal number reads back. -/
theorem unsigned?_toDigits (n : ℕ) : unsigned? 10 (Nat.toDigits 10 n) = some n :=
  unsigned?_eq_some_iff.2 ⟨_, isNumeral_toDigits n, .inl rfl⟩

theorem signed?_minus (cs : List Char) :
    signed? 10 ('-' :: cs) = (natural? 10 cs).map fun n : ℕ => -(n : ℤ) := by
  cases h : natural? 10 cs <;> simp [signed?, h]

/-- Digits may follow a sign, and a minus sign negates them. -/
theorem signed?_eq_some_iff {i : ℤ} : signed? 10 cs = some i ↔
    ∃ ds n, IsNumeral ds n ∧
      ((cs = ds ∨ cs = '+' :: ds) ∧ i = n ∨ cs = '-' :: ds ∧ i = -(n : ℤ)) := by
  by_cases hminus : ∃ ds, cs = '-' :: ds
  · obtain ⟨ds, rfl⟩ := hminus
    simp only [signed?_minus, Option.map_eq_some_iff, natural?_eq_some_iff]
    constructor
    · rintro ⟨n, hn, rfl⟩
      exact ⟨ds, n, hn, .inr ⟨rfl, rfl⟩⟩
    · rintro ⟨es, n, hn, ⟨rfl | h, -⟩ | ⟨h, rfl⟩⟩
      · exact absurd hn (not_isNumeral_cons rfl)
      · cases h
      · exact ⟨n, (List.cons.inj h).2 ▸ hn, rfl⟩
  · have hplain : signed? 10 cs = (unsigned? 10 cs).map Int.ofNat := by
      unfold signed?
      split
      · exact absurd ⟨_, rfl⟩ hminus
      · rfl
    simp only [hplain, Option.map_eq_some_iff, unsigned?_eq_some_iff]
    constructor
    · rintro ⟨n, ⟨ds, hn, hcs⟩, rfl⟩
      exact ⟨ds, n, hn, .inl ⟨hcs, rfl⟩⟩
    · rintro ⟨es, n, hn, ⟨hcs, rfl⟩ | ⟨rfl, -⟩⟩
      · exact ⟨n, ⟨es, hn, hcs⟩, rfl⟩
      · exact absurd ⟨es, rfl⟩ hminus

end LayeredConfig.Decimal
