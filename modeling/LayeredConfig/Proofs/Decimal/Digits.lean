import LayeredConfig.Decimal.Numeral
import LayeredConfig.Proofs.Text.Blank
import Mathlib.Data.Nat.Digits.Defs

namespace LayeredConfig.Decimal

/-- What holds of one digit and survives one digit more holds of every written number. -/
theorem toDigits_induction {base : ℕ} (hbase : 1 < base) {P : ℕ → List Char → Prop}
    (one : ∀ d < base, P d [Nat.digitChar d])
    (more : ∀ n, 0 < n → ∀ d < base, P n (Nat.toDigits base n) →
      P (n * base + d) (Nat.toDigits base n ++ [Nat.digitChar d]))
    (n : ℕ) : P n (Nat.toDigits base n) := by
  induction n using Nat.strong_induction_on with
  | _ n ih =>
    by_cases hn : n < base
    · rw [Nat.toDigits_of_lt_base hn]
      exact one n hn
    · have hle : base ≤ n := by omega
      have hpos : 0 < n / base := Nat.div_pos hle (by omega)
      have hsplit : n / base * base + n % base = n := by
        rw [Nat.mul_comm]
        exact Nat.div_add_mod n base
      rw [Nat.toDigits_of_base_le hbase hle]
      nth_rewrite 1 [← hsplit]
      exact more _ hpos _ (Nat.mod_lt _ (by omega))
        (ih _ (Nat.div_lt_self (by omega) hbase))

theorem toDigits_head?_eq_zero {base : ℕ} (hbase : 1 < base) (hle : base ≤ 16) (n : ℕ) :
    (Nat.toDigits base n).head? = some '0' → n = 0 := by
  refine toDigits_induction (P := fun n cs => cs.head? = some '0' → n = 0) hbase ?_ ?_ n
  · intro d hd h
    have hchars : ∀ d < 16, some (Nat.digitChar d) = some '0' → d = 0 := by decide
    exact hchars d (by omega) h
  · intro n hn d hd ih h
    cases hcs : Nat.toDigits base n with
    | nil => exact absurd hcs Nat.toDigits_ne_nil
    | cons c cs =>
      rw [hcs] at ih h
      have hzero : n = 0 := ih (by simpa using h)
      omega

theorem digitChar_of_mem_toDigits {base n : ℕ} (hbase : 1 < base) {c : Char}
    (hc : c ∈ Nat.toDigits base n) : ∃ d < base, c = Nat.digitChar d := by
  revert hc
  refine toDigits_induction (P := fun _ cs => c ∈ cs → ∃ d < base, c = Nat.digitChar d) hbase
    ?_ ?_ n
  · intro d hd hc
    exact ⟨d, hd, by simpa using hc⟩
  · intro n _ d hd ih hc
    rcases List.mem_append.1 hc with hc | hc
    · exact ih hc
    · exact ⟨d, hd, by simpa using hc⟩

/-- Numbers are written without blanks. -/
theorem unbroken_toDigits {base : ℕ} (hbase : 1 < base) (hle : base ≤ 16) (n : ℕ) :
    Text.Unbroken (Nat.toDigits base n) := by
  intro c hc
  obtain ⟨d, hd, rfl⟩ := digitChar_of_mem_toDigits hbase hc
  have hchars : ∀ d < 16, Text.isBlank (Nat.digitChar d) = false := by decide
  exact hchars d (by omega)

end LayeredConfig.Decimal
