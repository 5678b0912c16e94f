import SqlGateway.Number.Decimal
import SqlGateway.Proofs.Number.Nearest

/-! Decimals of large doubles. From `2^62` on a double is an integer, `m · 2^j` with a mantissa `m` of
    53 bits, and its decimal comes of doubling `m`:

        below 2^96     each doubling is exact                          m · 2^j
        at 2^96        a fifth in place of the last one, and a zero    2^96 - 6
        beyond         no room, whatever the fifths have cut off       none                       -/

namespace SqlGateway.Number

namespace Decimal

variable {count m : ℕ}

theorem two_mul_mul_two_pow (m count : ℕ) : 2 * m * 2 ^ count = m * 2 ^ (count + 1) := by ring

/-- What stays within the mantissa is doubled exactly. -/
theorem doubled_of_lt (h : m * 2 ^ count < capacity) (zeros : ℕ) :
    doubled count m zeros = (m * 2 ^ count, zeros) := by
  induction count generalizing m with
  | zero => simp [doubled]
  | succ count ih =>
    rw [← two_mul_mul_two_pow] at h
    have hroom : 2 * m < capacity := (Nat.le_mul_of_pos_right _ (Nat.two_pow_pos count)).trans_lt h
    rw [doubled, if_pos hroom, ih h, two_mul_mul_two_pow]

/-- What outgrows the mantissa stays beyond it, unless it ends right above and loses up to eight. -/
theorem le_doubled (hm : m < capacity) (h : capacity ≤ m * 2 ^ count) (zeros : ℕ) :
    min (m * 2 ^ count - 8) capacity * 10 ^ zeros ≤
      (doubled count m zeros).1 * 10 ^ (doubled count m zeros).2 := by
  induction count generalizing m zeros with
  | zero => omega
  | succ count ih =>
    rw [doubled]
    split
    · next hroom =>
      rw [← two_mul_mul_two_pow] at h ⊢
      exact ih hroom h zeros
    · next hfull =>
      have hten : 10 ^ (zeros + 1) = 10 * 10 ^ zeros := pow_succ' 10 zeros
      rw [capacity, Nat.pow_eq] at hm hfull ⊢
      rcases Nat.lt_or_ge (m / 5 * 2 ^ count) capacity with hlt | hge
      · rw [doubled_of_lt hlt, hten, ← mul_assoc]
        refine Nat.mul_le_mul_right _ ?_
        rcases Nat.eq_zero_or_pos count with rfl | hpos
        · omega
        · have := Nat.mul_le_mul_left (m / 5) (Nat.pow_le_pow_right two_pos hpos)
          omega
      · refine le_trans ?_ (ih (by rw [capacity, Nat.pow_eq]; omega) hge (zeros + 1))
        rw [hten, ← mul_assoc]
        refine Nat.mul_le_mul_right _ ?_
        rw [capacity, Nat.pow_eq] at hge ⊢
        omega

variable {x : Double} {a : Bool} {j : ℕ} {q : ℚ}

theorem ofDouble?_of_read (hx : x.read = .finite a m j) (hm : m ≠ 0) :
    ofDouble? x =
      if (doubled j m 0).1 * 10 ^ (doubled j m 0).2 < capacity then
        some ⟨a, (doubled j m 0).1 * 10 ^ (doubled j m 0).2, 0⟩
      else none := by
  rw [ofDouble?, hx]
  simp only [if_neg hm, if_pos (Int.natCast_nonneg j), Int.toNat_natCast, Nat.pow_eq]

/-- A large double as a shifted mantissa. -/
theorem exists_shift (hx : x.HasMagnitude a q) (hq : 2 ^ 62 ≤ q) : ∃ m j : ℕ,
    x.read = .finite a m j ∧ 2 ^ 52 ≤ m ∧ m < 2 ^ 53 ∧ 9 ≤ j ∧ q = (m * 2 ^ j : ℕ) := by
  obtain ⟨m, e, hr, hm, hm', rfl⟩ := hx
  have he := Double.unit_nonneg hm' hq
  obtain ⟨j, rfl⟩ := Int.eq_ofNat_of_zero_le (by omega : 0 ≤ e)
  exact ⟨m, j, hr, hm, hm', by omega, by push_cast; rw [zpow_natCast]⟩

theorem ofDouble?_of_lt (hx : x.HasMagnitude a q) (hq : 2 ^ 62 ≤ q) (h : q < 2 ^ 96) :
    ∃ k : ℕ, (k : ℚ) = q ∧ ofDouble? x = some ⟨a, k, 0⟩ := by
  obtain ⟨m, j, hr, hm, -, -, rfl⟩ := exists_shift hx hq
  have hlt : m * 2 ^ j < capacity := by
    rw [capacity, Nat.pow_eq]
    exact_mod_cast h
  refine ⟨m * 2 ^ j, rfl, ?_⟩
  rw [ofDouble?_of_read hr (by omega), doubled_of_lt hlt, pow_zero, mul_one, if_pos hlt]

theorem ofDouble?_of_eq (hx : x.HasMagnitude a q) (h : q = 2 ^ 96) :
    ofDouble? x = some ⟨a, 2 ^ 96 - 6, 0⟩ := by
  obtain ⟨m, j, hr, hm, hm', -, hq⟩ := exists_shift hx (by rw [h]; norm_num)
  have hw : m * 2 ^ j = 2 ^ 96 := by exact_mod_cast hq.symm.trans h
  have hj : j = 44 := by
    have hlow : 2 ^ (52 + j) ≤ 2 ^ 96 := by
      rw [pow_add, ← hw]
      exact Nat.mul_le_mul_right _ hm
    have hhigh : 2 ^ 96 < 2 ^ (53 + j) := by
      rw [pow_add, ← hw]
      exact Nat.mul_lt_mul_of_pos_right hm' (Nat.two_pow_pos j)
    rw [Nat.pow_le_pow_iff_right (by norm_num)] at hlow
    rw [Nat.pow_lt_pow_iff_right (by norm_num)] at hhigh
    omega
  subst hj
  obtain rfl : m = 2 ^ 52 := by omega
  have hd : doubled 44 (2 ^ 52) 0 = (7922816251426433759354395033, 1) := by decide +kernel
  rw [ofDouble?_of_read hr (by norm_num), hd]
  rfl

theorem ofDouble?_of_gt (hx : x.HasMagnitude a q) (h : 2 ^ 96 < q) : ofDouble? x = none := by
  obtain ⟨m, j, hr, hm, hm', hj, rfl⟩ := exists_shift hx (le_trans (by norm_num) h.le)
  have hlt : 2 ^ 96 < m * 2 ^ j := by exact_mod_cast h
  obtain ⟨i, rfl⟩ := Nat.exists_eq_add_of_le hj
  have hunit : m * 2 ^ (9 + i) = 512 * (m * 2 ^ i) := by ring
  have hroom : m < capacity := by
    rw [capacity, Nat.pow_eq]
    omega
  have hfull : capacity ≤ m * 2 ^ (9 + i) := by
    rw [capacity, Nat.pow_eq]
    omega
  have hle := le_doubled hroom hfull 0
  rw [ofDouble?_of_read hr (by omega), if_neg]
  rw [capacity, Nat.pow_eq, pow_zero] at hle
  rw [capacity, Nat.pow_eq]
  omega

end Decimal

end SqlGateway.Number
