import SqlGateway.Number.Float
import Mathlib.Tactic

/-! How far rounding to a double takes a number. From one on, each rounding changes a number by at
    most one part in `2^53`, if it stays finite:

        2^52 ≤ mantissa < 2^53         spacing of doubles around mantissa · 2^e is 2^e
        half a spacing = 2^e / 2       at most mantissa · 2^e / 2^53

    Roundings one after the other, and products of rounded numbers, add up. -/

namespace SqlGateway.Number

/-- `x` is what `k` roundings may make of `q`. -/
structure Near (k : ℕ) (q x : ℚ) : Prop where
  low : (1 - 1 / 2 ^ 53) ^ k * q ≤ x
  high : x ≤ (1 + 1 / 2 ^ 53) ^ k * q

namespace Near

variable {j k : ℕ} {q r x y : ℚ}

theorem refl (q : ℚ) : Near 0 q q := ⟨by simp, by simp⟩

theorem of_abs_le (h : |x - q| ≤ q / 2 ^ 53) : Near 1 q x := by
  obtain ⟨hl, hh⟩ := abs_le.mp h
  exact ⟨by rw [pow_one]; linarith, by rw [pow_one]; linarith⟩

theorem trans (h : Near j q x) (h' : Near k x y) : Near (j + k) q y := by
  constructor
  · calc (1 - 1 / 2 ^ 53) ^ (j + k) * q
        = (1 - 1 / 2 ^ 53) ^ k * ((1 - 1 / 2 ^ 53) ^ j * q) := by ring
      _ ≤ (1 - 1 / 2 ^ 53) ^ k * x := mul_le_mul_of_nonneg_left h.low (by positivity)
      _ ≤ y := h'.low
  · calc y ≤ (1 + 1 / 2 ^ 53) ^ k * x := h'.high
      _ ≤ (1 + 1 / 2 ^ 53) ^ k * ((1 + 1 / 2 ^ 53) ^ j * q) :=
        mul_le_mul_of_nonneg_left h.high (by positivity)
      _ = (1 + 1 / 2 ^ 53) ^ (j + k) * q := by ring

theorem mul (h : Near j q x) (h' : Near k r y) (hq : 0 ≤ q) (hr : 0 ≤ r) :
    Near (j + k) (q * r) (x * y) := by
  have hu : (0 : ℚ) ≤ 1 - 1 / 2 ^ 53 := by norm_num
  have hx : 0 ≤ x := (mul_nonneg (pow_nonneg hu j) hq).trans h.low
  have hy : 0 ≤ y := (mul_nonneg (pow_nonneg hu k) hr).trans h'.low
  constructor
  · calc (1 - 1 / 2 ^ 53) ^ (j + k) * (q * r)
        = ((1 - 1 / 2 ^ 53) ^ j * q) * ((1 - 1 / 2 ^ 53) ^ k * r) := by ring
      _ ≤ x * y := mul_le_mul h.low h'.low (mul_nonneg (pow_nonneg hu k) hr) hx
  · calc x * y ≤ ((1 + 1 / 2 ^ 53) ^ j * q) * ((1 + 1 / 2 ^ 53) ^ k * r) :=
        mul_le_mul h.high h'.high hy (mul_nonneg (by positivity) hq)
      _ = (1 + 1 / 2 ^ 53) ^ (j + k) * (q * r) := by ring

theorem mono (h : Near j q x) (hjk : j ≤ k) (hq : 0 ≤ q) : Near k q x := by
  constructor
  · refine le_trans (mul_le_mul_of_nonneg_right ?_ hq) h.low
    exact pow_le_pow_of_le_one (by norm_num) (by norm_num) hjk
  · refine h.high.trans (mul_le_mul_of_nonneg_right ?_ hq)
    exact pow_le_pow_right₀ (by norm_num) hjk

end Near

/-! ### One rounding -/

theorem roundDiv_abs_le (tie : Tie) (n : ℕ) {d : ℕ} (hd : 0 < d) :
    |(roundDiv tie n d : ℚ) - n / d| ≤ 1 / 2 := by
  have hd' : (0 : ℚ) < d := by exact_mod_cast hd
  have hn : (n : ℚ) = d * (n / d : ℕ) + (n % d : ℕ) := by exact_mod_cast (Nat.div_add_mod n d).symm
  have hrest : (n : ℚ) / d = (n / d : ℕ) + (n % d : ℕ) / d := by
    rw [hn]
    field_simp
  have hone : ((n % d : ℕ) : ℚ) / d < 1 := by
    rw [div_lt_one hd']
    exact_mod_cast Nat.mod_lt n hd
  rw [roundDiv, hrest, abs_le]
  cases hu : roundsUp tie (n / d) (n % d) d with
  | true =>
    have hr : d ≤ 2 * (n % d) := by
      by_contra h
      simp [roundsUp, show 2 * (n % d) < d by omega] at hu
    have hhalf : 1 / 2 ≤ ((n % d : ℕ) : ℚ) / d := by
      rw [div_le_div_iff₀ (by norm_num) hd', one_mul]
      exact_mod_cast (by omega : d ≤ n % d * 2)
    rw [if_pos rfl]
    push_cast
    constructor <;> linarith
  | false =>
    have hr : 2 * (n % d) ≤ d := by
      by_contra h
      simp [roundsUp, show ¬ 2 * (n % d) < d by omega, show d < 2 * (n % d) by omega] at hu
    have hhalf : ((n % d : ℕ) : ℚ) / d ≤ 1 / 2 := by
      rw [div_le_div_iff₀ hd' (by norm_num), one_mul]
      exact_mod_cast (by omega : n % d * 2 ≤ d)
    have hnonneg : 0 ≤ ((n % d : ℕ) : ℚ) / d := by positivity
    rw [if_neg Bool.false_ne_true]
    constructor <;> linarith

theorem two_zpow_of_neg {g : ℤ} {k : ℕ} (h : -g = k) : (2 : ℚ) ^ g = (2 ^ k)⁻¹ := by
  rw [← zpow_natCast, ← zpow_neg, ← h, neg_neg]

/-- Powers of two with an exponent that may be negative, as the definitions write them. -/
theorem div_lt_zpow_iff (num : ℕ) {den : ℕ} (hd : 0 < den) (g : ℤ) :
    (num : ℚ) / den < 2 ^ g ↔
      if 0 ≤ g then num < den * 2 ^ g.toNat else num * 2 ^ (-g).toNat < den := by
  have hd' : (0 : ℚ) < den := by exact_mod_cast hd
  rw [div_lt_iff₀ hd']
  split
  · next hg =>
    obtain ⟨k, rfl⟩ := Int.eq_ofNat_of_zero_le hg
    rw [zpow_natCast, Int.toNat_natCast, mul_comm]
    exact_mod_cast Iff.rfl
  · next hg =>
    obtain ⟨k, hk⟩ := Int.eq_ofNat_of_zero_le (by omega : 0 ≤ -g)
    rw [two_zpow_of_neg hk, hk, Int.toNat_natCast, inv_mul_eq_div, lt_div_iff₀ (by positivity)]
    exact_mod_cast Iff.rfl

/-- The leading bit of a quotient. -/
theorem leadingExponent_spec {num den : ℕ} (hn : 0 < num) (hd : 0 < den) :
    (2 : ℚ) ^ Format.leadingExponent num den ≤ num / den ∧
      (num : ℚ) / den < 2 ^ (Format.leadingExponent num den + 1) := by
  have hd' : (0 : ℚ) < den := by exact_mod_cast hd
  have hnl : (2 : ℚ) ^ num.log2 ≤ num := by exact_mod_cast Nat.log2_self_le hn.ne'
  have hnh : (num : ℚ) < 2 ^ (num.log2 + 1) := by exact_mod_cast Nat.lt_log2_self
  have hdl : (2 : ℚ) ^ den.log2 ≤ den := by exact_mod_cast Nat.log2_self_le hd.ne'
  have hdh : (den : ℚ) < 2 ^ (den.log2 + 1) := by exact_mod_cast Nat.lt_log2_self
  have hlow : (2 : ℚ) ^ ((num.log2 : ℤ) - den.log2 - 1) ≤ num / den := by
    rw [le_div_iff₀ hd', sub_sub, zpow_sub₀ two_ne_zero, zpow_natCast, div_mul_eq_mul_div,
      div_le_iff₀ (by positivity)]
    exact mul_le_mul hnl (by exact_mod_cast hdh.le) hd'.le (by positivity)
  have hhigh : (num : ℚ) / den < 2 ^ ((num.log2 : ℤ) - den.log2 + 1) := by
    rw [div_lt_iff₀ hd', sub_add_eq_add_sub, zpow_sub₀ two_ne_zero, zpow_natCast,
      div_mul_eq_mul_div, lt_div_iff₀ (by positivity)]
    exact mul_lt_mul (by exact_mod_cast hnh) hdl (by positivity) (by positivity)
  have hbelow := div_lt_zpow_iff num hd ((num.log2 : ℤ) - den.log2)
  have hlead : Format.leadingExponent num den =
      if (num : ℚ) / den < 2 ^ ((num.log2 : ℤ) - den.log2) then (num.log2 : ℤ) - den.log2 - 1
      else (num.log2 : ℤ) - den.log2 := by
    rw [Format.leadingExponent]
    simp only [Nat.pow_eq, hbelow]
    congr 1
    split <;> simp
  rw [hlead]
  split
  · next hlt => exact ⟨hlow, by rwa [sub_add_cancel]⟩
  · next hge => exact ⟨not_lt.mp hge, hhigh⟩

/-! ### Patterns of doubles -/

theorem infinityBits_double : doubleFormat.infinityBits = 2047 * 2 ^ 52 := by decide

theorem signBit_double (negative : Bool) :
    doubleFormat.signBit negative = if negative then 2 ^ 63 else 0 := rfl

theorem read_double (bits : ℕ) : doubleFormat.read bits =
    if bits / 2 ^ 52 % 2 ^ 11 = 2047 then
      if bits % 2 ^ 52 = 0 then .infinite (bits / 2 ^ 63 % 2 == 1) else .nan
    else if bits / 2 ^ 52 % 2 ^ 11 = 0 then .finite (bits / 2 ^ 63 % 2 == 1) (bits % 2 ^ 52) (-1074)
    else .finite (bits / 2 ^ 63 % 2 == 1) (2 ^ 52 + bits % 2 ^ 52)
      (-1074 + (bits / 2 ^ 52 % 2 ^ 11 : ℕ) - 1) := rfl

theorem read_normal (negative : Bool) {field fraction : ℕ} (hpos : 0 < field) (hlt : field < 2047)
    (hfraction : fraction < 2 ^ 52) :
    doubleFormat.read (doubleFormat.signBit negative + (field * 2 ^ 52 + fraction)) =
      .finite negative (2 ^ 52 + fraction) (field - 1075) := by
  rw [signBit_double, read_double]
  have hdiv : ((if negative then 2 ^ 63 else 0) + (field * 2 ^ 52 + fraction)) / 2 ^ 52 % 2 ^ 11 =
      field := by split <;> omega
  have hmod : ((if negative then 2 ^ 63 else 0) + (field * 2 ^ 52 + fraction)) % 2 ^ 52 =
      fraction := by split <;> omega
  have hsign :
      (((if negative then 2 ^ 63 else 0) + (field * 2 ^ 52 + fraction)) / 2 ^ 63 % 2 == 1) =
        negative := by
    cases negative
    · simp; omega
    · simp; omega
  rw [hdiv, hmod, hsign, if_neg hlt.ne, if_neg hpos.ne']
  congr 1
  omega

theorem read_infinity (negative : Bool) :
    doubleFormat.read (doubleFormat.signBit negative + doubleFormat.infinityBits) =
      .infinite negative := by
  cases negative <;> decide

theorem ofRatio_lt (negative : Bool) (num den : ℕ) :
    doubleFormat.ofRatio negative num den < 2 ^ 64 := by
  have hs : doubleFormat.signBit negative ≤ 2 ^ 63 := by cases negative <;> decide
  rw [Format.ofRatio]
  split
  · omega
  · simp only [infinityBits_double]
    omega

/-- A quotient cut to 53 bits above a unit of `2^unit`. -/
def mantissaAt (num den : ℕ) (unit : ℤ) : ℕ :=
  if 0 ≤ unit then roundDiv .toEven num (den * 2 ^ unit.toNat)
  else roundDiv .toEven (num * 2 ^ (-unit).toNat) den

theorem mantissaAt_abs_le (num : ℕ) {den : ℕ} (hd : 0 < den) (unit : ℤ) :
    |(mantissaAt num den unit : ℚ) - num / den / 2 ^ unit| ≤ 1 / 2 := by
  rw [mantissaAt]
  split
  · next hu =>
    obtain ⟨k, rfl⟩ := Int.eq_ofNat_of_zero_le hu
    have h := roundDiv_abs_le .toEven num (Nat.mul_pos hd (Nat.two_pow_pos k))
    rw [Nat.cast_mul, Nat.cast_pow, Nat.cast_ofNat, ← div_div] at h
    rwa [zpow_natCast, Int.toNat_natCast]
  · next hu =>
    obtain ⟨k, hk⟩ := Int.eq_ofNat_of_zero_le (by omega : 0 ≤ -unit)
    have h := roundDiv_abs_le .toEven (num * 2 ^ k) hd
    rw [Nat.cast_mul, Nat.cast_pow, Nat.cast_ofNat] at h
    rw [two_zpow_of_neg hk, hk, Int.toNat_natCast, div_inv_eq_mul, div_mul_eq_mul_div]
    exact h

theorem ofRatio_double {num : ℕ} (hn : 0 < num) (den : ℕ) (negative : Bool) :
    doubleFormat.ofRatio negative num den = doubleFormat.signBit negative +
      min ((max (Format.leadingExponent num den - 52) (-1074) + 1074).toNat * 2 ^ 52 +
        mantissaAt num den (max (Format.leadingExponent num den - 52) (-1074)))
        doubleFormat.infinityBits := by
  rw [Format.ofRatio, if_neg hn.ne']
  rfl

theorem leadingExponent_nonneg {num den : ℕ} (hd : 0 < den) (h : den ≤ num) :
    0 ≤ Format.leadingExponent num den := by
  obtain ⟨-, hhigh⟩ := leadingExponent_spec (hd.trans_le h) hd
  have hone : (1 : ℚ) ≤ num / den := by
    rw [one_le_div (by exact_mod_cast hd)]
    exact_mod_cast h
  by_contra hneg
  have hle : (2 : ℚ) ^ (Format.leadingExponent num den + 1) ≤ 2 ^ (0 : ℤ) :=
    zpow_le_zpow_right₀ (by norm_num) (by omega)
  rw [zpow_zero] at hle
  linarith

/-- The mantissa of a quotient has 53 bits, unless it is rounded up to the next power of two. -/
theorem mantissaAt_leading {num den : ℕ} (hd : 0 < den) (h : den ≤ num) {unit : ℤ}
    (hu : unit = Format.leadingExponent num den - 52) :
    2 ^ 52 ≤ mantissaAt num den unit ∧ mantissaAt num den unit ≤ 2 ^ 53 ∧
      Near 1 (num / den) (mantissaAt num den unit * 2 ^ unit) := by
  obtain ⟨hlow, hhigh⟩ := leadingExponent_spec (hd.trans_le h) hd
  rw [show Format.leadingExponent num den = 52 + unit by omega] at hlow hhigh
  have hpos : (0 : ℚ) < 2 ^ unit := by positivity
  have hlow' : (2 : ℚ) ^ 52 * 2 ^ unit ≤ num / den := by
    rwa [zpow_add₀ two_ne_zero] at hlow
  have hhigh' : (num : ℚ) / den < 2 ^ 53 * 2 ^ unit := by
    rwa [add_right_comm, zpow_add₀ two_ne_zero] at hhigh
  obtain ⟨hml, hmh⟩ := abs_le.mp (mantissaAt_abs_le num hd unit)
  have hql : (2 : ℚ) ^ 52 ≤ num / den / 2 ^ unit := by rwa [le_div_iff₀ hpos]
  have hqh : (num : ℚ) / den / 2 ^ unit < 2 ^ 53 := by rwa [div_lt_iff₀ hpos]
  refine ⟨?_, ?_, Near.of_abs_le ?_⟩
  · have hlt : ((2 ^ 52 - 1 : ℕ) : ℚ) < mantissaAt num den unit := by
      push_cast
      linarith
    exact Nat.le_of_pred_lt (by exact_mod_cast hlt)
  · have hlt : (mantissaAt num den unit : ℚ) < (2 ^ 53 + 1 : ℕ) := by
      push_cast
      linarith
    exact Nat.le_of_lt_succ (by exact_mod_cast hlt)
  · calc |(mantissaAt num den unit : ℚ) * 2 ^ unit - num / den|
        = |(mantissaAt num den unit : ℚ) - num / den / 2 ^ unit| * 2 ^ unit := by
          rw [← abs_of_pos hpos, ← abs_mul, abs_of_pos hpos, sub_mul, div_mul_cancel₀ _ hpos.ne']
      _ ≤ 1 / 2 * 2 ^ unit :=
          mul_le_mul_of_nonneg_right (mantissaAt_abs_le num hd unit) hpos.le
      _ ≤ num / den / 2 ^ 53 := by
          rw [le_div_iff₀ (by positivity)]
          linarith

/-- A quotient of at least one becomes a normal number near it, or an infinity. -/
theorem read_ofRatio {num den : ℕ} (hd : 0 < den) (h : den ≤ num) (negative : Bool) :
    (doubleFormat.read (doubleFormat.ofRatio negative num den) = .infinite negative ∧
        (2 : ℚ) ^ 1023 ≤ num / den) ∨
      ∃ (m : ℕ) (e : ℤ), doubleFormat.read (doubleFormat.ofRatio negative num den) =
        .finite negative m e ∧ 2 ^ 52 ≤ m ∧ m < 2 ^ 53 ∧ Near 1 (num / den) (m * 2 ^ e) := by
  have hlead := leadingExponent_nonneg hd h
  obtain ⟨hlow, -⟩ := leadingExponent_spec (hd.trans_le h) hd
  obtain ⟨k, hk⟩ := Int.eq_ofNat_of_zero_le (by omega : 0 ≤ Format.leadingExponent num den)
  have hmax : max (Format.leadingExponent num den - 52) (-1074) = (k : ℤ) - 52 := by omega
  obtain ⟨hm, hm', hnear⟩ := mantissaAt_leading hd h (by rw [hk] : (k : ℤ) - 52 = _)
  rw [ofRatio_double (hd.trans_le h), hmax]
  have hfield : ((k : ℤ) - 52 + 1074).toNat = k + 1022 := by omega
  rw [hfield]
  generalize mantissaAt num den ((k : ℤ) - 52) = mantissa at hm hm' hnear ⊢
  have hinfinite (hge : 2047 * 2 ^ 52 ≤ (k + 1022) * 2 ^ 52 + mantissa) (hk' : 1023 ≤ k) :
      doubleFormat.read (doubleFormat.signBit negative +
        min ((k + 1022) * 2 ^ 52 + mantissa) doubleFormat.infinityBits) = .infinite negative ∧
        (2 : ℚ) ^ 1023 ≤ num / den := by
    rw [min_eq_right (by rwa [infinityBits_double])]
    refine ⟨read_infinity negative, le_trans ?_ hlow⟩
    rw [hk]
    exact_mod_cast pow_le_pow_right₀ (by norm_num : (1 : ℚ) ≤ 2) hk'
  -- a mantissa that is rounded up to a power of two moves the pattern on to the next exponent
  rcases hm'.lt_or_eq with hlt | rfl
  · by_cases hk' : k + 1023 < 2047
    · refine Or.inr ⟨mantissa, (k : ℤ) - 52, ?_, hm, hlt, hnear⟩
      rw [min_eq_left (by rw [infinityBits_double]; omega),
        show (k + 1022) * 2 ^ 52 + mantissa = (k + 1023) * 2 ^ 52 + (mantissa - 2 ^ 52) by omega,
        read_normal negative (by omega) hk' (by omega), Nat.add_sub_cancel' hm,
        show ((k + 1023 : ℕ) : ℤ) - 1075 = k - 52 by omega]
    · exact Or.inl (hinfinite (by omega) (by omega))
  · by_cases hk' : k + 1024 < 2047
    · refine Or.inr ⟨2 ^ 52, (k : ℤ) - 51, ?_, le_rfl, by norm_num, ?_⟩
      · rw [min_eq_left (by rw [infinityBits_double]; omega),
          show (k + 1022) * 2 ^ 52 + 2 ^ 53 = (k + 1024) * 2 ^ 52 + 0 by omega,
          read_normal negative (by omega) hk' (by norm_num), Nat.add_zero,
          show ((k + 1024 : ℕ) : ℤ) - 1075 = k - 51 by omega]
      · convert hnear using 1
        rw [show (k : ℤ) - 51 = (k : ℤ) - 52 + 1 by omega, zpow_add_one₀ two_ne_zero]
        push_cast
        ring
    · exact Or.inl (hinfinite (by omega) (by omega))

namespace Double

/-- A normal number: its sign and its magnitude. -/
def HasMagnitude (x : Double) (negative : Bool) (q : ℚ) : Prop :=
  ∃ (m : ℕ) (e : ℤ), x.read = .finite negative m e ∧ 2 ^ 52 ≤ m ∧ m < 2 ^ 53 ∧ q = m * 2 ^ e

variable {x y : Double} {a b : Bool} {q r : ℚ}

theorem read_ofRatio_eq (negative : Bool) (num den : ℕ) : (ofRatio negative num den).read =
    doubleFormat.read (doubleFormat.ofRatio negative num den) := by
  have h := ofRatio_lt negative num den
  rw [read, ofRatio, Nat.toUInt64, UInt64.toNat_ofNat_of_lt' h]

/-- A quotient of at least one, taken to the nearest number, if that is finite. -/
theorem ofRatio_magnitude {num den : ℕ} (hd : 0 < den) (h : den ≤ num) (negative : Bool)
    (hf : (ofRatio negative num den).isFinite = true) :
    ∃ q, (ofRatio negative num den).HasMagnitude negative q ∧ Near 1 (num / den) q := by
  rcases read_ofRatio hd h negative with ⟨hr, -⟩ | ⟨m, e, hr, hm, hm', hn⟩
  · rw [isFinite, read_ofRatio_eq, hr] at hf
    nomatch hf
  · exact ⟨m * 2 ^ e, ⟨m, e, (read_ofRatio_eq ..).trans hr, hm, hm', rfl⟩, hn⟩

theorem ofRatio_isFinite {num den : ℕ} (hd : 0 < den) (h : den ≤ num)
    (hlt : (num : ℚ) / den < 2 ^ 1023) (negative : Bool) :
    (ofRatio negative num den).isFinite = true := by
  rcases read_ofRatio hd h negative with ⟨-, hge⟩ | ⟨m, e, hr, -⟩
  · exact absurd hge (not_le.mpr hlt)
  · rw [isFinite, read_ofRatio_eq, hr]

/-- An integer of 64 bits, taken to the nearest number. -/
theorem ofInt_magnitude {i : ℤ} (hi : i ≠ 0) (hlt : i.natAbs < 2 ^ 64) :
    ∃ q, (ofInt i).HasMagnitude (i < 0) q ∧ Near 1 |(i : ℚ)| q := by
  have h1 : 1 ≤ i.natAbs := by omega
  have hcast : ((i.natAbs : ℕ) : ℚ) = |(i : ℚ)| := by
    rw [Nat.cast_natAbs, Int.cast_abs]
  have hbound : ((i.natAbs : ℕ) : ℚ) / (1 : ℕ) < 2 ^ 1023 := by
    rw [Nat.cast_one, div_one]
    calc ((i.natAbs : ℕ) : ℚ) < 2 ^ 64 := by exact_mod_cast hlt
      _ ≤ 2 ^ 1023 := pow_le_pow_right₀ (by norm_num) (by norm_num)
  have h := ofRatio_magnitude Nat.one_pos h1 (i < 0) (ofRatio_isFinite Nat.one_pos h1 hbound _)
  rwa [Nat.cast_one, div_one, hcast] at h

theorem ofReading_magnitude {m : ℕ} {e : ℤ} (h1 : 1 ≤ (m : ℚ) * 2 ^ e)
    (hf : (ofReading (.finite a m e)).isFinite = true) :
    ∃ q, (ofReading (.finite a m e)).HasMagnitude a q ∧ Near 1 (m * 2 ^ e) q := by
  by_cases he : 0 ≤ e
  · obtain ⟨k, rfl⟩ := Int.eq_ofNat_of_zero_le he
    have hr : ofReading (.finite a m (k : ℤ)) = ofRatio a (m * 2 ^ k) 1 := by
      rw [ofReading, Format.ofReading, Format.ofScaled, if_pos he]
      rfl
    rw [hr] at hf ⊢
    have h := ofRatio_magnitude Nat.one_pos (by exact_mod_cast h1) a hf
    push_cast at h
    rwa [div_one] at h
  · obtain ⟨k, hk⟩ := Int.eq_ofNat_of_zero_le (by omega : 0 ≤ -e)
    have hr : ofReading (.finite a m e) = ofRatio a m (2 ^ k) := by
      rw [ofReading, Format.ofReading, Format.ofScaled, if_neg he, hk]
      rfl
    rw [two_zpow_of_neg hk, ← div_eq_mul_inv] at h1 ⊢
    rw [hr] at hf ⊢
    have h := ofRatio_magnitude (Nat.two_pow_pos k)
      (by rw [le_div_iff₀ (by positivity), one_mul] at h1; exact_mod_cast h1) a hf
    push_cast at h
    exact h

/-- A product that stays finite is near the product of its factors. -/
theorem mul_magnitude (hx : x.HasMagnitude a q) (hy : y.HasMagnitude b r) (h1 : 1 ≤ q * r)
    (hf : (x.mul y).isFinite = true) :
    ∃ t, (x.mul y).HasMagnitude (a != b) t ∧ Near 1 (q * r) t := by
  obtain ⟨m, e, hx, -, -, rfl⟩ := hx
  obtain ⟨n, p, hy, -, -, rfl⟩ := hy
  have hmul : x.mul y = ofReading (.finite (a != b) (m * n) (e + p)) := by rw [mul, hx, hy]
  have hval : ((m * n : ℕ) : ℚ) * 2 ^ (e + p) = m * 2 ^ e * (n * 2 ^ p) := by
    rw [zpow_add₀ two_ne_zero]
    push_cast
    ring
  rw [hmul] at hf ⊢
  rw [← hval] at h1 ⊢
  exact ofReading_magnitude h1 hf

theorem isFinite_of_mul (hf : (x.mul y).isFinite = true) :
    x.isFinite = true ∧ y.isFinite = true := by
  have hnan : nan.isFinite = false := by decide
  rw [mul] at hf
  cases hx : x.read with
  | finite a m p =>
    cases hy : y.read with
    | finite b n q => simp [isFinite, hx, hy]
    | nan => simp [hx, hy, hnan] at hf
    | infinite b => simp [hx, hy, hnan] at hf
  | nan => simp [hx, hnan] at hf
  | infinite a => simp [hx, hnan] at hf

theorem xor_signBit (n : ℕ) : (n ^^^ 2 ^ 63) % 2 ^ 52 = n % 2 ^ 52 ∧
    (n ^^^ 2 ^ 63) / 2 ^ 52 % 2 ^ 11 = n / 2 ^ 52 % 2 ^ 11 ∧
    ((n ^^^ 2 ^ 63) / 2 ^ 63 % 2 == 1) = !(n / 2 ^ 63 % 2 == 1) := by
  refine ⟨?_, ?_, ?_⟩
  · rw [Nat.xor_mod_two_pow]
    simp
  · rw [Nat.xor_div_two_pow, Nat.xor_mod_two_pow]
    simp
  · rw [Nat.xor_div_two_pow, Nat.div_self (by norm_num), ← pow_one 2, Nat.xor_mod_two_pow]
    generalize n / 2 ^ 63 = t
    rcases Nat.mod_two_eq_zero_or_one t with h | h <;> simp [h]

theorem read_neg (x : Double) : x.neg.read = match x.read with
    | .nan => .nan
    | .infinite a => .infinite (!a)
    | .finite a m e => .finite (!a) m e := by
  obtain ⟨hmod, hdiv, hsign⟩ := xor_signBit x.bits.toNat
  have hb : x.neg.bits.toNat = x.bits.toNat ^^^ 2 ^ 63 := by
    rw [neg, UInt64.toNat_xor]
    rfl
  rw [read, read, read_double, read_double, hb, hmod, hdiv, hsign]
  split_ifs <;> rfl

theorem neg_magnitude (hx : x.HasMagnitude a q) : x.neg.HasMagnitude (!a) q := by
  obtain ⟨m, e, hx, hm, hm', rfl⟩ := hx
  exact ⟨m, e, by rw [read_neg, hx], hm, hm', rfl⟩

/-- The unit of a large number is at least one. -/
theorem unit_nonneg {m : ℕ} {e : ℤ} (hm : m < 2 ^ 53) (hq : (2 : ℚ) ^ 62 ≤ m * 2 ^ e) : 9 ≤ e := by
  by_contra he
  have hle : (2 : ℚ) ^ e ≤ 2 ^ (8 : ℤ) := zpow_le_zpow_right₀ (by norm_num) (by omega)
  have hm' : (m : ℚ) < 2 ^ 53 := by exact_mod_cast hm
  have hlt : (m : ℚ) * 2 ^ e < 2 ^ 53 * 2 ^ (8 : ℤ) :=
    mul_lt_mul hm' hle (by positivity) (by norm_num)
  norm_num at hlt hq
  linarith

/-- A large number is an integer. -/
theorem toInt?_magnitude (hx : x.HasMagnitude a q) (hq : 2 ^ 62 ≤ q) :
    ∃ k : ℕ, x.toInt? = some ((if a then -1 else 1 : ℤ) * k) ∧ (k : ℚ) = q := by
  obtain ⟨m, e, hx, -, hm, rfl⟩ := hx
  obtain ⟨k, rfl⟩ := Int.eq_ofNat_of_zero_le (by linarith [unit_nonneg hm hq] : 0 ≤ e)
  refine ⟨m * 2 ^ k, ?_, by push_cast; rw [zpow_natCast]⟩
  rw [toInt?, hx]
  exact if_pos (Int.natCast_nonneg k)

end Double

end SqlGateway.Number
