import SqlGateway.Proofs.Number.DecimalText
import SqlGateway.Proofs.Text.BigEndian
import SqlGateway.Server.PostgresCell
import Mathlib.Data.Nat.Digits.Lemmas

/-! Cells of decimals. What a cell says is fixed by its groups, each of them four digits at a power
    of ten thousand, apart from any reading of it:

        weight 1    groups 12  3400     scale 2        12 · 10000 + 3400 = 123400.00

    The server strips groups of zeros at both ends. So a zero has no group at all, and its scale is
    the one thing that is left of it. A reader that goes by the groups gives back every decimal but
    that: a zero comes back without its places. -/

namespace SqlGateway.Server.Postgres

open Number (Decimal)
open Text (bigEndian natOfBytes)

/-- What stands in the cell of a decimal. -/
structure NumericCell where
  weight : ℤ
  negative : Bool
  scale : ℕ
  groups : List ℕ

/-- What groups come to, the first of them in ten thousands to the weight. -/
def groupsValue : ℤ → List ℕ → ℚ
  | _, [] => 0
  | weight, g :: gs => g * 10000 ^ weight + groupsValue (weight - 1) gs

namespace NumericCell

/-- The numbers of a cell, two bytes each. -/
def numbers (c : NumericCell) : List ℤ :=
  c.groups.length :: c.weight :: (if c.negative then 0x4000 else 0) :: c.scale ::
    c.groups.map fun (g : ℕ) => (g : ℤ)

def bytes (c : NumericCell) : List UInt8 := c.numbers.flatMap (bigEndian 2)

/-- The cell of a decimal: its groups come to the decimal, with none of zeros at either end, and its
    scale is that of the decimal. -/
structure IsOf (c : NumericCell) (d : Decimal) : Prop where
  scale_eq : c.scale = d.scale
  value_eq : (if c.negative then -1 else 1) * groupsValue c.weight c.groups = d.value
  groups_lt : ∀ g ∈ c.groups, g < 10000
  head_ne : c.groups.head? ≠ some 0
  last_ne : c.groups.getLast? ≠ some 0
  empty : c.groups = [] → c.weight = 0 ∧ c.negative = false

/-- The groups as one integer. -/
def whole (c : NumericCell) : ℕ := c.groups.foldl (fun n g => 10000 * n + g) 0

/-- The power of ten thousand that belongs to the last group. -/
def unit (c : NumericCell) : ℤ := c.weight - (c.groups.length - 1 : ℕ)

end NumericCell

/-! ### Groups -/

theorem groupsValue_eq (weight : ℤ) (gs : List ℕ) (start : ℕ) :
    start * 10000 ^ (weight + 1) + groupsValue weight gs =
      (gs.foldl (fun n g => 10000 * n + g) start : ℕ) * 10000 ^ (weight + 1 - gs.length) := by
  induction gs generalizing weight start with
  | nil => simp [groupsValue]
  | cons g gs ih =>
    have hpow : (10000 : ℚ) ^ (weight + 1) = 10000 * 10000 ^ weight := by
      rw [zpow_add_one₀ (by norm_num), mul_comm]
    have hlast : weight - 1 + 1 - gs.length = weight + 1 - (g :: gs).length := by
      rw [List.length_cons]
      omega
    have hstep := ih (weight - 1) (10000 * start + g)
    rw [hlast, sub_add_cancel] at hstep
    rw [List.foldl_cons, ← hstep, groupsValue, hpow]
    push_cast
    ring

theorem pow_le_foldl (gs : List ℕ) (start : ℕ) :
    start * 10000 ^ gs.length ≤ gs.foldl (fun n g => 10000 * n + g) start := by
  induction gs generalizing start with
  | nil => simp
  | cons g gs ih =>
    refine le_trans ?_ (ih (10000 * start + g))
    calc start * 10000 ^ (g :: gs).length = 10000 * start * 10000 ^ gs.length := by
          rw [List.length_cons]; ring
      _ ≤ (10000 * start + g) * 10000 ^ gs.length :=
          Nat.mul_le_mul_right _ (Nat.le_add_right _ _)

/-- A number with a sign has one sign and one size, unless it is zero. -/
theorem eq_of_signed_eq {a b : Bool} {x y : ℚ} (hx : 0 < x) (hy : 0 ≤ y)
    (h : (if a then -1 else 1) * x = (if b then -1 else 1) * y) : a = b ∧ x = y := by
  cases a with
  | false =>
    cases b with
    | false => exact ⟨rfl, by simpa using h⟩
    | true =>
      have hneg : x = -y := by simpa using h
      linarith
  | true =>
    cases b with
    | false =>
      have hneg : -x = y := by simpa using h
      linarith
    | true => exact ⟨rfl, by simpa using h⟩

/-- Digits of ten thousand in the order of a cell. -/
theorem foldl_reverse_digits (k : ℕ) :
    (Nat.digits 10000 k).reverse.foldl (fun n g => 10000 * n + g) 0 = k := by
  rw [List.foldl_reverse]
  conv_rhs => rw [← Nat.ofDigits_digits 10000 k, Nat.ofDigits_eq_foldr]
  simp only [Nat.cast_id, Nat.add_comm]

namespace NumericCell

variable {c : NumericCell} {d : Decimal}

theorem groupsValue_groups (hne : c.groups ≠ []) :
    groupsValue c.weight c.groups = c.whole * 10000 ^ c.unit := by
  have hpos := List.length_pos_of_ne_nil hne
  have hunit : c.weight + 1 - c.groups.length = c.unit := by
    rw [unit]
    omega
  have h := groupsValue_eq c.weight c.groups 0
  rwa [Nat.cast_zero, zero_mul, zero_add, hunit] at h

namespace IsOf

variable (h : c.IsOf d)

include h

theorem pow_le_whole (hne : c.groups ≠ []) : 10000 ^ (c.groups.length - 1) ≤ c.whole := by
  obtain ⟨g, gs, hg⟩ := List.exists_cons_of_ne_nil hne
  have hg0 : g ≠ 0 := fun h0 => h.head_ne (by rw [hg, h0]; rfl)
  have hle := pow_le_foldl gs g
  rw [whole, hg, List.foldl_cons, Nat.mul_zero, Nat.zero_add, List.length_cons,
    Nat.add_sub_cancel]
  exact (Nat.le_mul_of_pos_left _ (Nat.pos_of_ne_zero hg0)).trans hle

theorem whole_pos (hne : c.groups ≠ []) : 0 < c.whole :=
  (Nat.pow_pos (by norm_num)).trans_le (h.pow_le_whole hne)

theorem not_dvd_whole (hne : c.groups ≠ []) : ¬ 10000 ∣ c.whole := by
  obtain ⟨gs, g, hg⟩ := (List.eq_nil_or_concat c.groups).resolve_left hne
  have hmem : g ∈ c.groups := by simp [hg]
  have hg0 : g ≠ 0 := fun h0 => h.last_ne (by simp [hg, h0])
  have hlt := h.groups_lt g hmem
  rw [whole, hg, List.concat_eq_append, List.foldl_append, List.foldl_cons, List.foldl_nil]
  omega

/-- The sign of a cell with groups is that of the decimal, and so is the rest of its value. -/
theorem whole_eq (hne : c.groups ≠ []) : c.negative = d.negative ∧
    c.whole * 10000 ^ c.unit = (d.mantissa / 10 ^ d.scale : ℚ) := by
  have hv := h.value_eq
  have hpos : (0 : ℚ) < c.whole * 10000 ^ c.unit := by
    have hw : (0 : ℚ) < c.whole := by exact_mod_cast h.whole_pos hne
    positivity
  have hnonneg : (0 : ℚ) ≤ d.mantissa / 10 ^ d.scale := by positivity
  rw [groupsValue_groups hne, Decimal.value, mul_div_assoc] at hv
  exact eq_of_signed_eq hpos hnonneg hv

/-- The same without fractions. -/
theorem whole_mul_eq (hne : c.groups ≠ []) :
    c.whole * 10 ^ (4 * c.unit.toNat) * 10 ^ d.scale =
      d.mantissa * 10 ^ (4 * (-c.unit).toNat) := by
  have hpow (k : ℕ) : (10 : ℚ) ^ (4 * k) = 10000 ^ k := by rw [pow_mul]; norm_num
  have hv := (h.whole_eq hne).2
  rw [eq_div_iff (by positivity)] at hv
  have hrat : (c.whole * 10 ^ (4 * c.unit.toNat) * 10 ^ d.scale : ℚ) =
      d.mantissa * 10 ^ (4 * (-c.unit).toNat) := by
    rw [hpow, hpow, ← hv]
    rcases le_total 0 c.unit with hu | hu
    · obtain ⟨k, hk⟩ := Int.eq_ofNat_of_zero_le hu
      simp [hk]
    · obtain ⟨k, hk⟩ := Int.eq_ofNat_of_zero_le (Int.neg_nonneg.mpr hu)
      obtain hk' : c.unit = -k := by omega
      simp only [hk', neg_neg, Int.toNat_natCast, Int.toNat_neg_natCast, zpow_neg, zpow_natCast,
        pow_zero, mul_one]
      field_simp
  exact_mod_cast hrat

theorem mantissa_ne_zero (hne : c.groups ≠ []) : d.mantissa ≠ 0 := by
  intro hm
  have hw := h.whole_pos hne
  have hv := h.whole_mul_eq hne
  rw [hm, Nat.zero_mul] at hv
  have hpos : 0 < c.whole * 10 ^ (4 * c.unit.toNat) * 10 ^ d.scale := by positivity
  exact hpos.ne' hv

variable (hd : d.IsProper)

include hd

/-- No weight of a cell is out of the range of decimals. -/
theorem weight_le (hne : c.groups ≠ []) : c.weight ≤ 7 := by
  have hpos := List.length_pos_of_ne_nil hne
  have hunit : ((c.groups.length - 1 : ℕ) : ℤ) + c.unit = c.weight := by
    rw [unit]
    omega
  have hlow : (10000 : ℚ) ^ c.weight ≤ c.whole * 10000 ^ c.unit := by
    rw [← hunit, zpow_add₀ (by norm_num), zpow_natCast]
    refine mul_le_mul_of_nonneg_right ?_ (by positivity)
    exact_mod_cast h.pow_le_whole hne
  have hhigh : (d.mantissa / 10 ^ d.scale : ℚ) < 10000 ^ (8 : ℤ) := by
    have hm : (d.mantissa : ℚ) < 2 ^ 96 := by exact_mod_cast hd.mantissa_lt
    calc (d.mantissa / 10 ^ d.scale : ℚ) ≤ d.mantissa :=
          div_le_self (by positivity) (one_le_pow₀ (by norm_num))
      _ < 10000 ^ (8 : ℤ) := hm.trans (by norm_num)
  rw [(h.whole_eq hne).2] at hlow
  have hlt := (zpow_lt_zpow_iff_right₀ (by norm_num)).mp (hlow.trans_lt hhigh)
  omega

/-- The last group does not stand behind the places of a decimal. -/
theorem unit_ge (hne : c.groups ≠ []) : -7 ≤ c.unit := by
  by_contra hlt
  have hv := h.whole_mul_eq hne
  obtain ⟨k, hk⟩ : ∃ k, 4 * (-c.unit).toNat = 4 + k + d.scale := by
    have : d.scale ≤ 28 := hd.scale_le
    exact ⟨4 * (-c.unit).toNat - 4 - d.scale, by omega⟩
  rw [Int.toNat_of_nonpos (by omega), Nat.mul_zero, pow_zero, mul_one, hk, pow_add _ (4 + k),
    ← mul_assoc] at hv
  have hw := Nat.eq_of_mul_eq_mul_right (Nat.pow_pos (by norm_num)) hv
  refine h.not_dvd_whole hne ⟨d.mantissa * 10 ^ k, ?_⟩
  rw [hw, pow_add]
  ring

/-- A cell without groups is that of a zero. -/
theorem eq_zero_of_empty (hempty : c.groups = []) : d = ⟨false, 0, c.scale⟩ := by
  obtain ⟨negative, mantissa, scale⟩ := d
  have hv := h.value_eq
  have hs := h.scale_eq
  have hz := hd.unsigned_zero
  rw [hempty, groupsValue, mul_zero, Decimal.value, eq_comm, div_eq_zero_iff] at hv
  simp only at hv hs hz
  have hm : mantissa = 0 := by
    have hpow : (10 : ℚ) ^ scale ≠ 0 := by positivity
    cases negative <;> simpa [hpow] using hv
  subst hm hs
  rw [Bool.eq_false_of_not_eq_true fun hn => hz ⟨hn, rfl⟩]

end IsOf

end NumericCell

/-! ### Writing -/

theorem head?_digits {k : ℕ} (hk : k ≠ 0) : (Nat.digits 10000 k).head? = some (k % 10000) := by
  rw [Nat.digits_def' (by norm_num) (Nat.pos_of_ne_zero hk)]
  rfl

/-- The digits of an integer that does not end in a group of zeros, as a cell. -/
theorem NumericCell.isOf_digits {d : Decimal} {k : ℕ} (hk : ¬ 10000 ∣ k) {unit : ℤ}
    (hv : (k * 10000 ^ unit : ℚ) = d.mantissa / 10 ^ d.scale) :
    IsOf ⟨unit + ((Nat.digits 10000 k).length - 1 : ℕ), d.negative, d.scale,
      (Nat.digits 10000 k).reverse⟩ d := by
  have hk0 : k ≠ 0 := by
    rintro rfl
    exact hk (dvd_zero _)
  have hne : Nat.digits 10000 k ≠ [] := Nat.digits_ne_nil_iff_ne_zero.mpr hk0
  refine ⟨rfl, ?_, ?_, ?_, ?_, fun hempty => absurd (List.reverse_eq_nil_iff.mp hempty) hne⟩
  · rw [groupsValue_groups (by simpa using hne), whole, foldl_reverse_digits, NumericCell.unit,
      List.length_reverse, add_sub_cancel_right, hv, Decimal.value, mul_div_assoc]
  · exact fun g hg => Nat.digits_lt_base (by norm_num) (List.mem_reverse.mp hg)
  · rw [List.head?_reverse, List.getLast?_eq_some_getLast hne, ne_eq, Option.some.injEq]
    exact Nat.getLast_digit_ne_zero 10000 hk0
  · rw [List.getLast?_reverse, head?_digits hk0, ne_eq, Option.some.injEq]
    exact fun h => hk (Nat.dvd_of_mod_eq_zero h)

/-- Every decimal has a cell. -/
theorem NumericCell.exists_isOf (d : Decimal) : ∃ c : NumericCell, c.IsOf d := by
  rcases eq_or_ne d.mantissa 0 with hm | hm
  · refine ⟨⟨0, false, d.scale, []⟩, rfl, ?_, nofun, nofun, nofun, fun _ => ⟨rfl, rfl⟩⟩
    simp [groupsValue, Decimal.value, hm]
  · -- aligned to the point, the decimal has `places` groups behind it
    obtain ⟨places, shift, hplaces⟩ : ∃ places shift, d.scale + shift = 4 * places :=
      ⟨(d.scale + 3) / 4, 4 * ((d.scale + 3) / 4) - d.scale, by omega⟩
    obtain ⟨zeros, k, hk, hn⟩ := Nat.exists_eq_pow_mul_and_not_dvd
      (Nat.mul_ne_zero hm (pow_ne_zero shift (by norm_num : 10 ≠ 0))) 10000 (by norm_num)
    have hcast : (d.mantissa * 10 ^ shift : ℚ) = 10000 ^ zeros * k := by exact_mod_cast hn
    have hpow : (10 : ℚ) ^ d.scale * 10 ^ shift = 10000 ^ places := by
      rw [← pow_add, hplaces, pow_mul]
      norm_num
    have hv : (k * 10000 ^ ((zeros : ℤ) - places) : ℚ) = d.mantissa / 10 ^ d.scale := by
      rw [zpow_sub₀ (by norm_num), zpow_natCast, zpow_natCast, ← hpow]
      field_simp
      linarith
    exact ⟨_, isOf_digits hk hv⟩

/-! ### Reading -/

theorem pairs?_flatMap (ns : List ℤ) :
    pairs? (ns.flatMap (bigEndian 2)) = some (ns.map fun n => (n % 65536).toNat) := by
  induction ns with
  | nil => rfl
  | cons n ns ih =>
    have hn := Text.natOfBytes_bigEndian 2 n
    obtain ⟨a, b, hab⟩ : ∃ a b, bigEndian 2 n = [a, b] := ⟨_, _, rfl⟩
    rw [hab] at hn
    have hpair : natOfBytes [a, b] = (n % 65536).toNat := by
      norm_num at hn
      omega
    rw [List.flatMap_cons, hab, List.cons_append, List.cons_append, List.nil_append, pairs?, ih,
      Option.map_some, hpair, List.map_cons]

/-- A decimal that has the places asked for is brought to them as it is. -/
theorem fitted?_eq {negative : Bool} {n places scale mantissa : ℕ}
    (h : n * 10 ^ scale = mantissa * 10 ^ places) (hm : mantissa < Decimal.capacity)
    (hs : scale ≤ Decimal.maxScale) :
    fitted? negative n places scale = some ⟨negative, mantissa, scale⟩ := by
  have hrescaled : rescaled? negative n places scale = some ⟨negative, mantissa, scale⟩ := by
    rw [rescaled?]
    simp only [Nat.pow_eq]
    split
    · next hle =>
      have hn : n = mantissa * 10 ^ (places - scale) := by
        refine Nat.eq_of_mul_eq_mul_right (Nat.pow_pos (by norm_num) : 0 < 10 ^ scale) ?_
        rw [h, mul_assoc, ← pow_add, Nat.sub_add_cancel hle]
      rw [hn, Number.roundDiv_mul _ _ (Nat.pow_pos (by norm_num)), if_pos hm]
    · next hlt =>
      have hn : n * 10 ^ (scale - places) = mantissa := by
        refine Nat.eq_of_mul_eq_mul_right (Nat.pow_pos (by norm_num) : 0 < 10 ^ places) ?_
        rw [← h, mul_assoc, ← pow_add, Nat.sub_add_cancel (by omega)]
      rw [hn, if_pos hm]
  rw [fitted?, min_eq_left hs, List.range_succ, List.reverse_concat, List.findSome?_cons, hrescaled]

theorem signed16_emod {n : ℤ} (hl : -2 ^ 15 ≤ n) (hh : n < 2 ^ 15) :
    signed16 (n % 65536).toNat = n := by
  simp only [signed16, Nat.pow_eq]
  split <;> omega

namespace NumericCell

variable {c : NumericCell} {d : Decimal}

/-- The numbers of a cell come back from its bytes. -/
theorem IsOf.pairs?_bytes (h : c.IsOf d) (hl : c.groups.length < 65536) (hs : c.scale < 65536) :
    pairs? c.bytes = some (c.groups.length :: (c.weight % 65536).toNat ::
      (if c.negative then 0x4000 else 0) :: c.scale :: c.groups) := by
  have hgroups : (c.groups.map fun (g : ℕ) => (g : ℤ)).map (fun n => (n % 65536).toNat) =
      c.groups := by
    rw [List.map_map]
    refine (List.map_congr_left fun g hg => ?_).trans (List.map_id _)
    have := h.groups_lt g hg
    simp only [Function.comp_apply, id_eq]
    omega
  have hsign : ((if c.negative then 0x4000 else 0 : ℤ) % 65536).toNat =
      if c.negative then 0x4000 else 0 := by
    split <;> rfl
  have hlength : ((c.groups.length : ℤ) % 65536).toNat = c.groups.length := by omega
  have hscale : ((c.scale : ℤ) % 65536).toNat = c.scale := by omega
  simp only [bytes, pairs?_flatMap, numbers, List.map_cons, hgroups, hsign, hlength, hscale]

/-- The cell of a decimal is read as the decimal, but that of a zero as the zero without places. -/
theorem IsOf.decimal?_bytes (h : c.IsOf d) (hd : d.IsProper) :
    decimal? c.bytes = some (if d.mantissa = 0 then ⟨false, 0, 0⟩ else d) := by
  have hscale : c.scale ≤ 28 := h.scale_eq ▸ hd.scale_le
  rcases eq_or_ne c.groups [] with hempty | hne
  · obtain ⟨hw, hn⟩ := h.empty hempty
    have hpairs := h.pairs?_bytes (by simp [hempty]) (by omega)
    rw [hempty, hw, hn] at hpairs
    rw [h.eq_zero_of_empty hd hempty, decimal?, hpairs]
    rfl
  · have hpos := List.length_pos_of_ne_nil hne
    have hfirst := h.weight_le hd hne
    have hlast := h.unit_ge hd hne
    have hunit : c.weight - (c.groups.length - 1 : ℕ) = c.unit := rfl
    have hsigned : signed16 (c.weight % 65536).toNat = c.weight := signed16_emod (by omega) (by omega)
    have hsign : ¬ ((if c.negative then 0x4000 else 0 : ℕ) ≠ 0 ∧
        (if c.negative then 0x4000 else 0 : ℕ) ≠ 0x4000) := by
      split <;> simp
    have hnegative : decide ((if c.negative then 0x4000 else 0 : ℕ) = 0x4000) = c.negative := by
      cases c.negative <;> rfl
    have hbounds : ¬ (weightBound < c.weight ∨ c.unit < -weightBound ∨ Nat.pow 2 15 ≤ c.scale) := by
      simp only [weightBound, Nat.pow_eq]
      omega
    have hmul := h.whole_mul_eq hne
    rw [decimal?, h.pairs?_bytes (by omega) (by omega), if_neg (h.mantissa_ne_zero hne)]
    simp only [Option.bind_eq_bind, Option.bind_some, if_neg hsign, ne_eq, not_true_eq_false,
      if_false, List.isEmpty_eq_false_iff.mpr hne, Bool.false_eq_true, hsigned, hunit,
      if_neg hbounds, hnegative, Nat.pow_eq]
    have hd' : (⟨c.negative, d.mantissa, c.scale⟩ : Decimal) = d := by
      rw [(h.whole_eq hne).1, h.scale_eq]
    rw [← h.scale_eq] at hmul
    split
    · next hu =>
      have hplaces : (4 * c.unit).toNat = 4 * c.unit.toNat := by omega
      rw [Int.toNat_of_nonpos (by omega : -c.unit ≤ 0)] at hmul
      rw [hplaces, ← hd']
      exact fitted?_eq hmul hd.mantissa_lt hscale
    · next hu =>
      have hplaces : (4 * -c.unit).toNat = 4 * (-c.unit).toNat := by omega
      rw [Int.toNat_of_nonpos (by omega : c.unit ≤ 0), Nat.mul_zero, pow_zero, mul_one] at hmul
      rw [hplaces, ← hd']
      exact fitted?_eq hmul hd.mantissa_lt hscale

end NumericCell

end SqlGateway.Server.Postgres
