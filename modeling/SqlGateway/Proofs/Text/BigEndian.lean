import SqlGateway.Text.Bytes
import Mathlib.Data.List.Induction
import Mathlib.Tactic.NormNum
import Mathlib.Tactic.Positivity
import Mathlib.Tactic.Ring
import Mathlib.Tactic.Zify

/-! Big-endian numbers. A number of `w` bytes is known modulo `256 ^ w`; read without sign it is the
    remainder, read in two's complement the number itself if it is in the range of the bytes.

        -1  ──bigEndian 2──▶  ff ff  ──intOfBytes──▶  -1                                          -/

namespace SqlGateway.Text

@[simp] theorem length_bigEndian (w : ℕ) (n : ℤ) : (bigEndian w n).length = w := by
  induction w generalizing n with
  | zero => rfl
  | succ w ih => rw [bigEndian, List.length_append, ih, List.length_singleton]

theorem natOfBytes_concat (bytes : List UInt8) (b : UInt8) :
    natOfBytes (bytes ++ [b]) = 256 * natOfBytes bytes + b.toNat := by
  rw [natOfBytes, List.foldl_append]
  rfl

theorem natOfBytes_lt (bytes : List UInt8) : natOfBytes bytes < 256 ^ bytes.length := by
  induction bytes using List.reverseRecOn with
  | nil => exact Nat.one_pos
  | append_singleton bytes b ih =>
    have hb : b.toNat < 256 := b.toNat_lt
    rw [natOfBytes_concat, List.length_append, List.length_singleton, pow_succ]
    omega

theorem natOfBytes_bigEndian (w : ℕ) (n : ℤ) :
    (natOfBytes (bigEndian w n) : ℤ) = n % 256 ^ w := by
  induction w generalizing n with
  | zero => rw [pow_zero, Int.emod_one]; rfl
  | succ w ih =>
    have hlow : ((n % 256).toNat.toUInt8.toNat : ℤ) = n % 256 := by
      rw [Nat.toUInt8, UInt8.toNat_ofNat']
      omega
    have hdiv : n / (256 * 256 ^ w) = n / 256 / 256 ^ w :=
      (Int.ediv_ediv_of_nonneg (by norm_num)).symm
    rw [bigEndian, natOfBytes_concat, Nat.cast_add, Nat.cast_mul, ih, hlow, pow_succ',
      Int.emod_def n (256 * 256 ^ w), Int.emod_def (n / 256), Int.emod_def n 256, hdiv]
    push_cast
    ring

theorem natOfBytes_bigEndian_of_lt {w n : ℕ} (h : n < 256 ^ w) :
    natOfBytes (bigEndian w n) = n := by
  have hn := natOfBytes_bigEndian w n
  rw [Int.emod_eq_of_lt (Int.natCast_nonneg n) (by exact_mod_cast h)] at hn
  exact_mod_cast hn

theorem bigEndian_natOfBytes (bytes : List UInt8) :
    bigEndian bytes.length (natOfBytes bytes) = bytes := by
  induction bytes using List.reverseRecOn with
  | nil => rfl
  | append_singleton bytes b ih =>
    have hb : b.toNat < 256 := b.toNat_lt
    have hdiv : ((256 * natOfBytes bytes + b.toNat : ℕ) : ℤ) / 256 = natOfBytes bytes := by omega
    have hmod : (((256 * natOfBytes bytes + b.toNat : ℕ) : ℤ) % 256).toNat = b.toNat := by omega
    rw [natOfBytes_concat, List.length_append, List.length_singleton, bigEndian, hdiv, hmod, ih,
      Nat.toUInt8, UInt8.ofNat_toNat]

theorem bigEndian_emod (w : ℕ) (n : ℤ) : bigEndian w (n % 256 ^ w) = bigEndian w n := by
  have h := bigEndian_natOfBytes (bigEndian w n)
  rwa [length_bigEndian, natOfBytes_bigEndian] at h

/-- A number in the range of its bytes is read back with its sign. -/
theorem intOfBytes_bigEndian {w : ℕ} {n : ℤ} (hl : -256 ^ w ≤ 2 * n) (hh : 2 * n < 256 ^ w) :
    intOfBytes (bigEndian w n) = n := by
  have hcast := natOfBytes_bigEndian w n
  have hpos : (0 : ℤ) < 256 ^ w := by positivity
  simp only [intOfBytes, length_bigEndian, Nat.pow_eq]
  rcases lt_or_ge n 0 with hn | hn
  · have hmod : n % 256 ^ w = n + 256 ^ w := by
      rw [← Int.add_emod_right, Int.emod_eq_of_lt (by omega) (by omega)]
    rw [hmod] at hcast
    rw [if_neg (by zify; omega), Nat.cast_pow, Nat.cast_ofNat]
    omega
  · rw [Int.emod_eq_of_lt hn (by omega)] at hcast
    rw [if_pos (by zify; omega), hcast]

/-- Bytes are those of the number that they are read as. -/
theorem bigEndian_intOfBytes (bytes : List UInt8) :
    bigEndian bytes.length (intOfBytes bytes) = bytes := by
  have hmod : intOfBytes bytes % 256 ^ bytes.length = natOfBytes bytes := by
    have hlt : (natOfBytes bytes : ℤ) < 256 ^ bytes.length := by
      exact_mod_cast natOfBytes_lt bytes
    simp only [intOfBytes, Nat.pow_eq]
    split
    · exact Int.emod_eq_of_lt (Int.natCast_nonneg _) hlt
    · rw [Nat.cast_pow, Nat.cast_ofNat, Int.sub_emod_right,
        Int.emod_eq_of_lt (Int.natCast_nonneg _) hlt]
  rw [← bigEndian_emod, hmod, bigEndian_natOfBytes]

end SqlGateway.Text
