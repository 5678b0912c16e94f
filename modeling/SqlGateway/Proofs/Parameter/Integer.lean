import SqlGateway.Parameter.Basic
import SqlGateway.Proofs.Number.DecimalText
import SqlGateway.Proofs.Number.LargeDecimal

/-! Integers on their way from a JSON text to a typed parameter.

        literal n ──▶ value ──▶ INT2, INT4, INT8, NUMERIC

        n of 64 bits     an integer          n itself, or out of the range of the type
        beyond           a float near n      out of range of INT2 and INT4; as a NUMERIC the
                                             integer that the float is, so not always n

    What is lost beyond 64 bits is lost while the literal is read, in four roundings at most. The
    decimal adds nothing to that below `2^96`, where its mantissa ends. -/

namespace SqlGateway

open Json (Literal)
open Number (Decimal Double Near fitsSigned)

theorem Number.Decimal.value_make (a : Bool) (k : ℕ) :
    (Decimal.make a k 0).value = (if a then -1 else 1) * k := by
  rw [make, value_whole]
  by_cases hk : k = 0
  · simp [hk]
  · simp [hk]

theorem Number.Decimal.value_ofInt (i : ℤ) : (Decimal.ofInt i).value = i := by
  rw [ofInt, value_make, Nat.cast_natAbs, Int.cast_abs]
  by_cases hi : i < 0
  · rw [decide_eq_true hi, if_pos rfl, abs_of_neg (by exact_mod_cast hi)]
    ring
  · rw [decide_eq_false hi, if_neg Bool.false_ne_true,
      abs_of_nonneg (by exact_mod_cast not_lt.mp hi), one_mul]

/-- Bits of an integer type. -/
def IntegerWidth.bits : IntegerWidth → ℕ
  | .two => 16
  | .four => 32
  | .eight => 64

theorem fits_of_fits_width {width : IntegerWidth} {n : ℤ} (h : fitsSigned width.bits n = true) :
    fitsSigned 64 n = true := by
  rw [Json.fitsSigned_iff] at h ⊢
  cases width <;> simp only [IntegerWidth.bits] at h <;> omega

theorem toInt_ofInt64 {n : ℤ} (h : fitsSigned 64 n = true) : (Int64.ofInt n).toInt = n := by
  rw [Json.fitsSigned_iff] at h
  exact Int64.toInt_ofInt_of_le h.1 h.2

namespace Parameter

/-- The number that a parameter of an integer type or a decimal sends. -/
def number? : Parameter → Option ℚ
  | .int2 i => some i.toInt
  | .int4 i => some i.toInt
  | .int8 i => some i.toInt
  | .numeric d => some d.value
  | _ => none

variable {width : IntegerWidth} {name : String} {i : Int64}

/-! ### Widths -/

/-- The width and the value of a parameter of an integer type. -/
def integer? : Parameter → Option (IntegerWidth × ℤ)
  | .int2 i => some (.two, i.toInt)
  | .int4 i => some (.four, i.toInt)
  | .int8 i => some (.eight, i.toInt)
  | _ => none

theorem number?_of_integer? {p : Parameter} {n : ℤ} (h : p.integer? = some (width, n)) :
    p.number? = some (n : ℚ) := by
  cases p <;> simp_all [integer?, number?]

/-- An integer in the range of a width is held as it is. -/
theorem ofInteger_eq_ok (name : String) (h : fitsSigned width.bits i.toInt = true) :
    ∃ p, ofInteger width name i = .ok p ∧ p.integer? = some (width, i.toInt) := by
  have hi := (Json.fitsSigned_iff _ _).mp h
  cases width with
  | two => exact ⟨_, if_pos h, by rw [integer?, Int16.toInt_ofInt_of_le hi.1 hi.2]⟩
  | four => exact ⟨_, if_pos h, by rw [integer?, Int32.toInt_ofInt_of_le hi.1 hi.2]⟩
  | eight => exact ⟨_, rfl, rfl⟩

theorem ofInteger_fits (name : String) (h : fitsSigned width.bits i.toInt = true) :
    ∃ p, ofInteger width name i = .ok p ∧ p.number? = some (i.toInt : ℚ) := by
  obtain ⟨p, hp, hi⟩ := ofInteger_eq_ok name h
  exact ⟨p, hp, number?_of_integer? hi⟩

theorem ofInteger_out (hw : width ≠ .eight) (h : ¬ fitsSigned width.bits i.toInt = true) :
    ofInteger width name i = .error (outOfRange name (Number.int64Text i)) := by
  cases width with
  | two => exact if_neg h
  | four => exact if_neg h
  | eight => exact absurd rfl hw

/-- A large float that is cut to 64 bits is still larger than the narrow types can hold. -/
theorem saturate_out (hw : width ≠ .eight) {k : ℤ} (hk : 2 ^ 62 ≤ k.natAbs) :
    ¬ fitsSigned width.bits (saturate k).toInt = true := by
  have hcut : (saturate k).toInt = max (-2 ^ 63) (min k (2 ^ 63 - 1)) :=
    Int64.toInt_ofInt_of_le (le_max_left ..)
      (max_lt (by norm_num) ((min_le_right ..).trans_lt (by norm_num)))
  rw [Json.fitsSigned_iff, hcut]
  cases width with
  | two => simp only [IntegerWidth.bits]; omega
  | four => simp only [IntegerWidth.bits]; omega
  | eight => exact absurd rfl hw

/-! ### Values -/

/-- What was more than 64 bits is still large after four roundings. -/
theorem large_of_near {n : ℤ} (h : ¬ fitsSigned 64 n = true) {q : ℚ} (hn : Near 4 |(n : ℚ)| q) :
    2 ^ 62 ≤ q := by
  have hbig : (2 : ℚ) ^ 63 ≤ |(n : ℚ)| := by
    rw [← Int.cast_abs, ← Nat.cast_natAbs]
    exact_mod_cast Json.not_fitsSigned_64 h
  calc (2 : ℚ) ^ 62 ≤ (1 - 1 / 2 ^ 53) ^ 4 * 2 ^ 63 := by norm_num
    _ ≤ (1 - 1 / 2 ^ 53) ^ 4 * |(n : ℚ)| := mul_le_mul_of_nonneg_left hbig (by norm_num)
    _ ≤ q := hn.low

/-- Four roundings change a number by less than one part in `2^50`. -/
theorem abs_sub_le_of_near {q x : ℚ} (hq : 0 ≤ q) (h : Near 4 q x) : |x - q| ≤ q / 2 ^ 50 := by
  have hl : (1 - 1 / 2 ^ 50) * q ≤ (1 - 1 / 2 ^ 53) ^ 4 * q :=
    mul_le_mul_of_nonneg_right (by norm_num) hq
  have hh : (1 + 1 / 2 ^ 53) ^ 4 * q ≤ (1 + 1 / 2 ^ 50) * q :=
    mul_le_mul_of_nonneg_right (by norm_num) hq
  rw [abs_le]
  constructor <;> linarith [h.low, h.high]

theorem coerce_int_integer (h : ParameterType.ofName name = .integer width) (i : Int64) :
    coerce name (.int i) = ofInteger width name i := by
  simp only [coerce, h]

theorem coerce_int_numeric (h : ParameterType.ofName name = .numeric) (i : Int64) :
    coerce name (.int i) = .ok (.numeric (Decimal.ofInt i.toInt)) := by
  simp only [coerce, h]

theorem coerce_float_integer (h : ParameterType.ofName name = .integer width) {x : Double} {k : ℤ}
    (hx : x.toInt? = some k) : coerce name (.float x) = ofInteger width name (saturate k) := by
  simp only [coerce, h, hx]

theorem coerce_float_numeric (h : ParameterType.ofName name = .numeric) (x : Double) :
    coerce name (.float x) = match Decimal.ofDouble? x with
      | some d => .ok (.numeric d)
      | none => .error (outOfRange name x.plainText) := by
  cases hd : Decimal.ofDouble? x <;> simp only [coerce, h, hd]

/-- The zero with a sign is a zero in every type. -/
theorem coerce_negative_zero (h : (∃ width, ParameterType.ofName name = .integer width) ∨
    ParameterType.ofName name = .numeric) :
    ∃ p, coerce name (.float Double.zero.neg) = .ok p ∧ p.number? = some 0 := by
  rcases h with ⟨width, h⟩ | h
  · have hz : Double.zero.neg.toInt? = some 0 := by decide +kernel
    have hs : (saturate 0).toInt = 0 := by decide
    have hfit : fitsSigned width.bits (saturate 0).toInt = true := by
      rw [hs]
      cases width <;> decide
    rw [coerce_float_integer h hz]
    obtain ⟨p, hp, hn⟩ := ofInteger_fits name hfit
    exact ⟨p, hp, by rw [hn, hs, Int.cast_zero]⟩
  · have hz : Decimal.ofDouble? Double.zero.neg = some ⟨true, 0, 0⟩ := by decide
    refine ⟨.numeric ⟨true, 0, 0⟩, ?_, ?_⟩
    · rw [coerce_float_numeric h, hz]
    · simp [number?, Decimal.value]

/-- An integer of 64 bits is itself in every type that has room for it. -/
theorem coerce_fits {l : Literal} {n : ℤ} (h : l.Denotes n) {depth : ℕ} {v : Value}
    (hv : Value.decoder depth (.number l) = .ok v) (h64 : fitsSigned 64 n = true)
    (ht : (∃ width, ParameterType.ofName name = .integer width ∧ fitsSigned width.bits n = true) ∨
      ParameterType.ofName name = .numeric) :
    ∃ p, coerce name v = .ok p ∧ p.number? = some (n : ℚ) := by
  rcases h.decoder hv with ⟨-, rfl | ⟨rfl, rfl⟩⟩ | ⟨hn, -⟩
  · rcases ht with ⟨width, hw, hfit⟩ | hnum
    · rw [coerce_int_integer hw]
      rw [← toInt_ofInt64 h64] at hfit
      obtain ⟨p, hp, hnum⟩ := ofInteger_fits name hfit
      exact ⟨p, hp, by rw [hnum, toInt_ofInt64 h64]⟩
    · refine ⟨_, coerce_int_numeric hnum _, ?_⟩
      rw [number?, Decimal.value_ofInt, toInt_ofInt64 h64]
  · rw [Int.cast_zero]
    exact coerce_negative_zero (ht.imp_left fun ⟨width, hw, _⟩ => ⟨width, hw⟩)
  · exact absurd h64 hn

/-- An integer that is too large for one of the narrow types is refused. -/
theorem coerce_out {l : Literal} {n : ℤ} (h : l.Denotes n) {depth : ℕ} {v : Value}
    (hv : Value.decoder depth (.number l) = .ok v) (ht : ParameterType.ofName name = .integer width)
    (hw : width ≠ .eight) (hn : ¬ fitsSigned width.bits n = true) :
    ∃ text, coerce name v = .error (outOfRange name text) := by
  rcases h.decoder hv with ⟨h64, rfl | ⟨rfl, rfl⟩⟩ | ⟨h64, x, q, rfl, hx, hnear⟩
  · rw [← toInt_ofInt64 h64] at hn
    exact ⟨_, (coerce_int_integer ht _).trans (ofInteger_out hw hn)⟩
  · exact absurd (by cases width <;> decide) hn
  · have hq := large_of_near h64 hnear
    obtain ⟨k, hk, hkq⟩ := Double.toInt?_magnitude hx hq
    have hk62 : 2 ^ 62 ≤ k := by exact_mod_cast hkq.symm ▸ hq
    refine ⟨_, (coerce_float_integer ht hk).trans (ofInteger_out hw (saturate_out hw ?_))⟩
    split <;> omega

/-- What a decimal makes of a float that is the integer `k`: `k` itself within 96 bits, a number six
    short of the first one beyond them, nothing after that. -/
structure WholeDecimal (name : String) (v : Value) (k : ℤ) : Prop where
  within : |k| < 2 ^ 96 → ∃ p, coerce name v = .ok p ∧ p.number? = some (k : ℚ)
  first : |k| = 2 ^ 96 →
    ∃ p, coerce name v = .ok p ∧ p.number? = some ((k - 6 * k.sign : ℤ) : ℚ)
  beyond : 2 ^ 96 < |k| → ∃ text, coerce name v = .error (outOfRange name text)

theorem wholeDecimal (ht : ParameterType.ofName name = .numeric) {x : Double} {a : Bool} {q : ℚ}
    (hx : x.HasMagnitude a q) {k : ℕ} (hk : (k : ℚ) = q) (hq : 2 ^ 62 ≤ q) :
    WholeDecimal name (.float x) ((if a then -1 else 1) * k) := by
  have habs : |((if a then -1 else 1) * k : ℤ)| = k := by cases a <;> simp
  constructor
  · intro h
    rw [habs] at h
    obtain ⟨j, hj, hd⟩ := Decimal.ofDouble?_of_lt hx hq (hk ▸ by exact_mod_cast h)
    obtain rfl : j = k := by exact_mod_cast hj.trans hk.symm
    refine ⟨.numeric ⟨a, j, 0⟩, by rw [coerce_float_numeric ht, hd], ?_⟩
    rw [number?, Decimal.value_whole]
    push_cast
    rfl
  · intro h
    rw [habs] at h
    obtain rfl : k = 2 ^ 96 := by exact_mod_cast h
    have hd := Decimal.ofDouble?_of_eq hx (by rw [← hk]; norm_num)
    refine ⟨.numeric ⟨a, 2 ^ 96 - 6, 0⟩, by rw [coerce_float_numeric ht, hd], ?_⟩
    have hsign : ((if a then -1 else 1) * (2 ^ 96 : ℕ) : ℤ).sign = if a then -1 else 1 := by
      cases a <;> decide
    rw [number?, Decimal.value_whole, hsign]
    cases a <;> norm_num
  · intro h
    rw [habs] at h
    have hd := Decimal.ofDouble?_of_gt hx (hk ▸ by exact_mod_cast h)
    exact ⟨x.plainText, by rw [coerce_float_numeric ht, hd]⟩

/-- An integer of more than 64 bits reaches a decimal by way of a float near it. -/
theorem coerce_numeric_beyond {l : Literal} {n : ℤ} (h : l.Denotes n) {depth : ℕ} {v : Value}
    (hv : Value.decoder depth (.number l) = .ok v) (ht : ParameterType.ofName name = .numeric)
    (hn : ¬ fitsSigned 64 n = true) :
    ∃ (x : Double) (k : ℤ), v = .float x ∧ x.toInt? = some k ∧ 2 ^ 50 * |k - n| ≤ |n| ∧
      WholeDecimal name v k := by
  rcases h.decoder hv with ⟨h64, -⟩ | ⟨-, x, q, rfl, hx, hnear⟩
  · exact absurd h64 hn
  · have hq := large_of_near hn hnear
    obtain ⟨k, hk, hkq⟩ := Double.toInt?_magnitude hx hq
    have habs := abs_sub_le_of_near (abs_nonneg _) (hkq ▸ hnear)
    rw [le_div_iff₀' (by positivity)] at habs
    have hint : 2 ^ 50 * |(k : ℤ) - (|n|)| ≤ |n| := by exact_mod_cast habs
    refine ⟨x, _, rfl, hk, ?_, wholeDecimal ht hx hkq hq⟩
    rcases lt_or_ge n 0 with hneg | hpos
    · rw [abs_of_neg hneg, sub_neg_eq_add] at hint
      rwa [decide_eq_true hneg, if_pos rfl, abs_of_neg hneg, neg_one_mul, ← neg_add', abs_neg]
    · rw [abs_of_nonneg hpos] at hint
      rwa [decide_eq_false (not_lt.mpr hpos), if_neg Bool.false_ne_true, one_mul,
        abs_of_nonneg hpos]

/-- An integer of a JSON text, such as its decimal text, and what reaches a column for it. One of
    64 bits is read, and reaches a column of an integer type as it is if it is in the range of the
    type, and a decimal always. Beyond the range of a narrow type it is refused. Beyond 64 bits it
    is read as a float within one part in `2^50` of it, and reaches a decimal as the integer that
    the float is. -/
theorem coerce_denoted {l : Literal} {n : ℤ} (h : l.Denotes n) (depth : ℕ) (name : String) :
    (Json.Document.ofText (Number.intText n) = ⟨.number (.ofInt n), false⟩ ∧
      (Literal.ofInt n).Denotes n) ∧
    (fitsSigned 64 n = true → ∃ v, Value.decoder depth (.number l) = .ok v) ∧
    ∀ v, Value.decoder depth (.number l) = .ok v →
      (∀ width, ParameterType.ofName name = .integer width →
        (fitsSigned width.bits n = true →
          ∃ p, coerce name v = .ok p ∧ p.number? = some (n : ℚ)) ∧
        (width ≠ .eight → ¬ fitsSigned width.bits n = true →
          ∃ text, coerce name v = .error (outOfRange name text))) ∧
      (ParameterType.ofName name = .numeric →
        (fitsSigned 64 n = true → ∃ p, coerce name v = .ok p ∧ p.number? = some (n : ℚ)) ∧
        (¬ fitsSigned 64 n = true →
          ∃ (x : Double) (k : ℤ), v = .float x ∧ x.toInt? = some k ∧ 2 ^ 50 * |k - n| ≤ |n| ∧
            WholeDecimal name v k)) := by
  refine ⟨⟨Json.ofText_intText n, Json.denotes_ofInt n⟩, fun hfit => h.exists_decoder hfit depth,
    fun v hv => ⟨fun width hw => ⟨fun hfit => ?_, fun hne hout => coerce_out h hv hw hne hout⟩,
    fun ht => ⟨fun hfit => ?_, fun hout => coerce_numeric_beyond h hv ht hout⟩⟩⟩
  · exact coerce_fits h hv (fits_of_fits_width hfit) (Or.inl ⟨width, hw, hfit⟩)
  · exact coerce_fits h hv hfit (Or.inr ht)

/-- Forty thousand is out of range of INT2 and is itself as an INT4 and as a NUMERIC. -/
theorem coerce_denoted_forty_thousand :
    Json.Document.ofText (Number.intText 40000) = ⟨.number (.ofInt 40000), false⟩ ∧
    (Literal.ofInt 40000).Denotes 40000 ∧
    ∃ v, Value.decoder 1 (.number (.ofInt 40000)) = .ok v ∧
      (∃ text, coerce "INT2" v = .error (outOfRange "INT2" text)) ∧
      (∃ p, coerce "int4" v = .ok p ∧ p.number? = some (40000 : ℤ)) ∧
      (∃ p, coerce "NUMERIC" v = .ok p ∧ p.number? = some (40000 : ℤ)) := by
  have hl := Json.denotes_ofInt 40000
  obtain ⟨⟨htext, -⟩, hread, -⟩ := coerce_denoted hl 1 "INT2"
  obtain ⟨v, hv⟩ := hread (by decide)
  refine ⟨htext, hl, v, hv, ?_, ?_, ?_⟩
  · exact (((coerce_denoted hl 1 "INT2").2.2 v hv).1 .two (by decide)).2 (by decide) (by decide)
  · exact (((coerce_denoted hl 1 "int4").2.2 v hv).1 .four (by decide)).1 (by decide)
  · exact (((coerce_denoted hl 1 "NUMERIC").2.2 v hv).2 (by decide)).1 (by decide)

/-- Not every integer reaches a decimal as it is: the largest one of 64 bits without a sign is read
    as the float above it, and a decimal takes the integer that the float is. -/
theorem numeric_of_max_word_ne : ¬ ∀ (l : Literal) (n : ℤ), l.Denotes n →
    ∀ (depth : ℕ) (v : Value), Value.decoder depth (.number l) = .ok v →
    ∀ (name : String) (p : Parameter), (ParameterType.ofName name = .numeric ∨
        ∃ width, ParameterType.ofName name = .integer width) →
      coerce name v = .ok p → p.number? = some (n : ℚ) := by
  intro h
  have hv : Value.decoder 1 (.number (.ofInt 18446744073709551615)) =
      .ok (.float ⟨0x43f0000000000000⟩) := by decide +kernel
  have hp : coerce "NUMERIC" (.float ⟨0x43f0000000000000⟩) =
      .ok (.numeric ⟨false, 18446744073709551616, 0⟩) := by rfl
  have hn := h _ _ (Json.denotes_ofInt 18446744073709551615) 1 _ hv "NUMERIC" _
    (Or.inl (by decide)) hp
  simp only [number?, Decimal.value] at hn
  norm_num at hn

end Parameter

end SqlGateway
