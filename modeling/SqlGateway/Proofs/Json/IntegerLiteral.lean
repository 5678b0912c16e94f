import SqlGateway.Value
import SqlGateway.Proofs.Number.Nearest
import Mathlib.Data.List.TakeWhile

/-! Integers as they stand in a JSON text, without a point and without an exponent, and the values
    that they are read as.

        -2^63 ≤ n < 2^64     the integer itself
        -0                   the float zero with a sign
        beyond               the first 19 or 20 digits as a float, scaled by a power of ten: four
                             roundings away from n, or nothing where that is no float             -/

namespace SqlGateway.Json

open Number (isDigit digitsValue intText natText Double Near)

/-! ### Digits -/

theorem toNat_of_isDigit {c : Char} (h : isDigit c = true) : c.toNat - '0'.toNat ≤ 9 := by
  simp only [isDigit, Bool.and_eq_true, decide_eq_true_eq] at h
  have h9 : c.toNat ≤ '9'.toNat := h.2
  simp at h9 ⊢
  omega

theorem digitsValue_append (start : ℕ) (cs ds : List Char) :
    digitsValue start (cs ++ ds) = digitsValue (digitsValue start cs) ds := List.foldl_append

/-- More digits move a value on by powers of ten. -/
theorem digitsValue_bounds {cs : List Char} (h : ∀ c ∈ cs, isDigit c = true) (start : ℕ) :
    start * 10 ^ cs.length ≤ digitsValue start cs ∧
      digitsValue start cs < (start + 1) * 10 ^ cs.length := by
  induction cs generalizing start with
  | nil => simp [digitsValue]
  | cons c cs ih =>
    have hc := toNat_of_isDigit (h c (List.mem_cons_self ..))
    obtain ⟨hl, hh⟩ := ih (fun d hd => h d (List.mem_cons_of_mem c hd))
      (10 * start + (c.toNat - '0'.toNat))
    have hstep : digitsValue start (c :: cs) =
        digitsValue (10 * start + (c.toNat - '0'.toNat)) cs := rfl
    rw [hstep, List.length_cons, pow_succ]
    constructor
    · refine le_trans ?_ hl
      calc start * (10 ^ cs.length * 10) = 10 * start * 10 ^ cs.length := by ring
        _ ≤ _ := Nat.mul_le_mul_right _ (Nat.le_add_right _ _)
    · refine lt_of_lt_of_le hh ?_
      calc (10 * start + (c.toNat - '0'.toNat) + 1) * 10 ^ cs.length
          ≤ (10 * start + 10) * 10 ^ cs.length := Nat.mul_le_mul_right _ (by omega)
        _ = (start + 1) * (10 ^ cs.length * 10) := by ring

theorem wordCapacity_eq : wordCapacity = 2 ^ 64 := rfl

/-- Digits are taken to the end, or until one more would not fit 64 bits. -/
theorem takeDigits_spec {cs : List Char} (h : ∀ c ∈ cs, isDigit c = true) {start : ℕ}
    (hs : start < 2 ^ 64) (taken : ℕ) : ∃ front back, cs = front ++ back ∧
      takeDigits start taken cs = (digitsValue start front, taken + front.length) ∧
      digitsValue start front < 2 ^ 64 ∧
      (back = [] ∨ 2 ^ 64 ≤ 10 * digitsValue start front + 9 ∧ 2 ^ 64 ≤ digitsValue start cs) := by
  induction cs generalizing start taken with
  | nil => exact ⟨[], [], rfl, rfl, hs, Or.inl rfl⟩
  | cons c cs ih =>
    have hc := toNat_of_isDigit (h c (List.mem_cons_self ..))
    have hcs := fun d hd => h d (List.mem_cons_of_mem c hd)
    by_cases hn : 10 * start + (c.toNat - '0'.toNat) < 2 ^ 64
    · obtain ⟨front, back, rfl, ht, hf, hb⟩ := ih hcs hn (taken + 1)
      refine ⟨c :: front, back, rfl, ?_, hf, hb⟩
      rw [takeDigits, wordCapacity_eq, if_pos hn, ht, List.length_cons, Nat.add_assoc,
        Nat.add_comm 1]
      rfl
    · refine ⟨[], c :: cs, rfl, ?_, hs, Or.inr ⟨?_, ?_⟩⟩
      · rw [takeDigits, wordCapacity_eq, if_neg hn]
        rfl
      · show 2 ^ 64 ≤ 10 * start + 9
        omega
      · have hle := (digitsValue_bounds hcs (10 * start + (c.toNat - '0'.toNat))).1
        exact (not_lt.mp hn).trans ((Nat.le_mul_of_pos_right _ (by positivity)).trans hle)

/-! ### Scaling -/

theorem ofDecimal_one {k : ℕ} (hk : k ≤ 308) :
    Double.ofDecimal false 1 k = Double.ofRatio false (10 ^ k) 1 := by
  have hone : Number.digitCount 1 = 1 := by decide
  have h : Number.doubleFormat.ofDecimal false 1 k =
      Number.doubleFormat.ofRatio false (10 ^ k) 1 := by
    simp only [Number.Format.ofDecimal, hone]
    rw [if_neg (by omega), if_neg (by omega), if_pos (by omega), Int.toNat_natCast, one_mul]
    rfl
  rw [Double.ofDecimal, h]
  rfl

/-- Two roundings for a power of ten and the product with it. -/
theorem scaleByTen_magnitude {x y : Double} {q : ℚ} (hx : x.HasMagnitude false q) (hq : 2 ≤ q)
    {k fuel : ℕ} (h : scaleByTen x k (fuel + 1) = some y) :
    ∃ t, y.HasMagnitude false t ∧ Near 2 (q * 10 ^ k) t := by
  have hk0 : 0 ≤ (k : ℤ) := Int.natCast_nonneg k
  rw [scaleByTen, Int.natAbs_natCast, if_pos hk0] at h
  split at h
  · next hk =>
    rw [ofDecimal_one hk] at h
    simp only at h
    split at h
    · next hf =>
      obtain rfl := Option.some.inj h
      obtain ⟨r, hr, hn⟩ := Double.ofRatio_magnitude Nat.one_pos
        (Nat.one_le_pow k 10 (by norm_num)) false (Double.isFinite_of_mul hf).2
      rw [Nat.cast_pow, Nat.cast_ofNat, Nat.cast_one, div_one] at hn
      have hr1 : 1 - 1 / 2 ^ 53 ≤ r := by
        have hten : (1 : ℚ) ≤ 10 ^ k := one_le_pow₀ (by norm_num)
        have := hn.low
        rw [pow_one] at this
        nlinarith
      obtain ⟨t, ht, hnt⟩ := Double.mul_magnitude hx hr (by nlinarith) hf
      refine ⟨t, ht, ?_⟩
      have hprod := (Near.refl q).mul hn (by linarith) (by positivity)
      exact hprod.trans hnt
    · nomatch h
  · split at h
    · next hbits =>
      obtain ⟨m, e, hr, hm, -⟩ := hx
      have hz : x.read = .finite false 0 (-1074) := by rw [Double.read, hbits]; decide
      have := (Number.Reading.finite.inj (hr.symm.trans hz)).2.1
      omega
    · nomatch h

/-- Dropping digits beyond the first 19 changes a number by less than one rounding. -/
theorem near_of_dropped {sig whole k : ℕ} (hs : 2 ^ 60 ≤ sig) (hl : sig * 10 ^ k ≤ whole)
    (hh : whole < (sig + 1) * 10 ^ k) : Near 1 whole (sig * 10 ^ k : ℕ) := by
  refine Near.of_abs_le ?_
  have hl' : ((sig * 10 ^ k : ℕ) : ℚ) ≤ whole := by exact_mod_cast hl
  have hh' : (whole : ℚ) < (sig * 10 ^ k : ℕ) + 10 ^ k := by
    exact_mod_cast (by linarith : whole < sig * 10 ^ k + 10 ^ k)
  have hunit : (10 : ℚ) ^ k * 2 ^ 60 ≤ whole := by
    exact_mod_cast (by
      calc 10 ^ k * 2 ^ 60 ≤ 10 ^ k * sig := Nat.mul_le_mul_left _ hs
        _ = sig * 10 ^ k := Nat.mul_comm ..
        _ ≤ whole := hl)
  rw [abs_sub_comm, abs_of_nonneg (by linarith), le_div_iff₀ (by positivity)]
  linarith

/-- The digits that were taken, as a float scaled for those that were dropped. -/
theorem scaled_near {sig whole k : ℕ} (hs : 2 ^ 60 ≤ sig) (hcap : sig < 2 ^ 64)
    (hl : sig * 10 ^ k ≤ whole) (hh : whole < (sig + 1) * 10 ^ k) {x : Double}
    (hx : scaleByTen (.ofInt sig) k 8 = some x) :
    ∃ q, x.HasMagnitude false q ∧ Near 4 whole q := by
  obtain ⟨q, hq, hn⟩ := Double.ofInt_magnitude (by omega : (sig : ℤ) ≠ 0) (by simpa using hcap)
  rw [decide_eq_false (by omega : ¬ (sig : ℤ) < 0)] at hq
  rw [Int.cast_natCast, Nat.abs_cast] at hn
  have hq2 : 2 ≤ q := by
    have hsig : (2 : ℚ) ^ 60 ≤ sig := by exact_mod_cast hs
    have hlow := hn.low
    rw [pow_one] at hlow
    linarith
  obtain ⟨t, ht, hnt⟩ := scaleByTen_magnitude hq hq2 hx
  have hprod := hn.mul (Near.refl ((10 : ℚ) ^ k)) (by positivity) (by positivity)
  have hcut := near_of_dropped hs hl hh
  rw [Nat.cast_mul, Nat.cast_pow, Nat.cast_ofNat] at hcut
  exact ⟨t, ht, (hcut.trans hprod).trans hnt⟩

/-! ### Literals -/

/-- The literal, as a text has it, is the integer: digits and perhaps a sign. -/
structure Literal.Denotes (l : Literal) (n : ℤ) : Prop where
  isRead : ∃ cs rest, readNumber? cs = some (l, rest)
  hasFraction : l.hasFraction = false
  exponent : l.exponent = none
  value : n = if l.negative then -(digitsValue 0 l.whole : ℤ) else digitsValue 0 l.whole

/-- What stands in a literal that was read. -/
theorem readNumber?_spec {cs rest : List Char} {l : Literal}
    (h : readNumber? cs = some (l, rest)) :
    (∀ c ∈ l.whole, isDigit c = true) ∧ (l.hasFraction = false → l.fraction = []) := by
  have hdigits (body : List Char) : ∀ c ∈ body.takeWhile isDigit, isDigit c = true := fun c hc =>
    List.all_eq_true.mp List.all_takeWhile c hc
  unfold readNumber? at h
  -- with a sign or without one, the rest is read in the same way
  split at h
  all_goals
    simp only at h
    split at h
    · nomatch h
    · split at h
      · split at h
        · nomatch h
        · obtain ⟨⟨e, tail⟩, -, h⟩ := Option.map_eq_some_iff.mp h
          obtain ⟨rfl, -⟩ := Prod.mk.inj h
          exact ⟨hdigits _, nofun⟩
      · obtain ⟨⟨e, tail⟩, -, h⟩ := Option.map_eq_some_iff.mp h
        obtain ⟨rfl, -⟩ := Prod.mk.inj h
        exact ⟨hdigits _, fun _ => rfl⟩

/-- Digits of an integer, cut where 64 bits are full: the number that the first ones are, and how
    many were dropped. -/
structure Cut (digits : List Char) (sig dropped : ℕ) : Prop where
  capacity : sig < 2 ^ 64
  low : sig * 10 ^ dropped ≤ digitsValue 0 digits
  high : digitsValue 0 digits < (sig + 1) * 10 ^ dropped
  full : dropped = 0 ∨ 2 ^ 64 ≤ 10 * sig + 9 ∧ 2 ^ 64 ≤ digitsValue 0 digits

namespace Cut

variable {digits : List Char} {sig dropped : ℕ}

theorem eq_of_none_dropped (h : Cut digits sig 0) : digitsValue 0 digits = sig := by
  have hl := h.low
  have hh := h.high
  rw [pow_zero, mul_one] at hl hh
  omega

/-- What is not read as an integer is zero with a sign, or out of the range of 64 bits. -/
theorem large (h : Cut digits sig dropped) {negative : Bool}
    (hint : ¬ (dropped = 0 ∧ (negative = true → 0 < sig ∧ sig ≤ 2 ^ 63)))
    (hzero : ¬ (dropped = 0 ∧ sig = 0)) : 2 ^ 60 ≤ sig ∧
      (negative = true ∧ 2 ^ 63 < digitsValue 0 digits ∨ 2 ^ 64 ≤ digitsValue 0 digits) := by
  rcases h.full with rfl | ⟨hs, hd⟩
  · have hpos : 0 < sig := Nat.pos_of_ne_zero fun h0 => hzero ⟨rfl, h0⟩
    have hneg : negative = true ∧ 2 ^ 63 < sig := by
      by_contra hsmall
      refine hint ⟨rfl, fun hn => ⟨hpos, ?_⟩⟩
      by_contra hlt
      exact hsmall ⟨hn, by omega⟩
    rw [h.eq_of_none_dropped]
    exact ⟨by omega, Or.inl hneg⟩
  · exact ⟨by omega, Or.inr hd⟩

end Cut

/-- The value of an integer is the integer where nothing is dropped and the sign fits, and a scaled
    float elsewhere. -/
theorem Literal.Denotes.exists_cut {l : Literal} {n : ℤ} (h : l.Denotes n) :
    ∃ sig dropped, Cut l.whole sig dropped ∧ l.value? =
      if dropped = 0 ∧ (l.negative = true → 0 < sig ∧ sig ≤ 2 ^ 63) then
        some (.int (if l.negative then -(sig : ℤ) else sig))
      else (scaleByTen (.ofInt sig) dropped 8).map fun x =>
        .float (if l.negative then x.neg else x) := by
  obtain ⟨⟨cs, rest, hread⟩, hf, he, -⟩ := h
  obtain ⟨hdigits, hfraction⟩ := readNumber?_spec hread
  obtain ⟨front, back, hw, ht, hcap, hback⟩ :=
    takeDigits_spec hdigits (by norm_num : 0 < 2 ^ 64) 0
  rw [Nat.zero_add] at ht
  obtain ⟨hl, hh⟩ := digitsValue_bounds
    (fun c hc => hdigits c (hw ▸ List.mem_append_right front hc)) (digitsValue 0 front)
  rw [← digitsValue_append, ← hw] at hl hh
  refine ⟨_, back.length, ⟨hcap, hl, hh, hback.imp_left List.length_eq_zero_iff.mpr⟩, ?_⟩
  have hlength : l.whole.length - front.length = back.length := by
    rw [hw, List.length_append, Nat.add_sub_cancel_left]
  have hnone : (none : Option (Bool × List Char)).isNone = true := rfl
  have hexponent : ¬ Nat.pow 2 31 ≤ Int.natAbs 0 := by decide
  rw [value?, ht, hf, hfraction hf, he]
  simp only [takeDigits, hlength, hnone, Bool.not_false, true_and, Nat.pow_eq, Int.natCast_zero,
    sub_zero, add_zero]
  rw [if_neg hexponent]
  cases l.negative <;> simp

theorem magnitude_of_sign {x : Double} {q : ℚ} (hx : x.HasMagnitude false q) {k : ℕ} (hk : 0 < k)
    (negative : Bool) : (if negative then x.neg else x).HasMagnitude
      ((if negative then -(k : ℤ) else k) < 0) q := by
  cases negative with
  | false => rwa [decide_eq_false (by simp)]
  | true =>
    rw [decide_eq_true (by simpa using hk)]
    exact Double.neg_magnitude hx

theorem abs_of_sign (negative : Bool) (k : ℕ) :
    |((if negative then -(k : ℤ) else k : ℤ) : ℚ)| = k := by
  cases negative <;> simp

/-- A literal of an integer is read as the integer if it fits 64 bits, with or without sign. The
    zero with a sign is a float, and what does not fit is near a float, if it has a value. -/
theorem Literal.Denotes.value? {l : Literal} {n : ℤ} (h : l.Denotes n) :
    (l.value? = some (.int n) ∧ -2 ^ 63 ≤ n ∧ n < 2 ^ 64) ∨
    (l.value? = some (.float Double.zero.neg) ∧ n = 0) ∨
    ((n < -2 ^ 63 ∨ 2 ^ 64 ≤ n) ∧ ∀ v, l.value? = some v →
      ∃ x q, v = .float x ∧ x.HasMagnitude (n < 0) q ∧ Near 4 |(n : ℚ)| q) := by
  obtain ⟨sig, dropped, hcut, hval⟩ := h.exists_cut
  obtain rfl := h.value
  rw [hval]
  split
  · next hint =>
    obtain ⟨rfl, hsign⟩ := hint
    have hcap := hcut.capacity
    rw [hcut.eq_of_none_dropped]
    left
    refine ⟨rfl, ?_⟩
    split
    · next hneg =>
      have := hsign hneg
      omega
    · omega
  · next hint =>
    right
    by_cases hzero : dropped = 0 ∧ sig = 0
    · obtain ⟨rfl, rfl⟩ := hzero
      have hneg : l.negative = true := by
        by_contra hpos
        exact hint ⟨rfl, fun h => absurd h hpos⟩
      have hscale : scaleByTen (.ofInt (0 : ℕ)) ((0 : ℕ) : ℤ) 8 = some Double.zero := by decide
      rw [hscale, hneg, hcut.eq_of_none_dropped]
      exact Or.inl ⟨rfl, rfl⟩
    · obtain ⟨hsig, hout⟩ := hcut.large hint hzero
      refine Or.inr ⟨?_, fun v hv => ?_⟩
      · rcases hout with ⟨hneg, hlt⟩ | hle
        · rw [hneg, if_pos rfl]
          omega
        · split <;> omega
      · obtain ⟨x, hx, rfl⟩ := Option.map_eq_some_iff.mp hv
        obtain ⟨q, hq, hn⟩ := scaled_near hsig hcut.capacity hcut.low hcut.high hx
        refine ⟨_, q, rfl, magnitude_of_sign hq ?_ l.negative, ?_⟩
        · rcases hout with ⟨-, hlt⟩ | hle <;> omega
        · rwa [abs_of_sign]

/-! ### The text of an integer -/

theorem isDigit_of_mem_toDigits {n : ℕ} {c : Char} (h : c ∈ Nat.toDigits 10 n) :
    isDigit c = true := by
  have := Nat.isDigit_of_mem_toDigits (by norm_num) le_rfl h
  simpa [Char.isDigit, isDigit, Char.le_def] using this

theorem digitsValue_toDigits (n : ℕ) : digitsValue 0 (Nat.toDigits 10 n) = n :=
  Nat.ofDigitChars_ten_toDigits

/-- Only the text of zero begins with a zero. -/
theorem no_leading_zero (n : ℕ) :
    ((Nat.toDigits 10 n).head? == some '0' && 1 < (Nat.toDigits 10 n).length) = false := by
  have hv := digitsValue_toDigits n
  have hd : ∀ c ∈ Nat.toDigits 10 n, isDigit c = true := fun c hc => isDigit_of_mem_toDigits hc
  have hlen := fun k (hk : 0 < k) =>
    Nat.length_toDigits_le_iff (b := 10) (n := n) (by norm_num) hk
  generalize Nat.toDigits 10 n = ds at hv hd hlen ⊢
  rw [Bool.eq_false_iff]
  intro h
  simp only [Bool.and_eq_true, beq_iff_eq, decide_eq_true_eq] at h
  obtain ⟨rest, rfl⟩ := List.head?_eq_some_iff.mp h.1
  rw [List.length_cons] at h hlen
  have hlt : n < 10 ^ rest.length := by
    have := (digitsValue_bounds (fun c hc => hd c (List.mem_cons_of_mem _ hc)) 0).2
    rw [zero_add, one_mul] at this
    exact hv ▸ this
  have := (hlen rest.length (by omega)).mpr hlt
  omega

/-- The literal of an integer. -/
def Literal.ofInt (n : ℤ) : Literal := ⟨n < 0, Nat.toDigits 10 n.natAbs, [], false, none⟩

theorem intText_toList (n : ℤ) : (intText n).toList =
    if n < 0 then '-' :: Nat.toDigits 10 n.natAbs else Nat.toDigits 10 n.natAbs := by
  rw [intText]
  split <;> simp [natText]

theorem readNumber?_intText (n : ℤ) :
    readNumber? (intText n).toList = some (Literal.ofInt n, []) := by
  have hd : ∀ c ∈ Nat.toDigits 10 n.natAbs, isDigit c = true :=
    fun c hc => isDigit_of_mem_toDigits hc
  have hne : Nat.toDigits 10 n.natAbs ≠ [] := Nat.toDigits_ne_nil
  have hlead := no_leading_zero n.natAbs
  rw [intText_toList, Literal.ofInt]
  generalize Nat.toDigits 10 n.natAbs = ds at *
  have htake : ds.takeWhile isDigit = ds := List.takeWhile_eq_self_iff.mpr hd
  have hdrop : ds.dropWhile isDigit = [] := List.dropWhile_eq_nil_iff.mpr hd
  have hwhole : (ds.isEmpty || (ds.head? == some '0' && 1 < ds.length)) = false := by
    rw [hlead, List.isEmpty_eq_false_iff.mpr hne]
    rfl
  by_cases hn : n < 0
  · rw [if_pos hn, decide_eq_true hn]
    simp only [readNumber?, htake, hdrop, hwhole, Bool.false_eq_true, if_false, readExponent?,
      Option.map_some]
  · obtain ⟨c, cs, rfl⟩ := List.exists_cons_of_ne_nil hne
    have hc : c ≠ '-' := by
      rintro rfl
      exact absurd (hd '-' (List.mem_cons_self ..)) (by decide)
    rw [if_neg hn, decide_eq_false hn]
    unfold readNumber?
    split
    next heq =>
    split at heq
    · next hminus => exact absurd (List.cons.inj hminus).1 hc
    · obtain ⟨rfl, rfl⟩ := Prod.mk.inj heq
      simp only [htake, hdrop, hwhole, Bool.false_eq_true, if_false, readExponent?,
        Option.map_some]

/-- A character that begins a number is no blank and begins nothing else. -/
theorem readValue_number {c : Char} {rest more : List Char} {l : Literal}
    (hc : c = '-' ∨ isDigit c = true) (h : readNumber? (c :: rest) = some (l, more)) (fuel : ℕ) :
    readValue (fuel + 1) (c :: rest) = (.number l, some more) := by
  have hother (d : Char) (hd : d ≠ '-' ∧ isDigit d = false) : c ≠ d := by
    rintro rfl
    rcases hc with hc | hc
    · exact hd.1 hc
    · exact Bool.false_ne_true (hd.2.symm.trans hc)
  have hspace : isSpace c = false := by
    simp [isSpace, hother _ (by decide : ' ' ≠ '-' ∧ isDigit ' ' = false),
      hother _ (by decide : '\n' ≠ '-' ∧ isDigit '\n' = false),
      hother _ (by decide : '\t' ≠ '-' ∧ isDigit '\t' = false),
      hother _ (by decide : '\r' ≠ '-' ∧ isDigit '\r' = false)]
  have hskip : skipSpace (c :: rest) = c :: rest := by simp [skipSpace, hspace]
  rw [readValue, hskip]
  split
  · next hnil => nomatch hnil
  all_goals
    next heq =>
    obtain ⟨rfl, rfl⟩ := List.cons.inj heq
    first
    | exact absurd rfl (hother _ (by decide))
    | rw [h]

/-- The text of an integer is a literal that denotes it. -/
theorem ofText_intText (n : ℤ) : Document.ofText (intText n) = ⟨.number (.ofInt n), false⟩ := by
  have hread := readNumber?_intText n
  have hfirst : ∃ c rest, (intText n).toList = c :: rest ∧ (c = '-' ∨ isDigit c = true) := by
    rw [intText_toList]
    split
    · exact ⟨_, _, rfl, Or.inl rfl⟩
    · have hne : Nat.toDigits 10 n.natAbs ≠ [] := Nat.toDigits_ne_nil
      obtain ⟨c, cs, h⟩ := List.exists_cons_of_ne_nil hne
      exact ⟨c, cs, h, Or.inr (isDigit_of_mem_toDigits (h ▸ List.mem_cons_self ..))⟩
  obtain ⟨c, rest, hcs, hc⟩ := hfirst
  rw [hcs] at hread
  rw [Document.ofText]
  simp only [hcs, readValue_number hc hread]
  rfl

theorem denotes_ofInt (n : ℤ) : (Literal.ofInt n).Denotes n where
  isRead := ⟨_, _, readNumber?_intText n⟩
  hasFraction := rfl
  exponent := rfl
  value := by
    simp only [Literal.ofInt, digitsValue_toDigits, decide_eq_true_eq]
    split <;> omega

/-! ### Values -/

theorem decoder_number (depth : ℕ) (l : Literal) : Value.decoder depth (.number l) =
    match l.value? with
    | some (.int i) => .ok (if Number.fitsSigned 64 i then .int (Int64.ofInt i)
        else .float (Double.ofInt i))
    | some (.float x) => .ok (.float x)
    | none => .error .malformed := by
  rw [Value.decoder, Decoder.filterMap, value]
  rcases l.value? with _ | ⟨i | x⟩ <;> rfl

theorem fitsSigned_iff (bits : ℕ) (i : ℤ) :
    Number.fitsSigned bits i = true ↔ -2 ^ (bits - 1) ≤ i ∧ i < 2 ^ (bits - 1) := by
  simp [Number.fitsSigned]

theorem not_fitsSigned_64 {i : ℤ} (h : ¬ Number.fitsSigned 64 i = true) :
    2 ^ 63 ≤ i.natAbs := by
  rw [fitsSigned_iff] at h
  omega

/-- What an integer is read as: itself if it fits 64 bits with a sign, else a float near it. The
    zero with a sign is a float. -/
theorem Literal.Denotes.decoder {l : Literal} {n : ℤ} (h : l.Denotes n) {depth : ℕ} {v : Value}
    (hv : Value.decoder depth (.number l) = .ok v) :
    (Number.fitsSigned 64 n = true ∧
      (v = .int (Int64.ofInt n) ∨ v = .float Double.zero.neg ∧ n = 0)) ∨
    (¬ Number.fitsSigned 64 n = true ∧
      ∃ x q, v = .float x ∧ x.HasMagnitude (n < 0) q ∧ Near 4 |(n : ℚ)| q) := by
  rw [decoder_number] at hv
  rcases h.value? with ⟨hval, hl, hh⟩ | ⟨hval, rfl⟩ | ⟨hout, hval⟩
  · rw [hval] at hv
    obtain rfl := Except.ok.inj hv
    cases hfit : Number.fitsSigned 64 n with
    | true => exact Or.inl ⟨rfl, Or.inl rfl⟩
    | false =>
      have hbig := not_fitsSigned_64 (Bool.eq_false_iff.mp hfit)
      obtain ⟨q, hq, hn⟩ := Double.ofInt_magnitude (by omega : n ≠ 0) (by omega)
      exact Or.inr ⟨Bool.false_ne_true, _, q, rfl, hq, hn.mono (by norm_num) (abs_nonneg _)⟩
  · rw [hval] at hv
    obtain rfl := Except.ok.inj hv
    exact Or.inl ⟨by decide, Or.inr ⟨rfl, rfl⟩⟩
  · have hfit : ¬ Number.fitsSigned 64 n = true := by
      rw [fitsSigned_iff]
      omega
    cases hnum : l.value? with
    | none =>
      rw [hnum] at hv
      nomatch hv
    | some num =>
      obtain ⟨x, q, rfl, hq, hn⟩ := hval num hnum
      rw [hnum] at hv
      obtain rfl := Except.ok.inj hv
      exact Or.inr ⟨hfit, x, q, rfl, hq, hn⟩

/-- An integer of 64 bits is always read. -/
theorem Literal.Denotes.exists_decoder {l : Literal} {n : ℤ} (h : l.Denotes n)
    (hfit : Number.fitsSigned 64 n = true) (depth : ℕ) :
    ∃ v, Value.decoder depth (.number l) = .ok v := by
  rw [decoder_number]
  rcases h.value? with ⟨hval, -⟩ | ⟨hval, -⟩ | ⟨hout, -⟩
  · exact ⟨_, by rw [hval]⟩
  · exact ⟨_, by rw [hval]⟩
  · rw [fitsSigned_iff] at hfit
    omega

end SqlGateway.Json
