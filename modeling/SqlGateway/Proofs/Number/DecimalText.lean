import SqlGateway.Number.Decimal
import SqlGateway.Proofs.Number.Padded

/-! The text of a decimal is read back to the decimal, its places included. Reading goes through the
    digits before the point, the point, and the digits after it, and takes all of them: no mantissa
    on the way exceeds the whole one, and the places do not run out before the last digit.

        -0.050   ▶   -   0   .   050   ▶   50 / 10^3, negative

    A negative zero is left out, as reading gives no sign to a zero. -/

namespace SqlGateway.Number.Decimal

/-- The number that a decimal is. -/
def value (d : Decimal) : ℚ := (if d.negative then -1 else 1) * d.mantissa / 10 ^ d.scale

theorem value_whole (negative : Bool) (k : ℕ) :
    (⟨negative, k, 0⟩ : Decimal).value = (if negative then -1 else 1) * k := by
  rw [value, pow_zero, div_one]

/-- A decimal that can be written and read: it fits, and a zero has no sign. -/
structure IsProper (d : Decimal) : Prop where
  mantissa_lt : d.mantissa < capacity
  scale_le : d.scale ≤ maxScale
  unsigned_zero : ¬ (d.negative = true ∧ d.mantissa = 0)

theorem IsProper.make_eq {d : Decimal} (h : d.IsProper) :
    make d.negative d.mantissa d.scale = d := by
  obtain ⟨negative, mantissa, scale⟩ := d
  have hz := h.unsigned_zero
  cases negative <;> simp_all [make]

/-! ### Parts of the text -/

/-- The digits of a decimal, at least one more than it has places. -/
def digits (d : Decimal) : List Char := (padded (d.scale + 1) d.mantissa).toList

/-- The digits before the point. -/
def whole (d : Decimal) : List Char := d.digits.take (d.digits.length - d.scale)

/-- The digits after the point. -/
def fraction (d : Decimal) : List Char := d.digits.drop (d.digits.length - d.scale)

section Parts

variable (d : Decimal)

theorem scale_lt_length : d.scale < d.digits.length := by
  rw [digits, length_padded]
  exact lt_of_lt_of_le (Nat.lt_succ_self _) (le_max_left _ _)

theorem isDigit_of_mem_whole {c : Char} (h : c ∈ d.whole) : isDigit c = true :=
  isDigit_of_mem_padded (List.mem_of_mem_take h)

theorem isDigit_of_mem_fraction {c : Char} (h : c ∈ d.fraction) : isDigit c = true :=
  isDigit_of_mem_padded (List.mem_of_mem_drop h)

theorem whole_ne_nil : d.whole ≠ [] := by
  have := d.scale_lt_length
  rw [whole, ne_eq, List.take_eq_nil_iff, not_or]
  refine ⟨by omega, ?_⟩
  exact padded_ne_nil _ _

theorem length_fraction : d.fraction.length = d.scale := by
  have := d.scale_lt_length
  rw [fraction, List.length_drop]
  omega

theorem digitsValue_parts : digitsValue (digitsValue 0 d.whole) d.fraction = d.mantissa := by
  rw [← Json.digitsValue_append, whole, fraction, List.take_append_drop]
  exact digitsValue_padded _ _

theorem toList_text : d.text.toList = (if d.negative then ['-'] else []) ++
    (d.whole ++ if d.scale = 0 then [] else '.' :: d.fraction) := by
  have hsign : (if d.negative then "-" else "").toList = if d.negative then ['-'] else [] := by
    split <;> rfl
  have hlength : (padded (d.scale + 1) d.mantissa).toList.length = d.digits.length := rfl
  rw [text]
  simp only [String.toList_append, hsign]
  congr 1
  rcases Nat.eq_zero_or_pos d.scale with hs | hs
  · simp [positional, hs, whole, digits]
  · have hneg : ¬ (0 : ℤ) ≤ -(d.scale : ℤ) := by omega
    have hplaces : (- -(d.scale : ℤ)).toNat = d.scale := by omega
    simp only [positional, if_neg hneg, hplaces, hlength, if_pos d.scale_lt_length,
      if_neg hs.ne', String.toList_append, String.toList_ofList, List.append_assoc]
    rfl

end Parts

/-! ### Reading the digits -/

variable {negative : Bool}

/-- One digit more, if it fits and the places suffice. -/
theorem readDigits_cons {p : Progress} {c : Char} (hc : isDigit c = true)
    (hp : p.pointed = false ∨ p.scale < maxScale)
    (hv : 10 * p.mantissa + (c.toNat - '0'.toNat) < capacity) (rest : List Char) :
    readDigits negative p (c :: rest) = readDigits negative
      ⟨10 * p.mantissa + (c.toNat - '0'.toNat), if p.pointed then p.scale + 1 else 0, p.pointed,
        true⟩ rest := by
  have hplaces : (p.pointed && p.scale == maxScale) = false := by
    rcases hp with hp | hp
    · rw [hp, Bool.false_and]
    · rw [beq_false_of_ne hp.ne, Bool.and_false]
  rw [readDigits, hplaces]
  simp only [Bool.false_eq_true, if_false, if_pos hc, if_pos hv]

/-- A value is at least what its first digits come to. -/
theorem le_digitsValue {cs : List Char} (h : ∀ c ∈ cs, isDigit c = true) (start : ℕ) :
    start ≤ digitsValue start cs :=
  (Nat.le_mul_of_pos_right start (Nat.pow_pos (by norm_num))).trans
    (Json.digitsValue_bounds h start).1

theorem readDigits_whole {cs : List Char} (h : ∀ c ∈ cs, isDigit c = true) {mantissa : ℕ}
    {started : Bool} (hv : digitsValue mantissa cs < capacity) (rest : List Char) :
    readDigits negative ⟨mantissa, 0, false, started⟩ (cs ++ rest) =
      readDigits negative ⟨digitsValue mantissa cs, 0, false, started || !cs.isEmpty⟩ rest := by
  induction cs generalizing mantissa started with
  | nil => simp [digitsValue]
  | cons c cs ih =>
    obtain ⟨hc, hcs⟩ := List.forall_mem_cons.mp h
    have hnext := (le_digitsValue hcs (10 * mantissa + (c.toNat - '0'.toNat))).trans_lt hv
    rw [List.cons_append, readDigits_cons hc (.inl rfl) hnext]
    refine (ih hcs hv).trans ?_
    simp [digitsValue]

theorem readDigits_fraction {cs : List Char} (h : ∀ c ∈ cs, isDigit c = true) {mantissa scale : ℕ}
    (hv : digitsValue mantissa cs < capacity) (hs : scale + cs.length ≤ maxScale) :
    readDigits negative ⟨mantissa, scale, true, true⟩ cs =
      some (make negative (digitsValue mantissa cs) (scale + cs.length)) := by
  induction cs generalizing mantissa scale with
  | nil => rfl
  | cons c cs ih =>
    obtain ⟨hc, hcs⟩ := List.forall_mem_cons.mp h
    rw [List.length_cons] at hs ⊢
    have hnext := (le_digitsValue hcs (10 * mantissa + (c.toNat - '0'.toNat))).trans_lt hv
    rw [readDigits_cons hc (.inr (by simp only; omega)) hnext]
    refine (ih hcs hv (by simp only [if_true]; omega)).trans ?_
    simp only [if_true, Nat.add_assoc, Nat.add_comm 1]
    rfl

/-- The digits before the point begin with no sign. -/
theorem splitSign_whole (d : Decimal) (rest : List Char) :
    splitSign ((if d.negative then ['-'] else []) ++ (d.whole ++ rest)) =
      (d.negative, d.whole ++ rest) := by
  cases d.negative with
  | true => rfl
  | false =>
    obtain ⟨c, cs, hcs⟩ := List.exists_cons_of_ne_nil d.whole_ne_nil
    have hc : isDigit c = true := d.isDigit_of_mem_whole (hcs ▸ List.mem_cons_self ..)
    have hm : c ≠ '-' := by
      rintro rfl
      cases hc
    have hp : c ≠ '+' := by
      rintro rfl
      cases hc
    simp [hcs, splitSign, hm, hp]

theorem IsProper.read?_text {d : Decimal} (h : d.IsProper) : read? d.text = some d := by
  have hwhole : ∀ c ∈ d.whole, isDigit c = true := fun _ => d.isDigit_of_mem_whole
  have hfraction : ∀ c ∈ d.fraction, isDigit c = true := fun _ => d.isDigit_of_mem_fraction
  have hmantissa := d.digitsValue_parts
  have hwhole_lt : digitsValue 0 d.whole < capacity :=
    (le_digitsValue hfraction _).trans_lt (hmantissa ▸ h.mantissa_lt)
  have hstarted : (false || !d.whole.isEmpty) = true := by simp [d.whole_ne_nil]
  rw [read?, toList_text, splitSign_whole]
  simp only
  rw [readDigits_whole hwhole hwhole_lt, hstarted]
  split
  next hs =>
    have hnil : d.fraction = [] := List.eq_nil_of_length_eq_zero (d.length_fraction.trans hs)
    rw [hnil] at hmantissa
    rw [readDigits, if_pos rfl]
    exact congrArg some ((congrArg₂ (make d.negative) hmantissa hs.symm).trans h.make_eq)
  next hs =>
    rw [readDigits]
    simp only [Bool.false_and, Bool.false_eq_true, if_false, Bool.not_false, Bool.and_true,
      (by decide : isDigit '.' = false), decide_true, if_true]
    rw [readDigits_fraction hfraction (hmantissa ▸ h.mantissa_lt)
      (by rw [length_fraction, zero_add]; exact h.scale_le), hmantissa, length_fraction, zero_add,
      h.make_eq]

/-- The text of a decimal is read as the decimal. -/
theorem IsProper.ofText?_text {d : Decimal} (h : d.IsProper) : ofText? d.text = some d := by
  rw [ofText?, h.read?_text]
  rfl

theorem solid_text (d : Decimal) : Text.Solid d.text.toList := by
  rw [toList_text]
  refine Text.Solid.append ?_ (Text.Solid.append ?_ ?_)
  · cases d.negative <;> decide
  · exact Text.Solid.digits fun _ => d.isDigit_of_mem_whole
  · split
    · decide
    · exact Text.Solid.cons (by decide) (Text.Solid.digits fun _ => d.isDigit_of_mem_fraction)

end SqlGateway.Number.Decimal
