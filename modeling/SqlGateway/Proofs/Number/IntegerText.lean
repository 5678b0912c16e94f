import SqlGateway.Number.Integer
import SqlGateway.Proofs.Number.DecimalText

/-! The text of an integer is read back to the integer, and what may stand around it in a text of a
    parameter does not count:

        "-42"       ▶   -42
        " +42\n"    ▶    42

    A decimal takes the same digits, without blanks. -/

namespace SqlGateway.Number

/-- Is the text one of an integer? Its decimal digits stand behind a minus sign, or, if it is not
    negative, perhaps behind a plus sign, with any blanks around. -/
def Spells (s : String) (n : ℤ) : Prop :=
  ∃ front sign back : List Char, s.toList = front ++ (sign ++ (intText n).toList) ++ back ∧
    (∀ c ∈ front, Text.isBlank c = true) ∧ (∀ c ∈ back, Text.isBlank c = true) ∧
    (sign = [] ∨ sign = ['+'] ∧ 0 ≤ n)

theorem spells_intText (n : ℤ) : Spells (intText n) n :=
  ⟨[], [], [], by simp, nofun, nofun, Or.inl rfl⟩

theorem readDigits?_toDigits (n : ℕ) : readDigits? (Nat.toDigits 10 n) = some n := by
  have hd : (Nat.toDigits 10 n).all isDigit = true :=
    List.all_eq_true.mpr fun _ => Json.isDigit_of_mem_toDigits
  have hne : (Nat.toDigits 10 n).isEmpty = false :=
    List.isEmpty_eq_false_iff.mpr Nat.toDigits_ne_nil
  rw [readDigits?, hne, hd, Json.digitsValue_toDigits]
  rfl

/-- A digit is no sign. -/
theorem ne_sign_of_toDigits {n : ℕ} {c : Char} {rest : List Char}
    (h : Nat.toDigits 10 n = c :: rest) : c ≠ '-' ∧ c ≠ '+' := by
  have hd : isDigit c = true := Json.isDigit_of_mem_toDigits (h ▸ List.mem_cons_self)
  constructor <;> (rintro rfl; exact absurd hd (by decide))

/-- An integer is read off its digits behind any sign that it may have. -/
theorem readInteger?_signed {s : String} {n : ℤ} {sign : List Char}
    (hs : s.toList = sign ++ (intText n).toList) (hsign : sign = [] ∨ sign = ['+'] ∧ 0 ≤ n) :
    readInteger? s = some n := by
  have hread := readDigits?_toDigits n.natAbs
  rw [Json.intText_toList] at hs
  by_cases hn : n < 0
  · obtain rfl : sign = [] := hsign.resolve_right fun h => absurd h.2 (not_le.mpr hn)
    have habs : -(n.natAbs : ℤ) = n := by omega
    rw [readInteger?, hs, if_pos hn, List.nil_append]
    simp only [hread]
    exact congrArg some habs
  · have habs : Int.ofNat n.natAbs = n := Int.natAbs_of_nonneg (not_lt.mp hn)
    rw [readInteger?, hs, if_neg hn]
    rcases hsign with rfl | ⟨rfl, -⟩
    · -- the first digit is no sign, so all of the text is digits
      rw [List.nil_append]
      split
      next heq => exact absurd rfl (ne_sign_of_toDigits heq).1
      next heq => exact absurd rfl (ne_sign_of_toDigits heq).2
      next => rw [hread, Option.map_some, habs]
    · rw [List.cons_append, List.nil_append]
      simp only [hread, Option.map_some, habs]

theorem readInteger?_natText (n : ℕ) : readInteger? (natText n) = some (n : ℤ) :=
  readInteger?_signed (by simp [Json.intText_toList, natText]) (Or.inl rfl)

theorem solid_intText (n : ℤ) : Text.Solid (intText n).toList := by
  have hd : Text.Solid (Nat.toDigits 10 n.natAbs) :=
    Text.Solid.digits fun _ => Json.isDigit_of_mem_toDigits
  rw [Json.intText_toList]
  split
  · exact hd.cons (by decide)
  · exact hd

/-- The text of an integer is read as the integer, whatever stands around it. -/
theorem Spells.readInt64?_trim {s : String} {i : Int64} (h : Spells s i.toInt) :
    readInt64? (Text.trim s) = some i := by
  obtain ⟨front, sign, back, hs, hf, hb, hsign⟩ := h
  have hsolid : Text.Solid (sign ++ (intText i.toInt).toList) := by
    rcases hsign with rfl | ⟨rfl, -⟩
    · exact solid_intText _
    · exact (solid_intText _).cons (by decide)
  have hread : readInteger? (Text.trim s) = some i.toInt := by
    refine readInteger?_signed ?_ hsign
    rw [Text.trim, String.toList_ofList, hs, hsolid.trimChars_blanks hf hb]
  have hfit : fitsSigned 64 i.toInt = true :=
    (Json.fitsSigned_iff 64 _).mpr ⟨i.le_toInt, i.toInt_lt⟩
  rw [readInt64?, hread, Option.bind_some, toInt64?, if_pos hfit, Int64.ofInt_toInt]

/-! ### Decimals -/

theorem splitSign_intText (n : ℤ) :
    splitSign (intText n).toList = (decide (n < 0), Nat.toDigits 10 n.natAbs) := by
  rw [Json.intText_toList]
  by_cases hn : n < 0
  · rw [if_pos hn, decide_eq_true hn]
    rfl
  · rw [if_neg hn, decide_eq_false hn, splitSign.eq_def]
    split
    next heq => exact absurd rfl (ne_sign_of_toDigits heq).1
    next heq => exact absurd rfl (ne_sign_of_toDigits heq).2
    next => rfl

theorem Decimal.ofInt_eq (n : ℤ) : Decimal.ofInt n = ⟨n < 0, n.natAbs, 0⟩ := by
  have hsign : (decide (n < 0) && n.natAbs != 0) = decide (n < 0) := by
    by_cases hn : n < 0
    · simp [hn, hn.ne]
    · simp [hn]
  rw [Decimal.ofInt, Decimal.make, hsign]

/-- The text of an integer of 64 bits is read as the decimal without places. -/
theorem Decimal.ofText?_intText (i : Int64) :
    Decimal.ofText? (intText i.toInt) = some (Decimal.ofInt i.toInt) := by
  have hd : ∀ c ∈ Nat.toDigits 10 i.toInt.natAbs, isDigit c = true := fun _ =>
    Json.isDigit_of_mem_toDigits
  have hv : digitsValue 0 (Nat.toDigits 10 i.toInt.natAbs) = i.toInt.natAbs :=
    Json.digitsValue_toDigits _
  have hfit : i.toInt.natAbs < Decimal.capacity := by
    have hl := i.le_toInt
    have hh := i.toInt_lt
    show i.toInt.natAbs < 2 ^ 96
    omega
  have hstarted : (Nat.toDigits 10 i.toInt.natAbs).isEmpty = false :=
    List.isEmpty_eq_false_iff.mpr Nat.toDigits_ne_nil
  have hread : Decimal.read? (intText i.toInt) = some (Decimal.ofInt i.toInt) := by
    have hwhole : Decimal.readDigits (i.toInt < 0) ⟨0, 0, false, false⟩ (_ ++ []) = _ :=
      Decimal.readDigits_whole hd (hv.symm ▸ hfit) []
    rw [List.append_nil, hv, hstarted] at hwhole
    rw [Decimal.read?, splitSign_intText]
    exact hwhole
  rw [Decimal.ofText?, hread]
  rfl

end SqlGateway.Number
