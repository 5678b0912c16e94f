import SqlGateway.Proofs.Number.IntegerText
import SqlGateway.Proofs.Parameter.Integer
import SqlGateway.Proofs.Parameter.Representation

/-! Integers that are sent as numbers and as texts. Both come to the same parameter, or to the same
    fault, in every type but truth values and floats:

        target     42        " +42\n"      70000            "70000"
        INT2       42        42            out of range     out of range
        INT4       42        42            70000            70000
        NUMERIC    42 / 1                  70000 / 1        70000 / 1
        TEXT       42                      70000            70000

    Blanks around a text and a plus sign are for the integer types alone; there they do not
    count. -/

namespace SqlGateway

open Number (intText int64Text)

/-- Name of an integer type. -/
def IntegerWidth.typeName : IntegerWidth → String
  | .two => "INT2"
  | .four => "INT4"
  | .eight => "INT8"

namespace Parameter

variable {name : String} {width : IntegerWidth}

theorem ofName_typeName (h : Text.upper name = width.typeName) :
    ParameterType.ofName name = .integer width := by
  rw [ParameterType.ofName, h]
  cases width <;> rfl

theorem ofName_numeric (h : Text.upper name = "NUMERIC") :
    ParameterType.ofName name = .numeric := by
  rw [ParameterType.ofName, h]
  rfl

/-- Only the names of truth values and floats stand for them. -/
theorem upper_of_ofName (h : ParameterType.ofName name ∈ [.bool, .float4, .float8]) :
    Text.upper name ∈ ["BOOL", "FLOAT4", "FLOAT8"] := by
  rcases ofName_cases name with hn | ⟨ho, -⟩
  · generalize ParameterType.ofName name = type at h hn
    generalize Text.upper name = capitals at hn ⊢
    simp only [List.mem_cons, List.not_mem_nil, or_false] at h
    rcases h with rfl | rfl | rfl <;> simp [ParameterType.named] at hn <;> simp [hn]
  · simp [ho] at h

/-- The range of a width, as inequalities. -/
theorem fits_width_iff {n : ℤ} : Number.fitsSigned width.bits n = true ↔
    -2 ^ (width.bits - 1) ≤ n ∧ n < 2 ^ (width.bits - 1) := Json.fitsSigned_iff _ _

/-- An integer beyond the range of a width is refused. -/
theorem ofInteger_eq_error (name : String) {i : Int64}
    (h : ¬ Number.fitsSigned width.bits i.toInt = true) :
    ofInteger width name i = .error (outOfRange name (int64Text i)) := by
  refine ofInteger_out ?_ h
  rintro rfl
  exact h ((Json.fitsSigned_iff 64 _).mpr ⟨i.le_toInt, i.toInt_lt⟩)

/-- A text of an integer is read as the integer by every integer type. -/
theorem ofText_spells {s : String} {i : Int64} (h : Number.Spells s i.toInt) :
    ofText (.integer width) name s = ofInteger width name i := by
  unfold ofText
  simp only [h.readInt64?_trim]

/-- An integer and its text come to the same in every type but truth values and floats. -/
theorem coerce_int64Text (h : ParameterType.ofName name ∉ [.bool, .float4, .float8]) (i : Int64) :
    coerce name (.text (int64Text i)) = coerce name (.int i) := by
  cases ht : ParameterType.ofName name with
  | bool | float4 | float8 => simp [ht] at h
  | integer width =>
    rw [coerce_text ht, coerce_int_integer ht, int64Text, ofText_spells (Number.spells_intText _)]
  | numeric =>
    have htrim : Text.trim (int64Text i) = intText i.toInt := (Number.solid_intText _).trim
    rw [coerce_text ht, coerce_int_numeric ht]
    unfold ofText
    simp only [htrim, Number.Decimal.ofText?_intText]
    rfl
  | _ => simp only [coerce, ht]

/-- An integer and a text of it come to the same. In the integer types this is the integer itself
    if it is in the range of the type, and else the fault that it is not, and blanks and a plus sign
    do not count in the text; among decimals it is the integer without places; and in all other
    types but truth values and floats it is what the digits of the integer come to. -/
theorem integer_or_text (h : Text.upper name ∉ ["BOOL", "FLOAT4", "FLOAT8"]) (i : Int64) :
    coerce name (.text (int64Text i)) = coerce name (.int i) ∧
    (∀ width : IntegerWidth, Text.upper name = width.typeName →
      (∀ s, Number.Spells s i.toInt → coerce name (.text s) = coerce name (.int i)) ∧
      (-2 ^ (width.bits - 1) ≤ i.toInt ∧ i.toInt < 2 ^ (width.bits - 1) →
        ∃ p, coerce name (.int i) = .ok p ∧ p.integer? = some (width, i.toInt)) ∧
      (¬ (-2 ^ (width.bits - 1) ≤ i.toInt ∧ i.toInt < 2 ^ (width.bits - 1)) →
        coerce name (.int i) = .error (outOfRange name (int64Text i)))) ∧
    (Text.upper name = "NUMERIC" →
      coerce name (.int i) = .ok (.numeric ⟨i.toInt < 0, i.toInt.natAbs, 0⟩)) := by
  refine ⟨coerce_int64Text (fun hm => h (upper_of_ofName hm)) i, fun width hw => ?_, fun hn => ?_⟩
  · have ht := ofName_typeName hw
    rw [coerce_int_integer ht]
    refine ⟨fun s hs => ?_, fun hi => ?_, fun hi => ?_⟩
    · rw [coerce_text ht, ofText_spells hs]
    · exact ofInteger_eq_ok name (fits_width_iff.mpr hi)
    · exact ofInteger_eq_error name (fun hf => hi (fits_width_iff.mp hf))
  · rw [coerce_int_numeric (ofName_numeric hn), Number.Decimal.ofInt_eq]

/-- The least integer of four bytes as a number and as a text, and the next one below it. -/
theorem integer_or_text_least :
    Text.upper "int4" ∉ ["BOOL", "FLOAT4", "FLOAT8"] ∧
    Number.Spells "\t -2147483648\n" (-2147483648 : Int64).toInt ∧
    coerce "int4" (.text "\t -2147483648\n") = coerce "int4" (.int (-2147483648)) ∧
    (∃ p, coerce "int4" (.int (-2147483648)) = .ok p ∧
      p.integer? = some (.four, (-2147483648 : Int64).toInt)) ∧
    coerce "int4" (.text "-2147483649") = coerce "int4" (.int (-2147483649)) ∧
    coerce "int4" (.int (-2147483649)) = .error (outOfRange "int4" "-2147483649") := by
  have hname : Text.upper "int4" ∉ ["BOOL", "FLOAT4", "FLOAT8"] := by decide
  have hfront : ['\t', ' '].all Text.isBlank = true := by decide
  have hback : ['\n'].all Text.isBlank = true := by decide
  have hspells : Number.Spells "\t -2147483648\n" (-2147483648 : Int64).toInt :=
    ⟨_, [], _, by decide +kernel, List.all_eq_true.mp hfront, List.all_eq_true.mp hback, Or.inl rfl⟩
  obtain ⟨-, hleast, -⟩ := integer_or_text hname (-2147483648)
  obtain ⟨hbelow, hout, -⟩ := integer_or_text hname (-2147483649)
  obtain ⟨htext, hin, -⟩ := hleast .four (by decide)
  obtain ⟨-, -, hrefused⟩ := hout .four (by decide)
  exact ⟨hname, hspells, htext _ hspells, hin (by decide +kernel), hbelow,
    hrefused (by decide +kernel)⟩

end Parameter

end SqlGateway
