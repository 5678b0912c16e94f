import SqlGateway.Proofs.Query.Accepted
import SqlGateway.Server.Binding

/-! The form of typed parameters. A server reads the bytes of a parameter in the binary form of the
    type that it gave to the place, and nothing in the bytes says which form they are in. So a value
    has to be brought into the form of its target, whatever kind of value it is:

        target           BOOL   INT2 INT4 INT8   NUMERIC   …   BYTEA   any other
        form             bool   int2 int4 int8   numeric   …   bytes   text

        null             no bytes at all
        bytes, UTF-8     as the text that they are
        bytes, others    BYTEA, whatever the target

    The last line is the exception: bytes that are no text are sent as they are. -/

namespace SqlGateway

namespace Parameter

open Server

/-! ### Forms -/

/-- Names of the types with a form of their own. -/
def formNames : List String :=
  ["BOOL", "INT2", "INT4", "INT8", "FLOAT4", "FLOAT8", "NUMERIC", "UUID", "DATE", "TIME",
    "TIMESTAMP", "TIMESTAMPTZ", "JSON", "JSONB", "BYTEA"]

/-- Is the parameter in the form of the type of a name? The name stands in capitals. Null is in any
    form, and a text in that of every type that has none of its own. -/
def IsFormOf (p : Parameter) (typeName : String) : Prop :=
  match p with
  | .null => True
  | .bool _ => typeName = "BOOL"
  | .int2 _ => typeName = "INT2"
  | .int4 _ => typeName = "INT4"
  | .int8 _ => typeName = "INT8"
  | .float4 _ => typeName = "FLOAT4"
  | .float8 _ => typeName = "FLOAT8"
  | .numeric _ => typeName = "NUMERIC"
  | .uuid _ => typeName = "UUID"
  | .date _ => typeName = "DATE"
  | .time _ => typeName = "TIME"
  | .timestamp _ => typeName = "TIMESTAMP"
  | .timestamptz _ => typeName = "TIMESTAMPTZ"
  | .json _ => typeName = "JSON" ∨ typeName = "JSONB"
  | .bytes _ => typeName = "BYTEA"
  | .text _ => typeName ∉ formNames

/-- The type that a parameter is made for; null is made for any. -/
def type? : Parameter → Option ParameterType
  | .null => none
  | .bool _ => some .bool
  | .int2 _ => some (.integer .two)
  | .int4 _ => some (.integer .four)
  | .int8 _ => some (.integer .eight)
  | .float4 _ => some .float4
  | .float8 _ => some .float8
  | .numeric _ => some .numeric
  | .uuid _ => some .uuid
  | .date _ => some .date
  | .time _ => some .time
  | .timestamp _ => some .timestamp
  | .timestamptz _ => some .timestamptz
  | .json _ => some .json
  | .bytes _ => some .bytea
  | .text _ => some .other

variable {name text : String} {type : ParameterType} {p : Parameter}

/-- A name stands for the type beside it, or for none with a form of its own. -/
theorem ofName_cases (name : String) :
    (Text.upper name, ParameterType.ofName name) ∈ ParameterType.named ∨
      (ParameterType.ofName name = .other ∧ Text.upper name ∉ formNames) := by
  rw [ParameterType.ofName]
  cases h : ParameterType.named.lookup (Text.upper name) with
  | some t =>
    obtain ⟨front, back, hs, -⟩ := List.lookup_eq_some_iff.mp h
    exact Or.inl (by rw [hs]; simp)
  | none =>
    refine Or.inr ⟨rfl, fun hm => ?_⟩
    have hnames : formNames = ParameterType.named.map Prod.fst := rfl
    obtain ⟨e, he, hfst⟩ := List.mem_map.mp (hnames ▸ hm)
    have hne := List.lookup_eq_none_iff.mp h e he
    simp [hfst] at hne

theorem isFormOf_of_mem (ht : p.type? = some type) (h : (name, type) ∈ ParameterType.named) :
    p.IsFormOf name := by
  cases p <;> cases ht <;> simp [ParameterType.named] at h <;> exact h

/-- A parameter that is made for the type of a name is in its form. -/
theorem isFormOf_of_type? (h : p.type? = some (ParameterType.ofName name)) :
    p.IsFormOf (Text.upper name) := by
  rcases ofName_cases name with hm | ⟨ho, hn⟩
  · exact isFormOf_of_mem h hm
  · rw [ho] at h
    cases p with
    | text s => exact hn
    | _ => nomatch h

/-! ### Values in the form of their target -/

theorem type?_of_ofInteger {width : IntegerWidth} {i : Int64}
    (h : ofInteger width name i = .ok p) : p.type? = some (.integer width) := by
  cases width with
  | two =>
    rw [ofInteger] at h
    split at h
    · obtain rfl := Except.ok.inj h
      rfl
    · nomatch h
  | four =>
    rw [ofInteger] at h
    split at h
    · obtain rfl := Except.ok.inj h
      rfl
    · nomatch h
  | eight =>
    obtain rfl := Except.ok.inj h
    rfl

/-- A text that is read as a literal of a type comes to a parameter of the type. -/
theorem type?_of_ofText (h : ofText type name text = .ok p) : p.type? = some type := by
  unfold ofText at h
  -- What the text is without blanks has no part in this.
  generalize Text.trim text = trimmed at h
  cases type with
  | integer width =>
    dsimp only at h
    split at h
    · exact type?_of_ofInteger h
    · nomatch h
  | json =>
    obtain rfl := Except.ok.inj h
    rfl
  | bytea =>
    obtain rfl := Except.ok.inj h
    rfl
  | other =>
    obtain rfl := Except.ok.inj h
    rfl
  | _ =>
    dsimp only at h
    split at h
    case h_1 x hx =>
      obtain ⟨a, -, rfl⟩ := Option.map_eq_some_iff.mp hx
      obtain rfl := Except.ok.inj h
      rfl
    case h_2 => nomatch h

/-- A float is in the form of its target. -/
theorem type?_of_float {x : Number.Double} (h : coerce name (.float x) = .ok p) :
    p.type? = some (ParameterType.ofName name) := by
  simp only [coerce] at h
  split at h
  case h_1 ht =>
    obtain rfl := Except.ok.inj h
    exact congrArg some ht.symm
  case h_2 ht =>
    obtain rfl := Except.ok.inj h
    exact congrArg some ht.symm
  case h_3 ht _ =>
    rw [ht]
    exact type?_of_ofInteger h
  case h_4 ht =>
    split at h
    · obtain rfl := Except.ok.inj h
      exact congrArg some ht.symm
    · nomatch h
  case h_5 => exact type?_of_ofText h

/-- What a value comes to is made for its target, except null and bytes that are no text. -/
theorem type?_of_coerce {v : Value} (h : coerce name v = .ok p) :
    (v = .null ∧ p = .null) ∨ p.type? = some (ParameterType.ofName name) ∨
      ∃ b, v = .bytes b ∧ Text.ofUtf8? b = none ∧ p = .bytes b := by
  cases v with
  | null => exact Or.inl ⟨rfl, (Except.ok.inj h).symm⟩
  | text s =>
    simp only [coerce] at h
    exact Or.inr (Or.inl (type?_of_ofText h))
  | float x => exact Or.inr (Or.inl (type?_of_float h))
  | bool b =>
    refine Or.inr (Or.inl ?_)
    simp only [coerce] at h
    generalize ParameterType.ofName name = type at h ⊢
    cases type with
    | bool => rw [← Except.ok.inj h]; rfl
    | integer width => exact type?_of_ofInteger h
    | _ => exact type?_of_ofText h
  | int i =>
    refine Or.inr (Or.inl ?_)
    simp only [coerce] at h
    generalize ParameterType.ofName name = type at h ⊢
    cases type with
    | bool | float4 | float8 | numeric => rw [← Except.ok.inj h]; rfl
    | integer width => exact type?_of_ofInteger h
    | _ => exact type?_of_ofText h
  | timestamp m =>
    refine Or.inr (Or.inl ?_)
    simp only [coerce] at h
    generalize ParameterType.ofName name = type at h ⊢
    cases type with
    | timestamp | date | time | timestamptz => rw [← Except.ok.inj h]; rfl
    | _ => exact type?_of_ofText h
  | bytes b =>
    refine Or.inr ?_
    simp only [coerce] at h
    split at h
    case h_1 ht =>
      rw [ht, ← Except.ok.inj h]
      exact Or.inl rfl
    case h_2 hu _ => exact Or.inr ⟨b, rfl, hu, (Except.ok.inj h).symm⟩
    case h_3 => exact Or.inl (type?_of_ofText h)

theorem coerce_unreadable {b : List UInt8} (h : Text.ofUtf8? b = none) (name : String) :
    coerce name (.bytes b) = .ok (.bytes b) := by
  simp only [coerce, h]
  cases ParameterType.ofName name <;> rfl

/-- Work through a list pairs each element with its result. -/
theorem forall₂_of_mapM {ε α β : Type} {f : α → Except ε β} {as : List α} {bs : List β}
    (h : as.mapM f = .ok bs) : List.Forall₂ (fun a b => f a = .ok b) as bs := by
  induction as generalizing bs with
  | nil =>
    obtain rfl := pure_eq_ok_iff.mp h
    exact .nil
  | cons a as ih =>
    simp only [List.mapM_cons, bind_eq_ok_iff, pure_eq_ok_iff] at h
    obtain ⟨b, hb, cs, hcs, rfl⟩ := h
    exact .cons hb (ih hcs)

/-- Is the parameter that a value comes to in the form of its target, or is the value bytes that are
    no text and the parameter these bytes? -/
def Suits (p : Parameter) (typeName : String) (v : Value) : Prop :=
  p.IsFormOf (Text.upper typeName) ∨ ∃ b, v = .bytes b ∧ Text.ofUtf8? b = none ∧ p = .bytes b

theorem suits_of_coerce {v : Value} (h : coerce name v = .ok p) : p.Suits name v := by
  rcases type?_of_coerce h with ⟨-, rfl⟩ | ht | hb
  · exact Or.inl trivial
  · exact Or.inl (isFormOf_of_type? ht)
  · exact Or.inr hb

/-- A value comes to null only if it is null. Any other value comes to the form of its target,
    unless it is a byte string that is no text, which is passed on as it is; and so what is sent
    under the name of a type is in the form of this type, but for such byte strings. -/
theorem coerced_in_form {v : Value} (h : coerce name v = .ok p) :
    (p = .null ↔ v = .null) ∧
    ((∀ b, v = .bytes b → Text.ofUtf8? b ≠ none) → p.IsFormOf (Text.upper name)) ∧
    (∀ b, v = .bytes b → Text.ofUtf8? b = none → p = .bytes b) ∧
    ∀ types values args, Postgres.arguments types values = .ok args →
      List.Forall₂ (fun (v, type) a => ∃ p : Parameter, coerce type v = .ok p ∧
        a = Postgres.argument type p ∧ p.Suits type v) (values.zip types) args := by
  refine ⟨⟨?_, ?_⟩, fun hb => ?_, ?_, fun types values args ha => ?_⟩
  · rintro rfl
    rcases type?_of_coerce h with ⟨hv, -⟩ | ht | ⟨b, -, -, hp⟩
    · exact hv
    · nomatch ht
    · nomatch hp
  · rintro rfl
    exact (Except.ok.inj h).symm
  · rcases suits_of_coerce h with hf | ⟨b, hv, hu, -⟩
    · exact hf
    · exact absurd hu (hb b hv)
  · rintro b rfl hu
    exact (Except.ok.inj ((coerce_unreadable hu name).symm.trans h)).symm
  · refine (forall₂_of_mapM ha).imp fun e a he => ?_
    obtain ⟨p, hp, harg⟩ := bind_eq_ok_iff.mp he
    exact ⟨p, hp, pure_eq_ok_iff.mp harg, suits_of_coerce hp⟩

/-- A text of digits for a column of a narrow type, bytes of digits for one of decimals, and bytes
    that are no text for one of an enumeration. -/
theorem coerced_in_form_mixed :
    coerce "int2" (.text " 42") = .ok (.int2 42) ∧ IsFormOf (.int2 42) "INT2" ∧
    (∃ p, coerce "NUMERIC" (.bytes [0x34, 0x32]) = .ok p ∧ IsFormOf p "NUMERIC") ∧
    ∃ p, coerce "mood" (.bytes [0xff]) = .ok p ∧ p = .bytes [0xff] := by
  have h2 : coerce "int2" (.text " 42") = .ok (.int2 42) := by rfl
  obtain ⟨p, hp⟩ : ∃ p, coerce "NUMERIC" (.bytes [0x34, 0x32]) = .ok p := ⟨_, rfl⟩
  obtain ⟨m, hm⟩ : ∃ m, coerce "mood" (.bytes [0xff]) = .ok m := ⟨_, rfl⟩
  refine ⟨h2, (coerced_in_form h2).2.1 nofun, ⟨p, hp, (coerced_in_form hp).2.1 ?_⟩,
    m, hm, (coerced_in_form hm).2.2.1 [0xff] rfl (by decide)⟩
  rintro b hb
  rw [← Value.bytes.inj hb]
  decide

/-- Not every parameter is in the form of its target: the byte `ff` is no text, so that it reaches
    an integer of four bytes as it is. -/
theorem coerced_out_of_form : ¬ ∀ (name : String) (v : Value) (p : Parameter),
    coerce name v = .ok p → p.IsFormOf (Text.upper name) := by
  intro h
  have hp : coerce "INT4" (.bytes [0xff]) = .ok (.bytes [0xff]) := by rfl
  have hn : Text.upper "INT4" ≠ "BYTEA" := by decide
  exact hn (h _ _ _ hp)

end Parameter

end SqlGateway
