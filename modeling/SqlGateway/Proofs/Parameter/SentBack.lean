import SqlGateway.Proofs.Query.Document
import SqlGateway.Proofs.Server.PostgresCell
import SqlGateway.Proofs.Uuid

/-! Values that are sent back. A client reads a value from a row and sends the JSON of it as a where
    value of the column it came from; the server then takes it as a parameter in the type of the
    column:

        cell  ▶  value  ▶  JSON  ▶  text  ▶  parameter
        12.50    12.50     "12.50"  12.50    12.50

    For the types whose values are written as literals of their own, the parameter holds what the
    cell holds, but for a zero, which has lost its places in the cell. Moments and byte strings are
    written in one form whatever their type is, and that form is no literal of a moment without
    zone, nor the bytes it stands for. -/

namespace SqlGateway

open Json (Reads Fills)
open Number (Decimal)
open Time (Date Clock Moment)
open Text (Solid)

/-! ### Sending back -/

/-- The where value that the JSON of a value is read as, beside the name of a column. -/
def Value.returned? (column : String) (v : Value) : Option Value :=
  let document := Json.obj [("name", .str column), ("value", v.toJson)]
  (Json.decode ColumnRef.decoder document.text).toOption.bind ColumnRef.value

/-- What is read off the JSON of a value is sent back. -/
theorem Value.returned?_of_reads {column : String} {v w : Value}
    (h : Reads Value.decoder v.toJson w) (hn : v.toJson.nesting < Json.depthLimit) :
    v.returned? column = some w := by
  have hreads : Reads ColumnRef.decoder (.obj [("name", .str column), ("value", v.toJson)])
      { name := column, value := some w } :=
    Fills.record ((Fills.field rfl rfl rfl (Reads.string column)).append
      (Fills.field rfl rfl rfl h)) rfl
  have hnesting : (Json.obj [("name", .str column), ("value", v.toJson)]).nesting ≤
      Json.depthLimit := by
    simp only [Json.nesting, Json.fieldsNesting]
    omega
  rw [returned?, hreads.decode hnesting]
  rfl

/-- Texts come back as they are. -/
theorem Value.returned?_text (column s : String) :
    (Value.text s).returned? column = some (.text s) :=
  returned?_of_reads (Value.reads ⟨trivial, nofun⟩)
    (by simp [toJson, Json.nesting, Json.depthLimit])

/-- Moments come back as the text of the moment in UTC. -/
theorem Value.returned?_timestamp (column : String) (m : Moment) :
    (Value.timestamp m).returned? column = some (.text m.zuluText) :=
  returned?_text column m.zuluText

/-- Byte strings come back as their base 64 text. -/
theorem Value.returned?_bytes (column : String) (b : List UInt8) :
    (Value.bytes b).returned? column = some (.text (Text.base64 b)) :=
  returned?_text column (Text.base64 b)

/-! ### Literals of their own -/

namespace Parameter

open Server.Postgres (Holds)

/-- A parameter of a type and the value that is written for it, where the value is written as a
    literal of the type. -/
inductive Written : String → Value → Parameter → Prop
  | numeric {d : Decimal} (h : d.IsProper) : Written "NUMERIC" (.text d.text) (.numeric d)
  | uuid {u : Uuid} (h : u.value < 2 ^ 128) : Written "UUID" (.text u.text) (.uuid u)
  | date {d : Date} (h : d.inRange = true) : Written "DATE" (.text d.text) (.date d)
  | time {c : Clock} (h : c.IsPlain) : Written "TIME" (.text c.text) (.time c)
  | timestamptz {m : Moment} (h : m.clock.IsPlain)
    (hy : 0 ≤ m.date.civil.year ∧ m.date.civil.year ≤ 9999) :
    Written "TIMESTAMPTZ" (.timestamp m) (.timestamptz m)
  | json {typeName : String} {j : Json} (ht : typeName = "JSON" ∨ typeName = "JSONB")
    (hc : j.IsCanonical) (hn : j.nesting ≤ Json.depthLimit) (hl : j.IsLegible) :
    Written typeName (.text j.text) (.json j)

theorem coerce_numeric {d : Decimal} (h : d.IsProper) :
    coerce "NUMERIC" (.text d.text) = .ok (.numeric d) := by
  have htype : ParameterType.ofName "NUMERIC" = .numeric := rfl
  rw [coerce_text htype]
  unfold ofText
  simp only [d.solid_text.trim, h.ofText?_text, Option.map_some]

theorem coerce_uuid {u : Uuid} (h : u.value < 2 ^ 128) :
    coerce "UUID" (.text u.text) = .ok (.uuid u) := by
  have htype : ParameterType.ofName "UUID" = .uuid := rfl
  rw [coerce_text htype]
  unfold ofText
  simp only [(Uuid.solid_text h).trim, Uuid.ofText?_text h, Option.map_some]

theorem coerce_date {d : Date} (h : d.inRange = true) :
    coerce "DATE" (.text d.text) = .ok (.date d) := by
  have htype : ParameterType.ofName "DATE" = .date := rfl
  rw [coerce_text htype]
  unfold ofText
  simp only [d.solid_text.trim, Date.ofText?_text h, Option.map_some]

theorem coerce_time {c : Clock} (h : c.IsPlain) :
    coerce "TIME" (.text c.text) = .ok (.time c) := by
  have htype : ParameterType.ofName "TIME" = .time := rfl
  rw [coerce_text htype]
  unfold ofText
  simp only [h.solid_text.trim, Clock.ofText?_text h, Option.map_some]

theorem coerce_timestamptz {m : Moment} (h : m.clock.IsPlain)
    (hy : 0 ≤ m.date.civil.year ∧ m.date.civil.year ≤ 9999) :
    coerce "TIMESTAMPTZ" (.text m.zuluText) = .ok (.timestamptz m) := by
  have htype : ParameterType.ofName "TIMESTAMPTZ" = .timestamptz := rfl
  rw [coerce_text htype]
  unfold ofText
  simp only [(Moment.solid_zuluText h).trim, Moment.utcOfText?_zuluText h hy, Option.map_some]

theorem coerce_json {typeName : String} {j : Json} (ht : typeName = "JSON" ∨ typeName = "JSONB")
    (h : Json.ofText? j.text = some j) : coerce typeName (.text j.text) = .ok (.json j) := by
  have htype : ParameterType.ofName typeName = .json := by
    rcases ht with rfl | rfl <;> rfl
  rw [coerce_text htype]
  unfold ofText
  simp only [h, Option.getD_some]

/-- What is written as a literal of the type is taken as the parameter when it is sent back. -/
theorem Written.sentBack {typeName : String} {v : Value} {p : Parameter}
    (h : Written typeName v p) (column : String) :
    ∃ w, v.returned? column = some w ∧ coerce typeName w = .ok p := by
  cases h with
  | numeric h => exact ⟨_, Value.returned?_text .., coerce_numeric h⟩
  | uuid h => exact ⟨_, Value.returned?_text .., coerce_uuid h⟩
  | date h => exact ⟨_, Value.returned?_text .., coerce_date h⟩
  | time h => exact ⟨_, Value.returned?_text .., coerce_time h⟩
  | timestamptz h hy => exact ⟨_, Value.returned?_timestamp .., coerce_timestamptz h hy⟩
  | json ht hc hn hl =>
    exact ⟨_, Value.returned?_text .., coerce_json ht (Json.IsCanonical.ofText?_text hc hn hl)⟩

/-- Is the parameter sent back from a cell of its type? A moment has to have a zone and a year of four
    digits without sign, and the floats of a document have to be read back from their texts. -/
def IsReturned : Parameter → Prop
  | .timestamptz m => 0 ≤ m.date.civil.year ∧ m.date.civil.year ≤ 9999
  | .timestamp _ | .bytes _ => False
  | .json j => j.IsLegible
  | _ => True

/-- Does the parameter have no more digits behind the second than a cell takes? -/
def IsWholeMicros : Parameter → Prop
  | .time c => 1000 ∣ c.nanos
  | .timestamptz m => 1000 ∣ m.clock.nanos
  | _ => True

section Cells

open Server.Postgres

/-- What is written as a literal of its type has a cell of the type. -/
theorem Written.exists_holds {typeName : String} {v : Value} {p : Parameter}
    (h : Written typeName v p) (hm : p.IsWholeMicros) : ∃ bytes, Holds typeName bytes p := by
  cases h with
  | @numeric d h =>
    obtain ⟨c, hc⟩ := NumericCell.exists_isOf d
    exact ⟨_, .numeric hc h⟩
  | uuid h => exact ⟨_, .uuid h⟩
  | date h => exact ⟨_, .date h⟩
  | time h => exact ⟨_, .time h hm⟩
  | timestamptz h hy => exact ⟨_, .timestamptz (Moment.isPlain_of_year h hy) hm⟩
  | json ht hc hn hl =>
    have hread := Json.IsCanonical.ofText?_text hc hn hl
    rcases ht with rfl | rfl
    · exact ⟨_, .json hread⟩
    · exact ⟨_, .jsonb hread⟩

/-- A decimal as it is read of its cell can be written. -/
theorem isProper_asRead {d : Decimal} (h : d.IsProper) :
    (if d.mantissa = 0 then ⟨false, 0, 0⟩ else d : Decimal).IsProper := by
  split
  · exact ⟨by decide, by decide, by simp⟩
  · exact h

/-- Cells are read as what is written for the values that they hold, but for the places of a zero. -/
theorem Written.of_holds {typeName : String} {bytes : List UInt8} {p : Parameter}
    (h : Holds typeName bytes p) (hp : p.IsReturned) :
    ∃ v, value? typeName bytes = some v ∧ Written typeName v p.asRead := by
  cases h with
  | numeric h hd =>
    have hcategory : TypeCategory.ofName "NUMERIC" = .decimal := rfl
    exact ⟨_, by rw [value?_decimal hcategory, h.decimal?_bytes hd, Option.map_some],
      .numeric (isProper_asRead hd)⟩
  | uuid h =>
    have hcategory : TypeCategory.ofName "UUID" = .uuid := rfl
    refine ⟨_, ?_, .uuid h⟩
    rw [value?_uuid hcategory, if_pos (Text.length_bigEndian ..), Text.natOfBytes_bigEndian_of_lt h]
  | date h =>
    have hcategory : TypeCategory.ofName "DATE" = .date := rfl
    exact ⟨_, by rw [value?_date hcategory, date?_bigEndian h, Option.map_some], .date h⟩
  | time h hm =>
    refine ⟨_, ?_, .time h⟩
    rw [value?_time, integerOf?_clock h, Option.map_some, Clock.ofMicros_micros h hm]
  | timestamp h => exact hp.elim
  | timestamptz h hm =>
    have hcategory : TypeCategory.ofName "TIMESTAMPTZ" = .timestamp := rfl
    have hread := moment?_eq_some_iff.mpr ⟨⟨h, hm⟩, rfl⟩
    exact ⟨_, by rw [value?_timestamp hcategory, hread, Option.map_some], .timestamptz h.clock hp⟩
  | json h =>
    have hcategory : TypeCategory.ofName "JSON" = .json := rfl
    obtain ⟨hc, hn⟩ := Json.canonical_of_ofText? h
    refine ⟨_, ?_, .json (.inl rfl) hc hn hp⟩
    rw [value?_json hcategory (.inr ⟨by decide, rfl⟩), Text.ofUtf8?_utf8, Option.bind_some, h,
      Option.map_some]
  | jsonb h =>
    have hcategory : TypeCategory.ofName "JSONB" = .json := rfl
    obtain ⟨hc, hn⟩ := Json.canonical_of_ofText? h
    refine ⟨_, ?_, .json (.inr rfl) hc hn hp⟩
    rw [value?_json hcategory (.inl ⟨rfl, rfl⟩), Text.ofUtf8?_utf8, Option.bind_some, h,
      Option.map_some]
  | bytea => exact hp.elim

end Cells

/-- Values of the types with literals of their own are sent back. What is written for a parameter is
    taken as the parameter. Each has a cell, if its time is a whole number of microseconds. And
    what a cell holds is read of it, sent back and taken as the parameter, but for the places of a
    zero. -/
theorem textual_sentBack (column : String) :
    (∀ typeName v p, Written typeName v p →
      ∃ w, v.returned? column = some w ∧ coerce typeName w = .ok p) ∧
    (∀ typeName v p, Written typeName v p → p.IsWholeMicros → ∃ bytes, Holds typeName bytes p) ∧
    ∀ typeName bytes p, Holds typeName bytes p → p.IsReturned →
      ∃ v w, Server.Postgres.value? typeName bytes = some v ∧ v.returned? column = some w ∧
        coerce typeName w = .ok p.asRead := by
  refine ⟨fun _ _ _ h => h.sentBack column, fun _ _ _ h hm => h.exists_holds hm,
    fun _ _ _ h hp => ?_⟩
  obtain ⟨v, hv, hwritten⟩ := Written.of_holds h hp
  obtain ⟨w, hw, hcoerce⟩ := hwritten.sentBack column
  exact ⟨v, w, hv, hw, hcoerce⟩

/-- The cell of 12.50. -/
def price : Server.Postgres.NumericCell := ⟨0, false, 2, [12, 5000]⟩

/-- A document with an array, a null and an escaped character. -/
def note : Json := .obj [("a", .arr [.int (-2), .null]), ("b", .str "\n")]

theorem holds_price : Holds "NUMERIC" price.bytes (.numeric ⟨false, 1250, 2⟩) := by
  refine .numeric ⟨rfl, ?_, by decide, by decide, by decide, nofun⟩
    ⟨by decide, by decide, by decide⟩
  norm_num [price, Server.Postgres.groupsValue, Decimal.value]

theorem textual_sentBack_price_note :
    (∃ w, Written "TIME" (.text "23:59:59.000000250") (.time ⟨86399, 250⟩) ∧
      (Value.text "23:59:59.000000250").returned? "t" = some w ∧
      coerce "TIME" w = .ok (.time ⟨86399, 250⟩)) ∧
    (∃ v w, Holds "NUMERIC" price.bytes (.numeric ⟨false, 1250, 2⟩) ∧
      Server.Postgres.value? "NUMERIC" price.bytes = some v ∧ v.returned? "p" = some w ∧
      coerce "NUMERIC" w = .ok (.numeric ⟨false, 1250, 2⟩)) ∧
    ∃ bytes v w, Holds "JSONB" bytes (.json note) ∧ note.IsLegible ∧
      Server.Postgres.value? "JSONB" bytes = some v ∧
      v.returned? "n" = some w ∧ coerce "JSONB" w = .ok (.json note) := by
  have htime : Written "TIME" (.text "23:59:59.000000250") (.time ⟨86399, 250⟩) := by
    have htext : Clock.text ⟨86399, 250⟩ = "23:59:59.000000250" := by decide
    exact htext ▸ .time ⟨by decide, by decide⟩
  have hlegible : note.IsLegible := ⟨⟨trivial, trivial, trivial⟩, trivial, trivial⟩
  have hcanonical : note.IsCanonical :=
    ⟨List.pairwise_pair.mpr (by decide), ⟨⟨by decide, by decide⟩, trivial, trivial⟩, trivial,
      trivial⟩
  have hnote : Written "JSONB" (.text note.text) (.json note) :=
    .json (.inr rfl) hcanonical (by decide) hlegible
  obtain ⟨w, hw, hc⟩ := (textual_sentBack "t").1 _ _ _ htime
  obtain ⟨v', w', hv', hw', hc'⟩ := (textual_sentBack "p").2.2 _ _ _ holds_price trivial
  obtain ⟨bytes, hcell⟩ := (textual_sentBack "n").2.1 _ _ _ hnote trivial
  obtain ⟨v'', w'', hv'', hw'', hc''⟩ := (textual_sentBack "n").2.2 _ _ _ hcell hlegible
  exact ⟨⟨w, htime, hw, hc⟩, ⟨v', w', holds_price, hv', hw', hc'⟩,
    bytes, v'', w'', hcell, hlegible, hv'', hw'', hc''⟩

/-- The cell of 0.00. -/
def nought : Server.Postgres.NumericCell := ⟨0, false, 2, []⟩

theorem holds_nought : Holds "NUMERIC" nought.bytes (.numeric ⟨false, 0, 2⟩) := by
  refine .numeric ⟨rfl, ?_, nofun, nofun, nofun, fun _ => ⟨rfl, rfl⟩⟩
    ⟨by decide, by decide, by decide⟩
  norm_num [nought, Server.Postgres.groupsValue, Decimal.value]

/-- Not every decimal is sent back as it is: 0.00 is read as 0. -/
theorem not_textual_sentBack : ¬ ∀ (column typeName : String) (bytes : List UInt8) (p : Parameter),
    Holds typeName bytes p → p.IsReturned →
      ∃ v w, Server.Postgres.value? typeName bytes = some v ∧ v.returned? column = some w ∧
        coerce typeName w = .ok p := by
  intro h
  obtain ⟨v, w, hv, hw, hcoerce⟩ := h "a" _ _ _ holds_nought trivial
  obtain ⟨v', hv', hwritten⟩ := Written.of_holds holds_nought trivial
  obtain rfl := Option.some.inj (hv.symm.trans hv')
  obtain ⟨w', hw', hcoerce'⟩ := hwritten.sentBack "a"
  obtain rfl := Option.some.inj (hw.symm.trans hw')
  have hsame := Parameter.numeric.inj (Except.ok.inj (hcoerce.symm.trans hcoerce'))
  exact absurd hsame (by decide)

/-! ### Moments without zone and byte strings -/

/-- A moment without zone is read from its date and time with nothing behind them. -/
theorem coerce_timestamp {m : Moment} (h : m.IsPlain) :
    coerce "TIMESTAMP" (.text m.isoText) = .ok (.timestamp m) := by
  have hread := Moment.ofText?_iso h Time.Stops.nil nofun
  rw [String.ofList_nil, String.append_empty] at hread
  have htype : ParameterType.ofName "TIMESTAMP" = .timestamp := rfl
  rw [coerce_text htype]
  unfold ofText
  simp only [(Moment.solid_isoText h.clock).trim, hread, List.isEmpty_nil, if_true, Option.map_some]

/-- The letter of the zone is no part of a moment without zone. -/
theorem coerce_timestamp_zulu {m : Moment} (h : m.IsPlain) :
    coerce "TIMESTAMP" (.text m.zuluText) = .error (malformed "TIMESTAMP" m.zuluText) := by
  have hz : Time.Stops ['Z'] := Time.Stops.cons (by decide) []
  have hread : Moment.ofText? m.zuluText = none := Moment.ofText?_iso h hz (by decide)
  have htype : ParameterType.ofName "TIMESTAMP" = .timestamp := rfl
  rw [coerce_text htype]
  unfold ofText
  simp only [(Moment.solid_zuluText h.clock).trim, hread, Option.map_none]

end Parameter

namespace Text

theorem length_base64Chars : ∀ b : List UInt8, (base64Chars b).length = 4 * ((b.length + 2) / 3)
  | [] => rfl
  | [_] => by simp [base64Chars]
  | [_, _] => by simp [base64Chars]
  | a :: b :: c :: rest => by
    simp only [base64Chars, List.length_cons, length_base64Chars rest]
    omega

theorem length_le_utf8 (s : String) : s.toList.length ≤ (utf8 s).length := by
  rw [utf8]
  induction s.toList with
  | nil => simp
  | cons c cs ih =>
    have hc : 0 < (String.utf8EncodeChar c).length := by
      rw [String.length_utf8EncodeChar]
      exact c.utf8Size_pos
    simp only [List.flatMap_cons, List.length_append, List.length_cons]
    omega

/-- No bytes but none at all are the bytes of their base 64 text. -/
theorem utf8_base64_eq_iff (b : List UInt8) : utf8 (base64 b) = b ↔ b = [] := by
  constructor
  · intro h
    have hle := length_le_utf8 (base64 b)
    rw [h, base64, String.toList_ofList, length_base64Chars] at hle
    exact List.eq_nil_of_length_eq_zero (by omega)
  · rintro rfl
    rfl

end Text

namespace Parameter

open Server.Postgres

/-- Moments without zone and byte strings come back as texts. The text of a moment, which ends in
    the letter of its zone, is turned down as no literal of the type, and without the letter it is
    the moment. The text of bytes is taken for the bytes of the text, which are other ones unless
    there are none. What is not sent through JSON is taken as it is. -/
theorem untyped_sentBack (column : String) :
    (∀ bytes m, Holds "TIMESTAMP" bytes (.timestamp m) →
      value? "TIMESTAMP" bytes = some (.timestamp m) ∧
      (Value.timestamp m).returned? column = some (.text m.zuluText) ∧
      m.zuluText = m.isoText ++ "Z" ∧
      coerce "TIMESTAMP" (.text m.zuluText) = .error (malformed "TIMESTAMP" m.zuluText) ∧
      coerce "TIMESTAMP" (.text m.isoText) = .ok (.timestamp m) ∧
      coerce "TIMESTAMP" (.timestamp m) = .ok (.timestamp m)) ∧
    ∀ bytes, value? "BYTEA" bytes = some (.bytes bytes) ∧
      (Value.bytes bytes).returned? column = some (.text (Text.base64 bytes)) ∧
      coerce "BYTEA" (.text (Text.base64 bytes)) =
        .ok (.bytes (Text.utf8 (Text.base64 bytes))) ∧
      (Text.utf8 (Text.base64 bytes) = bytes ↔ bytes = []) ∧
      coerce "BYTEA" (.bytes bytes) = .ok (.bytes bytes) := by
  constructor
  · intro bytes m h
    have hplain := (moment?_eq_some_iff.mp h.moment?_eq).1.1
    refine ⟨?_, Value.returned?_timestamp .., rfl, coerce_timestamp_zulu hplain,
      coerce_timestamp hplain, rfl⟩
    have hcategory : TypeCategory.ofName "TIMESTAMP" = .timestamp := rfl
    rw [value?_timestamp hcategory, h.moment?_eq, Option.map_some]
  · exact fun bytes => ⟨rfl, Value.returned?_bytes .., rfl, Text.utf8_base64_eq_iff bytes, rfl⟩

/-- The first moment of 2000. -/
def newYear : List UInt8 := List.replicate 8 0

theorem moment?_newYear : moment? newYear = some ⟨.millennium, .midnight⟩ := by decide

theorem holds_newYear : Holds "TIMESTAMP" newYear (.timestamp ⟨.millennium, .midnight⟩) :=
  holds_timestamp moment?_newYear

theorem untyped_sentBack_newYear :
    Holds "TIMESTAMP" newYear (.timestamp ⟨.millennium, .midnight⟩) ∧
    (Value.timestamp ⟨.millennium, .midnight⟩).returned? "a" =
      some (.text "2000-01-01T00:00:00Z") ∧
    coerce "TIMESTAMP" (.text "2000-01-01T00:00:00Z") =
      .error (malformed "TIMESTAMP" "2000-01-01T00:00:00Z") := by
  obtain ⟨-, hreturned, -, hcoerce, -⟩ := (untyped_sentBack "a").1 _ _ holds_newYear
  have htext : Moment.zuluText ⟨.millennium, .midnight⟩ = "2000-01-01T00:00:00Z" := by decide
  rw [htext] at hreturned hcoerce
  exact ⟨holds_newYear, hreturned, hcoerce⟩

/-- Neither moments without zone nor byte strings are sent back in general. -/
theorem not_sentBack :
    ¬ (∀ column bytes m, Holds "TIMESTAMP" bytes (.timestamp m) →
        0 ≤ m.date.civil.year ∧ m.date.civil.year ≤ 9999 →
        ∃ v w, value? "TIMESTAMP" bytes = some v ∧ v.returned? column = some w ∧
          coerce "TIMESTAMP" w = .ok (.timestamp m)) ∧
    ¬ (∀ column bytes, ∃ v w, value? "BYTEA" bytes = some v ∧ v.returned? column = some w ∧
        coerce "BYTEA" w = .ok (.bytes bytes)) := by
  constructor
  · intro h
    obtain ⟨v, w, hv, hw, hcoerce⟩ := h "a" newYear _ holds_newYear (by decide)
    obtain rfl : Value.timestamp ⟨.millennium, .midnight⟩ = v := by
      rw [← Option.some.injEq, ← hv]
      decide
    rw [Value.returned?_timestamp] at hw
    obtain rfl := Option.some.inj hw
    rw [coerce_timestamp_zulu (moment?_eq_some_iff.mp moment?_newYear).1.1] at hcoerce
    cases hcoerce
  · intro h
    obtain ⟨v, w, hv, hw, hcoerce⟩ := h "a" [0]
    obtain rfl := Option.some.inj hv
    rw [Value.returned?_bytes] at hw
    obtain rfl := Option.some.inj hw
    have hbytes : Text.utf8 (Text.base64 [0]) = [0] :=
      Parameter.bytes.inj (Except.ok.inj hcoerce)
    exact absurd hbytes (by decide)

end Parameter

end SqlGateway
