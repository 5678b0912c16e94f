import SqlGateway.Parameter.Basic
import SqlGateway.Proofs.Json.Canonical
import SqlGateway.Proofs.Server.NumericCell
import SqlGateway.Proofs.Time.Written

/-! What cells hold. Each type has a binary form, and a cell of the type holds the value whose form it
    is, whatever a reader makes of it:

        DATE           days since 2000-01-01, 4 bytes        UUID     16 bytes
        TIME           microseconds since midnight, 8        JSON     the text of a document
        TIMESTAMP(TZ)  microseconds since 2000-01-01, 8      JSONB    the byte 1 and the text
        NUMERIC        groups of four digits                 BYTEA    the bytes

    Every value of a type has a cell, but for times of day and moments that are no whole number of
    microseconds. What is read of a cell is the value, but for the places of a zero. -/

namespace SqlGateway

namespace Time

variable {c : Clock} {m : Moment}

theorem Clock.ofMicros_micros (h : c.IsPlain) (hm : 1000 ∣ c.nanos) : ofMicros c.micros = c := by
  obtain ⟨seconds, nanos⟩ := c
  obtain ⟨k, rfl⟩ := hm
  obtain ⟨hs, hn⟩ := h
  simp only [secondsPerDay, nanosPerSecond] at hs hn
  simp only [ofMicros, micros, secondsPerDay, Clock.mk.injEq]
  omega

namespace Moment

theorem microsSinceMillennium_eq (hm : 1000 ∣ m.clock.nanos) : m.microsSinceMillennium =
    (m.epochSeconds - Date.millennium.days * secondsPerDay) * 1000000 + m.clock.nanos / 1000 := by
  obtain ⟨k, hk⟩ := hm
  have hnanos : m.nanosSinceMillennium =
      1000 * ((m.epochSeconds - Date.millennium.days * secondsPerDay) * 1000000 + k) := by
    rw [nanosSinceMillennium, nanosPerSecond, hk]
    push_cast
    ring
  rw [microsSinceMillennium, hnanos, Int.mul_tdiv_cancel_left _ (by norm_num), hk]
  omega

theorem ofMicros_micros (h : m.clock.IsPlain) (hm : 1000 ∣ m.clock.nanos) :
    ofMicrosSinceMillennium m.microsSinceMillennium = m := by
  rw [microsSinceMillennium_eq hm]
  obtain ⟨⟨days⟩, ⟨seconds, nanos⟩⟩ := m
  obtain ⟨k, rfl⟩ := hm
  obtain ⟨hs, hn⟩ := h
  simp only [secondsPerDay, nanosPerSecond] at hs hn
  simp only [ofMicrosSinceMillennium, ofEpoch, epochSeconds, secondsPerDay, Moment.mk.injEq,
    Date.mk.injEq, Clock.mk.injEq]
  omega

theorem isPlain_ofMicros (n : ℤ) : (ofMicrosSinceMillennium n).clock.IsPlain ∧
    1000 ∣ (ofMicrosSinceMillennium n).clock.nanos := by
  refine ⟨⟨?_, ?_⟩, Nat.dvd_mul_left ..⟩ <;>
    simp only [ofMicrosSinceMillennium, ofEpoch, secondsPerDay, nanosPerSecond] <;> omega

theorem micros_ofMicros (n : ℤ) : (ofMicrosSinceMillennium n).microsSinceMillennium = n := by
  rw [microsSinceMillennium_eq (isPlain_ofMicros n).2]
  simp only [ofMicrosSinceMillennium, ofEpoch, epochSeconds, secondsPerDay]
  omega

/-- Moments of dates in range take eight bytes. -/
theorem micros_bounds (h : m.IsPlain) (hm : 1000 ∣ m.clock.nanos) :
    -2 ^ 63 ≤ m.microsSinceMillennium ∧ m.microsSinceMillennium < 2 ^ 63 := by
  have hdays := Date.natAbs_days_le h.date
  obtain ⟨hs, hn⟩ := h.clock
  rw [microsSinceMillennium_eq hm]
  simp only [secondsPerDay, nanosPerSecond, epochSeconds, Date.millennium] at hs hn ⊢
  omega

end Moment

end Time

/-- The bytes of a text are that text. -/
theorem Text.ofUtf8?_utf8 (s : String) : ofUtf8? (utf8 s) = some s := by
  have hbytes : (utf8 s).toByteArray = s.toByteArray := String.utf8Encode_toList
  rw [ofUtf8?, hbytes, String.fromUTF8?, dif_pos s.isValidUTF8]
  rfl

/-- What is read of the cell of a parameter: a zero has lost its places. -/
def Parameter.asRead : Parameter → Parameter
  | .numeric d => .numeric (if d.mantissa = 0 then ⟨false, 0, 0⟩ else d)
  | p => p

namespace Server.Postgres

open Number (Decimal)
open Text (bigEndian natOfBytes utf8)
open Time (Date Clock Moment)

/-- A cell of a type holds the value of a parameter: the bytes are the binary form of the value. -/
inductive Holds : String → List UInt8 → Parameter → Prop
  | numeric {c : NumericCell} {d : Decimal} (h : c.IsOf d) (hd : d.IsProper) :
    Holds "NUMERIC" c.bytes (.numeric d)
  | uuid {u : Uuid} (h : u.value < 2 ^ 128) : Holds "UUID" (bigEndian 16 u.value) (.uuid u)
  | date {d : Date} (h : d.inRange = true) :
    Holds "DATE" (bigEndian 4 (d.days - Date.millennium.days)) (.date d)
  | time {c : Clock} (h : c.IsPlain) (hm : 1000 ∣ c.nanos) :
    Holds "TIME" (bigEndian 8 c.micros) (.time c)
  | timestamp {m : Moment} (h : m.IsPlain) (hm : 1000 ∣ m.clock.nanos) :
    Holds "TIMESTAMP" (bigEndian 8 m.microsSinceMillennium) (.timestamp m)
  | timestamptz {m : Moment} (h : m.IsPlain) (hm : 1000 ∣ m.clock.nanos) :
    Holds "TIMESTAMPTZ" (bigEndian 8 m.microsSinceMillennium) (.timestamptz m)
  | json {text : String} {j : Json} (h : Json.ofText? text = some j) :
    Holds "JSON" (utf8 text) (.json j)
  | jsonb {text : String} {j : Json} (h : Json.ofText? text = some j) :
    Holds "JSONB" (1 :: utf8 text) (.json j)
  | bytea (bytes : List UInt8) : Holds "BYTEA" bytes (.bytes bytes)

/-! ### Numbers of cells -/

theorem integerOf?_bigEndian {w : ℕ} {n : ℤ} (hl : -256 ^ w ≤ 2 * n) (hh : 2 * n < 256 ^ w) :
    integerOf? w (bigEndian w n) = some n := by
  rw [integerOf?, if_pos (Text.length_bigEndian w n), Text.intOfBytes_bigEndian hl hh]

theorem eq_bigEndian_of_integerOf? {w : ℕ} {bytes : List UInt8} {n : ℤ}
    (h : integerOf? w bytes = some n) : bytes = bigEndian w n := by
  rw [integerOf?] at h
  split at h
  · next hw =>
    obtain rfl := Option.some.inj h
    rw [← hw, Text.bigEndian_intOfBytes]
  · cases h

theorem date?_bigEndian {d : Date} (h : d.inRange = true) :
    date? (bigEndian 4 (d.days - Date.millennium.days)) = some d := by
  have hdays := Date.natAbs_days_le h
  have hmillennium : Date.millennium.days = 10957 := rfl
  have hback : Date.millennium.days + (d.days - Date.millennium.days) = d.days := by ring
  rw [date?, integerOf?_bigEndian (by norm_num; omega) (by norm_num; omega), Option.bind_some]
  simp only [hback]
  exact if_pos h

theorem integerOf?_clock {c : Clock} (h : c.IsPlain) :
    integerOf? 8 (bigEndian 8 c.micros) = some (c.micros : ℤ) := by
  obtain ⟨hs, hn⟩ := h
  have hmicros : c.micros < 2 ^ 63 := by
    simp only [Time.secondsPerDay, Time.nanosPerSecond] at hs hn
    rw [Clock.micros]
    omega
  exact integerOf?_bigEndian (by norm_num; omega) (by norm_num; omega)

theorem integerOf?_micros {m : Moment} (h : m.IsPlain) (hm : 1000 ∣ m.clock.nanos) :
    integerOf? 8 (bigEndian 8 m.microsSinceMillennium) = some m.microsSinceMillennium := by
  obtain ⟨hl, hh⟩ := Moment.micros_bounds h hm
  exact integerOf?_bigEndian (by norm_num at hl ⊢; omega) (by norm_num at hh ⊢; omega)

/-- The bytes of which a moment is read are those of the moment. -/
theorem moment?_eq_some_iff {bytes : List UInt8} {m : Moment} : moment? bytes = some m ↔
    (m.IsPlain ∧ 1000 ∣ m.clock.nanos) ∧ bytes = bigEndian 8 m.microsSinceMillennium := by
  constructor
  · intro h
    obtain ⟨n, hn, h⟩ := Option.bind_eq_some_iff.mp h
    simp only [Option.ite_none_right_eq_some, Option.some.injEq] at h
    obtain ⟨hrange, rfl⟩ := h
    obtain ⟨hplain, hm⟩ := Moment.isPlain_ofMicros n
    rw [Moment.micros_ofMicros]
    exact ⟨⟨⟨hrange, hplain⟩, hm⟩, eq_bigEndian_of_integerOf? hn⟩
  · rintro ⟨⟨h, hm⟩, rfl⟩
    rw [moment?, integerOf?_micros h hm, Option.bind_some, Moment.ofMicros_micros h.clock hm]
    exact if_pos h.date

/-- What a cell of a moment without zone holds is what is read of it. -/
theorem Holds.moment?_eq {typeName : String} {bytes : List UInt8} {m : Moment}
    (h : Holds typeName bytes (.timestamp m)) : moment? bytes = some m := by
  cases h with
  | timestamp h hm => exact moment?_eq_some_iff.mpr ⟨⟨h, hm⟩, rfl⟩

/-- Nothing is read as a moment that does not hold one. -/
theorem holds_timestamp {bytes : List UInt8} {m : Moment} (h : moment? bytes = some m) :
    Holds "TIMESTAMP" bytes (.timestamp m) := by
  obtain ⟨⟨hplain, hm⟩, rfl⟩ := moment?_eq_some_iff.mp h
  exact .timestamp hplain hm

/-! ### Values of cells -/

section Values

variable {typeName : String} {bytes : List UInt8}

theorem value?_decimal (h : TypeCategory.ofName typeName = .decimal) :
    value? typeName bytes = (decimal? bytes).map fun d => .text d.text := by
  unfold value?
  rw [h]

theorem value?_uuid (h : TypeCategory.ofName typeName = .uuid) : value? typeName bytes =
    if bytes.length = 16 then some (.text (Uuid.text ⟨natOfBytes bytes⟩)) else none := by
  unfold value?
  rw [h]

theorem value?_date (h : TypeCategory.ofName typeName = .date) :
    value? typeName bytes = (date? bytes).map fun d => .text d.text := by
  unfold value?
  rw [h]

theorem value?_timestamp (h : TypeCategory.ofName typeName = .timestamp) :
    value? typeName bytes = (moment? bytes).map .timestamp := by
  unfold value?
  rw [h]

theorem value?_time :
    value? "TIME" bytes = (integerOf? 8 bytes).map fun n => .text (Clock.ofMicros n).text := by
  have hcategory : TypeCategory.ofName "TIME" = .time := rfl
  unfold value?
  rw [hcategory]
  exact if_pos rfl

/-- The document in the bytes of a cell, behind the byte of its version if it has one. -/
theorem value?_json (h : TypeCategory.ofName typeName = .json) {document : List UInt8}
    (hd : typeName = "JSONB" ∧ bytes = 1 :: document ∨ typeName ≠ "JSONB" ∧ bytes = document) :
    value? typeName bytes =
      ((Text.ofUtf8? document).bind Json.ofText?).map fun j => .text j.text := by
  unfold value?
  rw [h]
  rcases hd with ⟨ht, rfl⟩ | ⟨ht, rfl⟩ <;> simp [ht]

end Values

end Server.Postgres

end SqlGateway
