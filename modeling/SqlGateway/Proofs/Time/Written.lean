import SqlGateway.Proofs.Json.Printed
import SqlGateway.Proofs.Number.Padded
import SqlGateway.Proofs.Time.Calendar
import SqlGateway.Time.Reader

/-! Dates, times of day and moments are read back from their texts. A layout that begins with the
    parts of a text takes the text off the front and goes on behind it:

        2024-02-29T23:59:59.250Z
        date part ─┘            └─ what follows, which is no digit

    A moment with a zone is read at once by the strict form. A type without zone takes the text in
    front of the letter of the zone, and with the letter nothing. -/

namespace SqlGateway.Time

open Number (padded isDigit digitsValue)
open Text (isBlank)

/-! ### Fields of digits -/

/-- No digit stands first. -/
def Stops (rest : List Char) : Prop := ∀ c ∈ rest.head?, isDigit c = false

theorem Stops.nil : Stops [] := nofun

theorem Stops.cons {c : Char} (h : isDigit c = false) (rest : List Char) : Stops (c :: rest) :=
  fun _ hc => (Option.some.inj hc) ▸ h

section Fields

variable {ds rest : List Char} (hd : ∀ c ∈ ds, isDigit c = true) (hr : Stops rest)

include hd hr

theorem takeWhile_digits : (ds ++ rest).takeWhile isDigit = ds ∧
    (ds ++ rest).dropWhile isDigit = rest := by
  obtain ⟨htake, hdrop⟩ := Json.takeWhile_append_of_head hr ds
  rw [htake, hdrop, List.takeWhile_eq_self_iff.mpr hd, List.dropWhile_eq_nil_iff.mpr hd]
  exact ⟨rfl, rfl⟩

theorem readNumber?_digits {least most : ℕ} (hl : least ≤ ds.length) (hm : ds.length ≤ most) :
    readNumber? least most (ds ++ rest) = some (digitsValue 0 ds, rest) := by
  rw [readNumber?, (takeWhile_digits hd hr).1, List.take_of_length_le hm]
  simp only [if_neg (not_lt.mpr hl), List.drop_left]

end Fields

section Padded

variable {width n : ℕ} {rest : List Char} (hr : Stops rest)

include hr

/-- A number that fills its field is read as the number. -/
theorem readNumber?_padded {least most : ℕ} (hl : least ≤ width) (hm : width ≤ most)
    (hw : 0 < width) (hn : n < 10 ^ width) :
    readNumber? least most ((padded width n).toList ++ rest) = some (n, rest) := by
  have hlength := Number.length_padded_of_lt hw hn
  rw [readNumber?_digits (fun _ => Number.isDigit_of_mem_padded) hr (by omega) (by omega),
    Number.digitsValue_padded]

/-- The digits after the point count nanoseconds from the left. -/
theorem readNanos?_padded (hm : width ≤ 9) (hw : 0 < width) (hn : n < 10 ^ width) :
    readNanos? ((padded width n).toList ++ rest) = some (n * 10 ^ (9 - width), rest) := by
  have hlength := Number.length_padded_of_lt hw hn
  have hdrop : rest.dropWhile isDigit = rest := (@takeWhile_digits [] rest nofun hr).2
  rw [readNanos?, readNumber?_padded hr hw hm hw hn]
  simp [hlength, hdrop]

end Padded

/-- What begins with the digits of a field begins with no blank. -/
theorem dropWhile_padded (width n : ℕ) (rest : List Char) :
    ((padded width n).toList ++ rest).dropWhile isBlank = (padded width n).toList ++ rest := by
  obtain ⟨c, cs, hcs⟩ := List.exists_cons_of_ne_nil (Number.padded_ne_nil width n)
  have hc : isBlank c = false := Text.isBlank_of_isDigit
    (Number.isDigit_of_mem_padded (hcs ▸ List.mem_cons_self ..))
  rw [hcs, List.cons_append, List.dropWhile_cons, hc]
  rfl

/-- A month, a day or a part of a time of day. -/
theorem number_padded {n : ℕ} (hn : n < 100) {rest : List Char} (hr : Stops rest) :
    LayoutPart.read?.number ((padded 2 n).toList ++ rest) = some (n, rest) := by
  rw [LayoutPart.read?.number, dropWhile_padded]
  exact readNumber?_padded hr (by norm_num) le_rfl (by norm_num) hn

/-! ### Dates -/

theorem readYear?_digit {c : Char} (hc : isDigit c = true) (cs : List Char) :
    readYear? (c :: cs) = (readNumber? 1 4 (c :: cs)).map fun (n, r) => ((n : ℤ), r) := by
  have hminus : c ≠ '-' := ne_of_apply_ne isDigit (by rw [hc]; decide)
  have hplus : c ≠ '+' := ne_of_apply_ne isDigit (by rw [hc]; decide)
  unfold readYear?
  split
  · next h => exact absurd (List.cons.inj h).1 hminus
  · next h => exact absurd (List.cons.inj h).1 hplus
  · rfl

/-- A year after a sign takes as many digits as it has. -/
theorem readNumber?_signed (n : ℕ) {rest : List Char} (hr : Stops rest) :
    readNumber? 1 ((padded 4 n).toList ++ rest).length ((padded 4 n).toList ++ rest) =
      some (n, rest) := by
  have hpos := List.length_pos_of_ne_nil (Number.padded_ne_nil 4 n)
  rw [readNumber?_digits (fun _ => Number.isDigit_of_mem_padded) hr hpos
    (by rw [List.length_append]; omega), Number.digitsValue_padded]

/-- A year is read back, whether it has a sign or not. -/
theorem readYear?_yearText (year : ℤ) {rest : List Char} (hr : Stops rest) :
    readYear? ((Date.yearText year).toList ++ rest) = some (year, rest) := by
  rw [Date.yearText]
  split
  next h =>
    obtain ⟨c, cs, hcs⟩ := List.exists_cons_of_ne_nil (Number.padded_ne_nil 4 year.natAbs)
    have hc := Number.isDigit_of_mem_padded (hcs ▸ List.mem_cons_self ..)
    rw [hcs, List.cons_append, readYear?_digit hc, ← List.cons_append, ← hcs,
      readNumber?_padded hr (by norm_num) le_rfl (by norm_num) (by omega), Option.map_some]
    simp only [Int.natAbs_of_nonneg h.1]
  next h =>
    have hread := readNumber?_signed year.natAbs hr
    rw [String.toList_append, List.append_assoc]
    split
    next hy =>
      have hval : -(year.natAbs : ℤ) = year := by omega
      simp only [String.reduceToList, List.cons_append, List.nil_append, readYear?, hread,
        Option.map_some, hval]
    next hy =>
      have hval : (year.natAbs : ℤ) = year := Int.natAbs_of_nonneg (not_lt.mp hy)
      simp only [String.reduceToList, List.cons_append, List.nil_append, readYear?, hread,
        Option.map_some, hval]

theorem dropWhile_yearText (year : ℤ) (rest : List Char) :
    ((Date.yearText year).toList ++ rest).dropWhile isBlank =
      (Date.yearText year).toList ++ rest := by
  rw [Date.yearText]
  split
  · exact dropWhile_padded ..
  · rw [String.toList_append, List.append_assoc]
    split <;> rfl

/-- Fields with the civil day of a date. -/
def Fields.withDate (f : Fields) (d : Date) : Fields :=
  { f with year := d.civil.year, month := d.civil.month, day := d.civil.day }

/-- The parts of a date take the text of a date off the front. -/
theorem readLayout?_date (d : Date) (layout : List LayoutPart) (f : Fields) {rest : List Char}
    (hr : Stops rest) : readLayout? (dateLayout ++ layout) f (d.text.toList ++ rest) =
      readLayout? layout (f.withDate d) rest := by
  obtain ⟨-, hm, -, hd, -⟩ := Civil.ofDays_spec d.days
  have hday : d.civil.day < 100 := (hd.trans (monthLength_le ..)).trans_lt (by norm_num)
  have hmonth : d.civil.month < 100 := hm.trans_lt (by norm_num)
  have htext : d.text.toList ++ rest = (Date.yearText d.civil.year).toList ++
      '-' :: ((padded 2 d.civil.month).toList ++
        '-' :: ((padded 2 d.civil.day).toList ++ rest)) := by
    simp [Date.text]
  have hdash (cs : List Char) : Stops ('-' :: cs) := Stops.cons (by decide) cs
  rw [htext]
  simp only [dateLayout, List.cons_append, List.nil_append, readLayout?, LayoutPart.read?,
    dropWhile_yearText, readYear?_yearText _ (hdash _), number_padded hmonth (hdash _),
    number_padded hday hr, Option.map_some, Option.bind_some, if_true]
  rfl

/-- A date is read back from its text. -/
theorem Date.ofText?_text {d : Date} (h : d.inRange = true) : ofText? d.text = some d := by
  have hread := readLayout?_date d [] {} Stops.nil
  rw [List.append_nil, List.append_nil] at hread
  rw [ofText?, hread]
  exact ofCivil?_civil h

/-! ### Times of day -/

/-- A time of day outside of leap seconds. -/
structure Clock.IsPlain (c : Clock) : Prop where
  seconds_lt : c.seconds < secondsPerDay
  nanos_lt : c.nanos < nanosPerSecond

/-- A fraction is a point and digits that are read as its nanoseconds, or nothing. -/
theorem fractionText_cases {nanos : ℕ} (h : nanos < nanosPerSecond) :
    (nanos = 0 ∧ fractionText nanos = "") ∨ ∃ ds, (fractionText nanos).toList = '.' :: ds ∧
      (∀ c ∈ ds, isDigit c = true) ∧
      ∀ rest, Stops rest → readNanos? (ds ++ rest) = some (nanos, rest) := by
  have hdigits (width n : ℕ) (hm : width ≤ 9) (hw : 0 < width) (hn : n < 10 ^ width)
      (hv : n * 10 ^ (9 - width) = nanos) : ∃ ds, ("." ++ padded width n).toList = '.' :: ds ∧
        (∀ c ∈ ds, isDigit c = true) ∧
        ∀ rest, Stops rest → readNanos? (ds ++ rest) = some (nanos, rest) :=
    ⟨_, by rw [String.toList_append]; rfl, fun _ => Number.isDigit_of_mem_padded,
      fun rest hr => by rw [readNanos?_padded hr hm hw hn, hv]⟩
  have hlt : nanos < 1000000000 := h
  rw [fractionText]
  split
  next h0 => exact .inl ⟨h0, rfl⟩
  split
  next h3 => exact .inr (hdigits 3 _ (by norm_num) (by norm_num) (by omega) (by norm_num; omega))
  split
  next h6 => exact .inr (hdigits 6 _ (by norm_num) (by norm_num) (by omega) (by norm_num; omega))
  next => exact .inr (hdigits 9 _ le_rfl (by norm_num) h (by norm_num))

namespace Clock

variable {c : Clock} (h : c.IsPlain)

include h

theorem IsPlain.second_eq : c.second = c.seconds % 60 := by
  rw [second, if_pos h.nanos_lt, add_zero]

/-- The parts of a time of day make it up again. -/
theorem IsPlain.ofParts?_parts : ofParts? c.hour c.minute c.second c.nanos = some c := by
  have hs : c.seconds < 86400 := h.seconds_lt
  have hhour : c.hour < 24 ∧ c.minute < 60 ∧ c.nanos < nanosPerSecond := by
    refine ⟨?_, Nat.mod_lt _ (by norm_num), h.nanos_lt⟩
    rw [hour]
    omega
  have hsecond : c.second < 60 := h.second_eq ▸ Nat.mod_lt _ (by norm_num)
  have htotal : c.hour * 3600 + c.minute * 60 + c.second = c.seconds := by
    rw [h.second_eq, hour, minute]
    omega
  rw [ofParts?, if_pos hhour, if_pos hsecond, htotal]

theorem IsPlain.toList_text : c.text.toList = (padded 2 c.hour).toList ++
    ':' :: ((padded 2 c.minute).toList ++ ':' :: ((padded 2 c.second).toList ++
      (fractionText c.nanos).toList)) := by
  have hnanos : c.nanos % nanosPerSecond = c.nanos := Nat.mod_eq_of_lt h.nanos_lt
  simp [text, hnanos]

theorem IsPlain.parts_lt : c.hour < 100 ∧ c.minute < 100 ∧ c.second < 100 := by
  have hs : c.seconds < 86400 := h.seconds_lt
  rw [h.second_eq, hour, minute]
  omega

end Clock

/-- Fields with the parts of a time of day. -/
def Fields.withClock (f : Fields) (c : Clock) : Fields :=
  { f with hour := c.hour, minute := c.minute, second := c.second, nanos := c.nanos }

/-- A fraction stops a number of seconds, and so does what follows if there is none. -/
theorem stops_fraction {nanos : ℕ} (h : nanos < nanosPerSecond) {rest : List Char}
    (hr : Stops rest) :
    Stops ((fractionText nanos).toList ++ rest) := by
  rcases fractionText_cases h with ⟨-, htext⟩ | ⟨ds, htext, -⟩
  · rwa [htext]
  · rw [htext]
    exact Stops.cons (by decide) _

/-- The parts of a time of day take its text off the front. -/
theorem readLayout?_clock {c : Clock} (h : c.IsPlain) (layout : List LayoutPart) {f : Fields}
    (hf : f.nanos = 0) {rest : List Char} (hr : Stops rest) (hp : rest.head? ≠ some '.') :
    readLayout? (secondLayout ++ layout) f (c.text.toList ++ rest) =
      readLayout? layout (f.withClock c) rest := by
  obtain ⟨hhour, hminute, hsecond⟩ := h.parts_lt
  have hcolon (cs : List Char) : Stops (':' :: cs) := Stops.cons (by decide) cs
  rw [h.toList_text]
  simp only [secondLayout, minuteLayout, List.append_assoc, List.cons_append, List.nil_append,
    readLayout?, LayoutPart.read?, number_padded hhour (hcolon _), number_padded hminute (hcolon _),
    number_padded hsecond (stops_fraction h.nanos_lt hr), Option.map_some, Option.bind_some,
    if_true]
  rcases fractionText_cases h.nanos_lt with ⟨h0, htext⟩ | ⟨ds, htext, -, hread⟩
  · have hfields : f.withClock c =
        { f with hour := c.hour, minute := c.minute, second := c.second } := by
      rw [Fields.withClock, h0, ← hf]
    rw [htext, hfields]
    simp only [String.toList_empty, List.nil_append]
    split
    next hdot => exact absurd rfl hp
    next => rfl
  · simp only [htext, List.cons_append, hread rest hr, Option.map_some, Option.bind_some]
    rfl

/-- A time of day is read back from its text. -/
theorem Clock.ofText?_text {c : Clock} (h : c.IsPlain) : ofText? c.text = some c := by
  have hread := readLayout?_clock h [] (f := {}) rfl Stops.nil nofun
  rw [List.append_nil, List.append_nil] at hread
  have hclock : (Fields.withClock {} c).clock? = some c := h.ofParts?_parts
  rw [ofText?, List.findSome?_cons, hread, readLayout?, if_pos List.isEmpty_nil, Option.bind_some,
    hclock]

/-! ### Moments -/

/-- A moment whose date is in range, outside of leap seconds. -/
structure Moment.IsPlain (m : Moment) : Prop where
  date : m.date.inRange = true
  clock : m.clock.IsPlain

namespace Moment

variable {m : Moment}

/-- What a reader has read at the end of the text of a moment. -/
def fields (m : Moment) : Fields := (Fields.withDate {} m.date).withClock m.clock

theorem IsPlain.moment?_fields (h : m.IsPlain) : m.fields.moment? = some m := by
  have hdate : m.fields.date? = some m.date := Date.ofCivil?_civil h.date
  have hclock : m.fields.clock? = some m.clock := h.clock.ofParts?_parts
  rw [Fields.moment?, hdate, hclock]
  rfl

theorem toList_isoText (m : Moment) :
    m.isoText.toList = m.date.text.toList ++ 'T' :: m.clock.text.toList := by
  simp [isoText]

theorem stops_t (cs : List Char) : Stops ('T' :: cs) := Stops.cons (by decide) cs

/-- Neither blanks nor an hour begin with the letter between date and time. -/
theorem readLayout?_gap_t (layout : List LayoutPart) (f : Fields) (cs : List Char) :
    readLayout? (.gap :: .hour :: layout) f ('T' :: cs) = none := by
  have hblank : isBlank 'T' = false := by decide
  have hdigit : isDigit 'T' = false := by decide
  simp [readLayout?, LayoutPart.read?, LayoutPart.read?.number, readNumber?, hblank, hdigit]

/-- What follows the date and time of a moment is all that is left. -/
theorem readLayout?_iso (h : m.clock.IsPlain) {rest : List Char} (hr : Stops rest)
    (hp : rest.head? ≠ some '.') :
    readLayout? (dateLayout ++ .literal 'T' :: secondLayout) {} (m.isoText.toList ++ rest) =
      if rest.isEmpty then some m.fields else none := by
  have hclock := readLayout?_clock h [] (f := Fields.withDate {} m.date) rfl hr hp
  rw [List.append_nil] at hclock
  rw [toList_isoText, List.append_assoc, List.cons_append, readLayout?_date _ _ _ (stops_t _),
    readLayout?]
  simp only [LayoutPart.read?, if_true, Option.bind_some, hclock]
  rw [readLayout?, fields]

/-- A type without zone takes the date and time of a moment, with nothing behind them. -/
theorem ofText?_iso (h : m.IsPlain) {rest : List Char} (hr : Stops rest)
    (hp : rest.head? ≠ some '.') : ofText? (m.isoText ++ String.ofList rest) =
      if rest.isEmpty then some m else none := by
  have htext : (m.isoText ++ String.ofList rest).toList = m.isoText.toList ++ rest := by simp
  have hgap (layout : List LayoutPart) : readLayout? (dateLayout ++ .gap :: .hour :: layout) {}
      (m.isoText.toList ++ rest) = none := by
    rw [toList_isoText, List.append_assoc, List.cons_append, readLayout?_date _ _ _ (stops_t _)]
    exact readLayout?_gap_t ..
  have hsecond : readLayout? (dateLayout ++ .gap :: secondLayout) {}
      (m.isoText.toList ++ rest) = none := hgap _
  have hminute : readLayout? (dateLayout ++ .gap :: minuteLayout) {}
      (m.isoText.toList ++ rest) = none := hgap _
  have hdate : readLayout? dateLayout {} (m.isoText.toList ++ rest) = none := by
    have hread := readLayout?_date m.date [] {} (stops_t (m.clock.text.toList ++ rest))
    rwa [List.append_nil, ← List.cons_append, ← List.append_assoc, ← toList_isoText] at hread
  simp only [ofText?, htext, List.findSome?_cons, hsecond, readLayout?_iso h.clock hr hp, hminute,
    hdate, List.findSome?_nil, Option.bind_none]
  cases rest with
  | nil => simp [h.moment?_fields]
  | cons c rest => rfl

/-- The strict form, field by field. -/
theorem readInternet?_fields {year month day hour minute second nanos : ℕ} (hyear : year < 10 ^ 4)
    (hmonth : month < 10 ^ 2) (hday : day < 10 ^ 2) (hhour : hour < 10 ^ 2)
    (hminute : minute < 10 ^ 2) (hsecond : second < 10 ^ 2) (hnanos : nanos < nanosPerSecond) :
    readInternet? ((padded 4 year).toList ++ '-' :: ((padded 2 month).toList ++ '-' ::
      ((padded 2 day).toList ++ 'T' :: ((padded 2 hour).toList ++ ':' ::
        ((padded 2 minute).toList ++ ':' :: ((padded 2 second).toList ++
          ((fractionText nanos).toList ++ ['Z']))))))) =
      some ⟨year, month, day, hour, minute, second, nanos, 0⟩ := by
  have hdash (cs : List Char) : Stops ('-' :: cs) := Stops.cons (by decide) cs
  have hcolon (cs : List Char) : Stops (':' :: cs) := Stops.cons (by decide) cs
  have hz : Stops ['Z'] := Stops.cons (by decide) []
  have htwo {n : ℕ} (hn : n < 10 ^ 2) {rest : List Char} (hr : Stops rest) :=
    readNumber?_padded hr le_rfl le_rfl (by norm_num) hn
  have hskip (c : Char) (cs : List Char) : readInternet?.skip c (c :: cs) = some cs := if_pos rfl
  have ht (cs : List Char) :
      (if 'T' = 'T' ∨ 'T' = 't' ∨ 'T' = ' ' then some cs else none) = some cs := if_pos (.inl rfl)
  have hoffset : readOffset? .colon ['Z'] = some (0, []) := by decide
  have hbind {α β : Type} {o : Option α} {a : α} (f : α → Option β) (h : o = some a) :
      (o >>= f) = f a := by rw [h]; rfl
  refine (hbind _ (readNumber?_padded (hdash _) le_rfl le_rfl (by norm_num) hyear)).trans ?_
  refine (hbind _ (hskip _ _)).trans ?_
  refine (hbind _ (htwo hmonth (hdash _))).trans ?_
  refine (hbind _ (hskip _ _)).trans ?_
  refine (hbind _ (htwo hday (stops_t _))).trans ?_
  refine (hbind _ (ht _)).trans ?_
  refine (hbind _ (htwo hhour (hcolon _))).trans ?_
  refine (hbind _ (hskip _ _)).trans ?_
  refine (hbind _ (htwo hminute (hcolon _))).trans ?_
  refine (hbind _ (hskip _ _)).trans ?_
  refine (hbind _ (htwo hsecond (stops_fraction hnanos hz))).trans ?_
  rcases fractionText_cases hnanos with ⟨rfl, htext⟩ | ⟨ds, htext, -, hread⟩
  · rw [htext, String.toList_empty, List.nil_append]
    refine (hbind (a := (0, ['Z'])) _ rfl).trans ?_
    refine (hbind _ hoffset).trans ?_
    exact if_pos rfl
  · rw [htext]
    refine (hbind _ (hread _ hz)).trans ?_
    refine (hbind _ hoffset).trans ?_
    exact if_pos rfl

theorem readInternet?_zuluText (h : m.clock.IsPlain)
    (hy : 0 ≤ m.date.civil.year ∧ m.date.civil.year ≤ 9999) :
    readInternet? m.zuluText.toList = some m.fields := by
  obtain ⟨-, hm, -, hd, -⟩ := Civil.ofDays_spec m.date.days
  have hyear : m.date.civil.year.natAbs < 10 ^ 4 := by omega
  have hmonth : m.date.civil.month < 10 ^ 2 := hm.trans_lt (by norm_num)
  have hday : m.date.civil.day < 10 ^ 2 := (hd.trans (monthLength_le ..)).trans_lt (by norm_num)
  obtain ⟨hhour, hminute, hsecond⟩ := h.parts_lt
  have htext : m.zuluText.toList = (padded 4 m.date.civil.year.natAbs).toList ++
      '-' :: ((padded 2 m.date.civil.month).toList ++ '-' :: ((padded 2 m.date.civil.day).toList ++
        'T' :: ((padded 2 m.clock.hour).toList ++ ':' :: ((padded 2 m.clock.minute).toList ++
          ':' :: ((padded 2 m.clock.second).toList ++
            ((fractionText m.clock.nanos).toList ++ ['Z'])))))) := by
    simp [zuluText, isoText, h.toList_text, Date.text, Date.yearText, hy]
  have hval : (m.date.civil.year.natAbs : ℤ) = m.date.civil.year := Int.natAbs_of_nonneg hy.1
  rw [htext, readInternet?_fields hyear hmonth hday hhour hminute hsecond h.nanos_lt, hval]
  rfl

theorem earlier_zero (h : m.clock.IsPlain) : m.earlier 0 = m := by
  have hs : m.clock.seconds < 86400 := h.seconds_lt
  have hdays : (m.epochSeconds - 0) / secondsPerDay = m.date.days := by
    simp only [epochSeconds, secondsPerDay]
    omega
  have hseconds : ((m.epochSeconds - 0) % secondsPerDay).toNat = m.clock.seconds := by
    simp only [epochSeconds, secondsPerDay]
    omega
  rw [earlier, ofEpoch, hdays, hseconds]

/-- The years 0 to 9999 are in range. -/
theorem isPlain_of_year (h : m.clock.IsPlain)
    (hy : 0 ≤ m.date.civil.year ∧ m.date.civil.year ≤ 9999) : m.IsPlain := by
  refine ⟨?_, h⟩
  simp only [Date.inRange, Bool.and_eq_true, decide_eq_true_eq]
  exact ⟨le_trans (by decide) hy.1, hy.2.trans (by decide)⟩

/-- A moment of the years 0 to 9999 is read back from its text with the letter of the zone. -/
theorem utcOfText?_zuluText (h : m.clock.IsPlain)
    (hy : 0 ≤ m.date.civil.year ∧ m.date.civil.year ≤ 9999) : utcOfText? m.zuluText = some m := by
  have hplain := isPlain_of_year h hy
  have hutc : m.fields.utcMoment? = some m := by
    have hoffset : m.fields.offset = 0 := rfl
    rw [Fields.utcMoment?, hplain.moment?_fields, hoffset]
    simp only [Option.bind_eq_bind, Option.bind_some, earlier_zero h]
    rw [if_pos ⟨by decide, hplain.date⟩]
  rw [utcOfText?, readInternet?_zuluText h hy, Option.bind_some, hutc]
  rfl

end Moment

/-! ### Blanks -/

theorem Date.solid_text (d : Date) : Text.Solid d.text.toList := by
  have hyear : Text.Solid (yearText d.civil.year).toList := by
    rw [yearText]
    split
    · exact Text.Solid.padded _ _
    · rw [String.toList_append]
      refine Text.Solid.append ?_ (Text.Solid.padded _ _)
      split <;> decide
  have hdash : Text.Solid "-".toList := by decide
  simp only [text, String.toList_append]
  exact (((hyear.append hdash).append (Text.Solid.padded _ _)).append hdash).append
    (Text.Solid.padded _ _)

theorem Clock.IsPlain.solid_text {c : Clock} (h : c.IsPlain) : Text.Solid c.text.toList := by
  have hfraction : Text.Solid (fractionText c.nanos).toList := by
    rcases fractionText_cases h.nanos_lt with ⟨-, htext⟩ | ⟨ds, htext, hds, -⟩
    · rw [htext]
      decide
    · rw [htext]
      exact Text.Solid.cons (by decide) (Text.Solid.digits hds)
  have hpadded (n : ℕ) := Text.Solid.padded 2 n
  rw [h.toList_text]
  exact (hpadded _).append (.cons (by decide) ((hpadded _).append (.cons (by decide)
    ((hpadded _).append hfraction))))

theorem Moment.solid_isoText {m : Moment} (h : m.clock.IsPlain) : Text.Solid m.isoText.toList := by
  rw [toList_isoText]
  exact (Date.solid_text _).append (.cons (by decide) h.solid_text)

theorem Moment.solid_zuluText {m : Moment} (h : m.clock.IsPlain) :
    Text.Solid m.zuluText.toList := by
  rw [zuluText, String.toList_append]
  exact (solid_isoText h).append (by decide)

end SqlGateway.Time
