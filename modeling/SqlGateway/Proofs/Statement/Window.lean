import SqlGateway.Engine.Read
import SqlGateway.Proofs.Number.IntegerText
import SqlGateway.Proofs.Statement.Meaning

/-! Windows as the servers read them. A window stands at the end of a statement and its bounds are
    literals, which the server takes or refuses:

        limit    offset    Postgres     Mysql                             Sqlite
        10       5         LIMIT 10 …   LIMIT 10 …                        LIMIT 10 OFFSET 5
        -        5         OFFSET 5     LIMIT 18446744073709551615 …      LIMIT -1 OFFSET 5

        bounds taken       [0, 2^63)    [0, 2^64)                         [-2^63, 2^63)

    Whatever stands for no limit, the rows shown are those from the offset on, up to the limit, if
    the server takes the bounds. A bound of 2^63 or more is written down as it is, and only MySQL
    takes it. -/

namespace SqlGateway

open Statement

/-! ### Servers -/

namespace Dialect

/-- Does the server take the integer as a bound of a window? -/
def takes (d : Dialect) (n : ℤ) : Bool :=
  match d with
  | .postgres => 0 ≤ n && Number.fitsSigned 64 n
  | .mysql => 0 ≤ n && n < 2 ^ 64
  | .sqlite => Number.fitsSigned 64 n

/-- The bound that stands in a clause, if the server takes it. -/
def bound? (d : Dialect) (body : List Part) : Option ℤ :=
  match body with
  | [.number text] => (Number.readInteger? text).filter d.takes
  | _ => none

/-- Rows up to a limit. A negative limit is none. -/
def upTo {α : Type} (limit : ℤ) (rows : List α) : List α :=
  if limit < 0 then rows else rows.take limit.toNat

/-- Which of the rows the server shows of a window; none if it refuses the window. PostgreSQL alone
    knows an offset without a limit, and SQLite does not look at the offset where the limit is
    zero. -/
def shown? {α : Type} (d : Dialect) (window : List Clause) (rows : List α) : Option (List α) :=
  match window with
  | [] => some rows
  | [⟨"LIMIT", limit⟩] => (d.bound? limit).map fun n => upTo n rows
  | [⟨"OFFSET", offset⟩] =>
    if d = .postgres then (d.bound? offset).map fun m => rows.drop m.toNat else none
  | [⟨"LIMIT", limit⟩, ⟨"OFFSET", offset⟩] =>
    (d.bound? limit).bind fun n =>
      if d = .sqlite ∧ n = 0 then some []
      else (d.bound? offset).map fun m => upTo n (rows.drop m.toNat)
  | _ => none

/-- Does the server take a bound as it is written down? -/
def Admits (d : Dialect) (bound : Option UInt64) : Prop :=
  d = .mysql ∨ ∀ n ∈ bound, n.toNat < 2 ^ 63

instance (d : Dialect) (bound : Option UInt64) : Decidable (d.Admits bound) :=
  inferInstanceAs (Decidable (_ ∨ _))

end Dialect

/-- Is the clause one of a window? -/
def Statement.Clause.isWindow (c : Clause) : Bool := c.head == "LIMIT" || c.head == "OFFSET"

/-- Which rows the server shows of those that a statement has before its window. -/
def Statement.shown? {α : Type} (d : Dialect) (s : Statement) (rows : List α) : Option (List α) :=
  (s.clauses? d).bind fun cs => d.shown? (cs.dropWhile (!·.isWindow)) rows

/-! ### Bounds -/

namespace Dialect

variable {d : Dialect}

theorem takes_word (d : Dialect) (n : UInt64) :
    d.takes n.toNat = decide (d = .mysql ∨ n.toNat < 2 ^ 63) := by
  have hn := n.toNat_lt
  rw [Bool.eq_iff_iff, decide_eq_true_iff]
  cases d with
  | mysql =>
    have hlt : (n.toNat : ℤ) < 2 ^ 64 := by exact_mod_cast hn
    simpa [takes] using hlt
  | postgres | sqlite =>
    simp only [takes, Bool.and_eq_true, decide_eq_true_eq, Json.fitsSigned_iff, reduceCtorEq,
      false_or]
    omega

/-- A bound is read as it is, if the server takes it. -/
theorem bound?_word (d : Dialect) (n : UInt64) : d.bound? [.number (Number.natText n.toNat)] =
    if d.Admits (some n) then some (n.toNat : ℤ) else none := by
  rw [bound?, Number.readInteger?_natText, Option.filter_some, takes_word]
  simp [Admits]

theorem admits_none (d : Dialect) : d.Admits none := Or.inr nofun

theorem upTo_word {α : Type} (n : UInt64) (rows : List α) :
    upTo n.toNat rows = rows.take n.toNat := if_neg (by omega)

/-- A limit of less than nothing, or of as many rows as there are, shows all of them. -/
theorem upTo_of_le {α : Type} {n : ℤ} {rows : List α} (h : n < 0 ∨ (rows.length : ℤ) ≤ n) :
    upTo n rows = rows := by
  rw [upTo]
  split
  · rfl
  · exact List.take_of_length_le (by omega)

/-- What stands for no limit is taken by the server: less than nothing on SQLite, more rows than
    there can be on MySQL. -/
theorem bound?_unbounded {text : String} (h : d.unboundedLimit = some text) :
    ∃ n, d.bound? [.number text] = some n ∧ (n < 0 ∨ (2 ^ 63 : ℤ) ≤ n) := by
  cases d with
  | postgres => nomatch h
  | mysql =>
    obtain rfl := Option.some.inj h
    exact ⟨18446744073709551615, by decide, Or.inr (by decide)⟩
  | sqlite =>
    obtain rfl := Option.some.inj h
    exact ⟨-1, by decide, Or.inl (by decide)⟩

/-! ### Windows -/

section Windows

open Plan (windowClauses limitText?)

variable {α : Type} (d : Dialect) (rows : List α)

theorem shown?_limit (limit : List Part) :
    d.shown? [⟨"LIMIT", limit⟩] rows = (d.bound? limit).map fun n => upTo n rows := by
  simp only [shown?]

theorem shown?_offset (offset : List Part) : d.shown? [⟨"OFFSET", offset⟩] rows =
    if d = .postgres then (d.bound? offset).map fun m => rows.drop m.toNat else none := by
  simp only [shown?]

theorem shown?_limit_offset (limit offset : List Part) :
    d.shown? [⟨"LIMIT", limit⟩, ⟨"OFFSET", offset⟩] rows = (d.bound? limit).bind fun n =>
      if d = .sqlite ∧ n = 0 then some []
      else (d.bound? offset).map fun m => upTo n (rows.drop m.toNat) := by
  simp only [shown?]

variable {rows}

/-- Without a limit a window shows the rows from the offset on. -/
theorem shown?_all (m : UInt64) (hr : rows.length < 2 ^ 63) :
    d.shown? (windowClauses d none (some m)) rows =
      if d.Admits (some m) then some (rows.drop m.toNat) else none := by
  cases hd : d.unboundedLimit with
  | none =>
    have hw : windowClauses d none (some m) =
        [⟨"OFFSET", [.number (Number.natText m.toNat)]⟩] := by
      simp [windowClauses, limitText?, hd]
    have hp : d = .postgres := by
      cases d with
      | postgres => rfl
      | mysql | sqlite => simp [unboundedLimit] at hd
    rw [hw, shown?_offset, if_pos hp, bound?_word]
    split <;> rfl
  | some text =>
    have hw : windowClauses d none (some m) =
        [⟨"LIMIT", [.number text]⟩, ⟨"OFFSET", [.number (Number.natText m.toNat)]⟩] := by
      simp [windowClauses, limitText?, hd]
    obtain ⟨n, hn, hall⟩ := bound?_unbounded hd
    have hrest : n < 0 ∨ ((rows.drop m.toNat).length : ℤ) ≤ n := by
      rw [List.length_drop]
      omega
    have hz : ¬ (d = .sqlite ∧ n = 0) := by omega
    rw [hw, shown?_limit_offset, hn, Option.bind_some, if_neg hz, bound?_word]
    split
    · exact congrArg some (upTo_of_le hrest)
    · rfl

/-- A window shows the rows from the offset on, up to the limit, if the server takes both. -/
theorem shown?_windowClauses (limit offset : Option UInt64) (hr : rows.length < 2 ^ 63) :
    d.shown? (windowClauses d limit offset) rows =
      if d.Admits limit ∧ (d.Admits offset ∨ d = .sqlite ∧ limit = some 0) then
        some (windowOf limit offset rows) else none := by
  match limit, offset with
  | none, none =>
    rw [if_pos ⟨admits_none d, Or.inl (admits_none d)⟩]
    rfl
  | none, some m =>
    rw [shown?_all d m hr]
    simp [admits_none, windowOf]
  | some n, none =>
    have hw : windowClauses d (some n) none = [⟨"LIMIT", [.number (Number.natText n.toNat)]⟩] := rfl
    rw [hw, shown?_limit, bound?_word]
    by_cases hn : d.Admits (some n)
    · rw [if_pos hn, if_pos ⟨hn, Or.inl (admits_none d)⟩, Option.map_some, upTo_word]
      rfl
    · rw [if_neg hn, if_neg fun h => hn h.1]
      rfl
  | some n, some m =>
    have hw : windowClauses d (some n) (some m) = [⟨"LIMIT", [.number (Number.natText n.toNat)]⟩,
      ⟨"OFFSET", [.number (Number.natText m.toNat)]⟩] := rfl
    have hz : (n.toNat : ℤ) = 0 ↔ some n = some 0 := by
      rw [Option.some_inj, Int.natCast_eq_zero, ← UInt64.toNat_inj]
      rfl
    rw [hw, shown?_limit_offset, bound?_word, bound?_word]
    by_cases hn : d.Admits (some n)
    · simp only [if_pos hn, Option.bind_some, hz]
      by_cases hs : d = .sqlite ∧ some n = some 0
      · rw [if_pos hs, if_pos ⟨hn, Or.inr hs⟩, hs.2]
        rfl
      · by_cases hm : d.Admits (some m)
        · rw [if_neg hs, if_pos hm, if_pos ⟨hn, Or.inl hm⟩, Option.map_some, upTo_word]
          rfl
        · rw [if_neg hs, if_neg hm, if_neg fun h => h.2.elim hm hs]
          rfl
    · rw [if_neg hn, Option.bind_none, if_neg fun h => hn h.1]

theorem mapM_windowBound {bound : Option UInt64} (h : Dialect.sqlite.Admits bound) :
    bound.mapM Engine.windowBound = .ok (bound.map UInt64.toNat) := by
  cases bound with
  | none => rfl
  | some n =>
    have hn : Engine.windowBound n = .ok n.toNat := if_pos (h.resolve_left nofun n rfl)
    rw [Option.mapM_some, hn]
    rfl

theorem mapM_windowBound_error {bound : Option UInt64} (h : ¬ Dialect.sqlite.Admits bound) :
    bound.mapM Engine.windowBound = .error Engine.mismatch := by
  cases bound with
  | none => exact absurd (admits_none _) h
  | some n =>
    have hn : Engine.windowBound n = .error Engine.mismatch :=
      if_neg fun hlt => h (Or.inr (by simpa using hlt))
    rw [Option.mapM_some, hn]
    rfl

theorem windowOf_eq_window (limit offset : Option UInt64) : windowOf limit offset rows =
    Engine.window ((offset.map UInt64.toNat).getD 0) (limit.map UInt64.toNat) rows := by
  cases limit <;> rfl

/-- The embedded engine shows the rows that SQLite shows of the window as it is written down. -/
theorem shown?_engine (limit offset : Option UInt64) (hr : rows.length < 2 ^ 63) :
    Dialect.sqlite.shown? (windowClauses .sqlite limit offset) rows =
      (Engine.windowBounds limit offset).toOption.map fun (skipped, kept) =>
        Engine.window skipped kept rows := by
  rw [shown?_windowClauses _ _ _ hr, windowOf_eq_window, Engine.windowBounds]
  by_cases hl : Dialect.sqlite.Admits limit
  · rw [mapM_windowBound hl]
    by_cases hz : limit = some 0
    · rw [if_pos ⟨hl, Or.inr ⟨rfl, hz⟩⟩, hz]
      rfl
    · have hs : ¬ (Dialect.sqlite = .sqlite ∧ limit = some 0) := fun h => hz h.2
      have hkept : limit.map UInt64.toNat ≠ some 0 := fun h => by
        obtain ⟨n, rfl, hn⟩ := Option.map_eq_some_iff.mp h
        exact hz (congrArg some (UInt64.toNat_inj.mp hn))
      generalize limit.map UInt64.toNat = kept at hkept ⊢
      by_cases ho : Dialect.sqlite.Admits offset
      · rw [mapM_windowBound ho, if_pos ⟨hl, Or.inl ho⟩]
        match kept with
        | none | some (k + 1) => rfl
      · rw [mapM_windowBound_error ho, if_neg fun h => h.2.elim ho hs]
        match kept with
        | none | some (k + 1) => rfl
  · rw [mapM_windowBound_error hl, if_neg fun h => hl h.1]
    rfl

end Windows

end Dialect

/-! ### Statements -/

namespace Plan

/-- The clauses of a select before its window are none of a window. -/
theorem dropWhile_clauses (d : Dialect) (p : SelectPlan) :
    (selectClauses d p).dropWhile (!·.isWindow) = windowClauses d p.limit p.offset := by
  have hl {head : String} {separator : Part} {items : List (List Part)}
      (h : head ≠ "LIMIT" ∧ head ≠ "OFFSET") (rest : List Clause) :
      (listClause head separator items ++ rest).dropWhile (!·.isWindow) =
        rest.dropWhile (!·.isWindow) := by
    refine List.dropWhile_append_of_pos fun c hc => ?_
    rw [listClause] at hc
    split at hc
    · simp at hc
    · rw [List.mem_singleton.mp hc]
      simp [Clause.isWindow, h]
  have hj : ∀ c ∈ p.joins.map joinClause, (!c.isWindow) = true := by
    intro c hc
    obtain ⟨j, -, rfl⟩ := List.mem_map.mp hc
    rw [joinClause]
    cases j.kind <;> rfl
  have hw : (windowClauses d p.limit p.offset).dropWhile (!·.isWindow) =
      windowClauses d p.limit p.offset := by
    rw [windowClauses]
    cases limitText? d p.limit p.offset <;> cases p.offset <;> rfl
  have hfirst (projections table : List Part) (rest : List Clause) :
      (⟨"SELECT", projections⟩ :: ⟨"FROM", table⟩ :: rest).dropWhile (!·.isWindow) =
        rest.dropWhile (!·.isWindow) := rfl
  rw [selectClauses, hfirst, List.dropWhile_append_of_pos hj, selectEnd, hl (by decide),
    hl (by decide), hl (by decide), hw]

end Plan

namespace Query

variable {α : Type} {q : Query} {d : Dialect} {s : Statement} {rows : List α}

/-- The server shows of a select the rows from its offset on, up to its limit, if it takes both as
    they are written down, and refuses the select otherwise. -/
theorem shown_in_window (hk : q.kind = .select) (h : q.compile d = .ok s)
    (hr : rows.length < 2 ^ 63) :
    s.shown? d rows =
      if d.Admits q.limit ∧ (d.Admits q.offset ∨ d = .sqlite ∧ q.limit = some 0) then
        some (windowOf q.limit q.offset rows) else none := by
  have hc : q.plan.clauses d = Plan.selectClauses d q.selectPlan := by rw [plan, hk]; rfl
  rw [Statement.shown?, clauses?_compile h, hc, Option.bind_some, Plan.dropWhile_clauses]
  exact Dialect.shown?_windowClauses d q.limit q.offset hr

/-- Reads a column, in a window. -/
def sliced (limit offset : Option UInt64) : Query :=
  { (on .select "t").addColumn { name := "a" } with limit := limit, offset := offset }

/-- An offset without a limit on MySQL. -/
theorem shown_in_window_skipping : ∃ s, (sliced none (some 2)).compile .mysql = .ok s ∧
    [1, 2, 3, 4, 5].length < 2 ^ 63 ∧ s.shown? .mysql [1, 2, 3, 4, 5] = some [3, 4, 5] := by
  obtain ⟨s, hs⟩ : ∃ s, (sliced none (some 2)).compile .mysql = .ok s := ⟨_, rfl⟩
  have hr : [1, 2, 3, 4, 5].length < 2 ^ 63 := by decide
  refine ⟨s, hs, hr, ?_⟩
  rw [shown_in_window rfl hs hr, if_pos (by decide)]
  rfl

/-- A limit that no row goes beyond, and that SQLite refuses. -/
theorem shown_in_window_refused : ∃ s,
    (sliced (some 9223372036854775808) none).compile .sqlite = .ok s ∧
    s.shown? .sqlite [1, 2] = none ∧
    windowOf (some 9223372036854775808) none [1, 2] = [1, 2] :=
  ⟨_, rfl, by decide +kernel, by decide⟩

end Query

end SqlGateway
