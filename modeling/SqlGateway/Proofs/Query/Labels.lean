import SqlGateway.Proofs.Query.Clauses
import SqlGateway.Proofs.Work.Ends
import SqlGateway.Engine.Read
import SqlGateway.Query.Run
import SqlGateway.Server.Binding

/-! Labels of projected columns, and what a row keeps of them. A label is the alias, a dot and the
    name, inside the function if there is one, and nothing in it is quoted; so two aliases may come
    to one label where one of them goes on from the other with a dot:

        alias a      name b.c     label a.b.c
        alias a.b    name c       label a.b.c

    or where the alias of a plain column opens like a function. Apart from these, columns with one
    label are one expression. A row holds one value for each label, the last one read, so what it
    keeps of an expression hangs on the label alone. -/

namespace SqlGateway

open Statement

/-! ### Rows -/

namespace Row

variable {label other : String} {value : Value} {row : Row}

theorem lookup_insert_self : (insert label value row).lookup label = some value := by
  induction row with
  | nil => simp [insert]
  | cons cell row ih =>
    obtain ⟨l, v⟩ := cell
    rw [insert]
    split
    · simp
    · split
      · simp
      · next hl _ =>
        have hb : (label == l) = false := beq_false_of_ne hl
        rw [List.lookup_cons, hb]
        exact ih

theorem lookup_insert_of_ne (h : other ≠ label) :
    (insert label value row).lookup other = row.lookup other := by
  have hb : (other == label) = false := beq_false_of_ne h
  induction row with
  | nil => simp [insert, List.lookup_cons, hb]
  | cons cell row ih =>
    obtain ⟨l, v⟩ := cell
    rw [insert]
    split
    · next hl => simp [List.lookup_cons, ← hl, hb]
    · split
      · simp [List.lookup_cons, hb]
      · rw [List.lookup_cons, List.lookup_cons, ih]

/-- Of cells with one label the last one stays. -/
theorem lookup_ofCells (cells : List (String × Value)) (label : String) :
    (ofCells cells).lookup label = cells.reverse.lookup label := by
  rw [ofCells, ← List.foldr_reverse]
  induction cells.reverse with
  | nil => rfl
  | cons cell cells ih =>
    obtain ⟨l, v⟩ := cell
    rw [List.foldr_cons, List.lookup_cons]
    by_cases h : label = l
    · subst h
      simp [lookup_insert_self]
    · rw [lookup_insert_of_ne h, ih, beq_false_of_ne h]

/-- A label that was read has a value that was read under it. -/
theorem exists_lookup_ofCells {labels : List String} {values : List Value}
    (hl : values.length = labels.length) {i : Nat} (hi : i < labels.length) :
    ∃ j, ∃ hj : j < labels.length, labels[j] = labels[i] ∧
      (ofCells (labels.zip values)).lookup labels[i] = some values[j] := by
  have hm : (labels[i], values[i]) ∈ (labels.zip values).reverse := by
    refine List.mem_reverse.mpr (List.mem_iff_getElem.mpr ⟨i, ?_, ?_⟩)
    · simp [hl, hi]
    · simp
  have hs : ((labels.zip values).reverse.lookup labels[i]).isSome :=
    List.lookup_isSome_iff.mpr ⟨_, hm, by simp⟩
  obtain ⟨v, hv⟩ := Option.isSome_iff_exists.mp hs
  obtain ⟨front, back, he, -⟩ := List.lookup_eq_some_iff.mp hv
  have hv' : (labels[i], v) ∈ labels.zip values := by
    rw [← List.mem_reverse, he]
    simp
  obtain ⟨j, hj, hjv⟩ := List.mem_iff_getElem.mp hv'
  rw [List.getElem_zip, Prod.mk.injEq] at hjv
  have hjl : j < labels.length := by
    simp at hj
    omega
  exact ⟨j, hjl, hjv.1, by rw [lookup_ofCells, hv, hjv.2]⟩

end Row

/-! ### Labels -/

/-- A column as labels spell it. -/
def Qualified.text (c : Qualified) : String := c.aliasName ++ "." ++ c.column

/-- The alias of the other column goes on from this one with a dot and what this column begins
    with. -/
def Qualified.GoesOn (c c' : Qualified) : Prop :=
  ∃ m, c'.aliasName = c.aliasName ++ "." ++ m ∧ c.column = m ++ "." ++ c'.column

/-- A plain column reads like a function of another column: its alias opens like the function, and
    what follows in it is the other column and a closing parenthesis. -/
def Qualified.ReadsAs (f : Aggregate) (c c' : Qualified) : Prop :=
  ∃ m, c.aliasName = f.name ++ "(" ++ m ∧
    m ++ "." ++ c.column = c'.text ++ ")"

/-- Different expressions with one label: both are plain or of one function and one column goes on
    from the other, or one is plain and reads like the function of the other. -/
def Expression.Clashes (e e' : Expression) : Prop :=
  (e.aggregate = e'.aggregate ∧ (e.target.GoesOn e'.target ∨ e'.target.GoesOn e.target)) ∨
  (e.aggregate = none ∧ ∃ f ∈ e'.aggregate, e.target.ReadsAs f e'.target) ∨
  (e'.aggregate = none ∧ ∃ f ∈ e.aggregate, e'.target.ReadsAs f e.target)

/-- Where a text is cut at a dot in two ways, the cuts are the same or one goes on from the other. -/
theorem cut_at_dot_iff {a a' n n' : List Char} : a ++ '.' :: n = a' ++ '.' :: n' ↔
    (a = a' ∧ n = n') ∨ (∃ m, a' = a ++ '.' :: m ∧ n = m ++ '.' :: n') ∨
      ∃ m, a = a' ++ '.' :: m ∧ n' = m ++ '.' :: n := by
  constructor
  · intro h
    rcases List.append_eq_append_iff.mp h with ⟨m, rfl, hm⟩ | ⟨m, rfl, hm⟩
    · cases m with
      | nil => exact Or.inl (by simpa using hm)
      | cons c m =>
        obtain ⟨rfl, rfl⟩ := List.cons.inj hm
        exact Or.inr (Or.inl ⟨m, rfl, rfl⟩)
    · cases m with
      | nil => exact Or.inl (by simpa using hm.symm)
      | cons c m =>
        obtain ⟨rfl, rfl⟩ := List.cons.inj hm
        exact Or.inr (Or.inr ⟨m, rfl, rfl⟩)
  · rintro (⟨rfl, rfl⟩ | ⟨m, rfl, rfl⟩ | ⟨m, rfl, rfl⟩)
    · rfl
    · simp
    · simp

theorem Qualified.text_eq_iff {c c' : Qualified} :
    c.text = c'.text ↔ c = c' ∨ c.GoesOn c' ∨ c'.GoesOn c := by
  have hgoes (c c' : Qualified) : c.GoesOn c' ↔
      ∃ m, c'.aliasName.toList = c.aliasName.toList ++ '.' :: m ∧
        c.column.toList = m ++ '.' :: c'.column.toList := by
    constructor
    · rintro ⟨m, ha, hn⟩
      exact ⟨m.toList, by simp [ha], by simp [hn]⟩
    · rintro ⟨m, ha, hn⟩
      refine ⟨String.ofList m, ?_, ?_⟩
      · rw [← String.toList_inj, ha]
        simp
      · rw [← String.toList_inj, hn]
        simp
  have heq : c = c' ↔
      c.aliasName.toList = c'.aliasName.toList ∧ c.column.toList = c'.column.toList := by
    obtain ⟨a, n⟩ := c
    obtain ⟨a', n'⟩ := c'
    rw [Qualified.mk.injEq, String.toList_inj, String.toList_inj]
  rw [heq, hgoes, hgoes, ← cut_at_dot_iff, ← String.toList_inj]
  simp [text]

/-- What begins with a text without a dot is still in its first part when that ends. -/
theorem prefix_of_cut {a n f y : List Char} (hf : '.' ∉ f) (h : a ++ '.' :: n = f ++ y) :
    f <+: a := by
  rcases List.append_eq_append_iff.mp h with ⟨m, rfl, hm⟩ | ⟨m, rfl, -⟩
  · cases m with
    | nil => simp
    | cons c m =>
      obtain ⟨rfl, -⟩ := List.cons.inj hm
      simp at hf
  · exact List.prefix_append f m

theorem Qualified.text_eq_function_iff {c c' : Qualified} {f : Aggregate} :
    c.text = f.name ++ "(" ++ c'.text ++ ")" ↔ c.ReadsAs f c' := by
  constructor
  · intro h
    have hdot : '.' ∉ (f.name ++ "(").toList := by cases f <;> decide
    have hl : c.aliasName.toList ++ '.' :: c.column.toList =
        (f.name ++ "(").toList ++ (c'.text ++ ")").toList := by
      simpa [text] using congrArg String.toList h
    obtain ⟨m, hm⟩ := prefix_of_cut hdot hl
    rw [← hm, List.append_assoc, List.append_cancel_left_eq] at hl
    refine ⟨String.ofList m, ?_, ?_⟩
    · rw [← String.toList_inj, ← hm]
      simp
    · rw [← String.toList_inj, ← hl]
      simp
  · rintro ⟨m, ha, hm⟩
    rw [text, ha]
    simp only [String.append_assoc] at hm ⊢
    rw [hm]

theorem function_text_inj {f f' : Aggregate} {t t' : String} :
    f.name ++ "(" ++ t ++ ")" = f'.name ++ "(" ++ t' ++ ")" ↔ f = f' ∧ t = t' := by
  constructor
  · intro h
    have hl := congrArg String.toList h
    cases f <;> cases f' <;> simp [Aggregate.name] at hl ⊢ <;>
      exact String.toList_inj.mp hl
  · rintro ⟨rfl, rfl⟩
    rfl

/-- The label of an expression. -/
def Expression.label (e : Expression) : String :=
  match e.aggregate with
  | some f => f.name ++ "(" ++ e.target.text ++ ")"
  | none => e.target.text

theorem ColumnRef.label_eq (c : ColumnRef) (root : TableKey) :
    c.label root = (c.expression root).label := rfl

theorem Expression.label_eq_iff {e e' : Expression} :
    e.label = e'.label ↔ e = e' ∨ e.Clashes e' := by
  obtain ⟨t, f⟩ := e
  obtain ⟨t', f'⟩ := e'
  simp only [label, Clashes, Expression.mk.injEq]
  cases f with
  | none =>
    cases f' with
    | none => simp [Qualified.text_eq_iff]
    | some f' => simp [Qualified.text_eq_function_iff]
  | some f =>
    cases f' with
    | none => simp [eq_comm (b := t'.text), Qualified.text_eq_function_iff]
    | some f' =>
      simp only [function_text_inj, Qualified.text_eq_iff, Option.some.injEq, reduceCtorEq,
        false_and, or_false]
      rw [and_comm, or_and_right, and_comm (a := f = f')]

/-- Columns have one label if they are one expression or their expressions clash. -/
theorem ColumnRef.label_eq_iff {c c' : ColumnRef} {root : TableKey} :
    c.label root = c'.label root ↔ c.expression root = c'.expression root ∨
      (c.expression root).Clashes (c'.expression root) := by
  rw [label_eq, label_eq, Expression.label_eq_iff]

/-! ### Rows that are read -/

/-- A row of one value for each label. -/
def Row.IsUnder (labels : List String) (row : Row) : Prop :=
  ∃ values, values.length = labels.length ∧ row = Row.ofCells (labels.zip values)

theorem Row.isUnder_of_map {labels : List String} {cells : List (String × Value)}
    (h : cells.map Prod.fst = labels) : IsUnder labels (ofCells cells) := by
  subst h
  refine ⟨cells.map Prod.snd, by simp, congrArg ofCells ?_⟩
  rw [List.zip_map', List.map_id']

/-- The rows of a reply stand under the labels of the reply. -/
theorem Server.Reply.isUnder_valueRows {driver : Driver} {r : Server.Reply}
    (hl : ∀ cells ∈ r.rows, cells.length = r.columns.length) :
    ∀ row ∈ r.valueRows driver, row.IsUnder (r.columns.map Prod.fst) := by
  intro row hrow
  obtain ⟨cells, hc, rfl⟩ := List.mem_map.mp hrow
  have hz : ((r.columns.zip cells).map Prod.fst).map Prod.fst = r.columns.map Prod.fst := by
    rw [List.map_fst_zip (Nat.le_of_eq (hl cells hc).symm)]
  refine Row.isUnder_of_map ?_
  rw [← hz, List.map_map, List.map_zipWith, List.map_zip_eq_zipWith]
  rfl

theorem mem_of_mapM {ε α β : Type} {f : α → Except ε β} {as : List α} {bs : List β}
    (h : as.mapM f = .ok bs) {b : β} (hb : b ∈ bs) : ∃ a ∈ as, f a = .ok b := by
  induction as generalizing bs with
  | nil =>
    obtain rfl := pure_eq_ok_iff.mp h
    nomatch hb
  | cons a as ih =>
    simp only [List.mapM_cons, bind_eq_ok_iff, pure_eq_ok_iff] at h
    obtain ⟨c, hc, cs, hcs, rfl⟩ := h
    rcases List.mem_cons.mp hb with rfl | hb
    · exact ⟨a, List.mem_cons_self, hc⟩
    · obtain ⟨a', ha, hf⟩ := ih hcs hb
      exact ⟨a', List.mem_cons_of_mem _ ha, hf⟩

/-- Work on the values behind labels leaves the labels. -/
theorem map_fst_of_mapM {ε α β : Type} {f : α → Except ε β} {g : α → String} {as : List α}
    {bs : List (String × β)} (h : (as.mapM fun a => do return (g a, ← f a)) = .ok bs) :
    bs.map Prod.fst = as.map g := by
  induction as generalizing bs with
  | nil =>
    obtain rfl := pure_eq_ok_iff.mp h
    rfl
  | cons a as ih =>
    simp only [List.mapM_cons, bind_eq_ok_iff, pure_eq_ok_iff] at h
    obtain ⟨_, ⟨b, -, rfl⟩, cs, hcs, rfl⟩ := h
    rw [List.map_cons, List.map_cons, ih (by simpa only [bind_eq_ok_iff, pure_eq_ok_iff] using hcs)]

theorem Engine.mem_of_mem_window {α : Type} {skipped : Nat} {kept : Option Nat} {a : α}
    {as : List α} (h : a ∈ window skipped kept as) : a ∈ as := by
  cases kept with
  | none => exact List.mem_of_mem_drop h
  | some n => exact List.mem_of_mem_drop (List.mem_of_mem_take h)

/-- The rows that a database reads with a plan stand under the labels of the plan. -/
theorem Engine.Database.isUnder_read {db : Engine.Database} {p : SelectPlan} {rows : List Row}
    (h : db.read p = .ok rows) :
    ∀ row ∈ rows, row.IsUnder (p.projections.map Projection.label) := by
  intro row hrow
  simp only [Engine.Database.read, bind_eq_ok_iff] at h
  obtain ⟨sources, -, projections, hp, filters, -, joins, -, sortKeys, -, groupKeys, -, -, -,
    ⟨skipped, kept⟩, -, h⟩ := h
  split at h
  · obtain rfl := pure_eq_ok_iff.mp h
    nomatch hrow
  · simp only [bind_eq_ok_iff, pure_eq_ok_iff] at h
    obtain ⟨results, hr, rfl⟩ := h
    obtain ⟨result, hm, rfl⟩ := List.mem_map.mp (mem_of_mem_window hrow)
    obtain ⟨group, -, hg⟩ := mem_of_mapM hr (List.mem_mergeSort.mp hm)
    simp only [bind_eq_ok_iff, pure_eq_ok_iff] at hg
    obtain ⟨sortCells, -, cells, hc, rfl⟩ := hg
    exact Row.isUnder_of_map ((map_fst_of_mapM hc).trans (map_fst_of_mapM hp))

/-- What a query that reads comes to has the labels of the query for its columns. -/
theorem Runner.columns_runWithin {σ H : Type} {r : Runner σ H} {limit : Nat} {h : H} {q : Query}
    (hk : q.kind = .select) {st st' : σ} {result : QueryResult}
    (hr : r.runWithin limit h q st = (.done result, st')) : result.columns = q.labels := by
  obtain ⟨p, t, hp, he⟩ := Work.bind_eq_done_iff.mp hr
  have hq : p = q.plan := by
    rw [Runner.plan, Work.ofExcept] at hp
    cases ho : Plan.ofQuery (r.dialect h) q with
    | error e => simp [ho, Except.mapError, Outcome.ofExcept] at hp
    | ok p' =>
      simp only [ho, Except.mapError, Outcome.ofExcept, Prod.mk.injEq, Outcome.done.injEq] at hp
      rw [← hp.1]
      exact ((Plan.ofQuery_eq_ok_iff _ _).mp ho).2
  have hs : p = .select q.selectPlan := by rw [hq, Query.plan, hk]
  rw [hs, Work.withDeadline] at he
  obtain ⟨ho, -⟩ := Prod.mk.inj he
  have hd : (r.execute h q (.select q.selectPlan) t).1 = .done result := by
    cases hx : (r.execute h q (.select q.selectPlan) t).1 <;>
      simp_all [Outcome.withDeadline]
  obtain ⟨rows, u, -, hp⟩ := Work.bind_eq_done_iff.mp (Prod.ext hd rfl)
  obtain ⟨rfl, -⟩ := Work.pure_eq_done_iff.mp hp
  rfl

namespace Query

/-- The columns of an accepted select have the labels that its result lists. Columns have one label
    if they are one expression or clash, and only then. An expression whose label no other projected
    one has keeps an entry of its own in every row, with a value that was read for it. -/
theorem projections_keep_entries {d : Dialect} {q : Query} {s : Statement} (hk : q.kind = .select)
    (h : q.compile d = .ok s) :
    (∃ rest, s.clauses? d = some (⟨"SELECT", [.mark ","].intercalate (q.columns.map fun c =>
      Plan.expressionParts (c.expression q.root) ++ [.identifier (c.label q.root)])⟩ :: rest)) ∧
    (∀ {σ H : Type} (r : Runner σ H) (limit : Nat) (x : H) (st st' : σ) (result : QueryResult),
      r.runWithin limit x q st = (.done result, st') →
        result.columns = q.columns.map (·.label q.root)) ∧
    (∀ c ∈ q.columns, ∀ c' ∈ q.columns, c.label q.root = c'.label q.root ↔
      c.expression q.root = c'.expression q.root ∨
        (c.expression q.root).Clashes (c'.expression q.root)) ∧
    (∀ (values : List Value) (hl : values.length = q.columns.length) (i : Nat)
      (hi : i < q.columns.length),
      (∀ c ∈ q.columns, c.label q.root = q.columns[i].label q.root →
        c.expression q.root = q.columns[i].expression q.root) →
      ∃ j, ∃ hj : j < q.columns.length,
        q.columns[j].expression q.root = q.columns[i].expression q.root ∧
        (Row.ofCells (q.labels.zip values)).lookup (q.columns[i].label q.root) =
          some values[j]) ∧
    (∀ (db : Engine.Database) (rows : List Row), db.read q.selectPlan = .ok rows →
      ∀ row ∈ rows, row.IsUnder q.labels) ∧
    ∀ (driver : Driver) (r : Server.Reply), r.columns.map Prod.fst = q.labels →
      (∀ cells ∈ r.rows, cells.length = r.columns.length) →
        ∀ row ∈ r.valueRows driver, row.IsUnder q.labels := by
  have hlabels : q.selectPlan.projections.map Projection.label = q.labels := by
    simp [selectPlan, labels, ColumnRef.projection]
  refine ⟨?_, fun r limit x st st' result => r.columns_runWithin hk,
    fun c _ c' _ => ColumnRef.label_eq_iff, ?_, ?_, ?_⟩
  · have hp : q.selectPlan.projections.map Plan.projectionParts = q.columns.map fun c =>
        Plan.expressionParts (c.expression q.root) ++ [.identifier (c.label q.root)] := by
      simp [selectPlan, Plan.projectionParts, ColumnRef.projection]
    rw [clauses?_compile h, plan, hk, Plan.clauses, Plan.selectClauses, hp]
    exact ⟨_, rfl⟩
  · intro values hl i hi hn
    have hc : q.labels.length = q.columns.length := by simp [labels]
    obtain ⟨j, hj, hlj, hv⟩ := Row.exists_lookup_ofCells (hl.trans hc.symm) (hc.symm ▸ hi)
    rw [hc] at hj
    simp only [labels, List.getElem_map] at hlj hv
    exact ⟨j, hj, hn _ (List.getElem_mem hj) hlj, hv⟩
  · intro db rows hr
    exact hlabels ▸ Engine.Database.isUnder_read hr
  · intro driver r hr hc
    exact hr ▸ Server.Reply.isUnder_valueRows hc

/-- Reads `b.c` of a table `a` and `c` of a table `a.b`. -/
def dotted : Query where
  kind := .select
  table := .node ⟨"a", 0⟩
    [.mk .inner [⟨{ name := "k" }, .eq, { table := some ⟨"a.b", 0⟩, name := "k" }⟩]
      (.leaf ⟨"a.b", 0⟩)]
  columns := [{ name := "b.c" }, { table := some ⟨"a.b", 0⟩, name := "c" }]

/-- Two expressions come to one label, and a row keeps the value of the second one alone. -/
theorem projections_lose_entry_dotted : ∃ s, dotted.compile .sqlite = .ok s ∧
    ∃ c ∈ dotted.columns, ∃ c' ∈ dotted.columns,
      c.label dotted.root = c'.label dotted.root ∧
      c.expression dotted.root ≠ c'.expression dotted.root ∧
      ∀ v v', Row.ofCells (dotted.labels.zip [v, v']) = [("a.b.c", v')] := by
  have hc : { name := "b.c" } ∈ dotted.columns := by simp [dotted]
  have hc' : { table := some ⟨"a.b", 0⟩, name := "c" } ∈ dotted.columns := by simp [dotted]
  refine ⟨_, rfl, _, hc, _, hc', by decide, by decide, fun v v' => ?_⟩
  have hl : dotted.labels = ["a.b.c", "a.b.c"] := by decide
  rw [hl]
  rfl

/-- Reads a column and how many rows have it. -/
def counted : Query :=
  ((on .select "t").addColumn { name := "a.b" }).addColumn
    { name := "a.b", aggregate := some .count }

theorem projections_keep_entries_counted : ∃ s, counted.compile .mysql = .ok s ∧
    ∀ v v', (Row.ofCells (counted.labels.zip [v, v'])).lookup "t.a.b" = some v := by
  obtain ⟨s, hs⟩ : ∃ s, counted.compile .mysql = .ok s := ⟨_, rfl⟩
  obtain ⟨-, -, -, hrows, -⟩ := projections_keep_entries rfl hs
  refine ⟨s, hs, fun v v' => ?_⟩
  obtain ⟨j, hj, he, hv⟩ := hrows [v, v'] rfl 0 (by decide) (by decide)
  cases j with
  | zero => exact hv
  | succ j =>
    have hl : counted.columns.length = 2 := rfl
    obtain rfl : j = 0 := by omega
    have ha : some Aggregate.count = none := congrArg Expression.aggregate he
    nomatch ha

end Query

end SqlGateway
