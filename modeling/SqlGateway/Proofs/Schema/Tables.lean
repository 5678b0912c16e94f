import SqlGateway.Schema.Catalog
import SqlGateway.Proofs.Schema.Runs

/-! Tables that are folded from catalog rows. There is a table for each run of rows with one table
    name, and in it a column for each run of rows with one column name:

        row           run            run in it      column
        a id          a              id             id
        a id pk       .              .              primary key
        a b  fk       .              b              b, foreign key
        c b           c              b              b

    A column is what the rows of its run say together: the first one names its type, any one may
    make it a primary key, and the first foreign key is kept. Where the rows of every table and of
    every column stand together, as the catalog sorts them, this is the grouping of the rows by
    table and column. -/

namespace SqlGateway

/-- The column that rows describe together. -/
def column? (rows : List CatalogRow) : Option Column :=
  rows.head?.map fun first =>
    { name := first.column
      dataType := first.dataType
      isRequired := first.isRequired
      isPrimaryKey := rows.any (·.isPrimaryKey)
      foreignKey := rows.findSome? (·.foreignKey) }

/-- Is the table the one that rows describe together? It has the name of the first one, and a column
    for each run of rows with one column name. -/
structure Describes (rows : List CatalogRow) (t : Table) : Prop where
  name : rows.head?.map (·.table) = some t.name
  columns : List.Forall₂ (fun run c => column? run = some c) (runs (·.column) rows) t.columns

/-- The table of a name: its rows, grouped by column in the order in which the columns occur
    first. -/
def tableOfName (rows : List CatalogRow) (name : String) : Table :=
  let own := rows.filter fun r => r.table = name
  ⟨name, (keysOf (·.column) own).filterMap fun column =>
    column? (own.filter fun r => r.column = column)⟩

/-- The tables of rows that are grouped by table and column. -/
def tablesByName (rows : List CatalogRow) : List Table :=
  (keysOf (·.table) rows).map (tableOfName rows)

/-! ### Folding -/

namespace CatalogRow

variable {r : CatalogRow} {columns : List Column} {c : Column} {tables : List Table} {t : Table}

theorem pushColumn_of_ne (h : columns.getLast?.map (·.name) ≠ some r.column) :
    r.pushColumn columns = columns ++ [r.toColumn] := by
  rw [pushColumn]
  split
  next c hc => rw [if_neg fun hn => h (by rw [hc, Option.map_some, hn])]
  next hc => rw [List.getLast?_eq_none_iff.mp hc, List.nil_append]

theorem pushColumn_of_eq (h : c.name = r.column) :
    r.pushColumn (columns ++ [c]) = columns ++ [r.extend c] := by
  rw [pushColumn, List.getLast?_concat]
  simp only [if_pos h, List.dropLast_concat]

theorem push_of_ne (h : tables.getLast?.map (·.name) ≠ some r.table) :
    push tables r = tables ++ [⟨r.table, r.pushColumn []⟩] := by
  rw [push]
  split
  next t ht => rw [if_neg fun hn => h (by rw [ht, Option.map_some, hn])]; rfl
  next ht => rw [List.getLast?_eq_none_iff.mp ht]; rfl

theorem push_of_eq (h : t.name = r.table) :
    push (tables ++ [t]) r = tables ++ [{ t with columns := r.pushColumn t.columns }] := by
  rw [push, List.getLast?_concat]
  simp only [if_pos h, List.dropLast_concat]

end CatalogRow

/-- A further row of a column adds what it has to say. -/
theorem column?_concat {rows : List CatalogRow} {c : Column} (h : column? rows = some c)
    (r : CatalogRow) : column? (rows ++ [r]) = some (r.extend c) := by
  obtain ⟨first, hf, rfl⟩ := Option.map_eq_some_iff.mp h
  have hhead : (rows ++ [r]).head? = some first := by rw [List.head?_append, hf, Option.some_or]
  have hkey : (rows ++ [r]).any (·.isPrimaryKey) =
      (rows.any (·.isPrimaryKey) || r.isPrimaryKey) := by simp
  have hforeign : (rows ++ [r]).findSome? (·.foreignKey) =
      (rows.findSome? (·.foreignKey) <|> r.foreignKey) := by simp [List.findSome?_append]
  rw [column?, hhead, hkey, hforeign]
  rfl

/-- Columns are folded run by run. -/
theorem foldsRuns_columns : FoldsRuns (·.column) (fun columns r => CatalogRow.pushColumn r columns)
    id (fun columns => columns.getLast?.map (·.name)) (fun run c => column? run = some c) where
  start columns r h := by
    rw [CatalogRow.pushColumn_of_ne h]
    exact ⟨r.toColumn, by simp [column?, CatalogRow.toColumn], rfl, by simp [CatalogRow.toColumn]⟩
  extend columns r entries c run h hout hc := by
    obtain rfl : columns = entries ++ [c] := hout
    have hname : c.name = r.column := by simpa using h
    rw [CatalogRow.pushColumn_of_eq hname]
    exact ⟨r.extend c, column?_concat hc r, rfl, by simpa [CatalogRow.extend] using hname⟩

/-- Tables are folded run by run, and inside a run its rows are folded into columns. -/
theorem foldsRuns_tables : FoldsRuns (·.table) CatalogRow.push id
    (fun tables => tables.getLast?.map (·.name))
    (fun run t => run.head?.map (·.table) = some t.name ∧
      t.columns = run.foldl (fun columns r => CatalogRow.pushColumn r columns) []) where
  start tables r h := by
    rw [CatalogRow.push_of_ne h]
    exact ⟨_, ⟨rfl, rfl⟩, rfl, by simp⟩
  extend tables r entries t run h hout ht := by
    obtain rfl : tables = entries ++ [t] := hout
    have hname : t.name = r.table := by simpa using h
    rw [CatalogRow.push_of_eq hname]
    refine ⟨_, ⟨?_, ?_⟩, rfl, by simpa using hname⟩
    · obtain ⟨first, hf, -⟩ := Option.map_eq_some_iff.mp ht.1
      rw [List.head?_append, hf, Option.some_or, ← hf, ht.1]
    · rw [List.foldl_append, ← ht.2]
      rfl

/-- There is a table for each run of rows with one table name. -/
theorem describes_foldTables (rows : List CatalogRow) :
    List.Forall₂ Describes (runs (·.table) rows) (foldTables rows) := by
  refine (foldsRuns_tables.foldl rfl rfl rows).entries.imp fun run t h => ⟨h.1, ?_⟩
  rw [h.2]
  exact (foldsRuns_columns.foldl rfl rfl run).entries

/-! ### Groups -/

/-- The table that rows describe together. -/
def table? (rows : List CatalogRow) : Option Table :=
  rows.head?.map fun first => ⟨first.table, (runs (·.column) rows).filterMap column?⟩

theorem Describes.table?_eq {rows : List CatalogRow} {t : Table} (h : Describes rows t) :
    table? rows = some t := by
  obtain ⟨first, hf, hn⟩ := Option.map_eq_some_iff.mp h.name
  rw [table?, hf, Option.map_some, filterMap_of_forall₂ h.columns, hn]

theorem foldTables_eq (rows : List CatalogRow) :
    foldTables rows = (runs (·.table) rows).filterMap table? :=
  (filterMap_of_forall₂ ((describes_foldTables rows).imp fun _ _ => Describes.table?_eq)).symm

/-- A table that is grouped has one column for each name. -/
theorem map_name_columns (rows : List CatalogRow) (name : String) :
    (tableOfName rows name).columns.map (·.name) =
      keysOf (·.column) (rows.filter fun r => r.table = name) := by
  have hname : ∀ column ∈ keysOf (·.column) (rows.filter fun r => r.table = name),
      (column? ((rows.filter fun r => r.table = name).filter fun r => r.column = column)).map
        (·.name) = some column := by
    intro column hc
    obtain ⟨first, hf, hcolumn⟩ := exists_head?_filter hc
    rw [column?, hf, Option.map_some, Option.map_some, hcolumn]
  rw [tableOfName, List.map_filterMap, List.filterMap_congr hname, List.filterMap_some]

/-- Where the rows of every table and of every column stand together, folding them is grouping
    them. -/
theorem foldTables_eq_tablesByName {rows : List CatalogRow} (ht : Contiguous (·.table) rows)
    (hc : Contiguous (fun r => (r.table, r.column)) rows) :
    foldTables rows = tablesByName rows := by
  have hown (name : String) : Contiguous (·.column) (rows.filter fun r => r.table = name) := by
    intro r m s hsub hcolumn
    have htable (x : CatalogRow) (hx : x ∈ [r, m, s]) : x.table = name := by
      simpa using (List.mem_filter.mp (hsub.subset hx)).2
    have hkey := hc r m s (hsub.trans List.filter_sublist)
      (Prod.ext ((htable r (by simp)).trans (htable s (by simp)).symm) hcolumn)
    exact (Prod.mk.inj hkey).2
  have htable : ∀ name ∈ keysOf (·.table) rows,
      table? (rows.filter fun r => r.table = name) = some (tableOfName rows name) := by
    intro name hn
    obtain ⟨first, hf, hfirst⟩ := exists_head?_filter hn
    rw [table?, hf, Option.map_some, hfirst, runs_eq_groups (hown name), List.filterMap_map]
    rfl
  rw [foldTables_eq, runs_eq_groups ht, List.filterMap_map, tablesByName]
  refine (List.filterMap_congr htable).trans ?_
  rw [List.filterMap_eq_map']

/-! ### Rows in another order -/

/-- The foreign key that is kept of rows in another order: the same one, or another one of the
    rows. -/
theorem findSome?_perm {left run run' right : List CatalogRow} (hp : run.Perm run') :
    (left ++ run' ++ right).findSome? (·.foreignKey) =
        (left ++ run ++ right).findSome? (·.foreignKey) ∨
      ∃ r ∈ run, ∃ s ∈ run, r.foreignKey.isSome ∧ s.foreignKey.isSome ∧
        (left ++ run ++ right).findSome? (·.foreignKey) = r.foreignKey ∧
        (left ++ run' ++ right).findSome? (·.foreignKey) = s.foreignKey := by
  simp only [List.findSome?_append]
  cases left.findSome? (·.foreignKey) with
  | some k => exact Or.inl rfl
  | none =>
    cases hk : run.findSome? (·.foreignKey) with
    | none =>
      have hnone : run'.findSome? (·.foreignKey) = none := by
        rw [List.findSome?_eq_none_iff] at hk ⊢
        exact fun r hr => hk r (hp.mem_iff.mpr hr)
      exact Or.inl (by rw [hnone])
    | some k =>
      obtain ⟨r, hr, hrk⟩ := List.exists_of_findSome?_eq_some hk
      have hsome : (run'.findSome? (·.foreignKey)).isSome := by
        rw [List.findSome?_isSome_iff]
        exact ⟨r, hp.mem_iff.mp hr, by rw [hrk]; rfl⟩
      obtain ⟨k', hk'⟩ := Option.isSome_iff_exists.mp hsome
      obtain ⟨s, hs, hsk⟩ := List.exists_of_findSome?_eq_some hk'
      refine Or.inr ⟨r, hr, s, hp.mem_iff.mpr hs, by rw [hrk]; rfl, by rw [hsk]; rfl, hrk.symm, ?_⟩
      rw [hk', hsk]
      rfl

/-- The column of rows in another order: at most the foreign key is another one, and then both are
    foreign keys of the rows. -/
theorem column?_perm (left right : List CatalogRow) {run run' : List CatalogRow}
    (hp : run.Perm run') (hn : run ≠ [])
    (hc : ∀ r ∈ run, ∀ s ∈ run, r.column = s.column)
    (h : left ≠ [] ∨
      ∀ r ∈ run.head?, ∀ s ∈ run'.head?, s.dataType = r.dataType ∧ s.isRequired = r.isRequired) :
    ∃ c k, column? (left ++ run ++ right) = some c ∧
      column? (left ++ run' ++ right) = some { c with foreignKey := k } ∧
      (k = c.foreignKey ∨ ∃ r ∈ run, ∃ s ∈ run, r.foreignKey.isSome ∧ s.foreignKey.isSome ∧
        c.foreignKey = r.foreignKey ∧ k = s.foreignKey) := by
  have hn' : run' ≠ [] := by
    rintro rfl
    exact hn hp.eq_nil
  have hhead : ∃ first first', (left ++ run ++ right).head? = some first ∧
      (left ++ run' ++ right).head? = some first' ∧ first'.column = first.column ∧
      first'.dataType = first.dataType ∧ first'.isRequired = first.isRequired := by
    cases left with
    | cons l left => exact ⟨l, l, rfl, rfl, rfl, rfl, rfl⟩
    | nil =>
      obtain ⟨r, rest, rfl⟩ := List.exists_cons_of_ne_nil hn
      obtain ⟨s, rest', rfl⟩ := List.exists_cons_of_ne_nil hn'
      have hr : r ∈ r :: rest := List.mem_cons_self
      have hs : s ∈ r :: rest := hp.mem_iff.mpr List.mem_cons_self
      have hrest := h.resolve_left (fun h => h rfl) r rfl s rfl
      exact ⟨r, s, rfl, rfl, hc s hs r hr, hrest⟩
  obtain ⟨first, first', hf, hf', hcolumn, htype, hrequired⟩ := hhead
  have hkey : (left ++ run' ++ right).any (·.isPrimaryKey) =
      (left ++ run ++ right).any (·.isPrimaryKey) := by
    simp only [List.any_append, hp.any_eq]
  refine ⟨_, (left ++ run' ++ right).findSome? (·.foreignKey), by rw [column?, hf]; rfl, ?_,
    findSome?_perm hp⟩
  rw [column?, hf', hkey]
  simp only [Option.map_some, hcolumn, htype, hrequired]

/-- Tables that differ in one column at most, and in that one in its foreign key at most, which then
    is another one of `rows`. -/
def DifferInKey (rows : List CatalogRow) (tables tables' : List Table) : Prop :=
  ∃ before name front c k back after,
    tables = before ++ ⟨name, front ++ c :: back⟩ :: after ∧
    tables' = before ++ ⟨name, front ++ { c with foreignKey := k } :: back⟩ :: after ∧
    (k = c.foreignKey ∨ ∃ r ∈ rows, ∃ s ∈ rows, r.foreignKey.isSome ∧ s.foreignKey.isSome ∧
      c.foreignKey = r.foreignKey ∧ k = s.foreignKey)

/-- Rows of one column are in one column of one table, wherever they are put. All else that is
    folded does not depend on them; a row of this column right before them is in the same one. -/
theorem exists_foldTables_middle (table column : String) (front back : List CatalogRow) :
    ∃ before name columns left right columns' after,
      ((∃ r ∈ front.getLast?, r.table = table ∧ r.column = column) → left ≠ []) ∧
      ∀ rows ≠ [], (∀ r ∈ rows, r.table = table ∧ r.column = column) →
        ∀ c, column? (left ++ rows ++ right) = some c → foldTables (front ++ rows ++ back) =
          before ++ ⟨name, columns ++ c :: columns'⟩ :: after := by
  obtain ⟨before, left, right, after, hlast, hruns⟩ :=
    exists_runs_middle (·.table) table front back
  obtain ⟨before', left', right', after', hlast', hruns'⟩ :=
    exists_runs_middle (·.column) column left right
  refine ⟨before.filterMap table?, (left.head?.map (·.table)).getD table,
    before'.filterMap column?, left', right', after'.filterMap column?, after.filterMap table?,
    ?_, ?_⟩
  · rintro ⟨r, hr, ht, hc⟩
    exact List.ne_nil_of_mem (List.mem_of_mem_getLast? (hlast' r (hlast r hr ht) hc))
  · intro rows hn hr c hc
    have hhead : (left ++ rows ++ right).head?.map (·.table) =
        some ((left.head?.map (·.table)).getD table) := by
      obtain ⟨r, rest, rfl⟩ := List.exists_cons_of_ne_nil hn
      cases left with
      | nil => exact congrArg some (hr r List.mem_cons_self).1
      | cons l left => rfl
    obtain ⟨first, hf, hname⟩ := Option.map_eq_some_iff.mp hhead
    have htable : table? (left ++ rows ++ right) =
        some ⟨(left.head?.map (·.table)).getD table, before'.filterMap column? ++
          c :: after'.filterMap column?⟩ := by
      rw [table?, hf, Option.map_some, hname, hruns' _ hn fun r h => (hr r h).2,
        List.filterMap_append, List.filterMap_cons_some hc]
    rw [foldTables_eq, hruns _ hn fun r h => (hr r h).1, List.filterMap_append,
      List.filterMap_cons_some htable]

/-- Rows of one column in another order. The first one says the same of its type and of whether it
    is required, unless another row has said it before. -/
theorem foldTables_perm {front run run' back : List CatalogRow} {table column : String}
    (hp : run.Perm run') (hn : run ≠ [])
    (hr : ∀ r ∈ run, r.table = table ∧ r.column = column)
    (h : (∃ r ∈ front.getLast?, r.table = table ∧ r.column = column) ∨
      ∀ r ∈ run.head?, ∀ s ∈ run'.head?, s.dataType = r.dataType ∧ s.isRequired = r.isRequired) :
    DifferInKey run (foldTables (front ++ run ++ back)) (foldTables (front ++ run' ++ back)) := by
  obtain ⟨before, name, columns, left, right, columns', after, hleft, hfold⟩ :=
    exists_foldTables_middle table column front back
  have hcolumn : ∀ r ∈ run, ∀ s ∈ run, r.column = s.column := fun r hr' s hs =>
    (hr r hr').2.trans (hr s hs).2.symm
  have hr' : ∀ r ∈ run', r.table = table ∧ r.column = column := fun r h =>
    hr r (hp.mem_iff.mpr h)
  have hn' : run' ≠ [] := by
    rintro rfl
    exact hn hp.eq_nil
  obtain ⟨c, k, hc, hc', hk⟩ := column?_perm left right hp hn hcolumn (h.imp_left hleft)
  exact ⟨before, name, columns, c, k, columns', after, hfold run hn hr c hc,
    hfold run' hn' hr' _ hc', hk⟩

/-! ### Catalogs -/

/-- Tables and columns of rows are the runs of the rows, whatever their order is. Where the rows of
    every table and of every column stand together, the names of the tables are distinct, so are the
    names of the columns of each, and folding is grouping by table and column. Rows of one column
    may stand in any order in which the first one says the same of its type and of whether it is
    required: at most, another one of their foreign keys is kept. -/
theorem tables_by_runs (rows : List CatalogRow) :
    List.Forall₂ Describes (runs (·.table) rows) (foldTables rows) ∧
    (Contiguous (·.table) rows → Contiguous (fun r => (r.table, r.column)) rows →
      ((foldTables rows).map (·.name)).Nodup ∧
      (∀ t ∈ foldTables rows, (t.columns.map (·.name)).Nodup) ∧
      foldTables rows = tablesByName rows) ∧
    ∀ front run run' back table column, rows = front ++ run ++ back → run.Perm run' → run ≠ [] →
      (∀ r ∈ run, r.table = table ∧ r.column = column) →
      ((∃ r ∈ front.getLast?, r.table = table ∧ r.column = column) ∨
        ∀ r ∈ run.head?, ∀ s ∈ run'.head?, s.dataType = r.dataType ∧ s.isRequired = r.isRequired) →
      DifferInKey run (foldTables rows) (foldTables (front ++ run' ++ back)) := by
  refine ⟨describes_foldTables rows, fun ht hc => ?_, ?_⟩
  · have hgroups := foldTables_eq_tablesByName ht hc
    refine ⟨?_, fun t h => ?_, hgroups⟩
    · have hnames : (tablesByName rows).map (·.name) = keysOf (·.table) rows := by
        rw [tablesByName, List.map_map]
        exact List.map_id _
      rw [hgroups, hnames]
      exact nodup_keysOf _ _
    · rw [hgroups] at h
      obtain ⟨name, -, rfl⟩ := List.mem_map.mp h
      rw [map_name_columns]
      exact nodup_keysOf _ _
  · rintro front run run' back table column rfl hp hn hr h
    exact foldTables_perm hp hn hr h

/-- A column with two foreign keys, of which the other one comes first in another order. -/
theorem tables_by_runs_books :
    let id : CatalogRow := ⟨"authors", "id", "integer", true, true, none⟩
    let toAuthor : CatalogRow := ⟨"books", "id", "integer", true, false, some ⟨"authors", "id"⟩⟩
    let toPerson : CatalogRow := ⟨"books", "id", "integer", true, false, some ⟨"people", "id"⟩⟩
    let rows := [id, toAuthor, toPerson]
    Contiguous (·.table) rows ∧ Contiguous (fun r => (r.table, r.column)) rows ∧
    ((foldTables rows).map (·.name)).Nodup ∧
    (∀ t ∈ foldTables rows, (t.columns.map (·.name)).Nodup) ∧
    foldTables rows = tablesByName rows ∧
    foldTables rows ≠ foldTables [id, toPerson, toAuthor] ∧
    DifferInKey [toAuthor, toPerson] (foldTables rows) (foldTables [id, toPerson, toAuthor]) := by
  intro id toAuthor toPerson rows
  have ht : Contiguous (·.table) rows := by decide +kernel
  have hc : Contiguous (fun r => (r.table, r.column)) rows := by decide +kernel
  obtain ⟨-, hgroups, hkey⟩ := tables_by_runs rows
  obtain ⟨htables, hcolumns, hgrouped⟩ := hgroups ht hc
  refine ⟨ht, hc, htables, hcolumns, hgrouped, by decide +kernel, ?_⟩
  exact hkey [id] [toAuthor, toPerson] [toPerson, toAuthor] [] "books" "id" rfl
    (List.Perm.swap ..) nofun (by decide +kernel) (Or.inr (by decide +kernel))

end SqlGateway
