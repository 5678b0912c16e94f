import SqlGateway.Proofs.Query.Scope

/-! Which table a column means. A column names a table by its name and the number of its occurrence,
    but it is bound by the alias that these come to, and more than one key may come to an alias:

        key         alias        a column of a12 in a query of …
        a 12        a12          a 12       means this table
        a1 2        a12          a1 2       means this one, though its name is another
        a12 0       a12          a12 1      is turned down, as no alias is a12

    No two tables of a query have one alias, so a column means one table. It is the one with the key
    that the column gives, if the query has this table; if not, one name goes on from the other with
    the first digits of the number. -/

namespace SqlGateway

open Statement

namespace TableKey

variable {k k' : TableKey}

/-! ### Keys with one alias -/

/-- What the alias adds to the name. -/
def mark (k : TableKey) : List Char :=
  if k.occurrence = 0 then [] else Nat.toDigits 10 k.occurrence.toNat

theorem toList_aliasName (k : TableKey) : k.aliasName.toList = k.name.toList ++ k.mark := by
  rw [aliasName, mark]
  split <;> simp [Number.natText]

theorem isDigit_of_mem_mark {c : Char} (h : c ∈ k.mark) : c.isDigit = true := by
  rw [mark] at h
  split at h
  · nomatch h
  · exact Nat.isDigit_of_mem_toDigits (by decide) (by decide) h

/-- The mark tells the occurrence. -/
theorem ofDigitChars_mark (k : TableKey) : Nat.ofDigitChars 10 k.mark 0 = k.occurrence.toNat := by
  rw [mark]
  split
  case isTrue h => simp [h]
  case isFalse => exact Nat.ofDigitChars_ten_toDigits

theorem mark_inj (h : k.mark = k'.mark) : k.occurrence = k'.occurrence := by
  rw [← UInt32.toNat_inj, ← ofDigitChars_mark, h, ofDigitChars_mark]

/-- The name of the other key goes on with the digits that the number of this one begins with. -/
def GoesOn (k k' : TableKey) : Prop :=
  ∃ digits, digits ≠ [] ∧ (∀ c ∈ digits, c.isDigit = true) ∧
    k'.name.toList = k.name.toList ++ digits ∧ k.mark = digits ++ k'.mark

/-- Two keys have one alias if they are the same or the name of one goes on from that of the
    other. -/
theorem aliasName_eq_iff : k.aliasName = k'.aliasName ↔ k = k' ∨ k.GoesOn k' ∨ k'.GoesOn k := by
  have hgo {k k' : TableKey} {m : List Char} (hn : k'.name.toList = k.name.toList ++ m)
      (hm : k.mark = m ++ k'.mark) : k = k' ∨ k.GoesOn k' := by
    rcases eq_or_ne m [] with rfl | hne
    · have ho := mark_inj (hm.trans (List.nil_append _))
      rw [List.append_nil, String.toList_inj] at hn
      cases k
      cases k'
      exact Or.inl (by rw [mk.injEq]; exact ⟨hn.symm, ho⟩)
    · have hdigits : ∀ c ∈ m, c.isDigit = true := fun c hc =>
        isDigit_of_mem_mark (hm ▸ List.mem_append_left _ hc)
      exact Or.inr ⟨m, hne, hdigits, hn, hm⟩
  have hback {k k' : TableKey} (h : k.GoesOn k') : k.aliasName = k'.aliasName := by
    obtain ⟨digits, -, -, hn, hm⟩ := h
    rw [← String.toList_inj, toList_aliasName, toList_aliasName, hn, hm, List.append_assoc]
  constructor
  · intro h
    -- One name begins with the other; what it has more, the number of the other begins with.
    rw [← String.toList_inj, toList_aliasName, toList_aliasName, List.append_eq_append_iff] at h
    rcases h with ⟨m, hn, hm⟩ | ⟨m, hn, hm⟩
    · exact (hgo hn hm).imp_right Or.inl
    · exact (hgo hn hm).imp Eq.symm Or.inr
  · rintro (rfl | h | h)
    · rfl
    · exact hback h
    · exact (hback h).symm

/-- Where the names are one, so are the keys. -/
theorem GoesOn.name_ne (h : k.GoesOn k') : k.name ≠ k'.name := by
  obtain ⟨digits, hne, -, hn, -⟩ := h
  intro he
  rw [he] at hn
  exact hne (List.self_eq_append_right.mp hn)

end TableKey

/-! ### Declarations of a select -/

namespace Statement

/-- Where no alias is declared twice, all clauses but one leave it undeclared. -/
theorem exists_split_of_declared {cs : List Clause} (hn : (declared cs).Nodup) {c : Clause}
    (hc : c ∈ cs) {a : String} (ha : c.declared? = some a) :
    ∃ front back, cs = front ++ c :: back ∧ a ∉ declared (front ++ back) := by
  obtain ⟨front, back, rfl⟩ := List.append_of_mem hc
  refine ⟨front, back, rfl, ?_⟩
  have hd : declared (c :: back) = a :: declared back := by
    rw [declared, List.filterMap_cons, ha]
    rfl
  rw [declared_append, hd, List.nodup_middle, List.nodup_cons] at hn
  rw [declared_append]
  exact hn.1

end Statement

namespace Query

variable {d : Dialect} {q : Query} {s : Statement}

/-- The clauses of an accepted select declare the aliases of the tree in level order, each in a
    clause that names the table. -/
theorem declared_compile (hk : q.kind = .select) (h : q.compile d = .ok s) :
    ∃ cs, s.clauses? d = some cs ∧ declared cs = q.table.aliases ∧
      ∀ t ∈ q.table.tables, ∃ c ∈ cs,
        c.declared? = some t.aliasName ∧ c.body.head? = some (.identifier t.name) := by
  obtain ⟨projected, rest, hc, hrest⟩ := clauses?_select hk h
  refine ⟨q.clausesTo projected q.table.levelOrder ++ rest, hc, ?_, fun t ht => ?_⟩
  · have hr : declared rest = [] :=
      List.filterMap_eq_nil_iff.mpr fun c hc => (isJoin_eq_false (hrest c hc)).2
    rw [declared_append, declared_clausesTo, hr, List.append_nil]
    rfl
  · rcases List.mem_cons.mp ((JoinTree.tables_perm q.table).mem_iff.mpr ht) with rfl | ht
    · exact ⟨⟨"FROM", [.identifier q.table.name, .identifier q.table.aliasName]⟩,
        by simp [clausesTo], rfl, rfl⟩
    · obtain ⟨j, hj, rfl⟩ := List.mem_map.mp ht
      exact ⟨j.declaration q.root,
        List.mem_append_left _ (List.mem_cons_of_mem _ (List.mem_cons_of_mem _
          (List.mem_map_of_mem hj))), declared?_declaration j q.root, rfl⟩

/-! ### Columns -/

/-- The aliases of an accepted query are distinct, and every column has one of them. -/
theorem IsWellFormed.resolved (h : q.IsWellFormed d) :
    (q.table.tables.map JoinTree.aliasName).Nodup ∧
      ∀ c ∈ q.references, ∃ t ∈ q.table.tables, t.aliasName = c.tableAlias q.root := by
  have hwrite (h : q.IsWritable) : (q.table.tables.map JoinTree.aliasName).Nodup ∧
      ∀ c ∈ q.references, ∃ t ∈ q.table.tables, t.aliasName = c.tableAlias q.root := by
    have hd : q.table.descendants = [] := by
      cases hq : q.table with
      | node key joins =>
        have hj : joins = [] := by simpa [hq, JoinTree.joins] using h.joins_eq
        rw [hj]
        rfl
    refine ⟨by simp [JoinTree.tables, hd], fun c hc => ⟨q.table, by simp [JoinTree.tables], ?_⟩⟩
    refine (h.resolved c ?_).symm
    simpa [references, hd, h.orderBy_eq] using hc
  rw [IsWellFormed] at h
  cases hk : q.kind with
  | select =>
    rw [hk] at h
    exact ⟨h.aliases_nodup, h.resolved⟩
  | insert => rw [hk] at h; exact hwrite h.1
  | update => rw [hk] at h; exact hwrite h.1
  | delete => rw [hk] at h; exact hwrite h.1

/-- A column that names a table means the one table of the query with the alias of the name. It is
    the table that is named if the query has this one; if not, one of the two names goes on from the
    other with digits. In a select, one clause declares the alias, and it declares it for this
    table. -/
theorem column_bound_by_alias (h : q.compile d = .ok s) {c : ColumnRef} (hc : c ∈ q.references)
    {key : TableKey} (hkey : c.table = some key) :
    ∃ before t after, q.table.tables = before ++ t :: after ∧
      t.aliasName = key.aliasName ∧ (∀ u ∈ before ++ after, u.aliasName ≠ key.aliasName) ∧
      (t.key = key ↔ ∃ u ∈ q.table.tables, u.key = key) ∧
      (t.key = key ∨ t.name ≠ key.name ∧ (t.key.GoesOn key ∨ key.GoesOn t.key)) ∧
      (q.kind = .select → ∃ front clause back, s.clauses? d = some (front ++ clause :: back) ∧
        clause.declared? = some key.aliasName ∧ clause.body.head? = some (.identifier t.name) ∧
        key.aliasName ∉ declared (front ++ back)) := by
  obtain ⟨hn, hr⟩ := (isSound_iff.mp (compile_eq_ok_iff.mp h).1).1.resolved
  obtain ⟨t, ht, ha⟩ := hr c hc
  rw [ColumnRef.tableAlias, hkey, Option.getD_some] at ha
  obtain ⟨before, after, hs⟩ := List.append_of_mem ht
  -- The aliases are distinct, so no other table of the query has this one.
  have hother : ∀ u ∈ before ++ after, u.aliasName ≠ key.aliasName := by
    rw [hs, List.map_append, List.map_cons, List.nodup_middle, List.nodup_cons, ha,
      ← List.map_append] at hn
    rintro u hu he
    exact hn.1 (he ▸ List.mem_map_of_mem hu)
  refine ⟨before, t, after, hs, ha, hother, ⟨fun he => ⟨t, ht, he⟩, ?_⟩, ?_, fun hk => ?_⟩
  · rintro ⟨u, hu, rfl⟩
    rw [hs, List.perm_middle.mem_iff, List.mem_cons] at hu
    rcases hu with rfl | hu
    · rfl
    · exact absurd rfl (hother u hu)
  · rcases TableKey.aliasName_eq_iff.mp ha with he | hgo | hgo
    · exact Or.inl he
    · exact Or.inr ⟨hgo.name_ne, Or.inl hgo⟩
    · exact Or.inr ⟨hgo.name_ne.symm, Or.inr hgo⟩
  · obtain ⟨cs, hcs, hd, hnames⟩ := declared_compile hk h
    obtain ⟨clause, hm, hdecl, hname⟩ := hnames t ht
    have hdn : (declared cs).Nodup := hd ▸ aliases_nodup_iff.mpr hn
    obtain ⟨front, back, rfl, hout⟩ := exists_split_of_declared hdn hm (hdecl.trans (congrArg _ ha))
    exact ⟨front, clause, back, hcs, hdecl.trans (congrArg _ ha), hname, hout⟩

/-- The managers of the staff are the second occurrence of the staff. -/
theorem column_bound_by_alias_staffing : ∃ s, staffing.compile .sqlite = .ok s ∧
    ∃ t ∈ staffing.table.tables, t.key = ⟨"staff", 1⟩ ∧
      ∃ front clause back, s.clauses? .sqlite = some (front ++ clause :: back) ∧
        clause.declared? = some "staff1" ∧ clause.body.head? = some (.identifier "staff") := by
  obtain ⟨s, hs⟩ : ∃ s, staffing.compile .sqlite = .ok s := ⟨_, rfl⟩
  have hc : { table := some ⟨"staff", 1⟩, name := "id" } ∈ staffing.references := by decide
  obtain ⟨before, t, after, ht, -, -, hkey, -, hdecl⟩ := column_bound_by_alias hs hc rfl
  have hn : t.key = ⟨"staff", 1⟩ :=
    hkey.mpr ⟨.leaf ⟨"staff", 1⟩, by simp [staffing, JoinTree.tables, JoinTree.descendants,
      JoinTree.branches, JoinTree.leaf, Join.table], rfl⟩
  obtain ⟨front, clause, back, hcs, hd, hhead, -⟩ := hdecl rfl
  refine ⟨s, hs, t, by simp [ht], hn, front, clause, back, hcs, hd, ?_⟩
  rw [hhead, JoinTree.name, hn]

/-- Reads a column of the twelfth `a` from the second `a1`. -/
def crossed : Query where
  kind := .select
  table := .leaf ⟨"a1", 2⟩
  columns := [{ table := some ⟨"a", 12⟩, name := "x" }]

/-- A column may mean a table of another name: the aliases are the same. -/
theorem column_bound_crossed : ∃ s, crossed.compile .postgres = .ok s ∧
    ∃ c ∈ crossed.references, ∃ key, c.table = some key ∧
      ∀ t ∈ crossed.table.tables, t.aliasName = key.aliasName ∧ t.name ≠ key.name := by
  have hc : { table := some ⟨"a", 12⟩, name := "x" } ∈ crossed.references := by decide
  refine ⟨_, rfl, _, hc, _, rfl, fun t ht => ?_⟩
  obtain rfl : t = .leaf ⟨"a1", 2⟩ := by
    simpa [crossed, JoinTree.tables, JoinTree.leaf, JoinTree.descendants, JoinTree.branches]
      using ht
  exact ⟨by decide, by decide⟩

end Query

end SqlGateway
