import SqlGateway.Proofs.Query.WorkList

/-! The scope of join conditions. A server may resolve a statement from left to right, and then a
    join sees its own table and those that the clauses before it declare:

        a ─┬─ b ─── d        FROM a          a
           └─ c              JOIN b ON …     a b
                             JOIN c ON …     a b c
                             JOIN d ON …     a b c d

    A condition may name any table of the tree. What it names is in scope unless its table comes
    later in level order: tables nearer to the root are in scope, those farther away are not, and of
    its own level a join sees what stands to its left. -/

namespace SqlGateway

/-! ### Resolving from left to right -/

namespace Statement

/-- The names that stand before a point. -/
def qualifiers : List Part → List String
  | .identifier a :: .mark m :: rest =>
    if m = "." then a :: qualifiers rest else qualifiers rest
  | _ :: rest => qualifiers rest
  | [] => []

namespace Clause

def isJoin (c : Clause) : Bool := ["JOIN", "LEFT JOIN", "RIGHT JOIN"].contains c.head

/-- The alias that a clause declares: a table is named first, and its alias stands behind it. -/
def declared? (c : Clause) : Option String :=
  match c.isJoin || c.head == "FROM", c.body with
  | true, _ :: .identifier a :: _ => some a
  | _, _ => none

/-- The aliases that the columns of a clause are named with. -/
def mentioned (c : Clause) : List String := qualifiers c.body

end Clause

/-- The aliases that clauses declare. -/
def declared (cs : List Clause) : List String := cs.filterMap Clause.declared?

/-- Does every join mention only what is known, what was declared before it and its own table? -/
def resolves (known : List String) : List Clause → Bool
  | [] => true
  | c :: cs =>
    (!c.isJoin || c.mentioned.all (known ++ declared [c]).contains) &&
      resolves (known ++ declared [c]) cs

theorem declared_append (cs cs' : List Clause) :
    declared (cs ++ cs') = declared cs ++ declared cs' := List.filterMap_append

theorem resolves_append (known : List String) (cs cs' : List Clause) :
    resolves known (cs ++ cs') =
      (resolves known cs && resolves (known ++ declared cs) cs') := by
  induction cs generalizing known with
  | nil => simp [resolves, declared]
  | cons c cs ih =>
    rw [List.cons_append, resolves, resolves, ih, Bool.and_assoc, List.append_assoc,
      ← declared_append]
    rfl

theorem resolves_of_no_join {cs : List Clause} (h : ∀ c ∈ cs, c.isJoin = false)
    (known : List String) : resolves known cs = true := by
  induction cs generalizing known with
  | nil => rfl
  | cons c cs ih =>
    obtain ⟨hc, hcs⟩ := List.forall_mem_cons.mp h
    rw [resolves, hc, ih hcs]
    rfl

end Statement

open Statement

/-! ### What a join declares and mentions -/

/-- Does a condition of the join name a table by this alias? -/
def Join.Names (j : Join) (root : TableKey) (a : String) : Prop :=
  ∃ c ∈ j.conditions, c.left.tableAlias root = a ∨ c.right.tableAlias root = a

/-- The alias of the joined table. -/
def Join.aliasName (j : Join) : String := j.table.aliasName

theorem isJoin_declaration (j : Join) (root : TableKey) :
    (j.declaration root).isJoin = true := by
  show ["JOIN", "LEFT JOIN", "RIGHT JOIN"].contains j.kind.keyword = true
  cases j.kind <;> decide

theorem declared?_declaration (j : Join) (root : TableKey) :
    (j.declaration root).declared? = some j.aliasName := by
  rw [Clause.declared?, isJoin_declaration]
  rfl

theorem declared_declarations (js : List Join) (root : TableKey) :
    declared (js.map (·.declaration root)) = js.map Join.aliasName := by
  induction js with
  | nil => rfl
  | cons j js ih =>
    rw [List.map_cons, declared, List.filterMap_cons, declared?_declaration, List.map_cons, ← ih]
    rfl

theorem declared_declaration (j : Join) (root : TableKey) :
    declared [j.declaration root] = [j.aliasName] := declared_declarations [j] root

/-- The columns of a condition are named with the aliases of its two sides. -/
theorem qualifiers_condition (c : Condition) (root : TableKey) :
    qualifiers (c.parts root) = [c.left.tableAlias root, c.right.tableAlias root] := by
  cases hc : c.comparison <;> simp [Condition.parts, qualifiers, hc, Comparison.symbol]

theorem qualifiers_condition_and (c : Condition) (root : TableKey) (rest : List Part) :
    qualifiers (c.parts root ++ .word "AND" :: rest) =
      [c.left.tableAlias root, c.right.tableAlias root] ++ qualifiers rest := by
  cases hc : c.comparison <;> simp [Condition.parts, qualifiers, hc, Comparison.symbol]

theorem qualifiers_conditions (cs : List Condition) (root : TableKey) :
    qualifiers ([.word "AND"].intercalate (cs.map (·.parts root))) =
      cs.flatMap fun c => [c.left.tableAlias root, c.right.tableAlias root] := by
  induction cs with
  | nil => rfl
  | cons c cs ih =>
    cases cs with
    | nil => simpa using qualifiers_condition c root
    | cons c' cs =>
      rw [List.flatMap_cons, ← ih, ← qualifiers_condition_and]
      simp [List.intercalate]

theorem mem_mentioned_declaration {j : Join} {root : TableKey} {a : String} :
    a ∈ (j.declaration root).mentioned ↔ j.Names root a := by
  have hq : (j.declaration root).mentioned =
      j.conditions.flatMap fun c => [c.left.tableAlias root, c.right.tableAlias root] := by
    rw [← qualifiers_conditions]
    simp [Clause.mentioned, Join.declaration, qualifiers]
  simp [hq, Join.Names, eq_comm]

theorem resolves_declarations {known : List String} {js : List Join} {root : TableKey} :
    resolves known (js.map (·.declaration root)) = true ↔
      ∀ before j after, js = before ++ j :: after → ∀ a, j.Names root a →
        a ∈ known ++ (before ++ [j]).map Join.aliasName := by
  induction js generalizing known with
  | nil => simp [resolves]
  | cons j js ih =>
    have hj : (!(j.declaration root).isJoin || (j.declaration root).mentioned.all
        (known ++ declared [j.declaration root]).contains) = true ↔
          ∀ a, j.Names root a → a ∈ known ++ [j.aliasName] := by
      simp [declared_declaration, isJoin_declaration, mem_mentioned_declaration]
    rw [List.map_cons, resolves, Bool.and_eq_true, hj, declared_declaration, ih]
    constructor
    · rintro ⟨hfirst, hrest⟩ before i after he a ha
      cases before with
      | nil =>
        obtain ⟨rfl, rfl⟩ := List.cons.inj he
        exact hfirst a ha
      | cons b before =>
        obtain ⟨rfl, rfl⟩ := List.cons.inj he
        simpa using hrest before i after rfl a ha
    · intro h
      refine ⟨h [] j js rfl, fun before i after he a ha => ?_⟩
      simpa using h (j :: before) i after (by rw [he]; rfl) a ha

/-! ### Depth and order -/

namespace JoinTree

variable {t : JoinTree} {m n : Nat} {i j : Join} {before after : List Join}

theorem level_eq_nil (h : t.tableCount ≤ m) : t.level m = [] := by
  induction m, h using Nat.le_induction with
  | base => exact level_tableCount t
  | succ m _ ih => rw [level, ih]; rfl

theorem lt_tableCount (h : j ∈ t.level m) : m < t.tableCount := by
  by_contra hm
  rw [level_eq_nil (by omega)] at h
  nomatch h

/-- The levels above a level come before it, and those below after it. -/
theorem levelOrder_eq (h : m < t.tableCount) : t.levelOrder = (List.range m).flatMap t.level ++
    (t.level m ++ (List.range' (m + 1) (t.tableCount - (m + 1))).flatMap t.level) := by
  have hr : List.range t.tableCount =
      List.range m ++ m :: List.range' (m + 1) (t.tableCount - (m + 1)) := by
    have hm : m + (t.tableCount - (m + 1) + 1) = t.tableCount := by omega
    have hs := @List.range'_append_1 0 m (t.tableCount - (m + 1) + 1)
    rw [hm, Nat.zero_add, List.range'_succ] at hs
    rw [List.range_eq_range', List.range_eq_range', hs]
  rw [levelOrder, hr, List.flatMap_append, List.flatMap_cons]

/-- In level order the joins nearer to the root come before a join, and those farther away come
    after it. -/
theorem mem_of_depth (hn : t.levelOrder.Nodup) (h : t.levelOrder = before ++ j :: after)
    (hj : j ∈ t.level m) (hi : i ∈ t.level n) : (n < m → i ∈ before) ∧ (m < n → i ∈ after) := by
  obtain ⟨left, right, hl⟩ := List.append_of_mem hj
  have hm := lt_tableCount hj
  have hs := levelOrder_eq hm
  rw [hl, List.append_assoc, List.cons_append, ← List.append_assoc, h] at hs
  have hb : j ∉ before ∧ j ∉ after := by
    rw [h] at hn
    have ha := List.nodup_append.mp hn
    exact ⟨fun hb => ha.2.2 j hb j (by simp) rfl, (List.nodup_cons.mp ha.2.1).1⟩
  obtain ⟨rfl, -, rfl⟩ := (List.append_cons_inj_of_notMem hb.1 hb.2).mp hs
  constructor
  · intro hlt
    refine List.mem_append_left _ (List.mem_flatMap.mpr ⟨n, ?_, hi⟩)
    exact List.mem_range.mpr hlt
  · intro hlt
    refine List.mem_append_right _ (List.mem_flatMap.mpr ⟨n, ?_, hi⟩)
    have hn := lt_tableCount hi
    exact List.mem_range'_1.mpr (by omega)

end JoinTree

/-! ### Scoped statements -/

namespace Query

variable {d : Dialect} {q : Query} {s : Statement} {j : Join} {before after : List Join}

/-- The aliases in scope of a join that comes after others. -/
def scope (q : Query) (before : List Join) (j : Join) : List String :=
  q.table.aliasName :: (before ++ [j]).map Join.aliasName

theorem aliases_eq_scope (h : q.table.levelOrder = before ++ j :: after) :
    q.table.aliases = q.scope before j ++ after.map Join.aliasName := by
  show q.table.aliasName :: q.table.levelOrder.map Join.aliasName = _
  rw [h, scope]
  simp

theorem not_mem_scope (hn : q.table.aliases.Nodup)
    (h : q.table.levelOrder = before ++ j :: after) {i : Join} (hi : i ∈ after) :
    i.aliasName ∉ q.scope before j := by
  rw [aliases_eq_scope h] at hn
  intro hs
  exact (List.nodup_append.mp hn).2.2 _ hs _ (List.mem_map_of_mem hi) rfl

/-- An alias of the tree is in scope unless its table comes later. -/
theorem mem_scope_iff (hn : q.table.aliases.Nodup)
    (h : q.table.levelOrder = before ++ j :: after) {a : String} (ha : a ∈ q.table.aliases) :
    a ∈ q.scope before j ↔ ∀ i ∈ after, i.aliasName ≠ a := by
  constructor
  · rintro hs i hi rfl
    exact not_mem_scope hn h hi hs
  · intro hl
    rw [aliases_eq_scope h, List.mem_append] at ha
    rcases ha with ha | ha
    · exact ha
    · obtain ⟨i, hi, rfl⟩ := List.mem_map.mp ha
      exact absurd rfl (hl i hi)

theorem IsSoundSelect.mem_aliases (hs : q.IsSoundSelect d) (hj : j ∈ q.table.levelOrder)
    {a : String} (ha : j.Names q.root a) : a ∈ q.table.aliases := by
  obtain ⟨c, hc, rfl | rfl⟩ := ha
  · exact ((hs.joins j hj).2 c hc).2.1
  · exact ((hs.joins j hj).2 c hc).2.2

section Clauses

variable {projected : List Part} {js : List Join}

/-- The clauses of a select up to some join. -/
def clausesTo (q : Query) (projected : List Part) (js : List Join) : List Clause :=
  ⟨"SELECT", projected⟩ :: ⟨"FROM", [.identifier q.table.name, .identifier q.table.aliasName]⟩ ::
    js.map (·.declaration q.root)

theorem declared_clausesTo :
    declared (q.clausesTo projected js) = q.table.aliasName :: js.map Join.aliasName := by
  rw [← declared_declarations js q.root]
  rfl

theorem resolves_clausesTo : resolves [] (q.clausesTo projected js) =
    resolves [q.table.aliasName] (js.map (·.declaration q.root)) := rfl

theorem filter_isJoin_clausesTo :
    (q.clausesTo projected js).filter Clause.isJoin = js.map (·.declaration q.root) := by
  have hj : (js.map (·.declaration q.root)).filter Clause.isJoin =
      js.map (·.declaration q.root) :=
    List.filter_eq_self.mpr (List.forall_mem_map.mpr fun j _ => isJoin_declaration j q.root)
  rw [← hj]
  rfl

/-- The clauses after the tables declare nothing, and none of them is a join. -/
theorem isJoin_eq_false {c : Clause}
    (h : c.head ∈ ["WHERE", "GROUP BY", "ORDER BY", "LIMIT", "OFFSET"]) :
    c.isJoin = false ∧ c.declared? = none := by
  have hj : c.isJoin = false ∧ (c.head == "FROM") = false := by
    rw [Clause.isJoin]
    simp only [List.mem_cons, List.not_mem_nil, or_false] at h
    rcases h with h | h | h | h | h <;> rw [h] <;> decide
  exact ⟨hj.1, by rw [Clause.declared?, hj.1, hj.2]; rfl⟩

end Clauses

/-- The joins of an accepted select mention aliases of the tree, each of them declared once. What a
    join mentions is in scope exactly if it is not the alias of a later join; what is nearer to the
    root is in scope, and what is farther away is not. So a server that resolves from left to right
    finds everything exactly if no condition names a table that comes later in level order. -/
theorem mentioned_in_scope_iff (hk : q.kind = .select) (h : q.compile d = .ok s) :
    ∃ cs, s.clauses? d = some cs ∧
      declared cs = q.table.aliases ∧ (declared cs).Nodup ∧
      cs.filter Clause.isJoin = q.table.levelOrder.map (·.declaration q.root) ∧
      (∀ before j after, q.table.levelOrder = before ++ j :: after →
        ∃ front back, cs = front ++ j.declaration q.root :: back ∧
          declared front = q.table.aliasName :: before.map Join.aliasName ∧
          (∀ a ∈ (j.declaration q.root).mentioned,
            a ∈ declared cs ∧
            (a ∈ declared (front ++ [j.declaration q.root]) ↔
              ∀ i ∈ after, i.aliasName ≠ a)) ∧
          ∀ m n, j ∈ q.table.level m → ∀ i ∈ q.table.level n,
            (n < m → i.aliasName ∈ declared front) ∧
            (m < n → i.aliasName ∉ declared (front ++ [j.declaration q.root]))) ∧
      (resolves [] cs = true ↔ ∀ before j after, q.table.levelOrder = before ++ j :: after →
        ∀ a, j.Names q.root a → ∀ i ∈ after, i.aliasName ≠ a) := by
  have hs : q.IsSoundSelect d := by
    have hs := (compile_eq_ok_iff.mp h).1
    rwa [IsSound, hk] at hs
  have hn := hs.aliases_nodup
  obtain ⟨projected, rest, hc, hrest⟩ := clauses?_select hk h
  have hd : declared (q.clausesTo projected q.table.levelOrder ++ rest) = q.table.aliases := by
    have hr : declared rest = [] :=
      List.filterMap_eq_nil_iff.mpr fun c hc => (isJoin_eq_false (hrest c hc)).2
    rw [declared_append, declared_clausesTo, hr, List.append_nil]
    rfl
  refine ⟨q.clausesTo projected q.table.levelOrder ++ rest, hc, hd, hd ▸ hn, ?_, ?_, ?_⟩
  · have hr : rest.filter Clause.isJoin = [] :=
      List.filter_eq_nil_iff.mpr fun c hc => by simp [(isJoin_eq_false (hrest c hc)).1]
    rw [List.filter_append, filter_isJoin_clausesTo, hr, List.append_nil]
  · intro before j after hl
    have hscope : declared (q.clausesTo projected before ++ [j.declaration q.root]) =
        q.scope before j := by
      rw [declared_append, declared_clausesTo, declared_declaration, scope]
      simp
    refine ⟨q.clausesTo projected before, after.map (·.declaration q.root) ++ rest, ?_,
      declared_clausesTo, fun a ha => ?_, fun m n hj i hi => ⟨fun hlt => ?_, fun hlt => ?_⟩⟩
    · rw [hl]
      simp [clausesTo]
    · have ha : a ∈ q.table.aliases :=
        hs.mem_aliases (by simp [hl]) (mem_mentioned_declaration.mp ha)
      rw [hd, hscope]
      exact ⟨ha, mem_scope_iff hn hl ha⟩
    · have hb := (JoinTree.mem_of_depth (hn.of_cons.of_map _) hl hj hi).1 hlt
      rw [declared_clausesTo]
      exact List.mem_cons_of_mem _ (List.mem_map_of_mem hb)
    · rw [hscope]
      exact not_mem_scope hn hl ((JoinTree.mem_of_depth (hn.of_cons.of_map _) hl hj hi).2 hlt)
  · have hr : resolves ([] ++ declared (q.clausesTo projected q.table.levelOrder)) rest = true :=
      resolves_of_no_join (fun c hc => (isJoin_eq_false (hrest c hc)).1) _
    rw [resolves_append, hr, Bool.and_true, resolves_clausesTo, resolves_declarations]
    have hi (before : List Join) (j : Join) (after : List Join)
        (hl : q.table.levelOrder = before ++ j :: after) (a : String) (ha : j.Names q.root a) :
        a ∈ [q.table.aliasName] ++ (before ++ [j]).map Join.aliasName ↔
          ∀ i ∈ after, i.aliasName ≠ a :=
      mem_scope_iff hn hl (hs.mem_aliases (by simp [hl]) ha)
    constructor
    · intro hres before j after hl a ha
      exact (hi before j after hl a ha).mp (hres before j after hl a ha)
    · intro hlater before j after hl a ha
      exact (hi before j after hl a ha).mpr (hlater before j after hl a ha)

theorem mentioned_in_scope_iff_staffing : ∃ s cs,
    staffing.compile .postgres = .ok s ∧ s.clauses? .postgres = some cs ∧
      declared cs = ["staff", "staff1", "site", "city"] := by
  obtain ⟨s, hs⟩ : ∃ s, staffing.compile .postgres = .ok s := ⟨_, rfl⟩
  obtain ⟨cs, hc, hd, -⟩ := mentioned_in_scope_iff rfl hs
  exact ⟨s, cs, hs, hc, hd.trans (by decide)⟩

/-- The first one of two joins is on a column of the second one. -/
def forward : Query where
  kind := .select
  table := .node ⟨"a", 0⟩
    [.mk .inner [⟨{ table := some ⟨"b", 0⟩, name := "k" }, .eq,
        { table := some ⟨"c", 0⟩, name := "k" }⟩] (.leaf ⟨"b", 0⟩),
    .mk .inner [⟨{ name := "k" }, .eq, { table := some ⟨"c", 0⟩, name := "k" }⟩]
      (.leaf ⟨"c", 0⟩)]
  columns := [{ name := "k" }]

/-- The query is accepted, and its first join mentions a table that is not declared by then. -/
theorem mentions_later_table_forward : ∃ s cs c,
    forward.compile .postgres = .ok s ∧ s.clauses? .postgres = some cs ∧
      (cs.filter Clause.isJoin)[0]? = some c ∧ cs[2]? = some c ∧ c.mentioned = ["b", "c"] ∧
      declared (cs.take 3) = ["a", "b"] ∧ resolves [] cs = false := by
  obtain ⟨s, hs⟩ : ∃ s, forward.compile .postgres = .ok s := ⟨_, rfl⟩
  exact ⟨s, _, _, hs, clauses?_compile hs, rfl, rfl, by decide, by decide, by decide⟩

end Query

end SqlGateway
