import SqlGateway.Proofs.Query.Arguments
import SqlGateway.Proofs.Query.WellFormed

/-! What the dialects have in common. They accept the same queries, but for labels that are too long
    for an identifier, and word them alike. Two things set the tokens of their statements apart, the
    numbers of the placeholders and the limit that some of them want before an offset:

        Postgres    … WHERE "t"."b" = $1                             OFFSET 5
        Mysql       … WHERE `t`.`b` = ?   LIMIT 18446744073709551615 OFFSET 5
        Sqlite      … WHERE "t"."b" = ?   LIMIT -1                   OFFSET 5

        bare        … WHERE  t . b  = ?                              OFFSET 5

    Without the two the tokens are those of one draft, whatever the dialect. -/

namespace SqlGateway

open Statement Draft

/-! ### Bare tokens -/

namespace Statement

/-- The token with the mark without a number for every placeholder. -/
def Token.unnumbered : Token → Token
  | .placeholder _ => .placeholder "?"
  | t => t

/-- Tokens without a limit of `all` right before the offset at their end. -/
def withoutLimit (all : String) : List Token → List Token
  | [] => []
  | t :: ts =>
    if t = .word "LIMIT" ∧ ts.take 2 = [.number all, .word "OFFSET"] ∧ ts.length = 3 then ts.tail
    else t :: withoutLimit all ts

theorem withoutLimit_append (all n : String) (ts : List Token) :
    withoutLimit all (ts ++ [.word "LIMIT", .number all, .word "OFFSET", .number n]) =
      ts ++ [.word "OFFSET", .number n] := by
  induction ts with
  | nil => simp [withoutLimit]
  | cons t ts ih =>
    have hl : (ts ++ [Token.word "LIMIT", .number all, .word "OFFSET", .number n]).length ≠ 3 := by
      simp
    rw [List.cons_append, withoutLimit, if_neg fun h => hl h.2.2, ih, List.cons_append]

end Statement

/-- Tokens of a statement of the query without what only one dialect has: the numbers of the
    placeholders, and the limit for all rows where an offset has no limit of its own. -/
def Query.bare (d : Dialect) (q : Query) (ts : List Token) : List Token :=
  match q.limit, q.offset, d.unboundedLimit with
  | none, some _, some all => (withoutLimit all ts).map Token.unnumbered
  | _, _, _ => ts.map Token.unnumbered

/-! ### Bare tokens of drafts -/

/-- A phrase or an integer reads alike in all dialects. -/
theorem read_plain_eq (d d' : Dialect) {integers : List String} (hi : ∀ s ∈ integers, IsInteger s)
    {sql : String} (h : sql ∈ phrases ∨ sql ∈ integers) :
    read d sql.toList = read d' sql.toList := by
  have hp : ∀ d : Dialect, ∀ s ∈ phrases, read d s.toList = read .sqlite s.toList := by
    intro d
    cases d <;> decide
  rcases h with h | h
  · rw [hp d sql h, hp d' sql h]
  · rw [read_integer d (hi sql h), read_integer d' (hi sql h)]

namespace Draft

/-- Without the numbers of the placeholders, a draft has the same tokens in all dialects. -/
theorem map_unnumbered_tokens {integers : List String} (hi : ∀ s ∈ integers, IsInteger s)
    (d d' : Dialect) (n n' : Nat) {draft : Draft} (h : Sound integers draft) :
    (tokens d n draft).map Token.unnumbered = (tokens d' n' draft).map Token.unnumbered := by
  induction draft generalizing n n' with
  | nil => rfl
  | cons f rest ih =>
    cases f with
    | text sql =>
      have hr : read d sql.toList = read d' sql.toList :=
        read_plain_eq d d' hi (h.fixed sql List.mem_cons_self)
      rw [tokens, tokens, hr, List.map_append, List.map_append, ih n n' h.of_cons]
    | identifier name => exact congrArg (.identifier name :: ·) (ih n n' h.of_cons)
    | argument v => exact congrArg (.placeholder "?" :: ·) (ih (n + 1) (n' + 1) h.of_cons)

theorem tokens_append (d : Dialect) (n : Nat) (a b : Draft) :
    tokens d n (a ++ b) = tokens d n a ++ tokens d (n + (arguments a).length) b := by
  induction a generalizing n with
  | nil => rfl
  | cons f rest ih =>
    cases f with
    | text sql => rw [List.cons_append, tokens, tokens, ih, arguments, List.append_assoc]; simp
    | identifier name => exact congrArg (.identifier name :: ·) (ih n)
    | argument v =>
      rw [List.cons_append, tokens, tokens, ih, arguments, List.length_cons, Nat.add_right_comm,
        Nat.add_assoc, List.cons_append]

end Draft

namespace Plan

/-- A read without its window. -/
def bodyDraft (p : SelectPlan) : Draft :=
  .text "SELECT " :: separated ", " (p.projections.map projectionDraft) ++
    [.text " FROM ", .identifier p.table, .text " ", .identifier p.aliasName] ++
    p.joins.flatMap joinDraft ++
    whereDraft (p.filters.map fun (c, t) => testDraft (qualified c.aliasName c.column) t) ++
    groupDraft p.groupKeys ++ sortDraft p.sortKeys

theorem tokens_offset (d : Dialect) (k : Nat) (n : UInt64) :
    tokens d k (windowDraft .postgres none (some n)) =
      [.word "OFFSET", .number (Number.natText n.toNat)] := by
  have ho : read d " OFFSET ".toList = some [.word "OFFSET"] := by cases d <;> decide
  have hn := read_natText d n.toNat
  show (read d " OFFSET ".toList).getD [] ++ ((read d _).getD [] ++ []) = _
  rw [ho, hn]
  rfl

/-- The limit for all rows stands before the offset. -/
theorem tokens_padded (d : Dialect) (k : Nat) {all : String} (h : d.unboundedLimit = some all)
    (n : UInt64) : tokens d k (windowDraft d none (some n)) =
      .word "LIMIT" :: .number all :: tokens d k (windowDraft .postgres none (some n)) := by
  have hl : read d " LIMIT ".toList = some [.word "LIMIT"] := by cases d <;> decide
  have hi : all ∈ windowIntegers d none none := by simp [windowIntegers, h]
  have ha : read d all.toList = some [.number all] :=
    read_integer d (isInteger_of_mem_windowIntegers all hi)
  have hw : windowDraft d none (some n) =
      .text " LIMIT " :: .text all :: windowDraft .postgres none (some n) := by
    simp only [windowDraft, h]
    rfl
  rw [hw, tokens, tokens, hl, ha]
  rfl

/-- But for the limit before an offset, a window is the same in all dialects. -/
theorem windowDraft_eq (d : Dialect) {limit offset : Option UInt64}
    (h : limit = none → offset ≠ none → d.unboundedLimit = none) :
    windowDraft d limit offset = windowDraft .postgres limit offset := by
  cases limit with
  | some m => rfl
  | none =>
    cases offset with
    | none => rfl
    | some n =>
      have hd : d.unboundedLimit = none := h rfl (Option.some_ne_none n)
      simp only [windowDraft, hd]
      rfl

end Plan

/-! ### Agreement -/

namespace Query

open Plan (bodyDraft)

/-- Nothing but the length of the labels is judged by the dialect. -/
theorem ofQuery_congr {d d' : Dialect} (h : d.maxIdentifierLength = d'.maxIdentifierLength)
    (q : Query) : Plan.ofQuery d q = Plan.ofQuery d' q := by
  have hs : Plan.ofSelect d q = Plan.ofSelect d' q := by rw [Plan.ofSelect, Plan.ofSelect, h]
  rw [Plan.ofQuery, Plan.ofQuery, hs]

theorem isReadable_postgres_iff {q : Query} :
    q.IsReadable .postgres ↔ q.IsReadable .sqlite ∧ ∀ l ∈ q.labels, l.utf8ByteSize ≤ 63 := by
  have hl : (∀ l ∈ q.labels, l.utf8ByteSize ≤ 63) ↔
      ∀ c ∈ q.columns, (c.label q.root).utf8ByteSize ≤ 63 := by simp [labels]
  rw [hl]
  constructor
  · intro h
    exact ⟨{ h with labels_fit := nofun }, h.labels_fit rfl⟩
  · rintro ⟨h, hf⟩
    exact { h with labels_fit := fun _ => hf }

theorem isWellFormed_postgres_iff {q : Query} : q.IsWellFormed .postgres ↔
    q.IsWellFormed .sqlite ∧ (q.kind = .select → ∀ l ∈ q.labels, l.utf8ByteSize ≤ 63) := by
  rw [IsWellFormed, IsWellFormed]
  cases q.kind with
  | select => simp [isReadable_postgres_iff]
  | _ => simp

/-- The bare tokens of a plan are the same in all dialects. -/
theorem bare_tokens {d : Dialect} {q : Query} (h : q.IsSound d) :
    q.bare d (tokens d 0 (q.plan.draft d)) =
      (tokens .postgres 0 (q.plan.draft .postgres)).map Token.unnumbered := by
  have hu : (tokens d 0 (q.plan.draft .postgres)).map Token.unnumbered =
      (tokens .postgres 0 (q.plan.draft .postgres)).map Token.unnumbered :=
    map_unnumbered_tokens Plan.isInteger_of_mem_integers d .postgres 0 0
      (Plan.sound_draft .postgres q.plan)
  -- a write has no window
  have hw (hs : q.IsSingle) (hd : q.plan.draft d = q.plan.draft .postgres) :
      q.bare d (tokens d 0 (q.plan.draft d)) =
        (tokens .postgres 0 (q.plan.draft .postgres)).map Token.unnumbered := by
    rw [bare, hs.order_eq.1.2, hs.order_eq.2, hd, ← hu]
  rw [IsSound] at h
  cases hk : q.kind with
  | select =>
    have hp (d : Dialect) : q.plan.draft d =
        bodyDraft q.selectPlan ++ Plan.windowDraft d q.limit q.offset := by
      rw [plan, hk]
      rfl
    rw [← hu, bare]
    rw [hp, hp]
    split
    case h_1 n all hl ho ha =>
      rw [hl, ho, tokens_append, tokens_append, Plan.tokens_padded d _ ha, Plan.tokens_offset,
        withoutLimit_append]
    case h_2 hn =>
      rw [Plan.windowDraft_eq d]
      intro hl ho
      obtain ⟨n, ho⟩ := Option.ne_none_iff_exists'.mp ho
      refine Option.eq_none_iff_forall_not_mem.mpr fun all ha => ?_
      exact hn n all hl ho ha
  | insert =>
    rw [hk] at h
    exact hw h.1 (by rw [plan, hk]; rfl)
  | update =>
    rw [hk] at h
    exact hw h.1 (by rw [plan, hk]; rfl)
  | delete =>
    rw [hk] at h
    exact hw h.1 (by rw [plan, hk]; rfl)

/-- Two of the dialects accept the same queries and reject the others for the same cause, the third
    one also rejects long labels, and what is accepted by any two has the same arguments and the same
    bare tokens. -/
theorem dialects_agree (q : Query) :
    ((∃ s s', q.compile .mysql = .ok s ∧ q.compile .sqlite = .ok s') ∨
      ∃ e, q.compile .mysql = .error e ∧ q.compile .sqlite = .error e) ∧
    ((∃ s, q.compile .postgres = .ok s) ↔ (∃ s, q.compile .sqlite = .ok s) ∧
      (q.kind = .select → ∀ l ∈ q.labels, l.utf8ByteSize ≤ 63)) ∧
    ∀ d d' s s', q.compile d = .ok s → q.compile d' = .ok s' → s.args = s'.args ∧
      ∃ ts ts', s.tokens? d = some ts ∧ s'.tokens? d' = some ts' ∧ q.bare d ts = q.bare d' ts' := by
  refine ⟨?_, ?_, fun d d' s s' h h' => ?_⟩
  · have hq : Plan.ofQuery .mysql q = Plan.ofQuery .sqlite q := ofQuery_congr rfl q
    rw [compile, compile, hq]
    cases Plan.ofQuery .sqlite q with
    | error e => exact Or.inr ⟨e, rfl, rfl⟩
    | ok p => exact Or.inl ⟨_, _, rfl, rfl⟩
  · simp only [exists_compile_eq_ok_iff, isWellFormed_postgres_iff, and_right_comm]
  · obtain ⟨hs, rfl⟩ := compile_eq_ok_iff.mp h
    obtain ⟨hs', rfl⟩ := compile_eq_ok_iff.mp h'
    have ha : (q.plan.statement d).args = (q.plan.statement d').args :=
      (q.arguments_draft d).trans (q.arguments_draft d').symm
    exact ⟨ha, _, _, q.plan.tokens?_statement d, q.plan.tokens?_statement d',
      (bare_tokens hs).trans (bare_tokens hs').symm⟩

/-- Reads one column under one condition, from a row on. -/
def skipping (filter : Value) (offset : UInt64) : Query :=
  { (on .select "t").addColumn { name := "a" } with
    filters := [{ name := "b", value := some filter }]
    offset := some offset }

theorem dialects_agree_skipping : ∃ s s' ts ts',
    (skipping (.int 7) 5).compile .postgres = .ok s ∧
    (skipping (.int 7) 5).compile .mysql = .ok s' ∧
    s.sql = "SELECT \"t\".\"a\" \"t.a\" FROM \"t\" \"t\" WHERE \"t\".\"b\" = $1 OFFSET 5" ∧
    s'.sql = "SELECT \x60t\x60.\x60a\x60 \x60t.a\x60 FROM \x60t\x60 \x60t\x60 WHERE \x60t\x60.\x60b\x60 = ? " ++
      "LIMIT 18446744073709551615 OFFSET 5" ∧
    s.args = s'.args ∧ s.tokens? .postgres = some ts ∧ s'.tokens? .mysql = some ts' ∧
    (skipping (.int 7) 5).bare .postgres ts = (skipping (.int 7) 5).bare .mysql ts' := by
  obtain ⟨-, -, h⟩ := dialects_agree (skipping (.int 7) 5)
  obtain ⟨ha, ts, ts', ht, ht', hb⟩ := h .postgres .mysql _ _ rfl rfl
  exact ⟨_, _, ts, ts', rfl, rfl, by decide +kernel, by decide +kernel, ha, ht, ht', hb⟩

end Query

end SqlGateway
