import SqlGateway.Proofs.Json.Reads
import SqlGateway.Proofs.Query.WellFormed

/-! A query and its document. Every part of a query is read off the document that it is written as:
    what is left out is what a reader puts in its place, and what has the usual value in a place
    where it is written anyway is read as any other:

        value absent    no field           ▶   absent
        value null      "value":null       ▶   null
        value 1         "value":1          ▶   the integer
        value "1"       "value":"1"        ▶   the text

    Moments and byte strings are the values that this leaves out, as their literals are texts. -/

namespace SqlGateway

open Json (Reads Fills)
open Number (Double)

/-! ### Values -/

/-- A value that is written as a literal of its own kind. -/
def Value.IsLiteral : Value → Prop
  | .null | .bool _ | .int _ | .text _ => True
  | .float x => x.isFinite = true
  | .timestamp _ | .bytes _ => False

instance : DecidablePred Value.IsLiteral
  | .null | .bool _ | .int _ | .text _ => isTrue trivial
  | .float x => inferInstanceAs (Decidable (x.isFinite = true))
  | .timestamp _ | .bytes _ => isFalse id

/-- Such a value, whose text is read back if it is a float. -/
structure Value.IsReadable (v : Value) : Prop where
  isLiteral : v.IsLiteral
  float : ∀ x, v = .float x → Json.ofText? x.documentText = some (.float x)

theorem Value.reads {v : Value} (h : v.IsReadable) : Reads Value.decoder v.toJson v := by
  cases v with
  | null => exact ⟨trivial, fun _ _ => rfl⟩
  | bool b => exact ⟨trivial, fun _ _ => rfl⟩
  | text s => exact ⟨trivial, fun _ _ => rfl⟩
  | int i =>
    refine ⟨trivial, fun depth _ => ?_⟩
    have hl := i.le_toInt
    have hh := i.toInt_lt
    have hfit : Number.fitsSigned 64 i.toInt = true := (Json.fitsSigned_iff 64 _).mpr ⟨hl, hh⟩
    rw [toJson, Json.source, Json.decoder_number,
      Reads.value?_ofInt hl (hh.trans (by norm_num))]
    simp only [if_pos hfit, Int64.ofInt_toInt]
  | float x =>
    have hlegible : Json.LegibleFloat x := ⟨h.isLiteral, h.float x rfl⟩
    have hf : Value.toJson (.float x) = .float x := by rw [toJson, if_pos hlegible.1]
    obtain ⟨l, -, hl, hv⟩ := hlegible.exists_literal
    rw [hf]
    refine ⟨hlegible, fun depth _ => ?_⟩
    rw [Json.source, hl, Json.decoder_number, hv]
  | timestamp m => exact h.isLiteral.elim
  | bytes b => exact h.isLiteral.elim

/-! ### Columns and conditions -/

theorem TableKey.reads (k : TableKey) : Reads TableKey.decoder k.toJson k := by
  refine Fills.record ((Fills.field rfl rfl rfl (Reads.string k.name)).append
    (Fills.fieldUnless rfl rfl rfl fun _ => Reads.natural (by norm_num) k.occurrence.toNat_lt)) ?_
  obtain ⟨name, occurrence⟩ := k
  by_cases h : occurrence = 0 <;> simp [h]

namespace ColumnRef

/-- Is a value of the column, if it has one, told apart by its literal? -/
def IsReadable (c : ColumnRef) : Prop := ∀ v, c.value = some v → v.IsReadable

theorem reads {c : ColumnRef} (h : c.IsReadable) : Reads ColumnRef.decoder c.toJson c := by
  have haggregate (f : Aggregate) : Aggregate.names.lookup f.name = some f := by cases f <;> rfl
  have htable (k : TableKey) : Reads (Json.optional TableKey.decoder) k.toJson (some k) :=
    (TableKey.reads k).optional nofun
  have hfunction (f : Aggregate) : Reads (Json.optional (Json.name Aggregate.names))
      (.str f.name) (some f) := (Reads.name (haggregate f)).optional nofun
  obtain ⟨table, name, aggregate, descending, value⟩ := c
  refine Fills.record (((((Fills.fieldOf rfl rfl rfl fun k _ => htable k).append
    (Fills.field rfl ?_ rfl (Reads.string name))).append
    (Fills.fieldOf rfl ?_ rfl fun f _ => hfunction f)).append
    (Fills.fieldUnless rfl ?_ rfl fun _ => Reads.boolean true)).append
    (Fills.fieldOf rfl ?_ rfl fun v hv => Value.reads (h v hv))) ?_
  all_goals cases table <;> try rfl
  all_goals cases aggregate <;> try rfl
  all_goals cases descending <;> try rfl
  all_goals cases value <;> rfl

end ColumnRef

/-- Can both sides be told apart from every other column? -/
def Condition.IsReadable (c : Condition) : Prop := c.left.IsReadable ∧ c.right.IsReadable

theorem Condition.reads {c : Condition} (h : c.IsReadable) :
    Reads Condition.decoder c.toJson c := by
  have hsymbol : Comparison.names.lookup c.comparison.symbol = some c.comparison := by
    cases c.comparison <;> rfl
  exact Fills.record (((Fills.field rfl rfl rfl (ColumnRef.reads h.1)).append
    (Fills.field rfl rfl rfl (Reads.name hsymbol))).append
    (Fills.field rfl rfl rfl (ColumnRef.reads h.2))) rfl

/-! ### Trees of tables -/

/-- The document of a join. -/
def Join.toJson : Join → Json
  | .mk kind conditions table => JoinTree.joinJson kind conditions table.toJson

/-- Can every condition be told apart from every other one? -/
def Join.IsReadable (j : Join) : Prop := ∀ c ∈ j.conditions, c.IsReadable

namespace JoinTree

theorem joinsJson_eq (js : List Join) : joinsJson js = js.map Join.toJson := by
  induction js with
  | nil => rfl
  | cons j js ih =>
    cases j with
    | mk kind conditions table => rw [joinsJson, ih]; rfl

theorem joinFields_eq (js : List Join) :
    joinFields js = fieldUnless js.isEmpty "joins" (.arr (js.map Join.toJson)) := by
  cases js with
  | nil => rfl
  | cons j js =>
    cases j with
    | mk kind conditions table => rw [joinFields, joinsJson_eq]; rfl

theorem ruleDecoder_reads (kind : JoinKind) {conditions : List Condition}
    (h : ∀ c ∈ conditions, c.IsReadable) :
    Reads ruleDecoder (.obj [("kind", .str kind.jsonName),
      ("conditions", .arr (conditions.map Condition.toJson))]) (kind, conditions) := by
  have hkind : JoinKind.names.lookup kind.jsonName = some kind := by cases kind <;> rfl
  exact Fills.record ((Fills.field rfl rfl rfl (Reads.name hkind)).append
    (Fills.field rfl rfl rfl (Reads.list fun c hc => Condition.reads (h c hc)))) rfl

theorem joinDecoder_reads {kind : JoinKind} {conditions : List Condition} {table : JoinTree}
    {d : Json.Decoder JoinTree} (hd : Reads d table.toJson table)
    (h : ∀ c ∈ conditions, c.IsReadable) :
    Reads (joinDecoder d) (Join.toJson (.mk kind conditions table)) (.mk kind conditions table) :=
  Fills.record ((Fills.field rfl rfl rfl hd).append
    (Fills.field rfl rfl rfl (ruleDecoder_reads kind h))) rfl

mutual

/-- A tree is read off its document with as many levels as the document nests. -/
theorem decoderOf_reads : ∀ (t : JoinTree) {height : ℕ}, t.toJson.nesting ≤ height →
    (∀ j ∈ t.descendants, j.IsReadable) → Reads (decoderOf height) t.toJson t
  | .node key joins, 0, hn, _ => by
    rw [toJson, Json.nesting] at hn
    omega
  | .node key joins, height + 1, hn, h => by
    rw [toJson, joinFields_eq] at hn ⊢
    have hitems : Json.itemsNesting (joins.map Join.toJson) ≤ height := by
      cases joins with
      | nil => exact Nat.zero_le _
      | cons j js =>
        simp only [Json.nesting, Json.fieldsNesting_append, fieldUnless, List.isEmpty_cons,
          Bool.false_eq_true, if_false, Json.fieldsNesting] at hn
        omega
    obtain ⟨name, occurrence⟩ := key
    refine Fills.record (((Fills.field rfl rfl rfl (Reads.string name)).append
      (Fills.fieldUnless rfl rfl rfl fun _ =>
        Reads.natural (by norm_num) occurrence.toNat_lt)).append
      (Fills.fieldUnless rfl ?_ rfl fun _ =>
        Reads.list (joinDecoder_reads_of_mem joins hitems h))) ?_
    · by_cases ho : occurrence = 0 <;> simp [ho]
    · by_cases ho : occurrence = 0 <;> cases joins <;> simp [ho]

/-- A join is read where its table is. -/
theorem joinDecoder_reads_of_mem : ∀ (js : List Join) {height : ℕ},
    Json.itemsNesting (js.map Join.toJson) ≤ height → (∀ j ∈ branches js, j.IsReadable) →
    ∀ j ∈ js, Reads (joinDecoder (decoderOf height)) j.toJson j
  | [], _, _, _ => nofun
  | .mk kind conditions table :: rest, height, hn, h => by
    rw [branches, List.forall_mem_cons, List.forall_mem_append] at h
    rw [List.map_cons, Json.itemsNesting, max_le_iff] at hn
    have htable : table.toJson.nesting ≤ height := by
      have := hn.1
      rw [Join.toJson, joinJson, Json.nesting, Json.fieldsNesting] at this
      omega
    exact List.forall_mem_cons.mpr
      ⟨joinDecoder_reads (decoderOf_reads table htable h.2.1) h.1,
        joinDecoder_reads_of_mem rest hn.2 h.2.2⟩

end

theorem decoder_reads {t : JoinTree} (hn : t.toJson.nesting ≤ Json.depthLimit)
    (h : ∀ j ∈ t.descendants, j.IsReadable) : Reads decoder t.toJson t := decoderOf_reads t hn h

end JoinTree

/-! ### Queries -/

namespace Query

theorem reads {q : Query} (h : ∀ c ∈ q.references, c.IsReadable)
    (hn : q.toJson.nesting ≤ Json.depthLimit) : Reads decoder q.toJson q := by
  have hkind : QueryKind.names.lookup q.kind.jsonName = some q.kind := by cases q.kind <;> rfl
  have hcolumns (cs : List ColumnRef) (hcs : ∀ c ∈ cs, c ∈ q.references) :
      Reads (Json.list ColumnRef.decoder) (.arr (cs.map ColumnRef.toJson)) cs :=
    Reads.list fun c hc => ColumnRef.reads (h c (hcs c hc))
  have htable : q.table.toJson.nesting ≤ Json.depthLimit := by
    simp only [toJson, Json.nesting, Json.fieldsNesting_append, Json.fieldsNesting] at hn
    omega
  have hconditions : ∀ j ∈ q.table.descendants, j.IsReadable := fun j hj c hc =>
    ⟨h _ (by simp only [references, List.mem_append, List.mem_flatMap]; grind),
      h _ (by simp only [references, List.mem_append, List.mem_flatMap]; grind)⟩
  have hwindow (n : UInt64) : Reads (Json.optional (Json.natural 64)) (.int n.toNat)
      (some n.toNat) := (Reads.natural le_rfl n.toNat_lt).optional (by simp [Json.source])
  have hallow := Reads.boolean q.allowUnfiltered
  have hcs := hcolumns q.columns fun c hc => by simp [references, hc]
  have hos := hcolumns q.orderBy fun c hc => by simp [references, hc]
  have hfs := hcolumns q.filters fun c hc => by simp [references, hc]
  obtain ⟨kind, table, columns, orderBy, filters, limit, offset, allow⟩ := q
  refine Fills.record ((((((((Fills.field rfl rfl rfl (Reads.name hkind)).append
    (Fills.field rfl rfl rfl (JoinTree.decoder_reads htable hconditions))).append
    (Fills.field rfl rfl rfl hcs)).append (Fills.field rfl rfl rfl hos)).append
    (Fills.field rfl rfl rfl hfs)).append (Fills.fieldOf rfl rfl rfl fun n _ => hwindow n)).append
    (Fills.fieldOf rfl ?_ rfl fun n _ => hwindow n)).append (Fills.field rfl ?_ rfl hallow)) ?_
  · cases limit <;> rfl
  · cases limit <;> cases offset <;> rfl
  · cases limit <;> cases offset <;> simp

/-- The floats among the values of a query. -/
def floats (q : Query) : List Double :=
  q.references.filterMap fun c =>
    match c.value with
    | some (.float x) => some x
    | _ => none

/-- A query comes back from its text, if the texts of its floats are read back, and so it is the same
    statement in every dialect, or turned down for the same reason. -/
theorem ofText_toJson (q : Query) (hv : ∀ c ∈ q.references, ∀ v ∈ c.value, v.IsLiteral)
    (hn : q.toJson.nesting ≤ 127)
    (hx : ∀ x ∈ q.floats, Json.ofText? x.documentText = some (.float x)) :
    ofText q.toJson.text = .ok q ∧
      ∀ d : Dialect, (ofText q.toJson.text).map (compile d) = .ok (q.compile d) := by
  have hreadable : ∀ c ∈ q.references, c.IsReadable := fun c hc v hcv =>
    ⟨hv c hc v hcv, fun x hvx => hx x (List.mem_filterMap.mpr ⟨c, hc, by rw [hcv, hvx]⟩)⟩
  have hread : ofText q.toJson.text = .ok q := (reads hreadable hn).decode hn
  exact ⟨hread, fun d => by rw [hread]; rfl⟩

/-- Staff with sites to the left, a float, an absent value beside an explicit null, an integer beside
    its text. -/
def roster : Query where
  kind := .select
  table := .node ⟨"staff", 0⟩ [.mk .left
    [⟨{ table := some ⟨"staff", 0⟩, name := "site" }, .ne,
      { table := some ⟨"site", 1⟩, name := "id" }⟩] (.leaf ⟨"site", 1⟩)]
  columns := [{ name := "name" }, { name := "pay", aggregate := some .avg }]
  orderBy := [{ name := "name", descending := true }]
  filters := [{ name := "rate", value := some (.float ⟨0x3FF8000000000000⟩) },
    { name := "left", value := some .null }, { name := "right" },
    { name := "grade", value := some (.int (-7)) },
    { name := "note", value := some (.text "-7\n\"\\") },
    { name := "active", value := some (.bool false) }]
  limit := some 10

theorem ofText_toJson_roster : ofText roster.toJson.text = .ok roster ∧
    ∀ d : Dialect, (ofText roster.toJson.text).map (compile d) = .ok (roster.compile d) := by
  have hfloats : roster.floats = [⟨0x3FF8000000000000⟩] := rfl
  refine ofText_toJson roster (by decide) (by decide) fun x hx => ?_
  obtain rfl := List.mem_singleton.mp (hfloats ▸ hx)
  rfl

end Query

end SqlGateway
