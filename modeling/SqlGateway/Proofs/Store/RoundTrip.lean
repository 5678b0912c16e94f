import SqlGateway.Proofs.Query.Labels
import SqlGateway.Proofs.Query.WellFormed
import SqlGateway.Proofs.Statement.Meaning
import SqlGateway.Proofs.Work.Ends
import SqlGateway.Store.Basic
import Mathlib.Data.List.Perm.Basic
import Mathlib.Data.Set.List

/-! The store reads back what it writes. On tables that keep what is bound, the rows of the records
    are written and read by statements that know nothing of each other but the names of the columns:

        insert id i    one more row            listed: one more record, (id, i)
        update id i    seven cells of a row    listed: (id, i) for the record of id
        delete id      one row less            listed: all but the record of id

    An update of an identifier without a record is reported and changes nothing, a deletion changes
    nothing either. -/

namespace SqlGateway

variable {σ P T : Type}

/-! ### Databases that run statements by their meaning -/

/-- A pool to tables that keep what is bound. It runs every statement by its meaning, in transactions
    that work on a copy of the tables, and sorts values by some order. -/
structure Databases.KeepsTables (db : Databases σ P T) (pool : P) (le : Value → Value → Bool)
    (held : σ → Tables) (staged : σ → T → Tables) : Prop where
  start : ∀ s, ∃ tx s', (db.transactions pool).start s = (.done tx, s') ∧ staged s' tx = held s
  write : ∀ {s tx p n ts},
    (p.statement (db.pooled.dialect pool)).write (db.pooled.dialect pool) (staged s tx) =
      some (n, ts) → ∃ s', db.joined.write tx p s = (.done n, s') ∧ staged s' tx = ts
  commit : ∀ s tx, ∃ s', (db.transactions pool).commit tx s = (.done (), s') ∧
    held s' = staged s tx
  readRows : ∀ {s p rows},
    ((Plan.select p).statement (db.pooled.dialect pool)).readRows (db.pooled.dialect pool) le
      (held s) = some rows → ∃ s', db.pooled.read pool p s = (.done rows, s') ∧ held s' = held s

/-! ### Records and rows -/

namespace Record

open Number (int64Text)

/-- A stored row as the records are read: under the labels of the query that lists them. -/
def shown (t : Tuple) : Row := Row.ofCells (listQuery.labels.zip (columnNames.map t))

/-- The record of a stored row. -/
def ofTuple (t : Tuple) : Except Failure (String × ConnectionInfo) := ofRow (shown t)

/-- The record of a stored row, if it can be read. -/
def found (t : Tuple) : Option (String × ConnectionInfo) := (ofTuple t).toOption

/-- The cells that are written for a connection. -/
def written (i : ConnectionInfo) : List (String × Value) := Plan.cells (cells i)

theorem cell?_shown (t : Tuple) {c : String} (h : c ∈ columnNames) :
    cell? (shown t) c = some (t c) := by
  rw [cell?, shown, Row.lookup_ofCells]
  revert c
  simp only [columnNames, List.forall_mem_cons]
  exact ⟨rfl, rfl, rfl, rfl, rfl, rfl, rfl, rfl, fun _ h => nomatch h⟩

theorem textOf_shown {t : Tuple} {c s : String} (h : c ∈ columnNames) (hs : t c = .text s) :
    textOf (shown t) c = s := by
  rw [textOf, cell?_shown t h, hs]

theorem portOf_shown {t : Tuple} {n : UInt16} (h : t "port" = .int (Int64.ofNat n.toNat))
    (id : String) : portOf id (shown t) = .ok n := by
  have hn : n.toNat < 65536 := n.toNat_lt
  have hi : (Int64.ofNat n.toNat).toInt = n.toNat := Int64.toInt_ofNat_of_lt (by omega)
  rw [portOf, cell?_shown t (by decide), h]
  simp [hi, hn]

theorem ofName?_name (d : Driver) : Driver.ofName? d.name = some d := by
  cases d <;> decide

/-- The record of a row in which a connection was written. -/
theorem found_write {t : Tuple} {id : String} (h : t "id" = .text id) (i : ConnectionInfo) :
    found (t.write (written i)) = some (id, i) := by
  have ht {c s : String} (hc : c ∈ columnNames) (hs : t.write (written i) c = .text s) :
      textOf (shown (t.write (written i))) c = s := textOf_shown hc hs
  have hid : t.write (written i) "id" = .text id := h
  have hr : ofTuple (t.write (written i)) = .ok (id, i) := by
    rw [ofTuple, ofRow, ht (by decide) hid, ht (c := "driver") (by decide) rfl, ofName?_name,
      portOf_shown rfl, ht (c := "name") (by decide) rfl, ht (c := "host") (by decide) rfl,
      ht (c := "db_user") (by decide) rfl, ht (c := "password") (by decide) rfl,
      ht (c := "db_name") (by decide) rfl]
    rfl
  rw [found, hr]
  rfl

/-- A record goes by the identifier of its row. -/
theorem found_id {t : Tuple} {id : String} (h : t "id" = .text id) {r : String × ConnectionInfo}
    (hr : found t = some r) : r.1 = id := by
  have ht : ofTuple t = .ok r := by
    rw [found] at hr
    cases ho : ofTuple t with
    | error e => simp [ho, Except.toOption] at hr
    | ok r' =>
      rw [ho] at hr
      exact congrArg Except.ok (Option.some.inj hr)
  rw [ofTuple, ofRow] at ht
  cases hd : Driver.ofName? (textOf (shown t) "driver") with
  | none =>
    rw [hd] at ht
    obtain ⟨_, ht, -⟩ := bind_eq_ok_iff.mp ht
    exact nomatch ht
  | some d =>
    rw [hd] at ht
    obtain ⟨_, -, ht⟩ := bind_eq_ok_iff.mp ht
    obtain ⟨port, -, ht⟩ := bind_eq_ok_iff.mp ht
    rw [pure_eq_ok_iff.mp ht]
    exact textOf_shown (by decide) h

/-- Rows are listed if each of them has a record, and as these records. -/
theorem mapM_ofTuple_eq_ok_iff {rows : List Tuple} {recs : List (String × ConnectionInfo)} :
    rows.mapM ofTuple = .ok recs ↔ rows.map found = recs.map some := by
  induction rows generalizing recs with
  | nil => cases recs <;> simp [pure, Except.pure]
  | cons t rows ih =>
    simp only [List.mapM_cons, bind_eq_ok_iff, pure_eq_ok_iff, ih, List.map_cons]
    cases ho : ofTuple t with
    | error e => cases recs <;> simp [found, ho, Except.toOption]
    | ok r =>
      cases recs with
      | nil => simp [found, ho, Except.toOption]
      | cons r' recs => simp [found, ho, Except.toOption, and_comm, eq_comm (a := r)]

/-- Each row has an identifier of its own, which is a text. -/
structure IsKeyed (rows : List Tuple) : Prop where
  text : ∀ t ∈ rows, ∃ id, t "id" = .text id
  nodup : (rows.map fun t => t "id").Nodup

/-- The row of an identifier stands between rows of other ones. -/
theorem IsKeyed.exists_split {rows : List Tuple} (h : IsKeyed rows) {id : String}
    (hp : ∃ t ∈ rows, t "id" = .text id) : ∃ front t back, rows = front ++ t :: back ∧
      t "id" = .text id ∧ ∀ u ∈ front ++ back, u "id" ≠ .text id := by
  obtain ⟨t, hm, ht⟩ := hp
  obtain ⟨front, back, rfl⟩ := List.append_of_mem hm
  refine ⟨front, t, back, rfl, ht, fun u hu he => ?_⟩
  have hn := h.nodup
  rw [List.map_append, List.map_cons, List.nodup_middle, ← List.map_append] at hn
  exact (List.nodup_cons.mp hn).1 (ht ▸ he ▸ List.mem_map_of_mem hu)

/-- The records of all rows but one, which has the record of its identifier. -/
theorem perm_erase {front back : List Tuple} {t : Tuple} {id : String}
    {recs : List (String × ConnectionInfo)} (hid : t "id" = .text id)
    (h : ((front ++ t :: back).map found).Perm (recs.map some)) :
    ∃ old, (id, old) ∈ recs ∧
      ((front ++ back).map found).Perm ((recs.erase (id, old)).map some) := by
  have hm : ((front ++ t :: back).map found).Perm (found t :: (front ++ back).map found) :=
    List.perm_middle.map found
  have ht : found t ∈ recs.map some := h.subset (List.mem_map_of_mem (by simp))
  obtain ⟨⟨id', old⟩, hr, he⟩ := List.mem_map.mp ht
  obtain rfl : id' = id := found_id hid he.symm
  have hp : (recs.map some).Perm (some (id', old) :: (recs.erase (id', old)).map some) :=
    (List.perm_cons_erase hr).map some
  refine ⟨old, hr, ?_⟩
  rw [← he] at hm
  exact ((hm.symm.trans h).trans hp).cons_inv

/-! ### Statements of the store -/

/-- The row that is added for a record. -/
def tuple (id : String) (i : ConnectionInfo) : Tuple :=
  Tuple.blank.write (("id", .text id) :: written i)

theorem found_tuple (id : String) (i : ConnectionInfo) : found (tuple id i) = some (id, i) := by
  have ht : tuple id i = (Tuple.blank.write [("id", .text id)]).write (written i) := by
    funext c
    by_cases hc : c = "id"
    · subst hc
      rfl
    · have hb : (c == "id") = false := beq_false_of_ne hc
      simp only [tuple, Tuple.write, List.lookup_cons, hb, List.lookup_nil]
      rfl
  have hid : Tuple.blank.write [("id", .text id)] "id" = .text id := rfl
  rw [ht, found_write hid i]

/-- The test for an identifier. -/
def idTest (id : String) : List (String × Test) := [("id", .equals (.text id))]

theorem passes_idTest_iff {t : Tuple} {id : String} :
    t.passes (idTest id) = true ↔ t "id" = .text id := by
  simp only [Tuple.passes, idTest, List.all_cons, List.all_nil, Bool.and_true, Test.holds,
    Bool.and_eq_true, beq_iff_eq, and_iff_right_iff_imp]
  intro h
  rw [h]
  rfl

section Rows

variable {id : String} {rows front back : List Tuple} {t : Tuple}

theorem map_of_absent (h : ∀ u ∈ rows, u "id" ≠ .text id) (cells : List (String × Value)) :
    (rows.map fun u => if u.passes (idTest id) then u.write cells else u) = rows := by
  conv_rhs => rw [← List.map_id rows]
  exact List.map_congr_left fun u hu => if_neg fun hp => h u hu (passes_idTest_iff.mp hp)

theorem filter_of_absent (h : ∀ u ∈ rows, u "id" ≠ .text id) :
    (rows.filter fun u => !u.passes (idTest id)) = rows := by
  refine List.filter_eq_self.mpr fun u hu => ?_
  simpa using fun hp => h u hu (passes_idTest_iff.mp hp)

theorem countP_of_absent (h : ∀ u ∈ rows, u "id" ≠ .text id) :
    rows.countP (·.passes (idTest id)) = 0 :=
  List.countP_eq_zero.mpr fun u hu hp => h u hu (passes_idTest_iff.mp hp)

theorem map_split (ht : t "id" = .text id) (h : ∀ u ∈ front ++ back, u "id" ≠ .text id)
    (cells : List (String × Value)) :
    ((front ++ t :: back).map fun u => if u.passes (idTest id) then u.write cells else u) =
      front ++ t.write cells :: back := by
  obtain ⟨hf, hb⟩ := List.forall_mem_append.mp h
  rw [List.map_append, List.map_cons, map_of_absent hf, map_of_absent hb,
    if_pos (passes_idTest_iff.mpr ht)]

theorem filter_split (ht : t "id" = .text id) (h : ∀ u ∈ front ++ back, u "id" ≠ .text id) :
    ((front ++ t :: back).filter fun u => !u.passes (idTest id)) = front ++ back := by
  obtain ⟨hf, hb⟩ := List.forall_mem_append.mp h
  have hp : t.passes (idTest id) = true := passes_idTest_iff.mpr ht
  rw [List.filter_append, List.filter_cons_of_neg (by simp [hp]), filter_of_absent hf,
    filter_of_absent hb]

end Rows

/-- Nothing has changed but the rows of an identifier, and all rows are keyed again. -/
structure Touches (id : String) (ts ts' : Tables) : Prop where
  tables : ∀ name, name ≠ table → ts' name = ts name
  rows : ((ts' table).filter fun t => t "id" != .text id) =
    (ts table).filter fun t => t "id" != .text id
  keyed : IsKeyed (ts' table)

theorem touches_insert {id : String} {ts : Tables} (hk : IsKeyed (ts table))
    (h : ∀ t ∈ ts table, t "id" ≠ .text id) (i : ConnectionInfo) :
    Touches id ts (Function.update ts table (ts table ++ [tuple id i])) := by
  have hid : tuple id i "id" = .text id := rfl
  refine ⟨fun name hn => Function.update_of_ne hn _ _, ?_, ?_⟩
  · rw [Function.update_self, List.filter_append]
    simp [hid]
  · rw [Function.update_self]
    refine ⟨?_, ?_⟩
    · rw [List.forall_mem_append]
      exact ⟨hk.text, fun t ht => ⟨id, List.mem_singleton.mp ht ▸ hid⟩⟩
    · rw [List.map_append, List.nodup_append]
      refine ⟨hk.nodup, by simp, ?_⟩
      simpa [hid] using h

theorem touches_split {id : String} {ts : Tables} {front back : List Tuple} {t : Tuple}
    (hk : IsKeyed (ts table)) (hts : ts table = front ++ t :: back) (ht : t "id" = .text id)
    (inner : List Tuple) (hi : inner = [] ∨ ∃ u, inner = [u] ∧ u "id" = .text id) :
    Touches id ts (Function.update ts table (front ++ (inner ++ back))) := by
  rw [hts] at hk
  refine ⟨fun name hn => Function.update_of_ne hn _ _, ?_, ?_⟩
  · rw [Function.update_self, hts]
    obtain rfl | ⟨u, rfl, hu⟩ := hi
    · simp [ht]
    · simp [ht, hu]
  · rw [Function.update_self]
    obtain rfl | ⟨u, rfl, hu⟩ := hi
    · have hsub : (front ++ back).Sublist (front ++ t :: back) :=
        (List.sublist_cons_self t back).append_left front
      exact ⟨fun v hv => hk.text v (hsub.subset hv), hk.nodup.sublist (hsub.map _)⟩
    · refine ⟨?_, ?_⟩
      · have hf := hk.text
        simp only [List.forall_mem_append, List.forall_mem_cons] at hf ⊢
        exact ⟨hf.1, ⟨⟨id, hu⟩, fun _ h => nomatch h⟩, hf.2.2⟩
      · have hn := hk.nodup
        simpa [ht, hu] using hn

theorem compiles (d : Dialect) (id : String) (i : ConnectionInfo) :
    ∀ q ∈ [listQuery, insertQuery id i, updateQuery id i, deleteQuery id],
      ∃ st, q.compile d = .ok st := by
  simp only [List.forall_mem_cons]
  cases d <;> exact ⟨⟨_, rfl⟩, ⟨_, rfl⟩, ⟨_, rfl⟩, ⟨_, rfl⟩, nofun⟩

end Record

/-! ### The store -/

namespace Store

open Record (table IsKeyed found)

/-- Commit a transaction that is active and list the records. -/
def listCommitted (store : Store σ T) :
    Option T → Work σ Failure (List (String × ConnectionInfo))
  | none => store.list
  | some tx => do
    store.commit tx
    store.list

/-- The store lists these records, in some order, once an active transaction is committed. -/
def Lists (store : Store σ T) (active : Option T) (s : σ)
    (recs : List (String × ConnectionInfo)) : Prop :=
  ∃ recs' s', store.listCommitted active s = (.done recs', s') ∧ recs'.Perm recs

/-- The tables that a call works on: the copy of the transaction that it is handed, or what is
    held. -/
def worked (held : σ → Tables) (staged : σ → T → Tables) : Option T → σ → Tables
  | none, s => held s
  | some tx, s => staged s tx

variable {db : Databases σ P T} {pool : P} {le : Value → Value → Bool} {held : σ → Tables}
  {staged : σ → T → Tables}

theorem planned_of_compile {d : Dialect} {q : Query} {st : Statement} (h : q.compile d = .ok st)
    (s : σ) : planned d q s = (.done q.plan, s) := by
  have hp := (Plan.ofQuery_eq_ok_iff d q.plan).mpr ⟨(Query.compile_eq_ok_iff.mp h).1, rfl⟩
  rw [planned, hp]
  rfl

/-- A write of the store does what its statement means. -/
theorem write_done (h : db.KeepsTables pool le held staged) (active : Option T) {q : Query}
    {st : Statement} (hq : q.compile (db.pooled.dialect pool) = .ok st) {s : σ} {n : Nat}
    {ts : Tables} (hw : (q.normalForm (db.pooled.dialect pool)).write
      (worked held staged active s) = some (n, ts)) (id : String) :
    ∃ s', write db pool active id q s = (.done n, s') ∧ worked held staged active s' = ts := by
  have hm : (q.plan.statement (db.pooled.dialect pool)).write (db.pooled.dialect pool)
      (worked held staged active s) = some (n, ts) := by
    obtain ⟨-, rfl⟩ := Query.compile_eq_ok_iff.mp hq
    rw [Query.write_compile hq, hw]
  have hp {s' : σ} (hr : (db.transactions pool).readCommitted active
      (fun tx => db.joined.write tx q.plan) s = (.done n, s')) :
      write db pool active id q s = (.done n, s') := by
    refine Work.bind_eq_done_iff.mpr ⟨q.plan, s, planned_of_compile hq s, ?_⟩
    rw [Work.report, hr]
  cases active with
  | some tx =>
    obtain ⟨s', hd, hs⟩ := h.write hm
    exact ⟨s', hp hd, hs⟩
  | none =>
    obtain ⟨tx, s₁, hb, hs₁⟩ := h.start s
    rw [worked, ← hs₁] at hm
    obtain ⟨s₂, hd, hs₂⟩ := h.write hm
    obtain ⟨s₃, hc, hs₃⟩ := h.commit s₂ tx
    refine ⟨s₃, hp ?_, hs₃.trans hs₂⟩
    refine Work.bind_eq_done_iff.mpr ⟨tx, s₁, hb, ?_⟩
    refine Work.bind_eq_done_iff.mpr ⟨.ok n, s₂, Work.attempt_eq_ok_iff.mpr hd, ?_⟩
    exact Work.bind_eq_done_iff.mpr ⟨(), s₃, hc, rfl⟩

/-- The store reads the record of every stored row. -/
theorem list_eq (h : db.KeepsTables pool le held staged) (s : σ) :
    ∃ (s' : σ) (rows : List Tuple), rows.Perm (held s table) ∧
      (ofPool db pool).list s = (Outcome.ofExcept (rows.mapM Record.ofTuple), s') := by
  let d := db.pooled.dialect pool
  obtain ⟨st, hq⟩ := Record.compiles d "" (.file "" "") Record.listQuery List.mem_cons_self
  obtain ⟨hs, rfl⟩ := Query.compile_eq_ok_iff.mp hq
  have hp : Plan.ofSelect d Record.listQuery = .ok Record.listQuery.selectPlan :=
    (Plan.ofSelect_eq_ok_iff d _).mpr ⟨hs, rfl⟩
  -- it reads all rows under all columns, in the order of two of them
  obtain ⟨f, hf, hplain, htable, hall, hrow⟩ : ∃ f : SelectForm,
      Record.listQuery.normalForm d = .select f ∧ f.isPlain = true ∧ f.table = table ∧
      (f.filters = [] ∧ f.limit = none ∧ f.offset = none) ∧
      f.row Record.listQuery.labels = Record.shown := by
    cases d <;> exact ⟨_, rfl, rfl, rfl, ⟨rfl, rfl, rfl⟩, rfl⟩
  have hr := Query.readRows_compile rfl hq hf hplain le (held s)
  obtain ⟨s', hread, -⟩ := h.readRows (s := s) (p := Record.listQuery.selectPlan) hr
  refine ⟨s', f.tuples le (held s), ?_, ?_⟩
  · have ht : f.tuples le (held s) =
        (held s table).mergeSort (Tuple.precedes le f.sortKeys) := by
      simp [SelectForm.tuples, windowOf, hall, htable, Tuple.passes]
    rw [ht]
    exact List.mergeSort_perm _ _
  · have hd : ((db.pooled.read pool Record.listQuery.selectPlan).report
        (Failure.intoPersist "*")) s = (.done ((f.tuples le (held s)).map Record.shown), s') := by
      rw [Work.report, hread, hrow]
    have ho : Record.ofRow ∘ Record.shown = Record.ofTuple := by
      funext t
      rw [Function.comp_apply, Record.ofTuple]
    show (Work.ofExcept ((Plan.ofSelect d Record.listQuery).mapError Failure.ofRejection) >>= _) s =
      _
    rw [hp, ← ho, ← List.mapM_map]
    exact Work.bind_of_done hd

theorem exists_map_some_of_perm {α : Type} {os : List (Option α)} {bs : List α}
    (h : os.Perm (bs.map some)) : ∃ cs : List α, os = cs.map some ∧ cs.Perm bs := by
  have hs : ∀ o ∈ os, o ∈ Set.range some := by
    intro o ho
    obtain ⟨b, -, rfl⟩ := List.mem_map.mp (h.subset ho)
    exact ⟨b, rfl⟩
  obtain ⟨cs, rfl⟩ := (Set.range_list_map (some : α → Option α)).ge hs
  exact ⟨cs, rfl, (List.map_perm_map_iff (Option.some_injective α)).mp h⟩

theorem listCommitted_eq (h : db.KeepsTables pool le held staged) (active : Option T) (s : σ) :
    ∃ (s' : σ) (rows : List Tuple), rows.Perm (worked held staged active s table) ∧
      (ofPool db pool).listCommitted active s =
        (Outcome.ofExcept (rows.mapM Record.ofTuple), s') := by
  cases active with
  | none => exact list_eq h s
  | some tx =>
    obtain ⟨s₁, hc, hs⟩ := h.commit s tx
    obtain ⟨s', rows, hp, hl⟩ := list_eq h s₁
    rw [hs] at hp
    exact ⟨s', rows, hp, (Work.bind_of_done hc).trans hl⟩

/-- The records that the store lists are those of the stored rows. -/
theorem lists_iff (h : db.KeepsTables pool le held staged) {active : Option T} {s : σ}
    {recs : List (String × ConnectionInfo)} : (ofPool db pool).Lists active s recs ↔
      ((worked held staged active s table).map found).Perm (recs.map some) := by
  obtain ⟨s', rows, hp, hl⟩ := listCommitted_eq h active s
  rw [Lists, hl]
  constructor
  · rintro ⟨recs', s'', he, hr⟩
    have hm : rows.mapM Record.ofTuple = .ok recs' := by
      cases hm : rows.mapM Record.ofTuple with
      | error e => simp [hm, Outcome.ofExcept] at he
      | ok as =>
        rw [hm] at he
        exact congrArg Except.ok (Outcome.done.inj (Prod.mk.inj he).1)
    rw [Record.mapM_ofTuple_eq_ok_iff] at hm
    exact (hp.symm.map found).trans (hm ▸ hr.map some)
  · intro hr
    obtain ⟨recs', hm, hr'⟩ := exists_map_some_of_perm ((hp.map found).trans hr)
    exact ⟨recs', s', by rw [Record.mapM_ofTuple_eq_ok_iff.mpr hm]; rfl, hr'⟩

section Calls

variable (h : db.KeepsTables pool le held staged) (active : Option T) (s : σ) (id : String)
  (info : ConnectionInfo)

include h

theorem insert_eq : ∃ s', (ofPool db pool).insert active id info s = (.done (), s') ∧
    worked held staged active s' = Function.update (worked held staged active s) table
      (worked held staged active s table ++ [Record.tuple id info]) := by
  obtain ⟨st, hq⟩ := Record.compiles (db.pooled.dialect pool) id info
    (Record.insertQuery id info) (by simp)
  obtain ⟨s', hw, hs⟩ := write_done h active hq rfl id
  exact ⟨s', Work.bind_eq_done_iff.mpr ⟨1, s', hw, rfl⟩, hs⟩

theorem update_eq : ∃ s', (ofPool db pool).update active id info s =
      (if (worked held staged active s table).countP (·.passes (Record.idTest id)) = 0
        then .failed (.connectionNotFound id) else .done (), s') ∧
    worked held staged active s' = Function.update (worked held staged active s) table
      ((worked held staged active s table).map fun t =>
        if t.passes (Record.idTest id) then t.write (Record.written info) else t) := by
  obtain ⟨st, hq⟩ := Record.compiles (db.pooled.dialect pool) id info
    (Record.updateQuery id info) (by simp)
  obtain ⟨s', hw, hs⟩ := write_done h active hq rfl id
  have hw : write db pool active id (Record.updateQuery id info) s =
      (.done ((worked held staged active s table).countP (·.passes (Record.idTest id))), s') := hw
  refine ⟨s', (Work.bind_of_done hw).trans ?_, hs⟩
  by_cases hz : (worked held staged active s table).countP (·.passes (Record.idTest id)) = 0
  · rw [if_pos hz, if_pos hz]
    rfl
  · rw [if_neg hz, if_neg hz]
    rfl

theorem delete_eq : ∃ s', (ofPool db pool).delete active id s = (.done (), s') ∧
    worked held staged active s' = Function.update (worked held staged active s) table
      ((worked held staged active s table).filter fun t => !t.passes (Record.idTest id)) := by
  obtain ⟨st, hq⟩ := Record.compiles (db.pooled.dialect pool) id (.file "" "")
    (Record.deleteQuery id) (by simp)
  obtain ⟨s', hw, hs⟩ := write_done h active hq rfl id
  exact ⟨s', Work.bind_eq_done_iff.mpr ⟨_, s', hw, rfl⟩, hs⟩

variable {s id}

theorem insert_fresh (hk : IsKeyed (worked held staged active s table))
    (hn : ∀ t ∈ worked held staged active s table, t "id" ≠ .text id) :
    ∃ s', (ofPool db pool).insert active id info s = (.done (), s') ∧
      Record.Touches id (worked held staged active s) (worked held staged active s') ∧
      ∀ recs, (ofPool db pool).Lists active s recs →
        (ofPool db pool).Lists active s' ((id, info) :: recs) := by
  obtain ⟨s', hi, hs⟩ := insert_eq h active s id info
  refine ⟨s', hi, hs ▸ Record.touches_insert hk hn info, fun recs hr => ?_⟩
  rw [lists_iff h] at hr ⊢
  rw [hs, Function.update_self, List.map_append, List.map_cons, Record.found_tuple]
  exact List.perm_append_comm.trans (hr.cons _)

theorem update_absent (hn : ∀ t ∈ worked held staged active s table, t "id" ≠ .text id) :
    ∃ s', (ofPool db pool).update active id info s = (.failed (.connectionNotFound id), s') ∧
      worked held staged active s' = worked held staged active s := by
  obtain ⟨s', hu, hs⟩ := update_eq h active s id info
  rw [Record.countP_of_absent hn, if_pos rfl] at hu
  rw [Record.map_of_absent hn, Function.update_eq_self] at hs
  exact ⟨s', hu, hs⟩

theorem delete_absent (hn : ∀ t ∈ worked held staged active s table, t "id" ≠ .text id) :
    ∃ s', (ofPool db pool).delete active id s = (.done (), s') ∧
      worked held staged active s' = worked held staged active s := by
  obtain ⟨s', hd, hs⟩ := delete_eq h active s id
  rw [Record.filter_of_absent hn, Function.update_eq_self] at hs
  exact ⟨s', hd, hs⟩

/-- The records of the other rows are those that are listed but the one of the row. -/
theorem lists_split {front back : List Tuple} {t : Tuple} {recs : List (String × ConnectionInfo)}
    (hts : worked held staged active s table = front ++ t :: back) (ht : t "id" = .text id)
    (hr : (ofPool db pool).Lists active s recs) : ∃ old, (id, old) ∈ recs ∧
      ((front ++ back).map found).Perm ((recs.erase (id, old)).map some) := by
  rw [lists_iff h, hts] at hr
  exact Record.perm_erase ht hr

theorem update_present (hk : IsKeyed (worked held staged active s table))
    (hp : ∃ t ∈ worked held staged active s table, t "id" = .text id) :
    ∃ s', (ofPool db pool).update active id info s = (.done (), s') ∧
      Record.Touches id (worked held staged active s) (worked held staged active s') ∧
      ∀ recs, (ofPool db pool).Lists active s recs → ∃ old, (id, old) ∈ recs ∧
        (ofPool db pool).Lists active s' ((id, info) :: recs.erase (id, old)) := by
  obtain ⟨front, t, back, hts, ht, hne⟩ := hk.exists_split hp
  obtain ⟨s', hu, hs⟩ := update_eq h active s id info
  have hc : (worked held staged active s table).countP (·.passes (Record.idTest id)) ≠ 0 :=
    fun hz => List.countP_eq_zero.mp hz t (by simp [hts]) (Record.passes_idTest_iff.mpr ht)
  rw [if_neg hc] at hu
  rw [hts, Record.map_split ht hne] at hs
  refine ⟨s', hu, hs ▸ Record.touches_split hk hts ht [_] (Or.inr ⟨_, rfl, ht⟩), fun recs hr => ?_⟩
  obtain ⟨old, ho, he⟩ := lists_split h active hts ht hr
  refine ⟨old, ho, ?_⟩
  rw [lists_iff h, hs, Function.update_self, List.map_append, List.map_cons, Record.found_write ht]
  exact List.perm_middle.trans ((List.map_append ▸ he).cons _)

theorem delete_present (hk : IsKeyed (worked held staged active s table))
    (hp : ∃ t ∈ worked held staged active s table, t "id" = .text id) :
    ∃ s', (ofPool db pool).delete active id s = (.done (), s') ∧
      Record.Touches id (worked held staged active s) (worked held staged active s') ∧
      ∀ recs, (ofPool db pool).Lists active s recs → ∃ old, (id, old) ∈ recs ∧
        (ofPool db pool).Lists active s' (recs.erase (id, old)) := by
  obtain ⟨front, t, back, hts, ht, hne⟩ := hk.exists_split hp
  obtain ⟨s', hd, hs⟩ := delete_eq h active s id
  rw [hts, Record.filter_split ht hne] at hs
  refine ⟨s', hd, hs ▸ Record.touches_split hk hts ht [] (Or.inl rfl), fun recs hr => ?_⟩
  obtain ⟨old, ho, he⟩ := lists_split h active hts ht hr
  refine ⟨old, ho, ?_⟩
  rw [lists_iff h, hs, Function.update_self]
  exact he

end Calls

/-- The four statements of the store compile in every dialect. The store lists the record of every
    row. A record of a fresh identifier is listed after it is inserted, an update of an identifier
    replaces its record and a deletion takes it away; an update of an identifier without a record is
    reported as not found, and neither it nor a deletion changes anything. Nothing else is touched,
    and all of this is so for calls on their own and for those that are handed a transaction. -/
theorem store_round_trip (h : db.KeepsTables pool le held staged) (active : Option T) {s : σ}
    (hk : IsKeyed (worked held staged active s table)) (id : String) (info : ConnectionInfo) :
    (∀ d, ∀ q ∈ [Record.listQuery, Record.insertQuery id info, Record.updateQuery id info,
      Record.deleteQuery id], ∃ st, q.compile d = .ok st) ∧
    (∀ recs, (ofPool db pool).Lists active s recs ↔
      ((worked held staged active s table).map found).Perm (recs.map some)) ∧
    ((∀ t ∈ worked held staged active s table, t "id" ≠ .text id) →
      (∃ s', (ofPool db pool).insert active id info s = (.done (), s') ∧
        Record.Touches id (worked held staged active s) (worked held staged active s') ∧
        ∀ recs, (ofPool db pool).Lists active s recs →
          (ofPool db pool).Lists active s' ((id, info) :: recs)) ∧
      (∃ s', (ofPool db pool).update active id info s = (.failed (.connectionNotFound id), s') ∧
        worked held staged active s' = worked held staged active s) ∧
      ∃ s', (ofPool db pool).delete active id s = (.done (), s') ∧
        worked held staged active s' = worked held staged active s) ∧
    ((∃ t ∈ worked held staged active s table, t "id" = .text id) →
      (∃ s', (ofPool db pool).update active id info s = (.done (), s') ∧
        Record.Touches id (worked held staged active s) (worked held staged active s') ∧
        ∀ recs, (ofPool db pool).Lists active s recs → ∃ old, (id, old) ∈ recs ∧
          (ofPool db pool).Lists active s' ((id, info) :: recs.erase (id, old))) ∧
      ∃ s', (ofPool db pool).delete active id s = (.done (), s') ∧
        Record.Touches id (worked held staged active s) (worked held staged active s') ∧
        ∀ recs, (ofPool db pool).Lists active s recs → ∃ old, (id, old) ∈ recs ∧
          (ofPool db pool).Lists active s' (recs.erase (id, old))) := by
  refine ⟨fun d => Record.compiles d id info, fun recs => lists_iff h, fun hn => ?_, fun hp => ?_⟩
  · exact ⟨insert_fresh h active info hk hn, update_absent h active info hn,
      delete_absent h active hn⟩
  · exact ⟨update_present h active info hk hp, delete_present h active hk hp⟩

end Store

/-! ### Tables in memory -/

/-- Tables, and the copy that a transaction works on. -/
structure Cabinet where
  held : Tables
  copy : Tables := fun _ => []

namespace Cabinet

/-- Are two values in the order of their texts? -/
def sorts (a b : Value) : Bool := decide (a.structuralText ≤ b.structuralText)

def transactions : Transactions Cabinet Unit where
  start s := (.done (), { s with copy := s.held })
  commit _ s := (.done (), { s with held := s.copy })
  rollback _ s := (.done (), s)

/-- Runs the statements of plans on some of the tables. -/
def runner {H : Type} (d : Dialect) (part : Cabinet → Tables) (put : Tables → Cabinet → Cabinet) :
    Runner Cabinet H where
  dialect _ := d
  read _ p s :=
    match ((Plan.select p).statement d).readRows d sorts (part s) with
    | some rows => (.done rows, s)
    | none => (.failed (.internal "no meaning"), s)
  write _ p s :=
    match (p.statement d).write d (part s) with
    | some (n, ts) => (.done n, put ts s)
    | none => (.failed (.internal "no meaning"), s)

def databases (d : Dialect) : Databases Cabinet Unit Unit where
  connect _ s := (.done (), s)
  close _ s := (.done (), s)
  transactions _ := transactions
  pooled := runner d held fun ts s => { s with held := ts }
  joined := runner d copy fun ts s => { s with copy := ts }
  tables _ _ s := (.done [], s)
  routines _ s := (.done [], s)

theorem keepsTables (d : Dialect) :
    (databases d).KeepsTables () sorts held fun s _ => s.copy where
  start s := ⟨(), _, rfl, rfl⟩
  write {s tx p n ts} h := by
    have hw : (p.statement d).write d s.copy = some (n, ts) := h
    refine ⟨{ s with copy := ts }, ?_, rfl⟩
    simp only [databases, runner, hw]
  commit s tx := ⟨_, rfl, rfl⟩
  readRows {s p rows} h := by
    have hr : ((Plan.select p).statement d).readRows d sorts s.held = some rows := h
    refine ⟨s, ?_, rfl⟩
    simp only [databases, runner, hr]

/-- The tables of some records, with a transaction that has not written yet. -/
def ofRecords (recs : List (String × ConnectionInfo)) : Cabinet :=
  let ts : Tables := fun name =>
    if name = Record.table then recs.map fun r => Record.tuple r.1 r.2 else []
  { held := ts, copy := ts }

end Cabinet

namespace Store

open Record (table IsKeyed found)

/-- A network connection with quotes in its details. -/
def depot : ConnectionInfo := ⟨"depot", .mysql, "db", 65535, "`root`", "\"; --'", "stock"⟩

/-- Two connections to files. -/
def shelves : List (String × ConnectionInfo) :=
  [("a", .file "north" "north.db"), ("b", .file "south" "south.db")]

/-- Of two records one is replaced by a call on its own, and a third one is added in a
    transaction. -/
theorem store_round_trip_shelves :
    ∃ s' s'', (ofPool (Cabinet.databases .mysql) ()).update none "a" depot (.ofRecords shelves) =
        (.done (), s') ∧
      (ofPool (Cabinet.databases .mysql) ()).Lists none s'
        [("a", depot), ("b", .file "south" "south.db")] ∧
      (ofPool (Cabinet.databases .mysql) ()).insert (some ()) "c" depot (.ofRecords shelves) =
        (.done (), s'') ∧
      (ofPool (Cabinet.databases .mysql) ()).Lists (some ()) s'' (("c", depot) :: shelves) := by
  have hrows (active : Option Unit) : worked Cabinet.held (fun s _ => s.copy) active
      (.ofRecords shelves) table = shelves.map fun r => Record.tuple r.1 r.2 := by
    cases active <;> rfl
  have hk (active : Option Unit) :
      IsKeyed (worked Cabinet.held (fun s _ => s.copy) active (.ofRecords shelves) table) := by
    rw [hrows]
    refine ⟨List.forall_mem_map.mpr fun r _ => ⟨r.1, rfl⟩, ?_⟩
    show (shelves.map fun r => Value.text r.1).Nodup
    decide
  have hf (active : Option Unit) : ((worked Cabinet.held (fun s _ => s.copy) active
      (.ofRecords shelves) table).map found).Perm (shelves.map some) := by
    have hr : found ∘ (fun r : String × ConnectionInfo => Record.tuple r.1 r.2) = some := by
      funext r
      rw [Function.comp_apply, Record.found_tuple]
    rw [hrows, List.map_map, hr]
  obtain ⟨-, hl, -, hu⟩ := store_round_trip (Cabinet.keepsTables .mysql) none (hk none) "a" depot
  obtain ⟨-, hl', hi, -⟩ :=
    store_round_trip (Cabinet.keepsTables .mysql) (some ()) (hk (some ())) "c" depot
  have hc : ∀ t ∈ worked Cabinet.held (fun s _ => s.copy) (some ()) (.ofRecords shelves) table,
      t "id" ≠ .text "c" := by
    rw [hrows]
    refine List.forall_mem_map.mpr fun r hr => ?_
    show Value.text r.1 ≠ .text "c"
    revert r
    decide
  obtain ⟨⟨s', hd, -, ha⟩, -⟩ := hu ⟨_, List.mem_cons_self, rfl⟩
  obtain ⟨⟨s'', hd', -, hb⟩, -⟩ := hi hc
  obtain ⟨old, ho, he⟩ := ha shelves ((hl shelves).mpr (hf none))
  have hold : old = .file "north" "north.db" := by simpa [shelves] using ho
  subst hold
  exact ⟨s', s'', hd, he, hd', hb shelves ((hl' shelves).mpr (hf (some ())))⟩

end Store

end SqlGateway
