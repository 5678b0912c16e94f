import SqlGateway.Proofs.Connection.Removal
import SqlGateway.Proofs.Query.Mask
import SqlGateway.Proofs.Registry.Lookup
import SqlGateway.Proofs.Store.RoundTrip
import SqlGateway.Proofs.Work.Lockstep
import SqlGateway.Schema.Inspection

/-! The registry behind a veil. Details are veiled by taking the password out of them; the registry
    never looks behind the veil, it only hands the password on:

        body ──▶ details ──▶ handle          listings show the details veiled
                    │
                    ├──▶ opener              what comes back: a pool or a failure
                    └──▶ store               what comes back: a count or a failure

    Two registries that look the same behind the veil, and to which the same comes back from outside,
    look the same afterwards and come to the same results. -/

namespace SqlGateway

variable {σ P T ε α ω : Type}

/-! ### The veil -/

namespace ConnectionInfo

/-- The details without the password. -/
def veiled (i : ConnectionInfo) : ConnectionInfo := { i with password := "" }

theorem endpoint_veiled (i : ConnectionInfo) : i.veiled.endpoint = i.endpoint := by
  obtain ⟨name, driver, host, port, user, password, database⟩ := i
  cases driver <;> rfl

theorem structuralText_veiled (i : ConnectionInfo) : i.veiled.structuralText = i.structuralText :=
  rfl

end ConnectionInfo

namespace Handle

def veiled (h : Handle P) : Handle P := { h with info := h.info.veiled }

theorem veiled_eq_iff {h h' : Handle P} : h.veiled = h'.veiled ↔
    h.id = h'.id ∧ h.info.veiled = h'.info.veiled ∧ h.pool = h'.pool := by
  rw [veiled, veiled, Handle.mk.injEq]

end Handle

theorem veiled_publish (h : Handle P) (hs : List (Handle P)) :
    (publish h hs).map Handle.veiled = publish h.veiled (hs.map Handle.veiled) := by
  rw [publish, publish, List.map_cons, List.filter_map]
  rfl

theorem veiled_publishAll (new hs : List (Handle P)) : (publishAll new hs).map Handle.veiled =
    publishAll (new.map Handle.veiled) (hs.map Handle.veiled) := by
  induction new generalizing hs with
  | nil => rfl
  | cons h new ih =>
    show (publishAll new (publish h hs)).map Handle.veiled = publishAll _ (publish h.veiled _)
    rw [ih, veiled_publish]

/-- What can be seen of a registry behind the veil. -/
def Gateway.veiled (g : Gateway σ P) : List (Handle P) := g.handles.map Handle.veiled

/-! ### What comes back from outside -/

/-- Something that came back from outside. -/
inductive Reply (P T : Type) where
  | opened (outcome : Outcome Failure P)
  | closed (outcome : Outcome Empty Unit)
  | began (outcome : Outcome Failure T)
  | committed (outcome : Outcome Failure Unit)
  | rolledBack (outcome : Outcome Failure Unit)
  | read (outcome : Outcome Failure (List Row))
  | written (outcome : Outcome Failure Nat)
  | tables (outcome : Outcome Failure (List CatalogRow))
  | routines (outcome : Outcome Failure (List RoutineRow))
  | named (outcome : Outcome Empty String)
  deriving DecidableEq

/-- The work adds what it came to to the history. -/
def Work.Noted (history : σ → List (Reply P T)) (note : Outcome ε α → Reply P T)
    (w : Work σ ε α) : Prop := ∀ s, history (w s).2 = history s ++ [note (w s).1]

/-- All that comes back from the databases is remembered; of rows, as much as a function shows. -/
structure Databases.Remembers (db : Databases σ P T) (history : σ → List (Reply P T))
    (seen : List Row → List Row) : Prop where
  connect : ∀ i, (db.connect i).Noted history .opened
  close : ∀ p, (db.close p).Noted history .closed
  start : ∀ p, (db.transactions p).start.Noted history .began
  commit : ∀ p tx, ((db.transactions p).commit tx).Noted history .committed
  rollback : ∀ p tx, ((db.transactions p).rollback tx).Noted history .rolledBack
  read : ∀ p plan, (db.pooled.read p plan).Noted history fun o => .read (o.map seen)
  write : ∀ p plan, (db.pooled.write p plan).Noted history .written
  writeJoined : ∀ tx plan, (db.joined.write tx plan).Noted history .written
  tables : ∀ p only, (db.tables p only).Noted history .tables
  routines : ∀ p, (db.routines p).Noted history .routines

open Work (Lockstep)

/-- Work outside that comes to the same if the same comes back. -/
abbrev Work.Agrees (history : σ → List (Reply P T)) (view : α → ω) (w w' : Work σ ε α) : Prop :=
  Lockstep history (fun _ => ()) view w w'

/-- Two calls that are noted in the same way come to the same if the same is noted. -/
theorem Work.Noted.agrees {history : σ → List (Reply P T)} {note : Outcome ε α → Reply P T}
    {view : α → ω} {w w' : Work σ ε α} (h : w.Noted history note) (h' : w'.Noted history note)
    (hn : ∀ o o', note o = note o' → o.map view = o'.map view) : w.Agrees history view w' where
  grows s := ⟨_, (h s).symm⟩
  grows' s := ⟨_, (h' s).symm⟩
  meets s s' _ hh ht := by
    have hnote : note (w s).1 = note (w' s').1 := by
      rw [h, h', hh] at ht
      have heq : history s' ++ [note (w s).1] = history s' ++ [note (w' s').1] := by
        rcases ht with ht | ht
        · exact ht.eq_of_length (by simp)
        · exact (ht.eq_of_length (by simp)).symm
      exact List.singleton_inj.mp (List.append_cancel_left heq)
    exact ⟨hn _ _ hnote, rfl, by rw [h, h', hh, hnote]⟩

variable {db : Databases σ P T} {history : σ → List (Reply P T)} {seen : List Row → List Row}

namespace Databases.Remembers

variable (h : db.Remembers history seen)

include h

theorem connect_agrees (i i' : ConnectionInfo) :
    (db.connect i).Agrees history id (db.connect i') :=
  (h.connect i).agrees (h.connect i') fun _ _ ho => congrArg _ (Reply.opened.inj ho)

theorem close_agrees (p : P) : (db.close p).Agrees history id (db.close p) :=
  (h.close p).agrees (h.close p) fun _ _ ho => congrArg _ (Reply.closed.inj ho)

theorem read_agrees (p : P) (plan : SelectPlan) :
    (db.pooled.read p plan).Agrees history seen (db.pooled.read p plan) :=
  (h.read p plan).agrees (h.read p plan) fun _ _ ho => Reply.read.inj ho

theorem write_agrees (p : P) (plan : Plan) :
    (db.pooled.write p plan).Agrees history id (db.pooled.write p plan) :=
  (h.write p plan).agrees (h.write p plan) fun _ _ ho => congrArg _ (Reply.written.inj ho)

/-- In a transaction it does not matter what is written, only what comes back. -/
theorem writeJoined_agrees (tx : T) (plan plan' : Plan) :
    (db.joined.write tx plan).Agrees history id (db.joined.write tx plan') :=
  (h.writeJoined tx plan).agrees (h.writeJoined tx plan') fun _ _ ho =>
    congrArg _ (Reply.written.inj ho)

theorem tables_agrees (p : P) (only : Option String) :
    (db.tables p only).Agrees history id (db.tables p only) :=
  (h.tables p only).agrees (h.tables p only) fun _ _ ho => congrArg _ (Reply.tables.inj ho)

theorem routines_agrees (p : P) : (db.routines p).Agrees history id (db.routines p) :=
  (h.routines p).agrees (h.routines p) fun _ _ ho => congrArg _ (Reply.routines.inj ho)

theorem readCommitted_agrees {view : α → ω} (p : P) (active : Option T)
    {work work' : T → Work σ Failure α} (hw : ∀ tx, (work tx).Agrees history view (work' tx)) :
    ((db.transactions p).readCommitted active work).Agrees history view
      ((db.transactions p).readCommitted active work') := by
  have hstart : Work.Agrees history id (db.transactions p).start (db.transactions p).start :=
    (h.start p).agrees (h.start p) fun _ _ ho => congrArg _ (Reply.began.inj ho)
  have hcommit (tx : T) :
      Work.Agrees history id ((db.transactions p).commit tx) ((db.transactions p).commit tx) :=
    (h.commit p tx).agrees (h.commit p tx) fun _ _ ho => congrArg _ (Reply.committed.inj ho)
  have hrollback (tx : T) :
      Work.Agrees history id ((db.transactions p).rollback tx) ((db.transactions p).rollback tx) :=
    (h.rollback p tx).agrees (h.rollback p tx) fun _ _ ho => congrArg _ (Reply.rolledBack.inj ho)
  cases active with
  | some tx => exact hw tx
  | none =>
    exact hstart.bind_same fun tx => (hw tx).attempt_bind
      (fun _ _ hv => (hcommit tx).bind_same fun _ => Lockstep.pure hv)
      fun e => (hrollback tx).attempt.bind fun _ _ _ => Lockstep.fail e

end Databases.Remembers

/-! ### The store -/

namespace Record

/-- A row of the records without its password. -/
def veiledRow (row : Row) : Row := row.filter fun c => c.1 != table ++ "." ++ "password"

/-- What can be seen of a record behind the veil. -/
def veiled (r : String × ConnectionInfo) : String × ConnectionInfo := (r.1, r.2.veiled)

theorem lookup_filter {row : Row} {label gone : String} (h : label ≠ gone) :
    (row.filter fun c => c.1 != gone).lookup label = row.lookup label := by
  induction row with
  | nil => rfl
  | cons c row ih =>
    by_cases hg : c.1 = gone
    · have hl : (label == c.1) = false := by
        rw [hg]
        exact beq_eq_false_iff_ne.mpr h
      rw [List.filter_cons_of_neg (by simpa using hg), ih, List.lookup_cons, hl]
    · rw [List.filter_cons_of_pos (by simpa using hg), List.lookup_cons, List.lookup_cons, ih]

/-- Every cell but the password is read behind the veil. -/
theorem cell?_veiledRow (row : Row) {column : String} (h : column ≠ "password") :
    cell? (veiledRow row) column = cell? row column := by
  exact lookup_filter fun heq => h ((String.append_right_inj _).mp heq)

theorem ofRow_veiledRow (row : Row) :
    (ofRow (veiledRow row)).map veiled = (ofRow row).map veiled := by
  have htext {column : String} (h : column ≠ "password") :
      textOf (veiledRow row) column = textOf row column := by
    rw [textOf, textOf, cell?_veiledRow row h]
  have hport (id : String) : portOf id (veiledRow row) = portOf id row := by
    rw [portOf, portOf, cell?_veiledRow row (by decide)]
  rw [ofRow, ofRow, htext (by decide : "id" ≠ "password"),
    htext (by decide : "driver" ≠ "password"), htext (by decide : "name" ≠ "password"),
    htext (by decide : "host" ≠ "password"), htext (by decide : "db_user" ≠ "password"),
    htext (by decide : "db_name" ≠ "password"), hport]
  cases Driver.ofName? (textOf row "driver") with
  | none => rfl
  | some d => cases portOf (textOf row "id") row <;> rfl

theorem map_mapM_eq {β γ : Type} {f : α → Except ε β} {g : β → γ} (as : List α) :
    (as.mapM f).map (List.map g) = as.mapM fun a => (f a).map g := by
  induction as with
  | nil => rfl
  | cons a as ih =>
    simp only [List.mapM_cons, ← ih, map_bind_eq, bind_map_eq, map_pure_eq, List.map_cons]

/-- Rows that differ in their passwords only are read as records that look the same, or are turned
    down for the same reason. -/
theorem mapM_ofRow_veiled {rows rows' : List Row}
    (h : rows.map veiledRow = rows'.map veiledRow) :
    (rows.mapM ofRow).map (List.map veiled) = (rows'.mapM ofRow).map (List.map veiled) := by
  have hrows (rows : List Row) : (rows.mapM ofRow).map (List.map veiled) =
      (rows.map veiledRow).mapM fun row => (ofRow row).map veiled := by
    rw [map_mapM_eq, List.mapM_map]
    exact congrArg (rows.mapM ·) (funext fun row => (ofRow_veiledRow row).symm)
  rw [hrows, h, ← hrows]

end Record

namespace Store

theorem planned_eq {d : Dialect} {q : Query} {st : Statement} (h : q.compile d = .ok st) :
    (planned d q : Work σ Failure Plan) = pure q.plan := funext fun s => planned_of_compile h s

variable (h : db.Remembers history seen)

include h

/-- Of two writes that have statements only what comes back makes a difference. -/
theorem write_agrees {q q' : Query} {pool : P}
    (hq : ∃ st, q.compile (db.pooled.dialect pool) = .ok st)
    (hq' : ∃ st, q'.compile (db.pooled.dialect pool) = .ok st) (active : Option T) (id' : String) :
    (write db pool active id' q).Agrees history id (write db pool active id' q') := by
  obtain ⟨st, hq⟩ := hq
  obtain ⟨st', hq'⟩ := hq'
  rw [write, write, planned_eq hq, planned_eq hq', pure_bind, pure_bind]
  exact (h.readCommitted_agrees pool active fun tx => h.writeJoined_agrees tx _ _).report _

theorem insert_agrees (pool : P) (active : Option T) (id' : String) (i i' : ConnectionInfo) :
    ((ofPool db pool).insert active id' i).Agrees history id
      ((ofPool db pool).insert active id' i') := by
  have hq (i : ConnectionInfo) := Record.compiles (db.pooled.dialect pool) id' i
    (Record.insertQuery id' i) (by simp)
  exact (write_agrees h (hq i) (hq i') active id').bind_same fun _ => Lockstep.pure rfl

theorem update_agrees (pool : P) (active : Option T) (id' : String) (i i' : ConnectionInfo) :
    ((ofPool db pool).update active id' i).Agrees history id
      ((ofPool db pool).update active id' i') := by
  have hq (i : ConnectionInfo) := Record.compiles (db.pooled.dialect pool) id' i
    (Record.updateQuery id' i) (by simp)
  refine (write_agrees h (hq i) (hq i') active id').bind_same fun n => ?_
  split
  · exact Lockstep.fail _
  · exact Lockstep.pure rfl

theorem delete_agrees (pool : P) (active : Option T) (id' : String) :
    ((ofPool db pool).delete active id').Agrees history id
      ((ofPool db pool).delete active id') := by
  have hq := Record.compiles (db.pooled.dialect pool) id' (.file "" "") (Record.deleteQuery id')
    (by simp)
  exact (write_agrees h hq hq active id').bind_same fun _ => Lockstep.pure rfl

omit h

/-- Records that look the same are read from rows that look the same. -/
theorem list_agrees (h : db.Remembers history (List.map Record.veiledRow)) (pool : P) :
    (ofPool db pool).list.Agrees history (List.map Record.veiled) (ofPool db pool).list := by
  exact (Lockstep.ofExcept_self _).bind_same fun p =>
    ((h.read_agrees pool p).report _).bind fun rows rows' hrows =>
      Lockstep.ofExcept (Record.mapM_ofRow_veiled hrows)

end Store

/-! ### Handles -/

namespace Focus

/-- Work on a handle that shows the same if the same comes back. -/
abbrev Agrees (history : σ → List (Reply P T)) (view : α → ω) (w w' : Work (Focus σ P) ε α) :
    Prop := Lockstep (history ∘ Focus.outside) (fun f => f.handle.veiled) view w w'

variable {view : α → ω}

theorem outward_agrees {w w' : Work σ ε α} (h : w.Agrees history view w') :
    Agrees history view (outward w) (outward w') :=
  h.within (fun _ => rfl) (fun _ => rfl) (fun _ _ => rfl) (fun _ _ => rfl) (fun _ _ _ => rfl)
    fun _ _ _ _ _ hf => hf

theorem handleNow_agrees :
    Agrees history Handle.veiled (handleNow : Work (Focus σ P) ε (Handle P)) handleNow :=
  Lockstep.state.bind fun _ _ hf => Lockstep.pure hf

theorem changeHandle_agrees {g g' : Handle P → Handle P}
    (hg : ∀ h h' : Handle P, h.veiled = h'.veiled → (g h).veiled = (g' h').veiled) :
    Agrees history id (changeHandle g : Work (Focus σ P) ε Unit) (changeHandle g') :=
  Lockstep.change (fun _ => rfl) (fun _ => rfl) fun f f' hf => hg f.handle f'.handle hf

variable (h : db.Remembers history seen)

include h

theorem retire_agrees (old : Option P) :
    Agrees history id (retire db.toOpener old : Work (Focus σ P) ε Unit)
      (retire db.toOpener old) := by
  cases old with
  | none => exact Lockstep.pure rfl
  | some p => exact outward_agrees ((h.close_agrees p).report _)

theorem install_agrees {i i' : ConnectionInfo} (hi : i.veiled = i'.veiled) (pool : P) :
    Agrees history id (install db.toOpener i pool : Work (Focus σ P) ε Unit)
      (install db.toOpener i' pool) := by
  refine handleNow_agrees.bind fun old old' ho => ?_
  have hpool : old.pool = old'.pool := (Handle.veiled_eq_iff.mp ho).2.2
  rw [hpool]
  refine (changeHandle_agrees fun k k' hk => ?_).bind_same fun _ => retire_agrees h old'.pool
  exact Handle.veiled_eq_iff.mpr ⟨(Handle.veiled_eq_iff.mp hk).1, hi, rfl⟩

theorem close_agrees :
    Agrees history id (close db.toOpener : Work (Focus σ P) ε Unit) (close db.toOpener) := by
  refine handleNow_agrees.bind fun old old' ho => ?_
  have hpool : old.pool = old'.pool := (Handle.veiled_eq_iff.mp ho).2.2
  rw [hpool]
  refine (changeHandle_agrees fun k k' hk => ?_).bind_same fun _ => retire_agrees h old'.pool
  obtain ⟨hid, hinfo, -⟩ := Handle.veiled_eq_iff.mp hk
  exact Handle.veiled_eq_iff.mpr ⟨hid, hinfo, rfl⟩

omit h in
/-- The details that a pool was opened for are still those of the handle, so that they are not
    looked at again. -/
theorem ensureOpen_eq (opener : Opener σ P) : ensureOpen opener = do
    let h ← handleNow
    match h.pool with
    | some pool => return pool
    | none =>
      let pool ← outward (opener.connect h.info)
      changeHandle fun _ => { h with pool := some pool }
      return pool := by
  funext f
  obtain ⟨s, h⟩ := f
  have hnow : (handleNow : Work (Focus σ P) Failure (Handle P)) ⟨s, h⟩ = (.done h, ⟨s, h⟩) := rfl
  cases hp : h.pool with
  | some pool =>
    rw [ensureOpen_of_pool hp, Work.bind_of_done hnow]
    simp only [hp]
    rfl
  | none =>
    rw [ensureOpen_of_none hp, Work.bind_of_done hnow]
    rcases hc : opener.connect h.info s with ⟨o, s'⟩
    have ho : outward (opener.connect h.info) ⟨s, h⟩ = (o, ⟨s', h⟩) :=
      Work.within_eq_iff.mpr ⟨s', hc, rfl⟩
    simp only [hp, Work.bind_apply, ho]
    cases o <;> rfl

theorem ensureOpen_agrees :
    Agrees history id (ensureOpen db.toOpener) (ensureOpen db.toOpener) := by
  rw [ensureOpen_eq]
  refine handleNow_agrees.bind fun k k' hk => ?_
  obtain ⟨hid, hinfo, hpool⟩ := Handle.veiled_eq_iff.mp hk
  rw [hpool]
  cases k'.pool with
  | some pool => exact Lockstep.pure rfl
  | none =>
    refine (outward_agrees (h.connect_agrees k.info k'.info)).bind_same fun pool => ?_
    refine (changeHandle_agrees fun _ _ _ => ?_).bind_same fun _ => Lockstep.pure rfl
    exact Handle.veiled_eq_iff.mpr ⟨hid, hinfo, rfl⟩

omit h in
/-- Planning and running a query. -/
theorem run_agrees (h : db.Remembers history id) (limit : Nat) (q : Query) :
    Agrees history id (run db limit q) (run db limit q) := by
  refine ((ensureOpen_agrees h).bind_same fun pool => outward_agrees ?_).withDeadline limit
  refine (Lockstep.ofExcept_self _).bind_same fun p => ?_
  cases p with
  | select p => exact (h.read_agrees pool p).bind_same fun _ => Lockstep.pure rfl
  | _ => exact (h.write_agrees pool _).bind_same fun _ => Lockstep.pure rfl

theorem inspect_agrees {β : Type} (limit : Option Nat) {read : P → Work σ Failure (List β)}
    (hr : ∀ p, (read p).Agrees history id (read p)) :
    Agrees history id (inspect db.toOpener limit read) (inspect db.toOpener limit read) := by
  refine handleNow_agrees.bind fun k k' hk => ?_
  rw [(Handle.veiled_eq_iff.mp hk).1]
  have hopen := (ensureOpen_agrees h).bind_same fun pool => outward_agrees (hr pool)
  exact (hopen.bounded limit).report _

theorem tables_agrees (limit : Option Nat) (only : Option String) :
    Agrees history id (tables db limit only) (tables db limit only) := by
  refine (inspect_agrees h limit fun pool => h.tables_agrees pool only).bind_same fun found => ?_
  dsimp only
  split
  · exact Lockstep.fail _
  · exact Lockstep.pure rfl

theorem routines_agrees (limit : Option Nat) :
    Agrees history id (routines db limit) (routines db limit) :=
  (inspect_agrees h limit h.routines_agrees).bind_same fun _ => Lockstep.pure rfl

end Focus

/-! ### The registry -/

namespace Gateway

/-- Work on a registry that shows the same if the same comes back. -/
abbrev Agrees (history : σ → List (Reply P T)) (view : α → ω) (w w' : Work (Gateway σ P) ε α) :
    Prop := Lockstep (history ∘ Gateway.outside) Gateway.veiled view w w'

variable {view : α → ω}

theorem outward_agrees {w w' : Work σ ε α} (h : w.Agrees history view w') :
    Agrees history view (outward w) (outward w') :=
  h.within (fun _ => rfl) (fun _ => rfl) (fun _ _ => rfl) (fun _ _ => rfl) (fun _ _ _ => rfl)
    fun _ _ _ _ _ hg => hg

theorem change_agrees {f f' : List (Handle P) → List (Handle P)}
    (hf : ∀ hs hs' : List (Handle P), hs.map Handle.veiled = hs'.map Handle.veiled →
      (f hs).map Handle.veiled = (f' hs').map Handle.veiled) :
    Agrees history id
      (Work.change fun g => { g with handles := f g.handles } : Work (Gateway σ P) ε Unit)
      (Work.change fun g => { g with handles := f' g.handles }) :=
  Lockstep.change (fun _ => rfl) (fun _ => rfl) fun g g' hg => hf g.handles g'.handles hg

theorem find_agrees (id' : String) :
    Agrees history Handle.veiled (find id' : Work (Gateway σ P) Failure (Handle P)) (find id') := by
  refine Lockstep.state.bind fun g g' hg => ?_
  have hfind : (g.handle? id').map Handle.veiled = (g'.handle? id').map Handle.veiled := by
    have hh (g : Gateway σ P) :
        (g.handle? id').map Handle.veiled = g.veiled.find? (·.id == id') := by
      rw [veiled, List.find?_map]
      rfl
    rw [hh, hg, ← hh]
  cases hk : g.handle? id' with
  | none =>
    cases hk' : g'.handle? id' with
    | none => exact Lockstep.fail _
    | some k' =>
      rw [hk, hk'] at hfind
      nomatch hfind
  | some k =>
    cases hk' : g'.handle? id' with
    | none =>
      rw [hk, hk'] at hfind
      nomatch hfind
    | some k' =>
      rw [hk, hk'] at hfind
      exact Lockstep.pure (Option.some.inj hfind)

/-- Work on handles that look the same. -/
theorem onHandle_agrees {k k' : Handle P} (hk : k.veiled = k'.veiled)
    {w w' : Work (Focus σ P) ε α} (hw : Focus.Agrees history view w w') :
    Agrees history view (onHandle k w) (onHandle k' w') := by
  refine hw.within (fun _ => rfl) (fun _ => rfl) (fun _ _ => rfl) (fun _ _ => rfl)
    (fun _ _ _ => hk) fun f f' g g' hf hg => ?_
  have hput (k : Handle P) (f : Focus σ P) (hs : List (Handle P)) :
      (hs.map fun old => if old.id = k.id then f.handle else old).map Handle.veiled =
        (hs.map Handle.veiled).map fun old =>
          if old.id = k.veiled.id then f.handle.veiled else old := by
    rw [List.map_map, List.map_map]
    refine List.map_congr_left fun old _ => ?_
    show Handle.veiled (if old.id = k.id then _ else _) = if old.id = k.id then _ else _
    split <;> rfl
  have hmap : g.handles.map Handle.veiled = g'.handles.map Handle.veiled := hg
  have hhandle : f.handle.veiled = f'.handle.veiled := hf
  show (g.handles.map _).map Handle.veiled = (g'.handles.map _).map Handle.veiled
  rw [hput, hput, hmap, hhandle, hk]

variable {metadata : Databases σ P T} {pool : P}
  (h : db.Remembers history id) (hm : metadata.Remembers history (List.map Record.veiledRow))

include h hm

theorem add_agrees (id' : String) {i i' : ConnectionInfo} (hi : i.veiled = i'.veiled) :
    Agrees history id (add (.ofPool metadata pool) db.toOpener id' i)
      (add (.ofPool metadata pool) db.toOpener id' i') := by
  refine (outward_agrees (h.connect_agrees i i')).bind_same fun p => ?_
  refine (outward_agrees (Store.insert_agrees hm pool none id' i i')).attempt_bind
    (fun _ _ _ => ?_) fun f => ?_
  · refine change_agrees fun hs hs' hhs => ?_
    have hnew : Handle.veiled ⟨id', i, some p⟩ = Handle.veiled ⟨id', i', some p⟩ :=
      Handle.veiled_eq_iff.mpr ⟨rfl, hi, rfl⟩
    rw [veiled_publish, veiled_publish, hhs, hnew]
  · exact (outward_agrees ((h.close_agrees p).report _)).bind_same fun _ => Lockstep.fail _

theorem edit_agrees (id' : String) {i i' : ConnectionInfo} (hi : i.veiled = i'.veiled) :
    Agrees history id (edit (.ofPool metadata pool) db.toOpener id' i)
      (edit (.ofPool metadata pool) db.toOpener id' i') := by
  refine (find_agrees id').bind fun k k' hk => ?_
  refine (outward_agrees (hm.readCommitted_agrees pool none fun tx =>
    (Store.update_agrees hm pool (some tx) id' i i').bind_same fun _ =>
      h.connect_agrees i i')).bind_same fun p => ?_
  exact onHandle_agrees hk (Focus.install_agrees h hi p)

theorem remove_agrees (id' : String) :
    Agrees history id (remove (.ofPool metadata pool) db.toOpener id')
      (remove (.ofPool metadata pool) db.toOpener id') := by
  refine (find_agrees id').bind fun k k' hk => ?_
  refine (outward_agrees (Store.delete_agrees hm pool none id')).bind_same fun _ => ?_
  refine (onHandle_agrees hk (Focus.close_agrees h)).bind_same fun _ => ?_
  refine change_agrees fun hs hs' hhs => ?_
  have hfilter (hs : List (Handle P)) : (hs.filter fun old => old.id != id').map Handle.veiled =
      (hs.map Handle.veiled).filter fun old => old.id != id' := by
    rw [List.filter_map]
    rfl
  rw [hfilter, hfilter, hhs]

theorem load_agrees : Agrees history id (load (.ofPool metadata pool) db.toOpener)
    (load (.ofPool metadata pool) db.toOpener) := by
  have hrestore (r r' : String × ConnectionInfo) (hr : Record.veiled r = Record.veiled r') :
      Work.Agrees history Handle.veiled (restore db.toOpener r) (restore db.toOpener r') := by
    obtain ⟨id', i⟩ := r
    obtain ⟨id'', i'⟩ := r'
    obtain ⟨rfl, hi⟩ := Prod.mk.inj hr
    refine (h.connect_agrees i i').attempt_bind (fun p _ hp => ?_) fun _ => ?_
    · obtain rfl : p = _ := hp
      exact Lockstep.pure (Handle.veiled_eq_iff.mpr ⟨rfl, hi, rfl⟩)
    · exact Lockstep.pure (Handle.veiled_eq_iff.mpr ⟨rfl, hi, rfl⟩)
  have hmapM (rs rs' : List (String × ConnectionInfo))
      (hrs : rs.map Record.veiled = rs'.map Record.veiled) :
      Work.Agrees history (List.map Handle.veiled) (rs.mapM (restore db.toOpener))
        (rs'.mapM (restore db.toOpener)) := by
    rw [← List.forall₂_eq_eq_eq, List.forall₂_map_left_iff, List.forall₂_map_right_iff] at hrs
    exact Lockstep.mapM hrestore hrs
  refine (outward_agrees ((Store.list_agrees hm pool).bind hmapM)).bind fun hs hs' hhs => ?_
  have hloaded : (publishAll hs []).map Handle.veiled = (publishAll hs' []).map Handle.veiled := by
    rw [veiled_publishAll, veiled_publishAll, hhs]
  have hlength := congrArg List.length hloaded
  rw [List.length_map, List.length_map] at hlength
  have hchange : Agrees history id
      (Work.change fun g => { g with handles := publishAll (publishAll hs []) g.handles } :
        Work (Gateway σ P) Failure Unit)
      (Work.change fun g => { g with handles := publishAll (publishAll hs' []) g.handles }) :=
    change_agrees fun old old' hold => by
      rw [veiled_publishAll _ old, veiled_publishAll _ old', hloaded, hold]
  exact hchange.bind_same fun _ => Lockstep.pure hlength

end Gateway

end SqlGateway
