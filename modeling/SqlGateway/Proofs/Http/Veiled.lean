import SqlGateway.Http.Service
import SqlGateway.Proofs.Registry.Veiled
import SqlGateway.Site.Databases

/-! Sessions behind the veil. A session takes over the records of the store and then answers requests,
    one after the other. Two sessions of the same requests with other passwords in them, to which the
    same comes back from outside, cannot be told apart by anyone who sees the responses, the listings,
    and the details wherever they are written down. -/

namespace SqlGateway

open Work (Lockstep)

variable {σ P T ε : Type}

/-! ### What can be seen -/

namespace ConnectionSummary

/-- A listed connection without the password. -/
def veiled (s : ConnectionSummary) : ConnectionSummary := { s with info := s.info.veiled }

theorem toJson_veiled (s : ConnectionSummary) : s.veiled.toJson = s.toJson := rfl

end ConnectionSummary

theorem Gateway.summaries_veiled (g : Gateway σ P) : g.summaries.map ConnectionSummary.veiled =
    (g.veiled.map Handle.summary).mergeSort Gateway.listedBefore := by
  have hsort := List.map_mergeSort (f := ConnectionSummary.veiled) (r := listedBefore)
    (s := listedBefore) (l := g.handles.map Handle.summary) fun _ _ _ _ => rfl
  rw [summaries, hsort, List.map_map, veiled, List.map_map]
  rfl

namespace Http

/-- What is written down of connections: the listing, and the texts of all details at hand. -/
structure View where
  listing : List Json
  texts : List String
  endpoints : List String

/-- The view of a registry, with the details that a request brings. -/
def View.of (brought : List ConnectionInfo) (g : Gateway σ P) : View where
  listing := g.summaries.map ConnectionSummary.toJson
  texts := (brought ++ g.summaries.map ConnectionSummary.info).map ConnectionInfo.structuralText
  endpoints := (brought ++ g.summaries.map ConnectionSummary.info).map ConnectionInfo.endpoint

/-- What shows nothing behind a veil is the same for lists that look the same. -/
theorem map_eq_of_veiled {α β : Type} {veil : α → α} {f : α → β} (hf : ∀ a, f (veil a) = f a)
    {as bs : List α} (h : as.map veil = bs.map veil) : as.map f = bs.map f := by
  have hveil (as : List α) : as.map f = (as.map veil).map f := by
    rw [List.map_map]
    exact List.map_congr_left fun a _ => (hf a).symm
  rw [hveil, h, ← hveil]

theorem View.of_eq {brought brought' : List ConnectionInfo} {g g' : Gateway σ P}
    (hb : brought.map ConnectionInfo.veiled = brought'.map ConnectionInfo.veiled)
    (hg : g.veiled = g'.veiled) : View.of brought g = View.of brought' g' := by
  have hs : g.summaries.map ConnectionSummary.veiled =
      g'.summaries.map ConnectionSummary.veiled := by
    rw [Gateway.summaries_veiled, hg, ← Gateway.summaries_veiled]
  have hinfos (g : Gateway σ P) : (g.summaries.map ConnectionSummary.info).map
      ConnectionInfo.veiled = (g.summaries.map ConnectionSummary.veiled).map
      ConnectionSummary.info := by
    rw [List.map_map, List.map_map]
    rfl
  have hall : (brought ++ g.summaries.map ConnectionSummary.info).map ConnectionInfo.veiled =
      (brought' ++ g'.summaries.map ConnectionSummary.info).map ConnectionInfo.veiled := by
    rw [List.map_append, List.map_append, hb, hinfos, hinfos, hs]
  rw [View.of, View.of, map_eq_of_veiled ConnectionSummary.toJson_veiled hs,
    map_eq_of_veiled ConnectionInfo.structuralText_veiled hall,
    map_eq_of_veiled ConnectionInfo.endpoint_veiled hall]

/-! ### Requests -/

/-- Does a request for the resource bring details? -/
def Request.bringsInfo (r : Request) : Bool :=
  match Route.ofPath? r.path with
  | some .databases => r.method == "POST"
  | some (.database _) => r.method == "PATCH"
  | _ => false

/-- The same request but perhaps for the password: where details are brought, they can be read and
    are the same otherwise. -/
structure Request.SameButPassword (r r' : Request) : Prop where
  method : r.method = r'.method
  target : r.target = r'.target
  contentType : r.contentType = r'.contentType
  body : r.body = r'.body ∨ r.bringsInfo = true ∧ ∃ i i', r.read ConnectionInfo.decoder = .ok i ∧
    r'.read ConnectionInfo.decoder = .ok i' ∧ i.veiled = i'.veiled

namespace Request.SameButPassword

variable {r r' : Request} (h : r.SameButPassword r')

include h

theorem read_info : (r.read ConnectionInfo.decoder).map ConnectionInfo.veiled =
    (r'.read ConnectionInfo.decoder).map ConnectionInfo.veiled := by
  obtain ⟨method, target, contentType, body⟩ := r
  obtain ⟨method', target', contentType', body'⟩ := r'
  obtain ⟨rfl, rfl, rfl, rfl | ⟨-, i, i', hi, hi', hv⟩⟩ := h
  · rfl
  · rw [hi, hi']
    exact congrArg Except.ok hv

/-- Requests that bring no details are the same. -/
theorem eq_of_not_brings (hb : r.bringsInfo = false) : r = r' := by
  obtain ⟨method, target, contentType, body⟩ := r
  obtain ⟨method', target', contentType', body'⟩ := r'
  obtain ⟨rfl, rfl, rfl, rfl | ⟨hbrings, -⟩⟩ := h
  · rfl
  · exact absurd (hb.symm.trans hbrings) Bool.false_ne_true

end Request.SameButPassword

/-! ### Answers -/

namespace Service

/-- What answers requests, with the records in a table of the metadata. -/
def ofDatabases (registered metadata : Databases σ P T) (pool : P) (limit : Nat)
    (freshId : Work σ Empty String) (remarks : Remarks) : Service σ P T :=
  ⟨registered, .ofPool metadata pool, limit, freshId, remarks⟩

variable {registered metadata : Databases σ P T} {pool : P} {limit : Nat}
  {freshId : Work σ Empty String} {remarks : Remarks} {history : σ → List (Reply P T)}

theorem readInfo_agrees (s : Service σ P T) {r r' : Request} (hr : r.SameButPassword r') :
    Gateway.Agrees history ConnectionInfo.veiled (s.readInfo r) (s.readInfo r') := by
  refine Lockstep.ofExcept ?_
  obtain ⟨-, -, htype, hbody | ⟨-, i, i', hi, hi', hv⟩⟩ := hr
  · have hread : r.read ConnectionInfo.decoder = r'.read ConnectionInfo.decoder := by
      rw [Request.read, Request.read, htype, hbody]
    rw [hread, hbody]
  · rw [hi, hi']
    exact congrArg Except.ok hv

variable (h : registered.Remembers history id)
  (hm : metadata.Remembers history (List.map Record.veiledRow))
  (hf : freshId.Noted history .named)

include h hm hf

theorem add_agrees {i i' : ConnectionInfo} (hi : i.veiled = i'.veiled) :
    Gateway.Agrees history id ((ofDatabases registered metadata pool limit freshId remarks).add i)
      ((ofDatabases registered metadata pool limit freshId remarks).add i') := by
  have hfresh : Work.Agrees history id freshId freshId :=
    hf.agrees hf fun _ _ ho => congrArg _ (Reply.named.inj ho)
  exact (Gateway.outward_agrees (hfresh.report _)).bind_same fun name =>
    (Gateway.add_agrees h hm name hi).bind_same fun _ => Lockstep.pure rfl

/-- Every resource answers in the same way. -/
theorem answer_agrees {r r' : Request} (hr : r.SameButPassword r') (only : Option String)
    (route : Route) (hq : ∀ id, route = .query id → r = r') :
    Gateway.Agrees history id
      ((ofDatabases registered metadata pool limit freshId remarks).answer r only route)
      ((ofDatabases registered metadata pool limit freshId remarks).answer r' only route) := by
  cases route with
  | drivers => exact Lockstep.pure rfl
  | databases =>
    rw [answer, answer, hr.method]
    split
    · exact (readInfo_agrees _ hr).bind fun i i' hi =>
        (add_agrees h hm hf hi).bind_same fun _ => Lockstep.pure rfl
    · refine Lockstep.state.bind fun g g' hg => Lockstep.pure ?_
      exact congrArg (fun v : View => Response.ok (.arr v.listing))
        (View.of_eq (rfl : ([] : List ConnectionInfo).map _ = _) hg)
  | database id' =>
    rw [answer, answer, hr.method]
    refine (Lockstep.ofExcept_self _).bind_same fun id' => ?_
    split
    · exact (readInfo_agrees _ hr).bind fun i i' hi =>
        (Gateway.edit_agrees h hm id' hi).bind_same fun _ => Lockstep.pure rfl
    · exact (Gateway.remove_agrees h hm id').bind_same fun _ => Lockstep.pure rfl
  | tables id' =>
    refine (Lockstep.ofExcept_self _).bind_same fun id' => ?_
    refine (Gateway.find_agrees id').bind fun k k' hk => ?_
    exact (Gateway.onHandle_agrees hk (Focus.tables_agrees h _ only)).bind_same fun _ =>
      Lockstep.pure rfl
  | routines id' =>
    refine (Lockstep.ofExcept_self _).bind_same fun id' => ?_
    refine (Gateway.find_agrees id').bind fun k k' hk => ?_
    exact (Gateway.onHandle_agrees hk (Focus.routines_agrees h _)).bind_same fun _ =>
      Lockstep.pure rfl
  | query id' =>
    obtain rfl := hq id' rfl
    refine (Lockstep.ofExcept_self _).bind_same fun id' => ?_
    refine (Gateway.find_agrees id').bind fun k k' hk => ?_
    refine (Lockstep.ofExcept_self _).bind_same fun q => ?_
    exact (Gateway.onHandle_agrees hk (Focus.run_agrees h limit q)).bind_same fun _ =>
      Lockstep.pure rfl

omit h hm hf in
theorem exists_of_decodedRoute?_query {raw : Route} {id' : String}
    (hd : decodedRoute? raw = some (.query id')) : ∃ id'', raw = .query id'' := by
  cases raw with
  | query id'' => exact ⟨id'', rfl⟩
  | drivers => nomatch hd
  | databases => nomatch hd
  | _ =>
    rw [decodedRoute?] at hd
    obtain ⟨_, -, hd⟩ := Option.map_eq_some_iff.mp hd
    nomatch hd

/-- Every request is responded to in the same way. -/
theorem respond_agrees {r r' : Request} (hr : r.SameButPassword r') :
    Gateway.Agrees history id ((ofDatabases registered metadata pool limit freshId remarks).respond r)
      ((ofDatabases registered metadata pool limit freshId remarks).respond r') := by
  have hpath : r.path = r'.path := by rw [Request.path, hr.target, Request.path]
  have hquery : r.queryString = r'.queryString := by
    rw [Request.queryString, hr.target, Request.queryString]
  have hparameters : r.parameters = r'.parameters := by
    rw [Request.parameters, hquery, Request.parameters]
  have honly (raw : Route) :
      (ofDatabases registered metadata pool limit freshId remarks).onlyTable raw r =
        (ofDatabases registered metadata pool limit freshId remarks).onlyTable raw r' := by
    cases raw <;> simp only [onlyTable, hparameters, hquery]
  rw [respond, respond, ← hpath, ← hr.method]
  cases hraw : Route.ofPath? r.path with
  | none => exact Lockstep.pure rfl
  | some raw =>
    dsimp only
    rw [← honly]
    split
    · exact Lockstep.pure rfl
    split
    · exact Lockstep.pure rfl
    · exact Lockstep.pure rfl
    · next route only hroute _ =>
      have hq : ∀ id, route = .query id → r = r' := by
        rintro id' rfl
        obtain ⟨id'', rfl⟩ := exists_of_decodedRoute?_query hroute
        exact hr.eq_of_not_brings (by rw [Request.bringsInfo, hraw])
      exact (answer_agrees h hm hf hr only route hq).attempt_bind
        (fun a b (hab : a = b) => Lockstep.pure (by rw [hab])) fun _ => Lockstep.pure rfl

omit h hm hf

/-- Answer a request and look at the response and at what is written down then. -/
def exchange (s : Service σ P T) (r : Request) :
    Work (Gateway σ P) ε (Outcome Empty Response × View) := do
  let o ← (s.respond r).outcome
  return (o, View.of (r.read ConnectionInfo.decoder).toOption.toList (← Work.state))

/-- Take over the records and answer requests: how many records there are, what is written down of
    them, and the exchanges. -/
def session (s : Service σ P T) (requests : List Request) :
    Work (Gateway σ P) Failure (Nat × View × List (Outcome Empty Response × View)) := do
  let n ← Gateway.load s.store s.databases.toOpener
  return (n, View.of [] (← Work.state), ← requests.mapM s.exchange)

include h hm hf

theorem exchange_agrees {r r' : Request} (hr : r.SameButPassword r') :
    Gateway.Agrees history id
      ((ofDatabases registered metadata pool limit freshId remarks).exchange r :
        Work (Gateway σ P) ε (Outcome Empty Response × View))
      ((ofDatabases registered metadata pool limit freshId remarks).exchange r') := by
  refine (respond_agrees h hm hf hr).outcome.bind_same fun o => ?_
  refine Lockstep.state.bind fun g g' hg => Lockstep.pure ?_
  have hread := hr.read_info
  have hbrought : (r.read ConnectionInfo.decoder).toOption.toList.map ConnectionInfo.veiled =
      (r'.read ConnectionInfo.decoder).toOption.toList.map ConnectionInfo.veiled := by
    cases hr : r.read ConnectionInfo.decoder <;> cases hr' : r'.read ConnectionInfo.decoder <;>
      rw [hr, hr'] at hread <;> simp_all [Except.map, Except.toOption]
  exact congrArg (Prod.mk o) (View.of_eq hbrought hg)

theorem session_agrees {requests requests' : List Request}
    (hr : List.Forall₂ Request.SameButPassword requests requests') :
    Gateway.Agrees history id
      ((ofDatabases registered metadata pool limit freshId remarks).session requests)
      ((ofDatabases registered metadata pool limit freshId remarks).session requests') := by
  have hexchanges : Gateway.Agrees history (List.map id)
      (requests.mapM (ofDatabases registered metadata pool limit freshId remarks).exchange :
        Work (Gateway σ P) Failure (List (Outcome Empty Response × View)))
      (requests'.mapM (ofDatabases registered metadata pool limit freshId remarks).exchange) :=
    Lockstep.mapM (fun r r' hr => exchange_agrees h hm hf hr) hr
  refine (Gateway.load_agrees h hm).bind_same fun n => ?_
  refine Lockstep.state.bind fun g g' hg => ?_
  refine hexchanges.bind fun xs ys hxs => Lockstep.pure ?_
  have hview := View.of_eq (rfl : ([] : List ConnectionInfo).map _ = _) hg
  rw [List.map_id, List.map_id] at hxs
  rw [hview, hxs]

omit h hm hf

/-- Two sessions of the same requests, whose passwords may differ: if the same comes back from
    outside, rows of records taken without their passwords, all that can be seen is the same. -/
theorem session_veiled (h : registered.Remembers history id)
    (hm : metadata.Remembers history (List.map Record.veiledRow))
    (hf : freshId.Noted history .named) {requests requests' : List Request}
    (hr : List.Forall₂ Request.SameButPassword requests requests') {s s' : σ}
    (hstart : history s = history s')
    (hend : history ((ofDatabases registered metadata pool limit freshId remarks).session requests
        ⟨s, []⟩).2.outside =
      history ((ofDatabases registered metadata pool limit freshId remarks).session requests'
        ⟨s', []⟩).2.outside) :
    ((ofDatabases registered metadata pool limit freshId remarks).session requests ⟨s, []⟩).1 =
      ((ofDatabases registered metadata pool limit freshId remarks).session requests' ⟨s', []⟩).1 := by
  have hstate : (⟨s, []⟩ : Gateway σ P).veiled = (⟨s', []⟩ : Gateway σ P).veiled := rfl
  have ho := ((session_agrees h hm hf hr).meets_of_eq hstate hstart hend).outcome
  rwa [Outcome.map_id, Outcome.map_id] at ho

end Service

end Http

/-! ### An outside that is written down -/

/-- Everything outside, and what came back from it so far. -/
structure Recorded (σ P T : Type) where
  outside : σ
  replies : List (Reply P T) := []

namespace Recorded

/-- Work outside whose end is written down. -/
def work {α : Type} (note : Outcome ε α → Reply P T) (w : Work σ ε α) :
    Work (Recorded σ P T) ε α := fun r =>
  let (o, s) := w r.outside
  (o, ⟨s, r.replies ++ [note o]⟩)

/-- The databases, with everything written down that comes back from them. -/
def databases (db : Databases σ P T) (seen : List Row → List Row) :
    Databases (Recorded σ P T) P T where
  connect i := work .opened (db.connect i)
  close p := work .closed (db.close p)
  transactions p :=
    { start := work .began (db.transactions p).start
      commit := fun tx => work .committed ((db.transactions p).commit tx)
      rollback := fun tx => work .rolledBack ((db.transactions p).rollback tx) }
  pooled :=
    { dialect := db.pooled.dialect
      read := fun p plan => work (fun o => .read (o.map seen)) (db.pooled.read p plan)
      write := fun p plan => work .written (db.pooled.write p plan) }
  joined :=
    { dialect := db.joined.dialect
      read := fun tx plan => work (fun o => .read (o.map seen)) (db.joined.read tx plan)
      write := fun tx plan => work .written (db.joined.write tx plan) }
  tables p only := work .tables (db.tables p only)
  routines p := work .routines (db.routines p)

theorem work_noted {α : Type} (note : Outcome ε α → Reply P T) (w : Work σ ε α) :
    (work note w).Noted replies note := fun _ => rfl

/-- Whatever databases there are, what comes back from them can be remembered. -/
theorem databases_remembers (db : Databases σ P T) (seen : List Row → List Row) :
    (databases db seen).Remembers replies seen where
  connect _ := work_noted _ _
  close _ := work_noted _ _
  start _ := work_noted _ _
  commit _ _ := work_noted _ _
  rollback _ _ := work_noted _ _
  read _ _ := work_noted _ _
  write _ _ := work_noted _ _
  writeJoined _ _ := work_noted _ _
  tables _ _ := work_noted _ _
  routines _ := work_noted _ _

end Recorded

namespace Http.Service

/-- Metadata with the record of a file and its password. -/
def shore (password : String) : Recorded Site PoolId PoolId where
  outside :=
    { pools := [{ target := .memory { tables := [{
        name := Record.table
        columns := Record.columnNames.map fun name => { name }
        primaryKey := ["id"]
        keys := [⟨["id"], true⟩]
        rows := [⟨1, [.text "n", .text "north", .text "", .int 0, .text "root", .text password,
          .text ":memory:", .text "sqlite"]⟩] }] } }] }

/-- What answers requests on that shore. -/
def pier : Service (Recorded Site PoolId PoolId) PoolId PoolId :=
  ofDatabases (Recorded.databases Site.databases id)
    (Recorded.databases Site.databases (List.map Record.veiledRow)) ⟨0, .sqlite⟩ 5000
    (Recorded.work .named Site.freshId) {}

/-- A connection is added with a password, listed and removed. -/
def calls (password : String) : List Request :=
  [{ method := "POST", target := "/database", contentType := some "application/json",
     body := (Json.obj [("name", .str "south"), ("driver", .str "sqlite"),
       ("dbName", .str ":memory:"), ("password", .str password)]).text },
   { method := "GET", target := "/database" },
   { method := "DELETE", target := "/database/6ba7b810-9dad-41d1-80b4-000000000000" }]

/-- The password of the record and that of the request differ, and what comes back is the same. -/
theorem session_veiled_shore : (pier.session (calls "a") ⟨shore "x", []⟩).1 =
    (pier.session (calls "\"b\"") ⟨shore "", []⟩).1 := by
  have hsame : List.Forall₂ Request.SameButPassword (calls "a") (calls "\"b\"") := by
    refine .cons ⟨rfl, rfl, rfl, .inr ⟨by decide +kernel, ?_⟩⟩
      (.cons ⟨rfl, rfl, rfl, .inl rfl⟩ (.cons ⟨rfl, rfl, rfl, .inl rfl⟩ .nil))
    exact ⟨⟨"south", .sqlite, "", 0, "", "a", ":memory:"⟩,
      ⟨"south", .sqlite, "", 0, "", "\"b\"", ":memory:"⟩, by decide +kernel, by decide +kernel, rfl⟩
  exact session_veiled (Recorded.databases_remembers _ _) (Recorded.databases_remembers _ _)
    (Recorded.work_noted _ _) hsame rfl (by decide +kernel)

end Http.Service

end SqlGateway
