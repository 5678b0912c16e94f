import SqlGateway.Connection.Identifier
import SqlGateway.Http.Route
import SqlGateway.Query.Document
import SqlGateway.Registry.Basic
import SqlGateway.Schema.Inspection

/-! Answering requests. An identifier is checked before it is looked up, and a connection is looked
    up before a query for it is read. A body that cannot be read is an invalid input, and for a
    query a query that does not compile. -/

namespace SqlGateway.Http

/-- What it takes to answer requests. -/
structure Service (σ P T : Type) where
  databases : Databases σ P T
  store : Store σ T
  /-- Limit of queries and inspections in milliseconds. -/
  limit : Nat
  /-- Makes an identifier that was not made before. -/
  freshId : Work σ Empty String
  remarks : Remarks := {}

namespace Service

variable {σ P T : Type}

/-- The connection of a body. -/
def readInfo (s : Service σ P T) (r : Request) : Work (Gateway σ P) Failure ConnectionInfo :=
  Work.ofExcept ((r.read ConnectionInfo.decoder).mapError fun rejection =>
    .invalidInput (rejection.text (s.remarks.connection r.body)))

/-- The query of a body. -/
def readQuery (s : Service σ P T) (r : Request) : Work (Gateway σ P) Failure Query :=
  Work.ofExcept ((r.read Query.decoder).mapError fun rejection =>
    .compileFailed (rejection.text (s.remarks.query r.body)))

/-- Register a connection and tell its identifier. -/
def add (s : Service σ P T) (info : ConnectionInfo) : Work (Gateway σ P) Failure String := do
  let id ← Gateway.outward s.freshId.surely
  Gateway.add s.store s.databases.toOpener id info
  return id

/-- Answer a request for a resource. `only` is the table that the query string asks for. -/
def answer (s : Service σ P T) (r : Request) (only : Option String) :
    Route → Work (Gateway σ P) Failure Response
  | .drivers => return .ok (.arr (Driver.all.map fun d => .str d.name))
  | .databases => do
    if r.method = "POST" then
      let id ← s.add (← s.readInfo r)
      return ⟨201, .json (.obj [("id", .str id)])⟩
    else return .ok (.arr ((← Work.state).summaries.map ConnectionSummary.toJson))
  | .database id => do
    let id ← Work.ofExcept (checkIdentifier id)
    if r.method = "PATCH" then
      Gateway.edit s.store s.databases.toOpener id (← s.readInfo r)
    else Gateway.remove s.store s.databases.toOpener id
    return .done
  | .tables id => do
    let h ← Gateway.find (← Work.ofExcept (checkIdentifier id))
    let found ← Gateway.onHandle h (Focus.tables s.databases (some s.limit) only)
    return .ok (.arr (found.map Table.toJson))
  | .routines id => do
    let h ← Gateway.find (← Work.ofExcept (checkIdentifier id))
    let found ← Gateway.onHandle h (Focus.routines s.databases (some s.limit))
    return .ok (.arr (found.map Routine.toJson))
  | .query id => do
    let h ← Gateway.find (← Work.ofExcept (checkIdentifier id))
    let q ← s.readQuery r
    return .ok (← Gateway.onHandle h (Focus.run s.databases s.limit q)).toJson

/-- The resource with its identifier decoded. -/
def decodedRoute? (route : Route) : Option Route :=
  match route.id? with
  | none => some route
  | some id => (Text.percentDecode? id).map fun id =>
    match route with
    | .database _ => .database id
    | .tables _ => .tables id
    | .routines _ => .routines id
    | .query _ => .query id
    | other => other

/-- The table that a query string asks for; it may ask once. -/
def onlyTable (s : Service σ P T) (route : Route) (r : Request) :
    Except String (Option String) :=
  match route with
  | .tables _ =>
    match r.parameters.filter (·.1 == "table") with
    | [] => .ok none
    | [(_, name)] => .ok (some name)
    | _ => .error (withRemark "Failed to deserialize query string"
        (s.remarks.parameters r.queryString))
  | _ => .ok none

/-- Answer a request. -/
def respond (s : Service σ P T) (r : Request) : Work (Gateway σ P) Empty Response := do
  match Route.ofPath? r.path with
  | none => return ⟨404, .empty⟩
  | some raw =>
    if !raw.methods.contains r.method then return ⟨405, .empty⟩
    else
      match decodedRoute? raw, s.onlyTable raw r with
      | none, _ => return ⟨400, .text "Invalid URL: Invalid UTF-8 in \x60id\x60"⟩
      | _, .error text => return ⟨400, .text text⟩
      | some route, .ok only =>
        let response := match ← (s.answer r only route).attempt with
          | .ok response => response
          | .error f => Response.ofFailure f
        return if r.method = "HEAD" then response.bodiless else response

end Service

end SqlGateway.Http
