import SqlGateway.Http.Message

/-! Resources and the methods that they answer.

        /driver                       GET
        /database                     GET  POST
        /database/{id}                PATCH  DELETE
        /database/{id}/tables         GET
        /database/{id}/functions      GET
        /database/{id}/query          POST

    Whatever answers GET also answers HEAD, without a body. -/

namespace SqlGateway.Http

/-- A resource; identifiers stand as they were sent. -/
inductive Route where
  | drivers
  | databases
  | database (id : String)
  | tables (id : String)
  | routines (id : String)
  | query (id : String)
  deriving DecidableEq, Repr

namespace Route

/-- The resource at a path. An identifier is not empty. -/
def ofPath? (path : String) : Option Route :=
  match (Text.splitChars '/' path.toList).map String.ofList with
  | ["", "driver"] => some .drivers
  | ["", "database"] => some .databases
  | ["", "database", id] => if id.isEmpty then none else some (.database id)
  | ["", "database", id, "tables"] => if id.isEmpty then none else some (.tables id)
  | ["", "database", id, "functions"] => if id.isEmpty then none else some (.routines id)
  | ["", "database", id, "query"] => if id.isEmpty then none else some (.query id)
  | _ => none

/-- Methods of a resource. -/
def methods : Route → List String
  | .drivers | .tables _ | .routines _ => ["GET", "HEAD"]
  | .databases => ["GET", "HEAD", "POST"]
  | .database _ => ["PATCH", "DELETE"]
  | .query _ => ["POST"]

/-- The identifier in the path. -/
def id? : Route → Option String
  | .drivers | .databases => none
  | .database id | .tables id | .routines id | .query id => some id

end Route

end SqlGateway.Http
