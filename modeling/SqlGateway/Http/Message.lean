import SqlGateway.Failure.Basic
import SqlGateway.Http.MediaType
import SqlGateway.Json.Decode
import SqlGateway.Text.Percent

/-! Requests and responses. A request with a body says that it is JSON by its media type; a body
    that ends too early and one that has the wrong shape are told apart.

    Who turns a text down says so in fixed words, and may add a remark of its own, on what it found
    where:

        Failed to deserialize the JSON body into the target type: missing field …
        └───────────────────── fixed words ────────────────────┘  └── remark ──┘ -/

namespace SqlGateway.Http

structure Request where
  method : String
  /-- Path and query string as they were sent. -/
  target : String
  contentType : Option String := none
  body : String := ""
  deriving DecidableEq, Repr

/-- What a response carries. -/
inductive Body where
  | empty
  | json (value : Json)
  | text (value : String)

structure Response where
  status : Nat
  body : Body := .empty

/-- Fixed words, and the remark that is added to them. -/
def withRemark (words : String) : Option String → String
  | none => words
  | some remark => words ++ ": " ++ remark

/-- Why a body is turned down. -/
inductive Rejection where
  /-- It is not JSON by its media type. -/
  | untyped
  | defective (defect : Json.Defect)
  deriving DecidableEq, Repr

/-- What is said about it. Nobody has a remark on a body that was not looked at. -/
def Rejection.text (remark : Option String) : Rejection → String
  | .untyped => "Expected request with \x60Content-Type: application/json\x60"
  | .defective .malformed => withRemark "Failed to parse the request body as JSON" remark
  | .defective .mismatch =>
    withRemark "Failed to deserialize the JSON body into the target type" remark

/-- What is added about a text that is turned down: about a body as a connection, about a body as a
    query, and about a query string. -/
structure Remarks where
  connection : String → Option String := fun _ => none
  query : String → Option String := fun _ => none
  parameters : String → Option String := fun _ => none

namespace Request

/-- The path of the target. -/
def path (r : Request) : String :=
  String.ofList (r.target.toList.takeWhile fun c => c != '?' && c != '#')

/-- The query string of the target. -/
def queryString (r : Request) : String :=
  let rest := (r.target.toList.dropWhile fun c => c != '?' && c != '#').takeWhile (· != '#')
  String.ofList (rest.drop 1)

/-- The pairs of the query string. -/
def parameters (r : Request) : List (String × String) := Text.formPairs r.queryString

/-- Read the body. -/
def read {α : Type} (decoder : Json.Decoder α) (r : Request) : Except Rejection α :=
  if !r.contentType.any isJsonType then .error .untyped
  else (Json.decode decoder r.body).mapError .defective

end Request

namespace Response

/-- The report of a failure. -/
def ofFailure (f : Failure) : Response := ⟨f.status, .json f.body⟩

def ok (value : Json) : Response := ⟨200, .json value⟩

/-- Done, and nothing to say. -/
def done : Response := ⟨204, .empty⟩

/-- The same response without what it carries. -/
def bodiless (r : Response) : Response := { r with body := .empty }

end Response

end SqlGateway.Http
