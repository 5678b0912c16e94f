import SqlGateway.Failure.Basic
import SqlGateway.Uuid

/-! Identifiers of connections in requests: any text that denotes a UUID is taken as it stands. -/

namespace SqlGateway

/-- The identifier, if it denotes a UUID. -/
def checkIdentifier (id : String) : Except Failure String :=
  if (Uuid.ofText? id).isSome then .ok id
  else .error (.invalidInput ("Invalid connection id: " ++ id))

end SqlGateway
