import SqlGateway.Program.Start

/-! The gateway at a terminal. Every line is a request, its method, its target and perhaps a JSON
    body, and is answered by a line with a status and what the response carries:

        POST /database {"name":"a","driver":"sqlite","dbName":"a.db"}   ▶   201 {"id":"…"}
        GET /database                                                   ▶   200 [{"id":"…",…}]

    The gateway stops at the end of its input. Its files live as long as it does. -/

namespace SqlGateway.Terminal

/-- The request of a line. -/
def requestOfLine (line : String) : Http.Request :=
  let cs := line.toList
  let method := cs.takeWhile (· != ' ')
  let rest := (cs.drop method.length).drop 1
  let target := rest.takeWhile (· != ' ')
  { method := String.ofList method
    target := String.ofList target
    contentType := some "application/json"
    body := String.ofList ((rest.drop target.length).drop 1) }

/-- The line of a response. -/
def lineOfResponse (r : Http.Response) : String :=
  let body := match r.body with
    | .empty => ""
    | .json j => " " ++ j.text
    | .text s => " " ++ s
  Number.natText r.status ++ body

/-- Answer a line. A request that never ends has no answer. -/
def answer (running : Program.Running) (g : Gateway Site PoolId) (line : String) :
    Option String × Gateway Site PoolId :=
  match running.service.respond (requestOfLine line) g with
  | (.done response, g) => (some (lineOfResponse response), g)
  | (_, g) => (none, g)

/-- Answer lines up to the end of the input. -/
partial def serve (running : Program.Running) (input output : IO.FS.Stream)
    (g : Gateway Site PoolId) : IO (Gateway Site PoolId) := do
  let line ← input.getLine
  if line.isEmpty then return g
  let (reply, g) := answer running g line.trimAscii.toString
  match reply with
  | some text =>
    output.putStrLn text
    output.flush
  | none => pure ()
  serve running input output g

/-- The variables of the environment that stand in for options. -/
def environment : IO (List (String × String)) :=
  SettingKey.variableNames.filterMapM fun (name, _) => do
    return (← IO.getEnv name).map fun value => (name, value)

end SqlGateway.Terminal

open SqlGateway in
/-- Run the gateway. -/
def main (args : List String) : IO UInt32 := do
  match Program.start args (← Terminal.environment) true { outside := {} } with
  | (.failed code, _) => return code.toUInt32
  | (.stalled, _) => return 1
  | (.done running, g) =>
    let g ← Terminal.serve running (← IO.getStdin) (← IO.getStdout) g
    match running.stop g with
    | (.done code, _) => return code.toUInt32
    | _ => return 1
