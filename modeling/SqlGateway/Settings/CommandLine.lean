import SqlGateway.Settings.Basic

/-! Settings from a command line and an environment.

    Arguments are read from left to right. An option takes its value after an equals sign or from
    the next argument, which may not look like an option; the value is judged when the next known
    option or the end of the line is reached, so an unknown argument in between is reported first.
    Every option may be given once. An environment variable stands in for an option that is not
    given.

        --http-port 9000 --json-logs      ▶   httpPort := 9000, jsonLogs := true
        --http-port x --help              ▶   value of --http-port refused
        --http-port x --nope              ▶   --nope unknown                                      -/

namespace SqlGateway

/-- Why a command line does not start the gateway. Help and version are asked for, not faults. -/
inductive CommandLineStop where
  | unknownArgument
  | invalidValue
  | valueValidation
  | argumentConflict
  | tooManyValues
  | help
  | version
  deriving DecidableEq, Repr

namespace CommandLineStop

/-- Exit code of the program. -/
def exitCode : CommandLineStop → Nat
  | .help | .version => 0
  | _ => 2

end CommandLineStop

/-- The options. -/
inductive SettingKey where
  | metadataUrl
  | migration
  | httpHost
  | httpPort
  | queryTimeout
  | shutdownTimeout
  | maxConnections
  | minConnections
  | idleTimeout
  | acquireTimeout
  | logLevel
  | jsonLogs
  | help
  | version
  deriving DecidableEq, Repr

/-- What the value of an option looks like. -/
inductive ValueKind where
  | text
  | path
  /-- An unsigned number of so many bits. -/
  | word (bits : Nat)
  /-- No value on a command line, `true` or `false` in an environment. -/
  | switch
  deriving DecidableEq, Repr

namespace SettingKey

/-- Names on the command line. -/
def names : List (String × SettingKey) :=
  [("metadata-url", .metadataUrl), ("migration", .migration), ("http-host", .httpHost),
    ("http-port", .httpPort), ("query-timeout", .queryTimeout),
    ("shutdown-timeout", .shutdownTimeout), ("max-connections", .maxConnections),
    ("min-connections", .minConnections), ("idle-timeout", .idleTimeout),
    ("acquire-timeout", .acquireTimeout), ("log-level", .logLevel), ("json-logs", .jsonLogs),
    ("help", .help), ("version", .version)]

/-- Names in the environment. -/
def variableNames : List (String × SettingKey) :=
  [("DATAPOINT_METADATA_URL", .metadataUrl), ("DATAPOINT_MIGRATION", .migration),
    ("DATAPOINT_HTTP_HOST", .httpHost), ("DATAPOINT_HTTP_PORT", .httpPort),
    ("DATAPOINT_QUERY_TIMEOUT", .queryTimeout), ("DATAPOINT_SHUTDOWN_TIMEOUT", .shutdownTimeout),
    ("DATAPOINT_MAX_CONNECTIONS", .maxConnections), ("DATAPOINT_MIN_CONNECTIONS", .minConnections),
    ("DATAPOINT_IDLE_TIMEOUT", .idleTimeout), ("DATAPOINT_ACQUIRE_TIMEOUT", .acquireTimeout),
    ("DATAPOINT_LOG_LEVEL", .logLevel), ("DATAPOINT_JSON_LOGS", .jsonLogs)]

def valueKind : SettingKey → ValueKind
  | .metadataUrl | .httpHost | .logLevel => .text
  | .migration => .path
  | .httpPort => .word 16
  | .maxConnections | .minConnections => .word 32
  | .queryTimeout | .shutdownTimeout | .idleTimeout | .acquireTimeout => .word 64
  | .jsonLogs | .help | .version => .switch

/-- Does the option take a value on the command line? -/
def takesValue (k : SettingKey) : Bool := k.valueKind != .switch

end SettingKey

/-- A judged value of an option. -/
inductive SettingValue where
  | text (value : String)
  | word (value : Nat)
  | switch (value : Bool)
  deriving DecidableEq, Repr

/-- Judge a text as a value. Narrow numbers are read with either sign, wide ones without a minus. -/
def ValueKind.read (k : ValueKind) (s : String) : Except CommandLineStop SettingValue :=
  match k with
  | .text => .ok (.text s)
  | .path => if s.isEmpty then .error .invalidValue else .ok (.text s)
  | .word 64 =>
    match Number.readWord? 64 s with
    | some n => .ok (.word n)
    | none => .error .valueValidation
  | .word bits =>
    match Number.readInteger? s with
    | some i => if 0 ≤ i ∧ i < Nat.pow 2 bits then .ok (.word i.toNat) else .error .valueValidation
    | none => .error .valueValidation
  | .switch =>
    if s = "true" then .ok (.switch true)
    else if s = "false" then .ok (.switch false)
    else .error .invalidValue

/-- Values of the options given so far. -/
abbrev GivenSettings := List (SettingKey × SettingValue)

namespace CommandLine

/-- How far a command line is read: the options given, and one that may still get its value. -/
structure Progress where
  given : GivenSettings := []
  pending : Option (SettingKey × Option String) := none

/-- Give an option its value, unless it has one. -/
def give (given : GivenSettings) (k : SettingKey) (text : String) :
    Except CommandLineStop GivenSettings :=
  if given.any (·.1 == k) then .error .argumentConflict
  else (k.valueKind.read text).map fun v => given ++ [(k, v)]

/-- Judge the option that is still open. -/
def settle (p : Progress) : Except CommandLineStop GivenSettings :=
  match p.pending with
  | none => .ok p.given
  | some (_, none) => .error .invalidValue
  | some (k, some text) => give p.given k text

/-- An option without value: a switch is turned on, help and version end the reading. -/
def turnOn (given : GivenSettings) : SettingKey → Except CommandLineStop GivenSettings
  | .help => .error .help
  | .version => .error .version
  | k => give given k "true"

/-- Read a long option. -/
def readLong (p : Progress) (name : String) (value : Option String) :
    Except CommandLineStop Progress :=
  match SettingKey.names.lookup name with
  | none => .error .unknownArgument
  | some k =>
    match k.takesValue, value with
    | true, some text => do return ⟨← give (← settle p) k text, none⟩
    | true, none => do return ⟨← settle p, some (k, none)⟩
    | false, some _ => .error .tooManyValues
    | false, none => do return ⟨← turnOn (← settle p) k, none⟩

/-- Read an argument that starts with one minus sign: only help and version have a letter. -/
def readShort (p : Progress) (letter : Char) : Except CommandLineStop Progress :=
  if letter = 'h' then do return ⟨← turnOn (← settle p) .help, none⟩
  else if letter = 'V' then do return ⟨← turnOn (← settle p) .version, none⟩
  else .error .unknownArgument

/-- Name and value of the text after two minus signs. -/
def splitEquals (cs : List Char) : String × Option String :=
  match cs.dropWhile (· != '=') with
  | _ :: value => (String.ofList (cs.takeWhile (· != '=')), some (String.ofList value))
  | [] => (String.ofList cs, none)

/-- Read one argument; `none` where the rest of the line holds no options. -/
def readArgument (p : Progress) (arg : String) : Except CommandLineStop (Option Progress) :=
  match arg.toList with
  | ['-', '-'] => .ok none
  | '-' :: '-' :: rest =>
    let (name, value) := splitEquals rest
    (readLong p name value).map some
  | '-' :: letter :: _ => (readShort p letter).map some
  | _ =>
    match p.pending with
    | some (k, none) => .ok (some { p with pending := some (k, some arg) })
    | _ => .error .unknownArgument

/-- Read arguments. After two minus signs nothing may follow, since there is nothing to name. -/
def readArguments : Progress → List String → Except CommandLineStop GivenSettings
  | p, [] => settle p
  | p, arg :: rest =>
    match readArgument p arg with
    | .error e => .error e
    | .ok none => if rest.isEmpty then settle p else .error .unknownArgument
    | .ok (some next) => readArguments next rest

/-- Fill options that are not given from the environment. -/
def readEnvironment (environment : List (String × String)) (given : GivenSettings) :
    Except CommandLineStop GivenSettings :=
  SettingKey.variableNames.foldlM (fun acc (name, k) =>
    match environment.lookup name with
    | some text => if acc.any (·.1 == k) then .ok acc else give acc k text
    | none => .ok acc) given

end CommandLine

namespace Settings

/-- Settings of the options given, the usual values elsewhere. -/
def ofGiven (given : GivenSettings) : Settings :=
  let text (k : SettingKey) : Option String :=
    match given.lookup k with
    | some (.text s) => some s
    | _ => none
  let word (k : SettingKey) : Option Nat :=
    match given.lookup k with
    | some (.word n) => some n
    | _ => none
  let usual : Settings := {}
  { metadataUrl := (text .metadataUrl).getD usual.metadataUrl
    migration := text .migration
    httpHost := (text .httpHost).getD usual.httpHost
    httpPort := ((word .httpPort).map Nat.toUInt16).getD usual.httpPort
    queryTimeout := ((word .queryTimeout).map Nat.toUInt64).getD usual.queryTimeout
    shutdownTimeout := ((word .shutdownTimeout).map Nat.toUInt64).getD usual.shutdownTimeout
    pool :=
      { maxConnections := (word .maxConnections).map Nat.toUInt32
        minConnections := (word .minConnections).map Nat.toUInt32
        idleTimeout := (word .idleTimeout).map Nat.toUInt64
        acquireTimeout := (word .acquireTimeout).map Nat.toUInt64 }
    logLevel := (text .logLevel).getD usual.logLevel
    jsonLogs := given.lookup .jsonLogs == some (.switch true) }

/-- Settings of a command line and an environment. -/
def read (args : List String) (environment : List (String × String)) :
    Except CommandLineStop Settings := do
  let given ← CommandLine.readArguments {} args
  return ofGiven (← CommandLine.readEnvironment environment given)

end Settings

end SqlGateway
