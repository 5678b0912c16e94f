import SqlGateway.Settings.Pool
import SqlGateway.Url.Basic

/-! Settings of the gateway, each with its usual value. -/

namespace SqlGateway

open Number (natText)

/-- How the gateway runs. Times are in seconds. -/
structure Settings where
  /-- Where the records of the registered connections are kept. -/
  metadataUrl : String := "sqlite://datapoint.db?mode=rwc"
  /-- Script to run against the metadata at the start; the built-in one if none is named. -/
  migration : Option String := none
  httpHost : String := "127.0.0.1"
  httpPort : UInt16 := 8080
  queryTimeout : UInt64 := 30
  shutdownTimeout : UInt64 := 10
  pool : PoolOptions := {}
  logLevel : String := "info"
  jsonLogs : Bool := false
  deriving DecidableEq, Repr

namespace Settings

/-- Where the gateway listens. -/
def address (s : Settings) : String := s.httpHost ++ ":" ++ natText s.httpPort.toNat

/-- The address of the metadata, fit for showing. -/
def maskedMetadataUrl (s : Settings) : String := Url.maskedText s.metadataUrl

end Settings

end SqlGateway
