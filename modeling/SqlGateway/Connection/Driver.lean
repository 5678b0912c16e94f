import SqlGateway.Dialect
import SqlGateway.Text.Case

/-! Kinds of database servers: their names in records and documents, the schemes of their addresses
    and their usual ports. -/

namespace SqlGateway

/-- A kind of database. -/
inductive Driver where
  | postgres
  | mysql
  | sqlite
  deriving DecidableEq, Repr

namespace Driver

def all : List Driver := [.postgres, .mysql, .sqlite]

/-- Name in records and documents. -/
def name : Driver → String
  | .postgres => "postgres"
  | .mysql => "mysql"
  | .sqlite => "sqlite"

/-- Name as its makers write it. -/
def displayName : Driver → String
  | .postgres => "PostgreSQL"
  | .mysql => "MySQL"
  | .sqlite => "SQLite"

/-- Every accepted name. -/
def names : List (String × Driver) :=
  [("postgres", .postgres), ("postgresql", .postgres), ("mysql", .mysql), ("mariadb", .mysql),
    ("sqlite", .sqlite), ("sqlite3", .sqlite)]

/-- The driver of a recorded name, whatever its ASCII case. -/
def ofName? (s : String) : Option Driver := names.lookup (Text.lower s)

/-- Beginnings of the addresses of a driver. -/
def schemes : List (String × Driver) :=
  [("postgres://", .postgres), ("postgresql://", .postgres), ("mysql://", .mysql),
    ("mariadb://", .mysql), ("sqlite:", .sqlite)]

/-- The driver of an address, whatever the case of its scheme. -/
def ofUrl? (url : String) : Option Driver :=
  let folded := (Text.fold url).toList
  (schemes.find? fun (scheme, _) => scheme.toList.isPrefixOf folded).map (·.2)

/-- Port that a server usually listens on. -/
def defaultPort : Driver → Option UInt16
  | .postgres => some 5432
  | .mysql => some 3306
  | .sqlite => none

/-- The dialect that the server speaks. -/
def dialect : Driver → Dialect
  | .postgres => .postgres
  | .mysql => .mysql
  | .sqlite => .sqlite

end Driver

end SqlGateway
