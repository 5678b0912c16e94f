import SqlGateway.Number.Rounding

/-! SQL dialects: how an identifier is quoted, how an argument is marked, how long an identifier may
    be and how a window without an upper end is spelled.

                    quote    argument    longest identifier    all rows
        Postgres      "        $1 $2        63 bytes              -
        MySql         `        ?            -                     18446744073709551615
        Sqlite        "        ?            -                     -1

    A quoted identifier opens and closes with the quote character; a quote character inside it is
    written twice. -/

namespace SqlGateway

inductive Dialect where
  | postgres
  | mysql
  | sqlite
  deriving DecidableEq, Repr

namespace Dialect

def name : Dialect → String
  | .postgres => "Postgres"
  | .mysql => "MySql"
  | .sqlite => "Sqlite"

/-- The character that encloses an identifier. -/
def quoteChar : Dialect → Char
  | .mysql => '\x60'
  | .postgres | .sqlite => '"'

/-- Characters of an identifier with every quote character written twice. -/
def doubleQuotes (quote : Char) : List Char → List Char
  | [] => []
  | c :: rest =>
    if c = quote then quote :: quote :: doubleQuotes quote rest else c :: doubleQuotes quote rest

/-- Characters of a quoted identifier. -/
def quoteChars (d : Dialect) (ident : List Char) : List Char :=
  d.quoteChar :: doubleQuotes d.quoteChar ident ++ [d.quoteChar]

/-- A quoted identifier. -/
def quote (d : Dialect) (ident : String) : String := String.ofList (d.quoteChars ident.toList)

/-- Mark of the argument with a number that counts from one. -/
def placeholder (d : Dialect) (index : Nat) : String :=
  match d with
  | .postgres => "$" ++ Number.natText index
  | .mysql | .sqlite => "?"

/-- Bytes of the longest identifier that the server keeps in full. -/
def maxIdentifierLength : Dialect → Option Nat
  | .postgres => some 63
  | .mysql | .sqlite => none

/-- The limit that stands for all rows where an offset needs one. -/
def unboundedLimit : Dialect → Option String
  | .postgres => none
  | .mysql => some "18446744073709551615"
  | .sqlite => some "-1"

end Dialect

end SqlGateway
