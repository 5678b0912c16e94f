import SqlGateway.Engine.Cell
import SqlGateway.Text.Case

/-! Affinities: the kind of cell that a column prefers. It follows from words in the declared type
    and decides how a cell is kept and how it is compared with a cell from outside:

        type has          affinity    a text number    an integral number    any number
        INT               integer     number           integer
        CHAR CLOB TEXT    text                                               text
        BLOB, no type     none
        REAL FLOA DOUB    real        real             real
        anything else     numeric     number           integer                                    -/

namespace SqlGateway.Engine

open Number (Double int64Text)

inductive Affinity where
  | integer
  | text
  | none
  | real
  | numeric
  deriving DecidableEq, Repr

namespace Affinity

/-- The affinity of a declared type; the first rule that fits counts. -/
def ofDeclared (declared : String) : Affinity :=
  let words := Text.upper declared
  let has (word : String) : Bool := Text.contains words word
  if has "INT" then .integer
  else if has "CHAR" || has "CLOB" || has "TEXT" then .text
  else if has "BLOB" || words.isEmpty then .none
  else if has "REAL" || has "FLOA" || has "DOUB" then .real
  else .numeric

/-- Does a column prefer numbers? -/
def isNumeric : Affinity → Bool
  | .integer | .real | .numeric => true
  | .text | .none => false

/-- A text that is a number becomes that number. -/
def toNumber : Cell → Cell
  | .text s => (Cell.numberOfText? s).getD (.text s)
  | c => c

/-- A number becomes a text. -/
def toText : Cell → Cell
  | .int i => .text (int64Text i)
  | .real x => .text x.storedText
  | c => c

/-- A number without a fraction becomes an integer. -/
def toInteger : Cell → Cell
  | .real x => ((Cell.integral? x).map Cell.int).getD (.real x)
  | c => c

/-- An integer becomes a real number. -/
def toReal : Cell → Cell
  | .int i => .real (Double.ofInt i.toInt)
  | c => c

/-- How a column keeps a cell. A real number without a fraction passes through an integer, so a zero
    loses its sign. -/
def store : Affinity → Cell → Cell
  | .text, c => toText c
  | .none, c => c
  | .real, c => toReal (toInteger (toNumber c))
  | .integer, c | .numeric, c => toInteger (toNumber c)

/-- A cell from outside as it is compared with cells of a column. -/
def forComparison : Affinity → Cell → Cell
  | .text, c => toText c
  | .none, c => c
  | _, c => toNumber c

/-- Cells of two columns as they are compared: as numbers if one of the columns prefers them. -/
def unify (a b : Affinity) (c : Cell) : Cell := if a.isNumeric || b.isNumeric then toNumber c else c

end Affinity

end SqlGateway.Engine
