import SqlGateway.Dialect
import SqlGateway.Value

/-! Statements and the drafts they are rendered from.

    A draft is a list of fragments: fixed text, an identifier, or an argument. Identifiers reach the
    text only through the quoting of the dialect and values never reach it at all: an argument
    leaves a mark in the text and its value goes to the argument list, in the order of the marks.

        [text "a = ", argument 1, text ", b = ", argument 2]
          ──▶  "a = $1, b = $2"   with arguments [1, 2]                                           -/

namespace SqlGateway

/-- SQL text with its arguments in the order of their marks. -/
structure Statement where
  sql : String
  args : List Value
  deriving DecidableEq, Repr

/-- A piece of a statement. -/
inductive Fragment where
  | text (sql : String)
  | identifier (name : String)
  | argument (value : Value)
  deriving DecidableEq, Repr

/-- Pieces of a statement in order. -/
abbrev Draft := List Fragment

namespace Draft

/-- `alias.column`, both quoted. -/
def qualified (aliasName column : String) : Draft :=
  [.identifier aliasName, .text ".", .identifier column]

/-- Drafts with a fixed text between each two. -/
def separated (separator : String) : List Draft → Draft
  | [] => []
  | [d] => d
  | d :: rest => d ++ .text separator :: separated separator rest

/-- Texts of fragments, given how many arguments stand before them. -/
def texts (dialect : Dialect) : Nat → Draft → List String
  | _, [] => []
  | n, .text sql :: rest => sql :: texts dialect n rest
  | n, .identifier name :: rest => dialect.quote name :: texts dialect n rest
  | n, .argument _ :: rest => dialect.placeholder (n + 1) :: texts dialect (n + 1) rest

/-- Values of the arguments in order. -/
def arguments : Draft → List Value
  | [] => []
  | .argument v :: rest => v :: arguments rest
  | _ :: rest => arguments rest

/-- The statement of a draft. -/
def render (dialect : Dialect) (draft : Draft) : Statement :=
  ⟨String.join (texts dialect 0 draft), arguments draft⟩

end Draft

end SqlGateway
