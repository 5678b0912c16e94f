import SqlGateway.Json.Source

/-! Decoders from JSON texts to values of the library.

    A decoder looks at a tree and either gives a value or the first defect it meets: the text is
    malformed there, or it is JSON of the wrong kind. `depth` counts the arrays and objects that may
    still be opened; it decreases at each one, except under a field that nobody reads.

    A record is read from an object, or from an array of its fields in order. `Slot`s describe its
    fields over a record under construction: unknown fields are skipped, a field given twice is a
    mismatch, and `finish` decides what may be missing. -/

namespace SqlGateway.Json

open Number (Double)

/-- Why a text has no value of the wanted kind. -/
inductive Defect where
  | malformed
  | mismatch
  deriving DecidableEq, Repr

/-- Reads a value, given how many containers may still be opened. -/
abbrev Decoder (α : Type) := Nat → Source → Except Defect α

/-- Containers that a text may nest. -/
def depthLimit : Nat := 127

mutual

/-- Is the text of a skipped value well formed? Its numbers, halves of surrogates and nesting do not
    matter. -/
def Source.isSkippable : Source → Bool
  | .broken => false
  | .array items => itemsSkippable items
  | .object fields => fieldsSkippable fields
  | _ => true

def itemsSkippable : List Source → Bool
  | [] => true
  | item :: rest => item.isSkippable && itemsSkippable rest

def fieldsSkippable : List SourceField → Bool
  | [] => true
  | .broken :: _ => false
  | .field _ value :: rest => value.isSkippable && fieldsSkippable rest

end

/-- The defect of a value that is not of the wanted kind. A scalar is read to its end before it is
    turned down, a container is turned down at once. -/
def unexpected : Source → Defect
  | .broken => .malformed
  | .number l => if l.value?.isNone then .malformed else .mismatch
  | .string none => .malformed
  | _ => .mismatch

/-- A decoder that fails by a mismatch if the value read does not pass. -/
def Decoder.filterMap {α β : Type} (d : Decoder α) (f : α → Option β) : Decoder β :=
  fun depth s => do
  match f (← d depth s) with
  | some b => return b
  | none => throw .mismatch

def Decoder.map {α β : Type} (d : Decoder α) (f : α → β) : Decoder β := fun depth s => do
  return f (← d depth s)

/-- A string. -/
def string : Decoder String
  | _, .string (some s) => .ok s
  | _, s => .error (unexpected s)

/-- A truth value. -/
def boolean : Decoder Bool
  | _, .bool b => .ok b
  | _, s => .error (unexpected s)

/-- An integer of up to 64 bits. -/
def integer : Decoder Int
  | _, .number l =>
    match l.value? with
    | some (.int i) => .ok i
    | some (.float _) => .error .mismatch
    | none => .error .malformed
  | _, s => .error (unexpected s)

/-- An unsigned integer of `bits` bits. -/
def natural (bits : Nat) : Decoder Nat :=
  integer.filterMap fun i => if 0 ≤ i ∧ i < Nat.pow 2 bits then some i.toNat else none

/-- A value or `null`. -/
def optional {α : Type} (d : Decoder α) : Decoder (Option α)
  | _, .null => .ok none
  | depth, s => (d depth s).map some

/-- Items of an array in order. -/
def items {α : Type} (d : Source → Except Defect α) : List Source → Except Defect (List α)
  | [] => .ok []
  | s :: rest => do
    let x ← d s
    return x :: (← items d rest)

/-- An array. -/
def list {α : Type} (d : Decoder α) : Decoder (List α)
  | 0, .array _ => .error .malformed
  | depth + 1, .array xs => items (d depth) xs
  | _, s => .error (unexpected s)

/-- One of a set of names: a string, or an object whose only field has the name and is `null`. -/
def name {α : Type} (names : List (String × α)) : Decoder α
  | _, .string (some s) => find s
  | 0, .object _ => .error .malformed
  | _ + 1, .object (.field (some s) value :: rest) => do
    let x ← find s
    match value with
    | .null => if rest.isEmpty then return x else throw .malformed
    | other => throw (unexpected other)
  | _, _ => .error .malformed
where
  /-- The value of a name. -/
  find (s : String) : Except Defect α :=
    match names.lookup s with
    | some x => .ok x
    | none => .error .mismatch

/-- A field of a record under construction. -/
structure Slot (σ : Type) where
  key : String
  /-- May an array end before it? -/
  hasDefault : Bool
  isFilled : σ → Bool
  fill : σ → Decoder σ

/-- Fields of an object, in order. -/
def fillFields {σ : Type} (slots : List (Slot σ)) (depth : Nat) :
    σ → List SourceField → Except Defect σ
  | acc, [] => .ok acc
  | _, .broken :: _ => .error .malformed
  | _, .field none _ :: _ => .error .malformed
  | acc, .field (some key) value :: rest =>
    match slots.find? (·.key == key) with
    | none => if value.isSkippable then fillFields slots depth acc rest else .error .malformed
    | some slot =>
      if slot.isFilled acc then .error .mismatch
      else
        match slot.fill acc depth value with
        | .ok next => fillFields slots depth next rest
        | .error e => .error e

/-- Items of an array, each the field at its position. -/
def fillItems {σ : Type} (depth : Nat) : List (Slot σ) → σ → List Source → Except Defect σ
  | [], acc, [] => .ok acc
  | [], _, _ :: _ => .error .malformed
  | slot :: rest, acc, [] =>
    if slot.hasDefault then fillItems depth rest acc [] else .error .mismatch
  | slot :: rest, acc, value :: more =>
    match value with
    | .broken => .error .malformed
    | _ =>
      match slot.fill acc depth value with
      | .ok next => fillItems depth rest next more
      | .error e => .error e

/-- A record. -/
def record {σ α : Type} (slots : List (Slot σ)) (empty : σ) (finish : σ → Option α) : Decoder α
  | 0, .array _ => .error .malformed
  | 0, .object _ => .error .malformed
  | depth + 1, .array xs => (fillItems depth slots empty xs).bind done
  | depth + 1, .object fields => (fillFields slots depth empty fields).bind done
  | _, s => .error (unexpected s)
where
  /-- The record, if nothing required is missing. -/
  done (acc : σ) : Except Defect α :=
    match finish acc with
    | some x => .ok x
    | none => .error .mismatch

mutual

/-- Any value, with the fields of objects sorted and the last of equal keys kept. -/
def value : Nat → Source → Except Defect Json
  | _, .broken => .error .malformed
  | _, .null => .ok .null
  | _, .bool b => .ok (.bool b)
  | _, .number l =>
    match l.value? with
    | some (.int i) => .ok (.int i)
    | some (.float x) => .ok (.float x)
    | none => .error .malformed
  | _, .string (some s) => .ok (.str s)
  | _, .string none => .error .malformed
  | depth, .array xs => if depth = 0 then .error .malformed else (values (depth - 1) xs).map .arr
  | depth, .object fields =>
    if depth = 0 then .error .malformed else (members (depth - 1) [] fields).map .obj

/-- Any values. -/
def values : Nat → List Source → Except Defect (List Json)
  | _, [] => .ok []
  | depth, x :: rest =>
    match value depth x with
    | .error e => .error e
    | .ok j => (values depth rest).map (j :: ·)

/-- Any fields, put into sorted ones. -/
def members : Nat → List (String × Json) → List SourceField → Except Defect (List (String × Json))
  | _, acc, [] => .ok acc
  | _, _, .broken :: _ => .error .malformed
  | _, _, .field none _ :: _ => .error .malformed
  | depth, acc, .field (some key) x :: rest =>
    match value depth x with
    | .error e => .error e
    | .ok j => members depth (insertSorted key j acc) rest

end

/-- Decode a whole text; nothing but blanks may follow the value. -/
def decode {α : Type} (d : Decoder α) (s : String) : Except Defect α :=
  let document := Document.ofText s
  match d depthLimit document.root with
  | .error e => .error e
  | .ok x => if document.hasTrailing then .error .malformed else .ok x

/-- The value of a text that is JSON. -/
def ofText? (s : String) : Option Json := (decode value s).toOption

end SqlGateway.Json
