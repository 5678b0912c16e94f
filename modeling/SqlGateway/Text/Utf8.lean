import SqlGateway.Text.Bytes

/-! Bytes that should be UTF-8. A character takes one to four bytes; its first byte says how many
    and bounds the second, so that no character has two spellings and no surrogate has one. Reading
    goes on after a broken character: the bytes that could have begun one are given up together.

        C3 A9 | FF | E2 82   ▶   é, one byte broken, the end inside a character               -/

namespace SqlGateway.Text

/-- What bytes begin with. -/
inductive Utf8Run where
  /-- A character of `n` bytes. -/
  | whole (n : Nat)
  /-- `n` bytes that begin no character. -/
  | broken (n : Nat)
  /-- The bytes end inside a character. -/
  | cut
  deriving DecidableEq, Repr

/-- Least and greatest second byte after a first byte, and how many bytes follow them. -/
def secondByte? (lead : UInt8) : Option (UInt8 × UInt8 × Nat) :=
  if lead < 0xC2 then none
  else if lead < 0xE0 then some (0x80, 0xBF, 0)
  else if lead = 0xE0 then some (0xA0, 0xBF, 1)
  else if lead = 0xED then some (0x80, 0x9F, 1)
  else if lead < 0xF0 then some (0x80, 0xBF, 1)
  else if lead = 0xF0 then some (0x90, 0xBF, 2)
  else if lead < 0xF4 then some (0x80, 0xBF, 2)
  else if lead = 0xF4 then some (0x80, 0x8F, 2)
  else none

/-- What `lead` and the bytes after it begin with. -/
def utf8Run (lead : UInt8) (rest : List UInt8) : Utf8Run :=
  if lead < 0x80 then .whole 1
  else match secondByte? lead, rest with
    | none, _ => .broken 1
    | some _, [] => .cut
    | some (low, high, more), b :: rest =>
      if b < low ∨ high < b then .broken 1
      else
        let good := ((rest.take more).takeWhile fun c => 0x80 ≤ c && c ≤ 0xBF).length
        if good = more then .whole (2 + more)
        else if good = rest.length then .cut
        else .broken (2 + good)

/-- The characters that the bytes encode, with the replacement character for what is broken. -/
def utf8LossyChars : List UInt8 → List Char
  | [] => []
  | lead :: rest =>
    match utf8Run lead rest with
    | .whole n =>
      ((ofUtf8? (lead :: rest.take (n - 1))).getD "").toList ++ utf8LossyChars (rest.drop (n - 1))
    | .broken n => '\ufffd' :: utf8LossyChars (rest.drop (n - 1))
    | .cut => ['\ufffd']
termination_by bytes => bytes.length
decreasing_by all_goals (simp only [List.length_drop, List.length_cons]; omega)

/-- Decode bytes with the replacement character for what is broken. -/
def utf8Lossy (bytes : List UInt8) : String := String.ofList (utf8LossyChars bytes)

/-- Where the bytes after the first `index` stop being UTF-8. -/
def utf8Defect? (index : Nat) : List UInt8 → Option String
  | [] => none
  | lead :: rest =>
    match utf8Run lead rest with
    | .whole n => utf8Defect? (index + n) (rest.drop (n - 1))
    | .broken n => some s!"invalid utf-8 sequence of {n} bytes from index {index}"
    | .cut => some s!"incomplete utf-8 byte sequence from index {index}"
termination_by bytes => bytes.length
decreasing_by simp only [List.length_drop, List.length_cons]; omega

end SqlGateway.Text
