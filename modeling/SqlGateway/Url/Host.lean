import SqlGateway.Text.Percent
import SqlGateway.Text.Case

/-! Hosts of addresses: a name, or an IPv6 address in brackets, written with its longest run of zero
    groups left out. -/

namespace SqlGateway.Url

open Number (isDigit digitsValue)
open Text (percentEncode splitChars)

/-- Why a text is no address. -/
inductive Defect where
  | emptyHost
  | invalidPort
  | invalidIpv6
  | invalidDomainCharacter
  | relative
  deriving DecidableEq, Repr

def Defect.message : Defect → String
  | .emptyHost => "empty host"
  | .invalidPort => "invalid port number"
  | .invalidIpv6 => "invalid IPv6 address"
  | .invalidDomainCharacter => "invalid domain character"
  | .relative => "relative URL without a base"

/-- The two groups of an IPv4 address at the end of an IPv6 address. -/
def ipv4Groups? (cs : List Char) : Option (List Nat) := do
  let parts := splitChars '.' cs
  let bytes ← parts.mapM fun ds =>
    if ds.isEmpty || 3 < ds.length || !ds.all isDigit || (ds.head? == some '0' && 1 < ds.length) ||
        255 < digitsValue 0 ds then none
    else some (digitsValue 0 ds)
  match bytes with
  | [a, b, c, d] => some [256 * a + b, 256 * c + d]
  | _ => none

/-- Groups of one side of an IPv6 address; the last part may be an IPv4 address if `atEnd`. -/
def ipv6Groups? (atEnd : Bool) (cs : List Char) : Option (List Nat) :=
  if cs.isEmpty then some []
  else
    let parts := splitChars ':' cs
    let groups := parts.zipIdx.mapM fun (part, i) =>
      if atEnd && i + 1 == parts.length && part.contains '.' then ipv4Groups? part
      else if part.isEmpty || 4 < part.length then none
      else (part.foldlM (fun n c => (Json.hexValue? c).map (16 * n + ·)) 0).map fun n => [n]
    groups.map List.flatten

/-- Cut a text at its first double colon. -/
def splitDoubleColon : List Char → Option (List Char × List Char)
  | ':' :: ':' :: rest => some ([], rest)
  | c :: rest => (splitDoubleColon rest).map fun (a, b) => (c :: a, b)
  | [] => none

/-- The eight groups of an IPv6 address. -/
def readIpv6? (cs : List Char) : Option (List Nat) :=
  match splitDoubleColon cs with
  | some (left, right) => do
    let a ← ipv6Groups? false left
    let b ← ipv6Groups? true right
    if 7 < a.length + b.length then none
    else some (a ++ List.replicate (8 - a.length - b.length) 0 ++ b)
  | none => (ipv6Groups? true cs).filter fun groups => groups.length == 8

/-- Start and length of the longest run of zeros, the first of equal ones. -/
def longestZeros (groups : List Nat) : Nat × Nat :=
  let runs := (List.range groups.length).map fun i =>
    (i, ((groups.drop i).takeWhile (· == 0)).length)
  runs.foldl (fun best run => if best.2 < run.2 then run else best) (0, 0)

/-- Text of an IPv6 address. -/
def ipv6Text (groups : List Nat) : String :=
  let hex (gs : List Nat) : String :=
    ":".intercalate (gs.map fun g => String.ofList (Nat.toDigits 16 g))
  let (start, length) := longestZeros groups
  if length < 2 then hex groups
  else hex (groups.take start) ++ "::" ++ hex (groups.drop (start + length))

/-- Characters that no host contains. -/
def isForbiddenInHost (c : Char) : Bool :=
  "\x00\t\n\r #/:<>?@[\\]^|".toList.contains c

/-- Read a host: an IPv6 address in brackets or a name, which is kept but for its encoding. -/
def readHost (cs : List Char) : Except Defect String :=
  if cs.head? = some '[' then
    if cs.getLast? = some ']' ∧ 1 < cs.length then
      match readIpv6? (cs.drop 1).dropLast with
      | some groups => .ok ("[" ++ ipv6Text groups ++ "]")
      | none => .error .invalidIpv6
    else .error .invalidIpv6
  else if cs.any isForbiddenInHost then .error .invalidDomainCharacter
  else .ok (String.ofList (percentEncode (fun _ => false) cs))

end SqlGateway.Url
