import SqlGateway.Json.Source

/-! Texts of byte strings. Hexadecimal writes two digits a byte; base 64 writes four characters for
    three bytes and fills the last group with `=`. The bytes of a text are its UTF-8 encoding, and a
    byte string is a text only if it is one. -/

namespace SqlGateway.Text

/-- Bytes of a text. -/
def utf8 (s : String) : List UInt8 := s.toList.flatMap String.utf8EncodeChar

/-- The text that the bytes encode, if they are UTF-8. -/
def ofUtf8? (bytes : List UInt8) : Option String := String.fromUTF8? bytes.toByteArray

/-- Two hexadecimal digits of a byte. -/
def hexByte (b : UInt8) : List Char := [Json.hexDigit (b.toNat / 16), Json.hexDigit (b.toNat % 16)]

/-- Lower-case hexadecimal text of bytes. -/
def hex (bytes : List UInt8) : String := String.ofList (bytes.flatMap hexByte)

/-- Bytes of pairs of hexadecimal digits. -/
def ofHexChars? : List Char → Option (List UInt8)
  | [] => some []
  | a :: b :: rest => do
    let n := (← Json.hexValue? a) * 16 + (← Json.hexValue? b)
    return n.toUInt8 :: (← ofHexChars? rest)
  | [_] => none

/-- Bytes of a hexadecimal text. -/
def ofHex? (s : String) : Option (List UInt8) := ofHexChars? s.toList

/-- The 64 digits. -/
def base64Digit (n : Nat) : Char :=
  if n < 26 then Char.ofNat (65 + n)
  else if n < 52 then Char.ofNat (71 + n)
  else if n < 62 then Char.ofNat (n - 4)
  else if n = 62 then '+' else '/'

/-- Base 64 characters of bytes, filled up to a multiple of four. -/
def base64Chars : List UInt8 → List Char
  | [] => []
  | [a] =>
    let n := a.toNat * 65536
    [base64Digit (n / 262144), base64Digit (n / 4096 % 64), '=', '=']
  | [a, b] =>
    let n := a.toNat * 65536 + b.toNat * 256
    [base64Digit (n / 262144), base64Digit (n / 4096 % 64), base64Digit (n / 64 % 64), '=']
  | a :: b :: c :: rest =>
    let n := a.toNat * 65536 + b.toNat * 256 + c.toNat
    base64Digit (n / 262144) :: base64Digit (n / 4096 % 64) :: base64Digit (n / 64 % 64) ::
      base64Digit (n % 64) :: base64Chars rest

/-- Base 64 text of bytes. -/
def base64 (bytes : List UInt8) : String := String.ofList (base64Chars bytes)

/-- Big-endian bytes of a number modulo `256 ^ width`. -/
def bigEndian : Nat → Int → List UInt8
  | 0, _ => []
  | width + 1, n => bigEndian width (n / 256) ++ [(n % 256).toNat.toUInt8]

/-- Little-endian bytes of a number modulo `256 ^ width`. -/
def littleEndian : Nat → Int → List UInt8
  | 0, _ => []
  | width + 1, n => (n % 256).toNat.toUInt8 :: littleEndian width (n / 256)

/-- Number of big-endian bytes. -/
def natOfBytes (bytes : List UInt8) : Nat := bytes.foldl (fun n b => 256 * n + b.toNat) 0

/-- Signed number of big-endian bytes in two's complement. -/
def intOfBytes (bytes : List UInt8) : Int :=
  let n := natOfBytes bytes
  if 2 * n < Nat.pow 256 bytes.length then n else (n : Int) - Nat.pow 256 bytes.length

end SqlGateway.Text
