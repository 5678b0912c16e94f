import SqlGateway.Text.Printable

/-! A quoted text stands between double quotes. The quote and the backslash get a backslash, tab,
    line feed, carriage return and NUL have letters, every other character that is not printable is
    written by its number, and the rest stands for itself.

        say "hi"⏎   ──quoted──▶   "say \"hi\"\n"                                                -/

namespace SqlGateway.Text

/-- Lower-case hexadecimal digits of a number, without leading zeros. -/
def hexDigits (n : Nat) : List Char := Nat.toDigits 16 n

/-- Written form of one character inside a quoted text. -/
def quotedChar (c : Char) : List Char :=
  if c = '"' then ['\\', '"']
  else if c = '\\' then ['\\', '\\']
  else if c = '\n' then ['\\', 'n']
  else if c = '\r' then ['\\', 'r']
  else if c = '\t' then ['\\', 't']
  else if c = '\x00' then ['\\', '0']
  else if isPrintable c then [c]
  else ['\\', 'u', '\x7b'] ++ hexDigits c.toNat ++ ['\x7d']

/-- The text between double quotes, with escapes. -/
def quoted (s : String) : String :=
  String.ofList (['"'] ++ s.toList.flatMap quotedChar ++ ['"'])

end SqlGateway.Text
