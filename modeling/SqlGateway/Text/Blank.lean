/-! Blank characters are those with the Unicode White_Space property: the ASCII controls tab to
    carriage return, space, next line, no-break space, the ogham mark, the general punctuation
    spaces, both separators and the ideographic space. `trim` cuts them from both ends of a text
    and leaves the middle alone.

        "\t 42\u3000"  ──trim──▶  "42"                                                            -/

namespace SqlGateway.Text

/-- White_Space membership. -/
def isBlank (c : Char) : Bool :=
  let n := c.toNat
  (9 ≤ n && n ≤ 13) || n == 32 || n == 0x85 || n == 0xA0 || n == 0x1680 ||
    (0x2000 ≤ n && n ≤ 0x200A) || n == 0x2028 || n == 0x2029 || n == 0x202F || n == 0x205F ||
    n == 0x3000

/-- Drop the blanks at both ends of a character list. -/
def trimChars (cs : List Char) : List Char :=
  ((cs.dropWhile isBlank).reverse.dropWhile isBlank).reverse

/-- Drop the blanks at both ends of a text. -/
def trim (s : String) : String := String.ofList (trimChars s.toList)

end SqlGateway.Text
