/-! Letter case. Names of drivers, types and words of a literal compare without ASCII case, so
    `lower` and `upper` touch ASCII letters only. Searching a phrase of ASCII letters in a message
    of any script compares without Unicode case; two characters outside ASCII have a lower-case
    form that holds an ASCII letter (the Kelvin sign and the dotted capital I), and `fold` handles
    exactly those two besides ASCII. -/

namespace SqlGateway.Text

/-- ASCII letters in lower case, all else unchanged. -/
def lower (s : String) : String := String.ofList (s.toList.map Char.toLower)

/-- ASCII letters in upper case, all else unchanged. -/
def upper (s : String) : String := String.ofList (s.toList.map Char.toUpper)

/-- Lower-case form of a character as far as ASCII letters are concerned. -/
def foldChar (c : Char) : List Char :=
  if c.toNat = 0x212A then ['k']
  else if c.toNat = 0x130 then ['i', '\u0307']
  else [c.toLower]

/-- Lower-case form of a text as far as ASCII letters are concerned. -/
def fold (s : String) : String := String.ofList (s.toList.flatMap foldChar)

/-- Does `part` occur in `s`, as a run of characters? -/
def hasInfix (part : List Char) : List Char → Bool
  | [] => part.isEmpty
  | c :: rest => part.isPrefixOf (c :: rest) || hasInfix part rest

/-- Does the text `s` contain the text `part`? -/
def contains (s part : String) : Bool := hasInfix part.toList s.toList

end SqlGateway.Text
