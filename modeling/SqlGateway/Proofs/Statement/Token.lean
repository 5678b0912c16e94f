import SqlGateway.Proofs.Dialect
import SqlGateway.Statement.Draft
import Mathlib.Tactic.IntervalCases

/-! Reading a statement the way a server does. A token goes on for as long as the next character
    belongs to it; between tokens may stand blanks.

        "a""b"     identifier a"b     a doubled quote stands for one, a single one ends it
        LEFT       word
        -1         number
        <=         mark               as many operator characters as there are
        (          mark               punctuation stands alone
        $12   ?    placeholder

    Nothing else is a token: no other quote, no semicolon, no comment. What a quoted identifier says
    is read back whatever it holds, as long as no quote character follows it; and a text falls
    apart into its tokens wherever a blank or a punctuation mark stands on either side of the cut. -/

namespace SqlGateway.Statement

/-- A token of a statement. -/
inductive Token where
  | identifier (name : String)
  | word (text : String)
  | number (text : String)
  | mark (text : String)
  | placeholder (text : String)
  deriving DecidableEq, Repr

def isLetter (c : Char) : Bool := c.isAlpha || c == '_'

def isOperator (c : Char) : Bool := ['=', '!', '<', '>'].contains c

def isPunctuation (c : Char) : Bool := ['.', ',', '(', ')'].contains c

/-- No token but a quoted identifier goes on over a break. -/
def isBreak (c : Char) : Bool := c == ' ' || isPunctuation c

/-- The marks that mean something. -/
def marks : List String := [".", ",", "(", ")", "=", "!=", "<", "<=", ">", ">="]

/-- The character that a placeholder begins with. -/
def placeholderChar : Dialect → Char
  | .postgres => '$'
  | .mysql | .sqlite => '?'

/-- What is being read, with the characters read of it. -/
inductive Reading where
  | between
  /-- Inside the quotes of an identifier. -/
  | inside (name : List Char)
  /-- After a quote that ends the identifier unless another one follows. -/
  | closing (name : List Char)
  | word (text : List Char)
  | number (text : List Char)
  | mark (text : List Char)
  | placeholder (text : List Char)
  deriving DecidableEq

namespace Reading

/-- Go on with the same token. -/
def grow (d : Dialect) : Reading → Char → Option Reading
  | .between, _ => none
  | .inside name, c => some (if c = d.quoteChar then .closing name else .inside (name ++ [c]))
  | .closing name, c => if c = d.quoteChar then some (.inside (name ++ [c])) else none
  | .word text, c => if isLetter c || c.isDigit then some (.word (text ++ [c])) else none
  | .number text, c => if c.isDigit then some (.number (text ++ [c])) else none
  | .mark text, c =>
    if text.all isOperator && isOperator c then some (.mark (text ++ [c])) else none
  | .placeholder text, c => if c.isDigit then some (.placeholder (text ++ [c])) else none

/-- The token that was read, if it is one. -/
def finish : Reading → Option (List Token)
  | .between => some []
  | .inside _ => none
  | .closing name => some [.identifier (String.ofList name)]
  | .word text => some [.word (String.ofList text)]
  | .number text => if text = ['-'] then none else some [.number (String.ofList text)]
  | .mark text =>
    if marks.contains (String.ofList text) then some [.mark (String.ofList text)] else none
  | .placeholder text =>
    if text = ['$'] then none else some [.placeholder (String.ofList text)]

/-- Begin with a character. -/
def start (d : Dialect) (c : Char) : Option Reading :=
  if c = d.quoteChar then some (.inside [])
  else if c.isWhitespace then some .between
  else if isLetter c then some (.word [c])
  else if c.isDigit || c == '-' then some (.number [c])
  else if isOperator c || isPunctuation c then some (.mark [c])
  else if c = placeholderChar d then some (.placeholder [c])
  else none

end Reading

/-- The tokens of what is being read and of the characters after it. -/
def readFrom (d : Dialect) : Reading → List Char → Option (List Token)
  | r, [] => r.finish
  | r, c :: rest =>
    match r.grow d c with
    | some r' => readFrom d r' rest
    | none => do
      let ts ← r.finish
      let r' ← Reading.start d c
      return ts ++ (← readFrom d r' rest)

/-- The tokens of characters. -/
def read (d : Dialect) (cs : List Char) : Option (List Token) := readFrom d .between cs

/-- The tokens of a statement. -/
def tokens? (d : Dialect) (s : Statement) : Option (List Token) := read d s.sql.toList

/-! ### Where tokens end -/

theorem read_cons (d : Dialect) (c : Char) (rest : List Char) :
    read d (c :: rest) = (Reading.start d c).bind fun r => readFrom d r rest := by
  rw [read, readFrom, Reading.grow]
  cases Reading.start d c with
  | none => rfl
  | some r => cases h : readFrom d r rest <;> simp [Reading.finish, h]

theorem readFrom_cons_of_grow {d : Dialect} {r r' : Reading} {c : Char} {rest : List Char}
    (h : r.grow d c = some r') : readFrom d r (c :: rest) = readFrom d r' rest := by
  rw [readFrom, h]

/-- A token ends where the next character does not belong to it. -/
theorem readFrom_of_not_grow {d : Dialect} {r : Reading} {rest : List Char}
    (h : ∀ c ∈ rest.head?, r.grow d c = none) :
    readFrom d r rest = r.finish.bind fun ts => (read d rest).map (ts ++ ·) := by
  cases rest with
  | nil =>
    rw [readFrom]
    cases r.finish with
    | none => rfl
    | some ts => simp [read, readFrom, Reading.finish]
  | cons c rest =>
    rw [readFrom, h c rfl, read_cons]
    cases r.finish with
    | none => rfl
    | some ts =>
      cases Reading.start d c with
      | none => rfl
      | some r' => cases h' : readFrom d r' rest <;> simp [h']

/-- A break is a blank or a punctuation mark. -/
theorem isBreak_cases {c : Char} (h : isBreak c = true) :
    c = ' ' ∨ c = '.' ∨ c = ',' ∨ c = '(' ∨ c = ')' := by
  simpa [isBreak, isPunctuation] using h

theorem quoteChar_ne_of_isBreak (d : Dialect) {c : Char} (h : isBreak c = true) :
    c ≠ d.quoteChar := by
  rintro rfl
  revert h
  cases d <;> decide

/-- What goes on over a break is a quoted identifier, which has not ended. -/
theorem finish_of_grow_isBreak {d : Dialect} {r r' : Reading} {c : Char} (h : isBreak c = true)
    (hg : r.grow d c = some r') : r.finish = none ∧ r'.finish = none := by
  have hq := quoteChar_ne_of_isBreak d h
  have hc : isLetter c = false ∧ c.isDigit = false ∧ isOperator c = false := by
    rcases isBreak_cases h with rfl | rfl | rfl | rfl | rfl <;> decide
  cases r with
  | inside name =>
    simp only [Reading.grow, if_neg hq, Option.some.injEq] at hg
    exact ⟨rfl, hg ▸ rfl⟩
  | _ => simp [Reading.grow, hq, hc] at hg

/-- A token that may end here does end at a break. -/
theorem not_grow_of_isBreak {d : Dialect} {r : Reading} {ts : List Token} {c : Char}
    (h : isBreak c = true) (hr : r.finish = some ts) : r.grow d c = none := by
  cases hg : r.grow d c with
  | none => rfl
  | some r' => simp [(finish_of_grow_isBreak h hg).1] at hr

/-- What begins with a break does not go on. -/
theorem start_of_isBreak (d : Dialect) {c : Char} (h : isBreak c = true) :
    ∃ r, Reading.start d c = some r ∧ ∀ c', r.grow d c' = none := by
  have hq := quoteChar_ne_of_isBreak d h
  rcases isBreak_cases h with rfl | hp
  · exact ⟨.between, by simp [Reading.start, hq], fun _ => rfl⟩
  · refine ⟨.mark [c], ?_, ?_⟩
    · rw [Reading.start, if_neg hq]
      rcases hp with rfl | rfl | rfl | rfl <;> rfl
    · intro c'
      rcases hp with rfl | rfl | rfl | rfl <;> rfl

/-- A text and what follows it are read one after the other if a break ends the text or begins what
    follows. -/
theorem readFrom_append {d : Dialect} {rest cs : List Char} {r : Reading} {ts : List Token}
    (h : readFrom d r cs = some ts)
    (hs : (∃ c ∈ cs.getLast?, isBreak c = true) ∨ ∀ c ∈ rest.head?, isBreak c = true) :
    readFrom d r (cs ++ rest) = (read d rest).map (ts ++ ·) := by
  induction cs generalizing r ts with
  | nil =>
    have hf : r.finish = some ts := h
    have hb : ∀ c ∈ rest.head?, isBreak c = true := by simpa using hs
    rw [List.nil_append, readFrom_of_not_grow fun c hc => not_grow_of_isBreak (hb c hc) hf, hf,
      Option.bind_some]
  | cons c cs ih =>
    -- a text of one character may itself be the break
    have hs' : cs = [] ∧ isBreak c = true ∨
        ((∃ c ∈ cs.getLast?, isBreak c = true) ∨ ∀ c ∈ rest.head?, isBreak c = true) := by
      cases cs with
      | nil => simpa using hs
      | cons c' cs => exact Or.inr (by simpa using hs)
    rw [List.cons_append]
    cases hg : r.grow d c with
    | some r' =>
      rw [readFrom_cons_of_grow hg] at h ⊢
      rcases hs' with ⟨rfl, hc⟩ | hs'
      · have hf : r'.finish = some ts := h
        simp [(finish_of_grow_isBreak hc hg).2] at hf
      · exact ih h hs'
    | none =>
      rw [readFrom_of_not_grow (by simpa using hg), read_cons] at h ⊢
      simp only [Option.bind_eq_some_iff, Option.map_eq_some_iff] at h
      obtain ⟨done, hf, us, ⟨r', hr', hu⟩, rfl⟩ := h
      have hu' : readFrom d r' (cs ++ rest) = (read d rest).map (us ++ ·) := by
        rcases hs' with ⟨rfl, hc⟩ | hs'
        · obtain ⟨r'', hr'', hn⟩ := start_of_isBreak d hc
          obtain rfl : r'' = r' := Option.some.inj (hr''.symm.trans hr')
          have hf' : r''.finish = some us := hu
          rw [List.nil_append, readFrom_of_not_grow fun c' _ => hn c', hf', Option.bind_some]
        · exact ih hu hs'
      rw [hf, hr', Option.bind_some, Option.bind_some, hu', Option.map_map]
      simp [Function.comp_def]

/-! ### Quoted identifiers and placeholders -/

/-- Inside the quotes of an identifier the reading goes on up to the quote that ends it. -/
theorem readFrom_inside (d : Dialect) (name cs : List Char) :
    readFrom d (.inside name) cs = (Dialect.readBody? d.quoteChar cs).bind fun (body, left) =>
      (read d left).map (.identifier (String.ofList (name ++ body)) :: ·) := by
  have hq (name : List Char) : (Reading.inside name).grow d d.quoteChar = some (.closing name) := by
    simp [Reading.grow]
  fun_induction Dialect.readBody? d.quoteChar cs generalizing name with
  | case1 => rfl
  | case2 =>
    rw [readFrom_cons_of_grow (hq name)]
    simp [readFrom, read, Reading.finish]
  | case3 more ih =>
    have hd : (Reading.closing name).grow d d.quoteChar =
        some (.inside (name ++ [d.quoteChar])) := by
      simp [Reading.grow]
    rw [readFrom_cons_of_grow (hq name), readFrom_cons_of_grow hd, ih]
    cases Dialect.readBody? d.quoteChar more <;> simp
  | case4 c more hc =>
    have hn : ∀ c' ∈ (c :: more).head?, (Reading.closing name).grow d c' = none := by
      simp [Reading.grow, hc]
    rw [readFrom_cons_of_grow (hq name), readFrom_of_not_grow hn]
    simp [Reading.finish]
  | case5 c more hc ih =>
    have hg : (Reading.inside name).grow d c = some (.inside (name ++ [c])) := by
      simp [Reading.grow, hc]
    rw [readFrom_cons_of_grow hg, ih]
    cases Dialect.readBody? d.quoteChar more <;> simp

/-- A quoted identifier reads as what was quoted, whatever it holds, if no quote character follows. -/
theorem read_quote (d : Dialect) (ident : String) {rest : List Char}
    (h : ∀ c ∈ rest.head?, c ≠ d.quoteChar) :
    read d ((d.quote ident).toList ++ rest) = (read d rest).map (.identifier ident :: ·) := by
  have hr : rest.head? ≠ some d.quoteChar := fun hc => h d.quoteChar hc rfl
  have hb : Dialect.readBody? d.quoteChar
      (Dialect.doubleQuotes d.quoteChar ident.toList ++ d.quoteChar :: rest) =
        some (ident.toList, rest) := Dialect.readBody?_eq_some_iff.mpr ⟨rfl, hr⟩
  have hs : Reading.start d d.quoteChar = some (.inside []) := by
    simp [Reading.start]
  rw [Dialect.toList_quote, List.cons_append, List.append_assoc, List.cons_append, List.nil_append,
    read_cons, hs, Option.bind_some, readFrom_inside, hb]
  simp

/-- A token that goes on over digits takes all of them. -/
theorem readFrom_digits {d : Dialect} {token : List Char → Reading}
    (ht : ∀ text c, c.isDigit = true → (token text).grow d c = some (token (text ++ [c])))
    {digits : List Char} (h : ∀ c ∈ digits, c.isDigit = true) (text rest : List Char) :
    readFrom d (token text) (digits ++ rest) = readFrom d (token (text ++ digits)) rest := by
  induction digits generalizing text with
  | nil => simp
  | cons c digits ih =>
    obtain ⟨hc, hd⟩ := List.forall_mem_cons.mp h
    rw [List.cons_append, readFrom_cons_of_grow (ht text c hc), ih hd,
      List.append_cons text c digits]

/-- A placeholder reads as itself up to the next break. -/
theorem read_placeholder (d : Dialect) (k : Nat) {rest : List Char}
    (h : ∀ c ∈ rest.head?, isBreak c = true) :
    read d ((d.placeholder k).toList ++ rest) =
      (read d rest).map (.placeholder (d.placeholder k) :: ·) := by
  obtain ⟨digits, hd, ht⟩ : ∃ digits : List Char, (∀ c ∈ digits, c.isDigit = true) ∧
      (d.placeholder k).toList = placeholderChar d :: digits ∧
      (Reading.placeholder (placeholderChar d :: digits)).finish =
        some [.placeholder (d.placeholder k)] := by
    cases d with
    | postgres =>
      refine ⟨Nat.toDigits 10 k, fun c => Nat.isDigit_of_mem_toDigits (by decide) (by decide), ?_, ?_⟩
      · simp [Dialect.placeholder, Number.natText, placeholderChar]
      · have hk : Nat.toDigits 10 k ≠ [] := Nat.toDigits_ne_nil
        simp [Reading.finish, hk, Dialect.placeholder, Number.natText, placeholderChar,
          String.ofList_cons]
    | _ => exact ⟨[], by simp, by simp [Dialect.placeholder, placeholderChar], rfl⟩
  have hs : Reading.start d (placeholderChar d) = some (.placeholder [placeholderChar d]) := by
    cases d <;> rfl
  have hr : readFrom d (.placeholder [placeholderChar d]) (digits ++ rest) =
      readFrom d (.placeholder (placeholderChar d :: digits)) rest :=
    readFrom_digits (fun text c hc => by simp [Reading.grow, hc]) hd [placeholderChar d] rest
  have he : ∀ c ∈ rest.head?,
      (Reading.placeholder (placeholderChar d :: digits)).grow d c = none := by
    intro c hc
    exact not_grow_of_isBreak (h c hc) ht.2
  rw [ht.1, List.cons_append, read_cons, hs, Option.bind_some, hr, readFrom_of_not_grow he, ht.2]
  simp

theorem start_of_isDigit (d : Dialect) {c : Char} (h : c.isDigit = true) :
    Reading.start d c = some (.number [c]) := by
  obtain ⟨hl, hu⟩ := Char.isDigit_iff_toNat.mp h
  have hl : 48 ≤ c.toNat := hl
  have hu : c.toNat ≤ 57 := hu
  rw [← Char.ofNat_toNat c]
  interval_cases c.toNat <;> cases d <;> rfl

/-- Decimal digits read as a number. -/
theorem read_natText (d : Dialect) (n : Nat) :
    read d (Number.natText n).toList = some [.number (Number.natText n)] := by
  have hd : ∀ c ∈ Nat.toDigits 10 n, c.isDigit = true :=
    fun c => Nat.isDigit_of_mem_toDigits (by decide) (by decide)
  rw [Number.natText, String.toList_ofList]
  cases hn : Nat.toDigits 10 n with
  | nil => exact absurd hn Nat.toDigits_ne_nil
  | cons c digits =>
    have hc : c.isDigit = true := hd c (by simp [hn])
    have hr : readFrom d (.number [c]) (digits ++ []) = readFrom d (.number (c :: digits)) [] :=
      readFrom_digits (fun text c hc => by simp [Reading.grow, hc])
        (fun c hc => hd c (by simp [hn, hc])) [c] []
    have hm : c :: digits ≠ ['-'] := by
      intro h
      rw [(List.cons.inj h).1] at hc
      exact absurd hc (by decide)
    rw [read_cons, start_of_isDigit d hc, Option.bind_some, ← List.append_nil digits, hr, readFrom,
      Reading.finish, if_neg hm, List.append_nil]

end SqlGateway.Statement
