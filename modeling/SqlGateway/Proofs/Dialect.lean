import SqlGateway.Dialect
import SqlGateway.Engine.Lexeme

/-! Reading a quoted identifier back. A doubled quote stands for one, a single one is the end:

        text          "a""b".c       written with the quotes of PostgreSQL
        read          a"b
        left          .c

    The characters of an identifier with its quotes doubled are read as these characters whatever
    follows them, so nothing that an identifier holds ends it. A text is read as an identifier and a
    rest exactly if it is the identifier quoted, then the rest, and the rest begins with no quote.

    As bare text a quoted identifier may well be the beginning of another one, as `"a"` is of
    `"a""b"`. It is never read there: a quote comes next, and both quotes belong to what is read. -/

namespace SqlGateway.Dialect

/-- The characters up to the quote that ends them, and those after that quote. -/
def readBody? (quote : Char) : List Char → Option (List Char × List Char)
  | [] => none
  | c :: rest =>
    if c = quote then
      match rest with
      | [] => some ([], [])
      | c' :: more =>
        if c' = quote then (readBody? quote more).map fun (body, left) => (quote :: body, left)
        else some ([], rest)
    else (readBody? quote rest).map fun (body, left) => (c :: body, left)

/-- The quoted identifier at the front of a text, and what is left of the text. -/
def readQuoted? (d : Dialect) (text : String) : Option (String × String) :=
  match text.toList with
  | [] => none
  | c :: rest =>
    if c = d.quoteChar then
      (readBody? d.quoteChar rest).map fun (body, left) => (String.ofList body, String.ofList left)
    else none

/-! ### Between the quotes -/

section Body

variable {q : Char}

theorem readBody?_of_ne {c : Char} (h : c ≠ q) (rest : List Char) :
    readBody? q (c :: rest) = (readBody? q rest).map fun (body, left) => (c :: body, left) := by
  rw [readBody?.eq_def]
  exact if_neg h

theorem readBody?_doubled (q : Char) (rest : List Char) :
    readBody? q (q :: q :: rest) =
      (readBody? q rest).map fun (body, left) => (q :: body, left) := by
  simp [readBody?]

/-- A quote that no other one follows is the end. -/
theorem readBody?_end {rest : List Char} (h : rest.head? ≠ some q) :
    readBody? q (q :: rest) = some ([], rest) := by
  cases rest with
  | nil => simp [readBody?]
  | cons c rest =>
    have hc : c ≠ q := by simpa using h
    simp [readBody?, hc]

/-- Characters with their quotes doubled are read as these characters, whatever follows. -/
theorem readBody?_doubleQuotes (q : Char) (ident rest : List Char) :
    readBody? q (doubleQuotes q ident ++ rest) =
      (readBody? q rest).map fun (body, left) => (ident ++ body, left) := by
  induction ident with
  | nil => simp [doubleQuotes]
  | cons c ident ih =>
    rw [doubleQuotes]
    by_cases hc : c = q
    · rw [if_pos hc, List.cons_append, List.cons_append, readBody?_doubled, ih, Option.map_map, hc]
      rfl
    · rw [if_neg hc, List.cons_append, readBody?_of_ne hc, ih, Option.map_map]
      rfl

/-- What is read was written with its quotes doubled, and the quote after it is a single one. -/
theorem eq_of_readBody? {text body left : List Char} (h : readBody? q text = some (body, left)) :
    text = doubleQuotes q body ++ q :: left ∧ left.head? ≠ some q := by
  -- along the reading: the end of the text, a last quote, a doubled one, a single one, another sign
  fun_induction readBody? q text generalizing body with
  | case1 => simp at h
  | case2 =>
    obtain ⟨rfl, rfl⟩ := by simpa using h
    simp [doubleQuotes]
  | case3 more ih =>
    obtain ⟨⟨body', left'⟩, hr, he⟩ := Option.map_eq_some_iff.mp h
    obtain ⟨rfl, rfl⟩ := Prod.mk.inj he
    obtain ⟨rfl, hl⟩ := ih hr
    exact ⟨by simp [doubleQuotes], hl⟩
  | case4 c more hc =>
    obtain ⟨rfl, rfl⟩ := by simpa using h
    simp [doubleQuotes, hc]
  | case5 c more hc ih =>
    obtain ⟨⟨body', left'⟩, hr, he⟩ := Option.map_eq_some_iff.mp h
    obtain ⟨rfl, rfl⟩ := Prod.mk.inj he
    obtain ⟨rfl, hl⟩ := ih hr
    exact ⟨by simp [doubleQuotes, hc], hl⟩

theorem readBody?_eq_some_iff {text body left : List Char} :
    readBody? q text = some (body, left) ↔
      text = doubleQuotes q body ++ q :: left ∧ left.head? ≠ some q := by
  constructor
  · exact eq_of_readBody?
  · rintro ⟨rfl, h⟩
    rw [readBody?_doubleQuotes, readBody?_end h]
    simp

/-- What stands before a doubled quote, and one of the two quotes, belong to what is read. -/
theorem prefix_of_readBody? {ident rest body left : List Char}
    (h : readBody? q (doubleQuotes q ident ++ q :: q :: rest) = some (body, left)) :
    ident ++ [q] <+: body := by
  rw [readBody?_doubleQuotes, readBody?_doubled, Option.map_map] at h
  obtain ⟨⟨body', left'⟩, -, he⟩ := Option.map_eq_some_iff.mp h
  obtain ⟨rfl, rfl⟩ := Prod.mk.inj he
  exact ⟨body', by simp⟩

end Body

/-! ### With the quotes -/

section Quoted

variable {d : Dialect}

theorem toList_quote (d : Dialect) (ident : String) :
    (d.quote ident).toList =
      d.quoteChar :: (doubleQuotes d.quoteChar ident.toList ++ [d.quoteChar]) := by
  rw [quote, String.toList_ofList, quoteChars, List.cons_append]

/-- A text is read as an identifier and a rest exactly if it is the identifier quoted, then the rest,
    and the rest begins with no quote. -/
theorem readQuoted?_eq_some_iff {text ident rest : String} :
    d.readQuoted? text = some (ident, rest) ↔
      text = d.quote ident ++ rest ∧ rest.toList.head? ≠ some d.quoteChar := by
  have ht : text = d.quote ident ++ rest ↔ text.toList =
      d.quoteChar :: (doubleQuotes d.quoteChar ident.toList ++ d.quoteChar :: rest.toList) := by
    rw [← String.toList_inj, String.toList_append, toList_quote]
    simp
  rw [ht, readQuoted?]
  cases text.toList with
  | nil => simp
  | cons c cs =>
    by_cases hc : c = d.quoteChar
    · simp only [hc, if_true, List.cons.injEq, true_and]
      rw [← readBody?_eq_some_iff, Option.map_eq_some_iff]
      constructor
      · rintro ⟨⟨body, left⟩, hr, he⟩
        obtain ⟨rfl, rfl⟩ := Prod.mk.inj he
        simpa using hr
      · intro hr
        exact ⟨_, hr, by simp⟩
    · simp [hc]

theorem readQuoted?_quote (d : Dialect) (ident : String) {rest : String}
    (h : rest.toList.head? ≠ some d.quoteChar) :
    d.readQuoted? (d.quote ident ++ rest) = some (ident, rest) :=
  readQuoted?_eq_some_iff.mpr ⟨rfl, h⟩

theorem quote_injective (d : Dialect) : Function.Injective d.quote := by
  intro s t h
  have hr : ("" : String).toList.head? ≠ some d.quoteChar := by simp
  have hs := readQuoted?_quote d s hr
  rw [h, readQuoted?_quote d t hr] at hs
  exact (Prod.mk.inj (Option.some.inj hs)).1.symm

/-- Where a quote follows a quoted identifier, the identifier and the quote are part of what is
    read. -/
theorem prefix_of_readQuoted? {part more ident rest : String}
    (h : d.readQuoted? (d.quote part ++ more) = some (ident, rest))
    (hm : more.toList.head? = some d.quoteChar) :
    part.toList ++ [d.quoteChar] <+: ident.toList := by
  obtain ⟨cs, hcs⟩ := List.head?_eq_some_iff.mp hm
  have ht : (d.quote part ++ more).toList = d.quoteChar ::
      (doubleQuotes d.quoteChar part.toList ++ d.quoteChar :: d.quoteChar :: cs) := by
    rw [String.toList_append, toList_quote, hcs]
    simp
  rw [readQuoted?, ht] at h
  simp only [if_true, Option.map_eq_some_iff] at h
  obtain ⟨⟨body, left⟩, hr, he⟩ := h
  obtain ⟨rfl, -⟩ := Prod.mk.inj he
  simpa using prefix_of_readBody? hr

/-- Whatever an identifier holds, quoting it marks where it ends: reading gives back the identifier
    and the rest, no two identifiers are quoted alike, and where another quoted identifier stands at
    the front of the same text, a quote comes next and the identifier goes on with it, so that the
    other one is not what is read. -/
theorem quote_self_delimiting (d : Dialect) (ident rest : String)
    (h : rest.toList.head? ≠ some d.quoteChar) :
    d.readQuoted? (d.quote ident ++ rest) = some (ident, rest) ∧
    Function.Injective d.quote ∧
    ∀ part more : String, d.quote ident ++ rest = d.quote part ++ more →
      (part = ident ∧ more = rest) ∨
      (more.toList.head? = some d.quoteChar ∧
        part.toList ++ [d.quoteChar] <+: ident.toList) := by
  have hr : d.readQuoted? (d.quote ident ++ rest) = some (ident, rest) := readQuoted?_quote d ident h
  refine ⟨hr, quote_injective d, ?_⟩
  intro part more ht
  rw [ht] at hr
  by_cases hm : more.toList.head? = some d.quoteChar
  · exact Or.inr ⟨hm, prefix_of_readQuoted? hr hm⟩
  · rw [readQuoted?_quote d part hm] at hr
    exact Or.inl (Prod.mk.inj (Option.some.inj hr))

/-- Quotes at the front, in the middle and at the end. The empty identifier, quoted, stands at the
    front of the text and is not what is read. -/
theorem quote_self_delimiting_runs :
    ".c".toList.head? ≠ some (quoteChar .sqlite) ∧
    readQuoted? .sqlite "\"\"\"a\"\"\"\"b\"\"\".c" = some ("\"a\"\"b\"", ".c") ∧
    quote .sqlite "\"a\"\"b\"" ++ ".c" = quote .sqlite "" ++ "\"a\"\"\"\"b\"\"\".c" ∧
    ['"'] <+: "\"a\"\"b\"".toList := by
  have hc : ".c".toList.head? ≠ some (quoteChar .sqlite) := by decide
  have ht : quote .sqlite "\"a\"\"b\"" ++ ".c" = quote .sqlite "" ++ "\"a\"\"\"\"b\"\"\".c" := by
    decide
  have hne : ¬ (("" : String) = "\"a\"\"b\"" ∧ "\"a\"\"\"\"b\"\"\".c" = ".c") := by decide
  obtain ⟨hr, -, hp⟩ := quote_self_delimiting .sqlite "\"a\"\"b\"" ".c" hc
  obtain ⟨-, hi⟩ := (hp "" "\"a\"\"\"\"b\"\"\".c" ht).resolve_left hne
  exact ⟨hc, hr, ht, hi⟩

end Quoted

/-! ### The embedded engine

    The engine reads the names of a script by the same rule, in every one of the quotes. -/

/-- What the engine reads between quotes, with the number of characters that it was written with. -/
theorem quotedBody?_eq {q : Char} {fuel : Nat} {cs : List Char} (h : cs.length ≤ fuel) :
    Engine.Lexeme.quotedBody? q fuel cs =
      (readBody? q cs).map fun (body, _) => (body, (doubleQuotes q body).length + 1) := by
  fun_induction Engine.Lexeme.quotedBody? q fuel cs with
  | case1 => rfl
  | case2 cs hne => exact absurd (List.length_eq_zero_iff.mp (Nat.le_zero.mp h)) hne
  | case3 fuel c rest hc ih =>
    have hc : c ≠ q := by simpa using hc
    rw [ih (Nat.le_of_succ_le_succ h), readBody?_of_ne hc, Option.map_map, Option.map_map]
    simp [Function.comp_def, doubleQuotes, hc]
  | case4 fuel c hc c' rest hc' ih =>
    obtain rfl : c = q := by simpa using hc
    obtain rfl : c' = c := by simpa using hc'
    have hl : rest.length ≤ fuel := by
      simp only [List.length_cons] at h
      omega
    rw [ih hl, readBody?_doubled, Option.map_map, Option.map_map]
    simp [Function.comp_def, doubleQuotes]
  | case5 fuel c hc c' rest hc' =>
    obtain rfl : c = q := by simpa using hc
    have he : (c' :: rest).head? ≠ some c := by simpa using hc'
    simp [readBody?_end he, doubleQuotes]
  | case6 fuel c hc =>
    obtain rfl : c = q := by simpa using hc
    rw [readBody?_end (by simp)]
    rfl

/-- The quote of every dialect opens a name. -/
theorem tokenAt?_quoteChar (d : Dialect) (cs : List Char) :
    Engine.Lexeme.tokenAt? (d.quoteChar :: cs) =
      (Engine.Lexeme.quotedBody? d.quoteChar cs.length cs).map fun (body, n) =>
        (.name (String.ofList body), n + 1) := by
  cases d <;> rfl

/-- The engine takes a quoted identifier for the name that was quoted, and all of its characters. -/
theorem tokenAt?_quote (d : Dialect) (ident : String) {rest : List Char}
    (h : rest.head? ≠ some d.quoteChar) :
    Engine.Lexeme.tokenAt? ((d.quote ident).toList ++ rest) =
      some (.name ident, (d.quote ident).toList.length) := by
  have hb : readBody? d.quoteChar (doubleQuotes d.quoteChar ident.toList ++ d.quoteChar :: rest) =
      some (ident.toList, rest) := readBody?_eq_some_iff.mpr ⟨rfl, h⟩
  rw [toList_quote, List.cons_append, List.append_assoc, List.cons_append, List.nil_append,
    tokenAt?_quoteChar, quotedBody?_eq (Nat.le_refl _), hb]
  simp

end SqlGateway.Dialect
