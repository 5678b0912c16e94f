import SqlGateway.Proofs.Statement.Token
import SqlGateway.Query.Basic
import Mathlib.Data.List.Chain

/-! Drafts read fragment by fragment. Every draft here is made of phrases that no caller can change,
    of integers, of identifiers and of arguments, and between any two fragments there is a break on
    one side of the seam:

        … " WHERE "│identifier c│" = "│argument v│" AND "│ …

    Then the text of the draft reads as the tokens of its fragments, one after the other: an
    identifier as itself, an argument as the placeholder of its number, and what caller text holds
    has no part in how the rest is read. -/

namespace SqlGateway

open Statement

namespace Statement.Token

def identifier? : Token → Option String
  | .identifier name => some name
  | _ => none

def placeholder? : Token → Option String
  | .placeholder text => some text
  | _ => none

/-- The token without the name that an identifier has. -/
def erase : Token → Token
  | .identifier _ => .identifier ""
  | t => t

end Statement.Token

/-- Every word of a statement. -/
def keywords : List String :=
  ["SELECT", "FROM", "LEFT", "RIGHT", "JOIN", "ON", "WHERE", "AND", "IS", "NULL", "GROUP", "ORDER",
    "BY", "DESC", "LIMIT", "OFFSET", "INSERT", "INTO", "VALUES", "UPDATE", "SET", "DELETE"] ++
    [Aggregate.count, .sum, .avg, .min, .max].map Aggregate.name

/-- Tokens of fixed text: the words and the marks. -/
def isFixedToken : Token → Bool
  | .word text => keywords.contains text
  | .mark text => marks.contains text
  | _ => false

/-- Every text of a draft but the integers. -/
def phrases : List String :=
  ["SELECT ", " FROM ", " ", ".", ", ", "(", ")", " ON ", " AND ", " WHERE ", " = ", " IS NULL",
    " GROUP BY ", " ORDER BY ", " DESC", " LIMIT ", " OFFSET ", "INSERT INTO ", " (", ",",
    ") VALUES (", "UPDATE ", " SET ", "DELETE FROM "] ++
    [JoinKind.inner, .left, .right].map JoinKind.keyword ++
    [Comparison.eq, .ne, .lt, .le, .gt, .ge].map Comparison.symbol ++
    [Aggregate.count, .sum, .avg, .min, .max].map Aggregate.name

/-- A text of decimal digits, or the limit below all limits. -/
def IsInteger (s : String) : Prop := s = "-1" ∨ ∃ n, s = Number.natText n

/-- A token of the fixed vocabulary or one of the given integers. -/
def IsPlain (integers : List String) (t : Token) : Prop :=
  isFixedToken t = true ∨ ∃ s ∈ integers, t = .number s

namespace IsPlain

variable {integers : List String} {t : Token}

theorem identifier?_eq (h : IsPlain integers t) : t.identifier? = none := by
  rcases h with h | ⟨s, -, rfl⟩
  · cases t <;> first | rfl | simp [isFixedToken] at h
  · rfl

theorem placeholder?_eq (h : IsPlain integers t) : t.placeholder? = none := by
  rcases h with h | ⟨s, -, rfl⟩
  · cases t <;> first | rfl | simp [isFixedToken] at h
  · rfl

theorem erase_eq (h : IsPlain integers t) : t.erase = t := by
  rcases h with h | ⟨s, -, rfl⟩
  · cases t <;> first | rfl | simp [isFixedToken] at h
  · rfl

end IsPlain

theorem read_phrase (d : Dialect) {s : String} (h : s ∈ phrases) :
    ∃ ts, read d s.toList = some ts ∧ ∀ t ∈ ts, isFixedToken t = true := by
  have hp : ∀ d : Dialect, ∀ s ∈ phrases,
      (read d s.toList).any fun ts => ts.all isFixedToken := by
    intro d
    cases d <;> decide
  simpa [Option.any_eq_true] using hp d s h

theorem read_integer (d : Dialect) {s : String} (h : IsInteger s) :
    read d s.toList = some [.number s] := by
  rcases h with rfl | ⟨n, rfl⟩
  · cases d <;> decide
  · exact read_natText d n

/-- A phrase or an integer reads as plain tokens. -/
theorem read_plain (d : Dialect) {integers : List String} (hi : ∀ s ∈ integers, IsInteger s)
    {sql : String} (h : sql ∈ phrases ∨ sql ∈ integers) :
    ∃ ts, read d sql.toList = some ts ∧ ∀ t ∈ ts, IsPlain integers t := by
  rcases h with h | h
  · obtain ⟨ts, ht, hf⟩ := read_phrase d h
    exact ⟨ts, ht, fun t ht => Or.inl (hf t ht)⟩
  · refine ⟨_, read_integer d (hi sql h), fun t ht => Or.inr ⟨sql, h, ?_⟩⟩
    simpa using ht

namespace Fragment

/-- Does the fragment begin with a break? -/
def opens : Fragment → Bool
  | .text sql => sql.toList.head?.any isBreak
  | _ => false

/-- Does the fragment end with a break? -/
def closes : Fragment → Bool
  | .text sql => sql.toList.getLast?.any isBreak
  | _ => false

/-- Two fragments between which a token ends. -/
def Seam (f g : Fragment) : Prop := f.closes = true ∨ g.opens = true

def identifier? : Fragment → Option String
  | .identifier name => some name
  | _ => none

def argument? : Fragment → Option Value
  | .argument v => some v
  | _ => none

/-- The fragment without the name that an identifier has. -/
def erase : Fragment → Fragment
  | .identifier _ => .identifier ""
  | f => f

end Fragment

namespace Draft

/-- Tokens of fragments, given how many arguments stand before them. -/
def tokens (d : Dialect) : Nat → Draft → List Token
  | _, [] => []
  | n, .text sql :: rest => (read d sql.toList).getD [] ++ tokens d n rest
  | n, .identifier name :: rest => .identifier name :: tokens d n rest
  | n, .argument _ :: rest => .placeholder (d.placeholder (n + 1)) :: tokens d (n + 1) rest

/-- Names of the identifiers in order. -/
def identifiers (draft : Draft) : List String := draft.filterMap Fragment.identifier?

/-- A draft of phrases and the given integers, with a break at every seam. -/
structure Sound (integers : List String) (draft : Draft) : Prop where
  fixed : ∀ sql, .text sql ∈ draft → sql ∈ phrases ∨ sql ∈ integers
  seams : draft.IsChain Fragment.Seam

/-- Characters of the text of a draft. -/
def chars (d : Dialect) (n : Nat) (draft : Draft) : List Char :=
  (texts d n draft).flatMap String.toList

variable {d : Dialect} {integers : List String}

theorem toList_render (d : Dialect) (draft : Draft) :
    (render d draft).sql.toList = chars d 0 draft := by
  rw [render, String.toList_join, chars]

/-- After a fragment that does not end with a break, the rest begins with one. -/
theorem isBreak_head_chars {f : Fragment} {rest : Draft} (n : Nat)
    (h : List.IsChain Fragment.Seam (f :: rest)) (hf : f.closes = false) :
    ∀ c ∈ (chars d n rest).head?, isBreak c = true := by
  cases rest with
  | nil => simp [chars, texts]
  | cons g rest =>
    obtain hc | hg := (List.isChain_cons_cons.mp h).1
    · simp [hf] at hc
    · cases g with
      | text sql =>
        obtain ⟨c, hc, hb⟩ : ∃ c, sql.toList.head? = some c ∧ isBreak c = true := by
          simpa [Fragment.opens, Option.any_eq_true] using hg
        intro c' hc'
        rw [chars, texts, List.flatMap_cons, List.head?_append_of_ne_nil] at hc'
        · rw [hc] at hc'
          exact Option.some.inj hc' ▸ hb
        · rintro h
          simp [h] at hc
      | _ => simp [Fragment.opens] at hg

theorem Sound.of_cons {f : Fragment} {rest : Draft} (h : Sound integers (f :: rest)) :
    Sound integers rest :=
  ⟨fun sql hs => h.fixed sql (List.mem_cons_of_mem _ hs), h.seams.tail⟩

/-- A sound draft reads as the tokens of its fragments. -/
theorem read_chars (hi : ∀ s ∈ integers, IsInteger s) {draft : Draft} (n : Nat)
    (h : Sound integers draft) : read d (chars d n draft) = some (tokens d n draft) := by
  induction draft generalizing n with
  | nil => rfl
  | cons f rest ih =>
    have hrest := h.of_cons
    have hb : ∀ n, f.closes = false → ∀ c ∈ (chars d n rest).head?, isBreak c = true := by
      intro n
      exact isBreak_head_chars n h.seams
    cases f with
    | text sql =>
      obtain ⟨ts, ht, -⟩ := read_plain d hi (h.fixed sql List.mem_cons_self)
      have hs : (∃ c ∈ sql.toList.getLast?, isBreak c = true) ∨
          ∀ c ∈ (chars d n rest).head?, isBreak c = true := by
        cases hc : Fragment.closes (.text sql) with
        | true => exact Or.inl (by simpa [Fragment.closes, Option.any_eq_true] using hc)
        | false => exact Or.inr (hb n hc)
      calc read d (sql.toList ++ chars d n rest)
          = (read d (chars d n rest)).map (ts ++ ·) := readFrom_append ht hs
        _ = some (tokens d n (.text sql :: rest)) := by rw [ih n hrest, tokens, ht]; rfl
    | identifier name =>
      have hq : ∀ c ∈ (chars d n rest).head?, c ≠ d.quoteChar := by
        intro c hc
        exact quoteChar_ne_of_isBreak d (hb n rfl c hc)
      calc read d ((d.quote name).toList ++ chars d n rest)
          = (read d (chars d n rest)).map (.identifier name :: ·) := read_quote d name hq
        _ = some (tokens d n (.identifier name :: rest)) := by rw [ih n hrest, tokens]; rfl
    | argument v =>
      -- the argument takes a number, so the rest is read with one more before it
      calc read d ((d.placeholder (n + 1)).toList ++ chars d (n + 1) rest)
          = (read d (chars d (n + 1) rest)).map (.placeholder (d.placeholder (n + 1)) :: ·) :=
            read_placeholder d (n + 1) (hb (n + 1) rfl)
        _ = some (tokens d n (.argument v :: rest)) := by rw [ih (n + 1) hrest, tokens]; rfl

/-! ### What the tokens of a sound draft are -/

/-- The tokens that do not come from texts. -/
def outline (d : Dialect) : Nat → Draft → List Token
  | _, [] => []
  | n, .text _ :: rest => outline d n rest
  | n, .identifier name :: rest => .identifier name :: outline d n rest
  | n, .argument _ :: rest => .placeholder (d.placeholder (n + 1)) :: outline d (n + 1) rest

theorem filterMap_identifier?_outline : ∀ (n : Nat) (draft : Draft),
    (outline d n draft).filterMap Token.identifier? = identifiers draft
  | _, [] => rfl
  | n, .text _ :: rest => filterMap_identifier?_outline n rest
  | n, .identifier name :: rest => congrArg (name :: ·) (filterMap_identifier?_outline n rest)
  | n, .argument _ :: rest => filterMap_identifier?_outline (n + 1) rest

/-- Placeholders are numbered in the order of the text, one for each argument. -/
theorem filterMap_placeholder?_outline (n : Nat) (draft : Draft) :
    (outline d n draft).filterMap Token.placeholder? =
      (List.range' (n + 1) (arguments draft).length).map d.placeholder := by
  induction draft generalizing n with
  | nil => rfl
  | cons f rest ih =>
    cases f with
    | text sql => exact ih n
    | identifier name => exact ih n
    | argument v =>
      rw [arguments, List.length_cons, List.range'_succ, List.map_cons, ← ih (n + 1)]
      rfl

theorem mem_outline {t : Token} {n : Nat} {draft : Draft} (h : t ∈ outline d n draft) :
    (∃ name, t = .identifier name) ∨ ∃ k, t = .placeholder (d.placeholder k) := by
  induction draft generalizing n with
  | nil => simp [outline] at h
  | cons f rest ih =>
    cases f with
    | text sql => exact ih h
    | identifier name =>
      rcases List.mem_cons.mp h with rfl | h
      · exact Or.inl ⟨name, rfl⟩
      · exact ih h
    | argument v =>
      rcases List.mem_cons.mp h with rfl | h
      · exact Or.inr ⟨n + 1, rfl⟩
      · exact ih h

/-- The tokens of a text before the others. -/
theorem Sound.tokens_text (hi : ∀ s ∈ integers, IsInteger s) {sql : String} {rest : Draft}
    (h : Sound integers (.text sql :: rest)) (d : Dialect) (n : Nat) :
    ∃ ts, tokens d n (.text sql :: rest) = ts ++ tokens d n rest ∧ ∀ t ∈ ts, IsPlain integers t := by
  obtain ⟨ts, ht, hp⟩ := read_plain d hi (h.fixed sql List.mem_cons_self)
  exact ⟨ts, by rw [tokens, ht, Option.getD_some], hp⟩

theorem mem_tokens (hi : ∀ s ∈ integers, IsInteger s) {t : Token} {n : Nat} {draft : Draft}
    (h : Sound integers draft) (hm : t ∈ tokens d n draft) :
    IsPlain integers t ∨ t ∈ outline d n draft := by
  induction draft generalizing n with
  | nil => simp [tokens] at hm
  | cons f rest ih =>
    cases f with
    | text sql =>
      obtain ⟨ts, ht, hp⟩ := h.tokens_text hi d n
      rw [ht, List.mem_append] at hm
      rcases hm with hm | hm
      · exact Or.inl (hp t hm)
      · exact ih h.of_cons hm
    | identifier name =>
      rcases List.mem_cons.mp hm with rfl | hm
      · exact Or.inr List.mem_cons_self
      · exact (ih h.of_cons hm).imp_right (List.mem_cons_of_mem _)
    | argument v =>
      rcases List.mem_cons.mp hm with rfl | hm
      · exact Or.inr List.mem_cons_self
      · exact (ih h.of_cons hm).imp_right (List.mem_cons_of_mem _)

/-- What plain tokens do not show comes from the outline alone. -/
theorem filterMap_tokens {α : Type} {f : Token → Option α} (hi : ∀ s ∈ integers, IsInteger s)
    (hf : ∀ t, IsPlain integers t → f t = none) {draft : Draft} (n : Nat)
    (h : Sound integers draft) :
    (tokens d n draft).filterMap f = (outline d n draft).filterMap f := by
  induction draft generalizing n with
  | nil => rfl
  | cons fragment rest ih =>
    cases fragment with
    | text sql =>
      obtain ⟨ts, ht, hp⟩ := h.tokens_text hi d n
      have hn : ts.filterMap f = [] := List.filterMap_eq_nil_iff.mpr fun t ht => hf t (hp t ht)
      rw [ht, List.filterMap_append, hn, ih n h.of_cons]
      rfl
    | identifier name =>
      rw [tokens, outline, List.filterMap_cons, List.filterMap_cons, ih n h.of_cons]
    | argument v =>
      rw [tokens, outline, List.filterMap_cons, List.filterMap_cons, ih (n + 1) h.of_cons]

/-- Without the names of the identifiers, the tokens are those of the draft without them. -/
theorem map_erase_tokens (hi : ∀ s ∈ integers, IsInteger s) {draft : Draft} (n : Nat)
    (h : Sound integers draft) :
    (tokens d n draft).map Token.erase = tokens d n (draft.map Fragment.erase) := by
  induction draft generalizing n with
  | nil => rfl
  | cons f rest ih =>
    cases f with
    | text sql =>
      obtain ⟨ts, ht, hp⟩ := read_plain d hi (h.fixed sql List.mem_cons_self)
      have hn : ts.map Token.erase = ts := by
        conv_rhs => rw [← List.map_id ts]
        exact List.map_congr_left fun t ht => (hp t ht).erase_eq
      rw [List.map_cons, Fragment.erase, tokens, tokens, ht, Option.getD_some, List.map_append, hn,
        ih n h.of_cons]
      simp
    | identifier name =>
      rw [tokens, List.map_cons, ih n h.of_cons]
      rfl
    | argument v =>
      rw [tokens, List.map_cons, ih (n + 1) h.of_cons]
      rfl

/-! ### Putting sound drafts together -/

theorem Sound.nil : Sound integers [] := ⟨by simp, List.isChain_nil⟩

/-- Is the draft empty, or does it begin with a break? -/
def opens (draft : Draft) : Bool := draft.head?.all Fragment.opens

/-- Is the draft empty, or does it end with a break? -/
def closes (draft : Draft) : Bool := draft.getLast?.all Fragment.closes

/-- Two sound drafts with a break at the seam between them. -/
theorem Sound.append {a b : Draft} (ha : Sound integers a) (hb : Sound integers b)
    (h : closes a = true ∨ opens b = true) : Sound integers (a ++ b) := by
  constructor
  · intro sql hs
    rcases List.mem_append.mp hs with hs | hs
    · exact ha.fixed sql hs
    · exact hb.fixed sql hs
  · refine List.isChain_append.mpr ⟨ha.seams, hb.seams, ?_⟩
    intro f hf g hg
    rcases h with h | h
    · rw [closes, Option.mem_def.mp hf] at h
      exact Or.inl h
    · rw [opens, Option.mem_def.mp hg] at h
      exact Or.inr h

/-- A fragment that is no text but a phrase. -/
def isFixed : Fragment → Bool
  | .text sql => phrases.contains sql
  | _ => true

/-- Is the draft sound without any integer? -/
def isSound : Draft → Bool
  | [] => true
  | [f] => isFixed f
  | f :: g :: rest => isFixed f && (f.closes || g.opens) && isSound (g :: rest)

theorem Sound.of_isSound : ∀ {draft : Draft}, isSound draft = true → Sound integers draft
  | [], _ => Sound.nil
  | [f], h => by
    refine ⟨fun sql hs => ?_, List.isChain_singleton f⟩
    obtain rfl := List.mem_singleton.mp hs
    exact Or.inl (List.contains_iff_mem.mp h)
  | f :: g :: rest, h => by
    simp only [isSound, Bool.and_eq_true, Bool.or_eq_true] at h
    obtain ⟨⟨hf, hs⟩, hr⟩ := h
    have ih : Sound integers (g :: rest) := Sound.of_isSound hr
    refine ⟨fun sql hm => ?_, List.isChain_cons_cons.mpr ⟨hs, ih.seams⟩⟩
    rcases List.mem_cons.mp hm with rfl | hm
    · exact Or.inl (List.contains_iff_mem.mp hf)
    · exact ih.fixed sql hm

/-- A separator with breaks at both ends makes a sound draft of sound drafts. -/
theorem Sound.separated {separator : String} (hs : isSound [.text separator] = true)
    (ho : opens [.text separator] = true) (hc : closes [.text separator] = true) :
    ∀ {items : List Draft}, (∀ item ∈ items, Sound integers item) →
    Sound integers (Draft.separated separator items)
  | [], _ => Sound.nil
  | [item], h => h item List.mem_cons_self
  | item :: next :: items, h => by
    have hrest : Sound integers (Draft.separated separator (next :: items)) :=
      Sound.separated hs ho hc fun i hi => h i (List.mem_cons_of_mem _ hi)
    have hsep := (Sound.of_isSound hs).append hrest (Or.inl hc)
    exact (h item List.mem_cons_self).append hsep (Or.inr ho)

/-- Sound drafts with a separator between them, after a fixed front that ends with a break. -/
theorem Sound.list {front : Draft} {separator : String} {items : List Draft}
    (hf : isSound front = true) (hl : closes front = true)
    (hs : isSound [.text separator] = true) (ho : opens [.text separator] = true)
    (hc : closes [.text separator] = true) (h : ∀ item ∈ items, Sound integers item) :
    Sound integers (front ++ Draft.separated separator items) :=
  (Sound.of_isSound hf).append (Sound.separated hs ho hc h) (Or.inl hl)

theorem separated_cons_cons (separator : String) (a b : Draft) (items : List Draft) :
    separated separator (a :: b :: items) =
      a ++ .text separator :: separated separator (b :: items) := rfl

/-! ### What a draft holds besides its texts -/

/-- Is the fragment no text? -/
def isHole : Fragment → Bool
  | .text _ => false
  | _ => true

/-- The identifiers and the arguments of a draft, in order. -/
def holes (draft : Draft) : Draft := draft.filter isHole

@[simp] theorem holes_nil : holes [] = [] := rfl

@[simp] theorem holes_text (sql : String) (rest : Draft) : holes (.text sql :: rest) = holes rest :=
  rfl

@[simp] theorem holes_identifier (name : String) (rest : Draft) :
    holes (.identifier name :: rest) = .identifier name :: holes rest := rfl

@[simp] theorem holes_argument (v : Value) (rest : Draft) :
    holes (.argument v :: rest) = .argument v :: holes rest := rfl

@[simp] theorem holes_append (a b : Draft) : holes (a ++ b) = holes a ++ holes b :=
  List.filter_append ..

@[simp] theorem holes_flatMap {α : Type} (f : α → Draft) (xs : List α) :
    holes (xs.flatMap f) = xs.flatMap fun x => holes (f x) := List.filter_flatMap ..

@[simp] theorem holes_separated (separator : String) : ∀ items : List Draft,
    holes (separated separator items) = items.flatMap holes
  | [] => rfl
  | [item] => by simp [separated]
  | a :: b :: items => by
    rw [separated_cons_cons, holes_append, holes_text, holes_separated separator (b :: items)]
    rfl

theorem identifiers_eq_holes : ∀ draft : Draft,
    identifiers draft = (holes draft).filterMap Fragment.identifier?
  | [] => rfl
  | .text _ :: rest => identifiers_eq_holes rest
  | .identifier name :: rest => congrArg (name :: ·) (identifiers_eq_holes rest)
  | .argument _ :: rest => identifiers_eq_holes rest

theorem arguments_eq_holes : ∀ draft : Draft,
    arguments draft = (holes draft).filterMap Fragment.argument?
  | [] => rfl
  | .text _ :: rest => arguments_eq_holes rest
  | .identifier _ :: rest => arguments_eq_holes rest
  | .argument v :: rest => congrArg (v :: ·) (arguments_eq_holes rest)

theorem map_separated {f : Fragment → Fragment} {separator : String}
    (hf : f (.text separator) = .text separator) : ∀ items : List Draft,
    (separated separator items).map f = separated separator (items.map (List.map f))
  | [] => rfl
  | [item] => rfl
  | a :: b :: items => by
    rw [separated_cons_cons, List.map_append, List.map_cons, hf, map_separated hf (b :: items)]
    rfl

end Draft

end SqlGateway
