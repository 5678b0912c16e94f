import SqlGateway.Proofs.Statement.Draft

/-! Reading a statement clause by clause. With the arguments in the place of their placeholders the
    tokens of a statement are its parts; a run of keywords opens a clause, and what stands up to the
    next such run is its body:

        SELECT "t"."a" "t.a" FROM "t" "t" LEFT JOIN "u" "u" ON … WHERE "t"."c" = $1

        SELECT       t . a t.a
        FROM         t t
        LEFT JOIN    u u ON …
        WHERE        t . c = first argument

    No identifier opens a clause, whatever it holds, so a draft that is written as clauses is read as
    these clauses. -/

namespace SqlGateway

namespace Statement

/-- A part of a statement: a token, or the argument that a placeholder stands for. -/
inductive Part where
  | identifier (name : String)
  | word (text : String)
  | number (text : String)
  | mark (text : String)
  | argument (value : Value)
  deriving DecidableEq

/-- Words that open a clause. The others stand inside of one. -/
def openers : List String :=
  ["SELECT", "FROM", "LEFT", "RIGHT", "JOIN", "WHERE", "GROUP", "ORDER", "BY", "LIMIT", "OFFSET",
    "INSERT", "INTO", "VALUES", "UPDATE", "SET", "DELETE"]

namespace Part

/-- The part that is a token by itself. -/
def ofToken? : Token → Option Part
  | .identifier name => some (.identifier name)
  | .word text => some (.word text)
  | .number text => some (.number text)
  | .mark text => some (.mark text)
  | .placeholder _ => none

def opener? : Part → Option String
  | .word text => if openers.contains text then some text else none
  | _ => none

end Part

/-- Put the arguments in the place of the placeholders; there has to be one for each. -/
def attach : List Token → List Value → Option (List Part)
  | [], [] => some []
  | [], _ :: _ => none
  | t :: ts, vs =>
    match Part.ofToken? t, vs with
    | some p, vs => (attach ts vs).map (p :: ·)
    | none, v :: vs => (attach ts vs).map (.argument v :: ·)
    | none, [] => none

/-- The parts of a statement. -/
def parts? (d : Dialect) (s : Statement) : Option (List Part) :=
  (s.tokens? d).bind fun ts => attach ts s.args

/-- A clause: the words that open it, with blanks between them, and what follows. -/
structure Clause where
  head : String
  body : List Part
  deriving DecidableEq

/-- What stands before the first clause, and the clauses. -/
def cut : List Part → List Part × List Clause
  | [] => ([], [])
  | p :: ps =>
    match p.opener?, cut ps with
    | none, (front, clauses) => (p :: front, clauses)
    | some word, ([], c :: clauses) => ([], ⟨word ++ " " ++ c.head, c.body⟩ :: clauses)
    | some word, (front, clauses) => ([], ⟨word, front⟩ :: clauses)

/-- The clauses of a statement. -/
def clauses? (d : Dialect) (s : Statement) : Option (List Clause) :=
  (s.parts? d).bind fun ps =>
    match cut ps with
    | ([], clauses) => some clauses
    | _ => none

/-! ### Cutting -/

/-- Parts of a body: no word among them opens a clause. -/
def IsBody (ps : List Part) : Prop := ∀ p ∈ ps, p.opener? = none

namespace IsBody

variable {ps qs : List Part}

theorem append (h : IsBody ps) (h' : IsBody qs) : IsBody (ps ++ qs) := by
  intro p hp
  exact (List.mem_append.mp hp).elim (h p) (h' p)

theorem nil : IsBody [] := fun _ h => nomatch h

theorem cons {p : Part} (h : IsBody ps) (hp : p.opener? = none) : IsBody (p :: ps) :=
  List.forall_mem_cons.mpr ⟨hp, h⟩

theorem intercalate {separator : Part} (hs : separator.opener? = none) {items : List (List Part)}
    (h : ∀ item ∈ items, IsBody item) : IsBody ([separator].intercalate items) := by
  induction items with
  | nil => exact nil
  | cons item items ih =>
    obtain ⟨hi, hrest⟩ := List.forall_mem_cons.mp h
    cases items with
    | nil => simpa using hi
    | cons next items =>
      rw [List.intercalate_cons_cons, List.append_assoc]
      exact hi.append ((ih hrest).cons hs)

end IsBody

/-- Parts of a body, and not none. -/
structure IsItem (ps : List Part) : Prop where
  isBody : IsBody ps
  ne_nil : ps ≠ []

namespace IsItem

variable {ps qs : List Part}

theorem cons {p : Part} (h : IsBody ps) (hp : p.opener? = none) : IsItem (p :: ps) :=
  ⟨h.cons hp, List.cons_ne_nil _ _⟩

theorem append (h : IsItem ps) (h' : IsBody qs) : IsItem (ps ++ qs) :=
  ⟨h.isBody.append h', List.append_ne_nil_of_left_ne_nil h.ne_nil _⟩

theorem intercalate {separator : Part} (hs : separator.opener? = none) {items : List (List Part)}
    (hn : items ≠ []) (h : ∀ item ∈ items, IsItem item) :
    IsItem ([separator].intercalate items) := by
  refine ⟨IsBody.intercalate hs fun item hi => (h item hi).isBody, ?_⟩
  cases items with
  | nil => exact absurd rfl hn
  | cons item items =>
    have hi := (h item List.mem_cons_self).ne_nil
    cases items with
    | nil => simpa using hi
    | cons next items => simp [List.intercalate_cons_cons, hi]

end IsItem

/-- A body goes to the clause before it. -/
theorem cut_body {body : List Part} (h : IsBody body) (rest : List Part) :
    cut (body ++ rest) = (body ++ (cut rest).1, (cut rest).2) := by
  induction body with
  | nil => rfl
  | cons p body ih =>
    obtain ⟨hp, hb⟩ := List.forall_mem_cons.mp h
    rw [List.cons_append, cut, hp, ih hb]
    rfl

/-- Parts that are cut into clauses, whatever clauses follow them. -/
def Cuts (ps : List Part) (clauses : List Clause) : Prop :=
  ∀ rest more, cut rest = ([], more) → cut (ps ++ rest) = ([], clauses ++ more)

namespace Cuts

variable {ps qs : List Part} {cs cs' : List Clause}

theorem nil : Cuts [] [] := fun _ _ h => h

theorem append (h : Cuts ps cs) (h' : Cuts qs cs') : Cuts (ps ++ qs) (cs ++ cs') := by
  intro rest more hr
  rw [List.append_assoc, List.append_assoc]
  exact h _ _ (h' rest more hr)

theorem flatMap {α : Type} {f : α → List Part} {g : α → Clause} (h : ∀ a, Cuts (f a) [g a])
    (as : List α) : Cuts (as.flatMap f) (as.map g) := by
  induction as with
  | nil => exact nil
  | cons a as ih => exact (h a).append ih

/-- A word and a body. -/
theorem clause {word : String} {body : List Part} (hw : openers.contains word = true)
    (hb : IsItem body) : Cuts (.word word :: body) [⟨word, body⟩] := by
  intro rest more hr
  have ho : (Part.word word).opener? = some word := by rw [Part.opener?, if_pos hw]
  rw [List.cons_append, cut, ho, cut_body hb.isBody, hr, List.append_nil]
  cases body with
  | nil => exact absurd rfl hb.ne_nil
  | cons p body => rfl

/-- One more word before a clause. -/
theorem cons {word : String} {c : Clause} (hw : openers.contains word = true)
    (h : Cuts ps [c]) : Cuts (.word word :: ps) [⟨word ++ " " ++ c.head, c.body⟩] := by
  intro rest more hr
  have ho : (Part.word word).opener? = some word := by rw [Part.opener?, if_pos hw]
  rw [List.cons_append, cut, ho, h rest more hr]
  rfl

theorem cut_eq (h : Cuts ps cs) : cut ps = ([], cs) := by
  simpa using h [] [] rfl

end Cuts

/-! ### Putting arguments in their places -/

theorem attach_cons {t : Token} {p : Part} (h : Part.ofToken? t = some p) (ts : List Token)
    (vs : List Value) : attach (t :: ts) vs = (attach ts vs).map (p :: ·) := by
  simp [attach, h]

/-- Tokens that are no placeholders stay what they are. -/
theorem attach_append {ts : List Token} (h : ∀ t ∈ ts, t.placeholder? = none) (us : List Token)
    (vs : List Value) :
    attach (ts ++ us) vs = (attach us vs).map (ts.filterMap Part.ofToken? ++ ·) := by
  induction ts with
  | nil => simp
  | cons t ts ih =>
    obtain ⟨ht, hts⟩ := List.forall_mem_cons.mp h
    obtain ⟨p, hp⟩ : ∃ p, Part.ofToken? t = some p := by
      cases t <;> simp [Part.ofToken?, Token.placeholder?] at ht ⊢
    rw [List.cons_append, attach_cons hp, ih hts, Option.map_map, List.filterMap_cons_some hp]
    rfl

end Statement

/-! ### Parts of drafts -/

open Statement

/-- The parts that a fragment is read as. -/
def Fragment.parts (d : Dialect) : Fragment → List Part
  | .text sql => ((read d sql.toList).getD []).filterMap Part.ofToken?
  | .identifier name => [.identifier name]
  | .argument v => [.argument v]

namespace Draft

variable {d : Dialect}

/-- The parts that a draft is read as. -/
def parts (d : Dialect) (draft : Draft) : List Part := draft.flatMap (Fragment.parts d)

/-- The arguments of a draft go to the places that they were taken from. -/
theorem attach_tokens {integers : List String} (hi : ∀ s ∈ integers, IsInteger s) {draft : Draft}
    (n : Nat) (h : Sound integers draft) :
    attach (tokens d n draft) (arguments draft) = some (parts d draft) := by
  induction draft generalizing n with
  | nil => rfl
  | cons f rest ih =>
    cases f with
    | text sql =>
      obtain ⟨ts, ht, hp⟩ := read_plain d hi (h.fixed sql List.mem_cons_self)
      have ha : arguments (.text sql :: rest) = arguments rest := rfl
      rw [tokens, ha, ht, Option.getD_some,
        attach_append fun t ht => (hp t ht).placeholder?_eq, ih n h.of_cons]
      simp [parts, Fragment.parts, ht]
    | identifier name =>
      have ha : arguments (.identifier name :: rest) = arguments rest := rfl
      rw [tokens, ha, attach_cons rfl, ih n h.of_cons]
      rfl
    | argument v =>
      have ha : attach (tokens d n (.argument v :: rest)) (arguments (.argument v :: rest)) =
          (attach (tokens d (n + 1) rest) (arguments rest)).map (.argument v :: ·) := rfl
      rw [ha, ih (n + 1) h.of_cons]
      rfl

@[simp] theorem parts_nil : parts d [] = [] := rfl

@[simp] theorem parts_cons (f : Fragment) (rest : Draft) :
    parts d (f :: rest) = Fragment.parts d f ++ parts d rest := rfl

@[simp] theorem parts_append (a b : Draft) : parts d (a ++ b) = parts d a ++ parts d b :=
  List.flatMap_append

@[simp] theorem parts_flatMap {α : Type} (f : α → Draft) (as : List α) :
    parts d (as.flatMap f) = as.flatMap fun a => parts d (f a) := List.flatMap_assoc

/-- Drafts between separators are read as their parts between the part that the separator is. -/
theorem parts_separated {separator : String} {p : Part}
    (h : Fragment.parts d (.text separator) = [p]) : ∀ items : List Draft,
    parts d (separated separator items) = [p].intercalate (items.map (parts d))
  | [] => rfl
  | [item] => by simp [separated]
  | a :: b :: items => by
    have hi : [p].intercalate ((a :: b :: items).map (parts d)) =
        parts d a ++ [p] ++ [p].intercalate ((b :: items).map (parts d)) :=
      List.intercalate_cons_cons
    rw [separated_cons_cons, parts_append, parts_cons, h, parts_separated h (b :: items), hi,
      List.append_assoc]

end Draft

end SqlGateway
