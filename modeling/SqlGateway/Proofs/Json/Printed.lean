import SqlGateway.Proofs.Json.IntegerLiteral

/-! What is printed is read back. The tree of a printed value has the shape of the value, and what
    follows the text, a comma, a bracket or nothing, is left to be read:

        [1,{"a\n":true}]…   ▶   array [1, object ["a⏎" ↦ true]]   and   …

    Strings come back whatever they hold and integers as their literals; of floats it is asked that
    their text alone is read back. -/

namespace SqlGateway.Json

open Number (intText isDigit Double)

/-! ### Strings -/

theorem hexValue?_hexDigit : ∀ n < 16, hexValue? (hexDigit n) = some n := by decide

/-- The escape of a control character without a short one. -/
theorem readHex4?_control {n : ℕ} (h : n < 0x20) (rest : List Char) :
    readHex4? ('0' :: '0' :: hexDigit (n / 16) :: hexDigit (n % 16) :: rest) = some (n, rest) := by
  have h0 : hexValue? '0' = some 0 := by decide
  simp only [readHex4?, h0, hexValue?_hexDigit (n / 16) (by omega),
    hexValue?_hexDigit (n % 16) (by omega), Option.bind_eq_bind, Option.bind_some]
  have hn : (0 * 16 + 0) * 256 + n / 16 * 16 + n % 16 = n := by omega
  rw [hn]
  rfl

theorem unitOf_control {c : Char} (h : c.toNat < 0x20) : unitOf c.toNat = .char c := by
  rw [unitOf, if_neg (by omega), if_neg (by omega), Char.ofNat_toNat]

/-- The written form of a character is read as the character. -/
theorem readUnits?_escapeChar (c : Char) (fuel : ℕ) (rest : List Char) (units : List StringUnit) :
    readUnits? (fuel + 1) (escapeChar c ++ rest) units =
      readUnits? fuel rest (.char c :: units) := by
  unfold escapeChar
  split
  · next h => subst h; rfl
  split
  · next h => subst h; rfl
  split
  · next h => subst h; rfl
  split
  · next h => subst h; rfl
  split
  · next h => subst h; rfl
  split
  · next h => subst h; rfl
  split
  · next h => subst h; rfl
  split
  · next h =>
    simp only [List.cons_append, List.nil_append]
    rw [readUnits?, readHex4?_control h]
    simp only [unitOf_control h]
  · next hq hb _ _ _ _ _ hc =>
    simp only [List.cons_append, List.nil_append]
    rw [readUnits?]
    · simp [hb, hc]
    all_goals simp_all

theorem readUnits?_escaped (cs : List Char) {fuel : ℕ} (hf : cs.length < fuel) (rest : List Char)
    (units : List StringUnit) :
    readUnits? fuel (cs.flatMap escapeChar ++ '"' :: rest) units =
      some (units.reverse ++ cs.map .char, rest) := by
  induction cs generalizing fuel units with
  | nil =>
    obtain ⟨fuel, rfl⟩ := Nat.exists_eq_succ_of_ne_zero (by omega : fuel ≠ 0)
    simp [readUnits?]
  | cons c cs ih =>
    obtain ⟨fuel, rfl⟩ := Nat.exists_eq_succ_of_ne_zero (by omega : fuel ≠ 0)
    rw [List.flatMap_cons, List.append_assoc, readUnits?_escapeChar,
      ih (by simpa using hf)]
    simp

theorem joinUnits?_chars (cs : List Char) : joinUnits? (cs.map .char) = some cs := by
  induction cs with
  | nil => rfl
  | cons c cs ih => simp [joinUnits?, ih]

/-- A string is read back whatever it holds. -/
theorem readString?_stringText (s : String) (rest : List Char) :
    readString? (s.toList.flatMap escapeChar ++ '"' :: rest) = some (some s, rest) := by
  have hl (cs : List Char) : cs.length ≤ (cs.flatMap escapeChar).length := by
    induction cs with
    | nil => simp
    | cons c cs ih =>
      have hc : 1 ≤ (escapeChar c).length := by
        unfold escapeChar
        split_ifs <;> simp
      simp only [List.flatMap_cons, List.length_append, List.length_cons]
      omega
  have hf := hl s.toList
  rw [readString?, readUnits?_escaped _ (by
    simp only [List.length_append, List.length_cons]
    omega)]
  simp [joinUnits?_chars]

theorem toList_stringText (s : String) :
    (stringText s).toList = '"' :: (s.toList.flatMap escapeChar ++ ['"']) := by
  simp [stringText]

/-! ### Numbers -/

/-- What may follow a number: nothing, or a character that ends it. -/
def Ends (rest : List Char) : Prop := ∀ c ∈ rest.head?, c = ',' ∨ c = ']' ∨ c = '\x7d'

theorem takeWhile_append_of_head {α : Type} {p : α → Bool} {rest : List α}
    (h : ∀ c ∈ rest.head?, p c = false) (cs : List α) :
    (cs ++ rest).takeWhile p = cs.takeWhile p ∧
      (cs ++ rest).dropWhile p = cs.dropWhile p ++ rest := by
  induction cs with
  | nil =>
    cases rest with
    | nil => simp
    | cons c rest => simp [h c rfl]
  | cons c cs ih => by_cases hc : p c <;> simp [hc, ih]

theorem splitSign_append {cs : List Char} (hne : cs ≠ []) (rest : List Char) :
    Number.splitSign (cs ++ rest) =
      ((Number.splitSign cs).1, (Number.splitSign cs).2 ++ rest) := by
  obtain ⟨c, cs, rfl⟩ := List.exists_cons_of_ne_nil hne
  by_cases hm : c = '-'
  · subst hm
    rfl
  · by_cases hp : c = '+'
    · subst hp
      rfl
    · simp [Number.splitSign, hm, hp]

/-- What stands after the sign of a number. -/
def readUnsigned? (negative : Bool) (body : List Char) : Option (Literal × List Char) :=
  let whole := body.takeWhile isDigit
  let rest := body.dropWhile isDigit
  if whole.isEmpty || (whole.head? == some '0' && 1 < whole.length) then none
  else
    match rest with
    | '.' :: more =>
      let fraction := more.takeWhile isDigit
      if fraction.isEmpty then none
      else (readExponent? (more.dropWhile isDigit)).map fun (e, tail) =>
        (⟨negative, whole, fraction, true, e⟩, tail)
    | _ => (readExponent? rest).map fun (e, tail) => (⟨negative, whole, [], false, e⟩, tail)

theorem readNumber?_digit {c : Char} (hc : c ≠ '-') (cs : List Char) :
    readNumber? (c :: cs) = readUnsigned? false (c :: cs) := by
  unfold readNumber?
  split
  next heq =>
  split at heq
  · next hminus => exact absurd (List.cons.inj hminus).1 hc
  · obtain ⟨rfl, rfl⟩ := Prod.mk.inj heq
    rfl

theorem readExponent?_suffix {cs tail : List Char} {e : Option (Bool × List Char)}
    (h : readExponent? cs = some (e, tail)) : tail <:+ cs := by
  cases cs with
  | nil =>
    obtain ⟨-, rfl⟩ := Prod.mk.inj (Option.some.inj h)
    exact List.suffix_rfl
  | cons c cs =>
    rw [readExponent?] at h
    have hsign : (Number.splitSign cs).2 <:+ c :: cs := by
      unfold Number.splitSign
      split
      · exact (List.suffix_cons ..).trans (List.suffix_cons ..)
      · exact (List.suffix_cons ..).trans (List.suffix_cons ..)
      · exact List.suffix_cons ..
    split at h
    · simp only at h
      split at h
      · cases h
      · obtain ⟨-, rfl⟩ := Prod.mk.inj (Option.some.inj h)
        exact (List.dropWhile_suffix _).trans hsign
    · obtain ⟨-, rfl⟩ := Prod.mk.inj (Option.some.inj h)
      exact List.suffix_rfl

theorem readUnsigned?_suffix {body tail : List Char} {l : Literal} {negative : Bool}
    (h : readUnsigned? negative body = some (l, tail)) : tail <:+ body := by
  have hrest : body.dropWhile isDigit <:+ body := List.dropWhile_suffix _
  rw [readUnsigned?] at h
  simp only at h
  split at h
  · cases h
  split at h
  · next more hmore =>
    rw [hmore] at hrest
    split at h
    · cases h
    obtain ⟨⟨e, tail⟩, he, heq⟩ := Option.map_eq_some_iff.mp h
    obtain ⟨-, rfl⟩ := Prod.mk.inj heq
    exact (((readExponent?_suffix he).trans (List.dropWhile_suffix _)).trans
      (List.suffix_cons ..)).trans hrest
  · obtain ⟨⟨e, tail⟩, he, heq⟩ := Option.map_eq_some_iff.mp h
    obtain ⟨-, rfl⟩ := Prod.mk.inj heq
    exact (readExponent?_suffix he).trans hrest

theorem readNumber?_suffix {cs tail : List Char} {l : Literal}
    (h : readNumber? cs = some (l, tail)) : tail <:+ cs := by
  cases cs with
  | nil => nomatch h
  | cons c cs =>
    by_cases hc : c = '-'
    · subst hc
      exact (readUnsigned?_suffix h).trans (List.suffix_cons ..)
    · rw [readNumber?_digit hc] at h
      exact readUnsigned?_suffix h

namespace Ends

variable {rest : List Char} (h : Ends rest)

include h

theorem takeWhile (cs : List Char) : (cs ++ rest).takeWhile isDigit = cs.takeWhile isDigit ∧
    (cs ++ rest).dropWhile isDigit = cs.dropWhile isDigit ++ rest := by
  refine takeWhile_append_of_head (fun c hc => ?_) cs
  rcases h c hc with rfl | rfl | rfl <;> decide

theorem readExponent? {cs : List Char} {e : Option (Bool × List Char)} {tail : List Char}
    (hr : readExponent? cs = some (e, tail)) :
    Json.readExponent? (cs ++ rest) = some (e, tail ++ rest) := by
  cases cs with
  | nil =>
    obtain ⟨rfl, rfl⟩ := Prod.mk.inj (Option.some.inj hr)
    cases rest with
    | nil => rfl
    | cons c rest => rcases h c rfl with rfl | rfl | rfl <;> rfl
  | cons c cs =>
    rw [List.cons_append]
    rw [Json.readExponent?] at hr ⊢
    split at hr
    · next hc =>
      rw [if_pos hc]
      have hne : cs ≠ [] := by
        rintro rfl
        cases hr
      obtain ⟨ht, hd⟩ := h.takeWhile (Number.splitSign cs).2
      simp only [splitSign_append hne, ht, hd]
      simp only at hr
      split at hr
      · cases hr
      · next hds =>
        obtain ⟨rfl, rfl⟩ := Prod.mk.inj (Option.some.inj hr)
        rw [if_neg hds]
    · next hc =>
      obtain ⟨rfl, rfl⟩ := Prod.mk.inj (Option.some.inj hr)
      rw [if_neg hc]
      rfl

theorem readUnsigned? {body tail : List Char} {l : Literal} {negative : Bool}
    (hr : readUnsigned? negative body = some (l, tail)) :
    Json.readUnsigned? negative (body ++ rest) = some (l, tail ++ rest) := by
  obtain ⟨ht, hd⟩ := h.takeWhile body
  rw [Json.readUnsigned?] at hr ⊢
  rw [ht, hd]
  simp only at hr ⊢
  split at hr
  · cases hr
  next hwhole =>
  rw [if_neg hwhole]
  split at hr
  · next more hmore =>
    rw [hmore, List.cons_append]
    obtain ⟨htf, hdf⟩ := h.takeWhile more
    simp only [htf, hdf]
    split at hr
    · cases hr
    next hfraction =>
    obtain ⟨⟨e, tail⟩, he, heq⟩ := Option.map_eq_some_iff.mp hr
    obtain ⟨rfl, rfl⟩ := Prod.mk.inj heq
    rw [if_neg hfraction, h.readExponent? he]
    rfl
  · next hpoint =>
    obtain ⟨⟨e, tail⟩, he, heq⟩ := Option.map_eq_some_iff.mp hr
    obtain ⟨rfl, rfl⟩ := Prod.mk.inj heq
    -- neither what stands after the digits nor what follows the number begins with a point
    split
    · next more hmore =>
      cases hdrop : body.dropWhile isDigit with
      | nil =>
        rw [hdrop, List.nil_append] at hmore
        rcases h '.' (by rw [hmore]; rfl) with h | h | h <;> cases h
      | cons c cs =>
        rw [hdrop, List.cons_append] at hmore
        exact absurd (hdrop.trans (by rw [(List.cons.inj hmore).1])) (hpoint cs)
    · rw [h.readExponent? he]
      rfl

/-- A number is read in the same way before whatever may follow it. -/
theorem readNumber? {cs tail : List Char} {l : Literal} (hr : readNumber? cs = some (l, tail)) :
    Json.readNumber? (cs ++ rest) = some (l, tail ++ rest) := by
  cases cs with
  | nil => nomatch hr
  | cons c cs =>
    by_cases hc : c = '-'
    · subst hc
      exact h.readUnsigned? hr
    · rw [readNumber?_digit hc] at hr
      rw [List.cons_append, readNumber?_digit hc]
      exact h.readUnsigned? hr

end Ends

/-- What begins a number is neither of the characters that do not. -/
theorem ne_of_begins {c d : Char} (hc : c = '-' ∨ isDigit c = true)
    (hd : d ≠ '-' ∧ isDigit d = false) : c ≠ d := by
  rintro rfl
  rcases hc with hc | hc
  · exact hd.1 hc
  · exact Bool.false_ne_true (hd.2.symm.trans hc)

theorem isSpace_of_begins {c : Char} (hc : c = '-' ∨ isDigit c = true) : isSpace c = false := by
  simp [isSpace, ne_of_begins hc (by decide : ' ' ≠ '-' ∧ isDigit ' ' = false),
    ne_of_begins hc (by decide : '\n' ≠ '-' ∧ isDigit '\n' = false),
    ne_of_begins hc (by decide : '\t' ≠ '-' ∧ isDigit '\t' = false),
    ne_of_begins hc (by decide : '\r' ≠ '-' ∧ isDigit '\r' = false)]

/-! ### Floats -/

/-- No blank stands in the text. -/
def Inked (cs : List Char) : Prop := ∀ c ∈ cs, isSpace c = false

instance : DecidablePred Inked := List.decidableBAll fun c => isSpace c = false

namespace Inked

theorem append {cs ds : List Char} (hc : Inked cs) (hd : Inked ds) : Inked (cs ++ ds) := fun c h =>
  (List.mem_append.mp h).elim (hc c) (hd c)

theorem natText (n : ℕ) : Inked (Number.natText n).toList := fun c h =>
  isSpace_of_begins (Or.inr (isDigit_of_mem_toDigits (by simpa [Number.natText] using h)))

theorem intText (n : ℤ) : Inked (Number.intText n).toList := by
  rw [Number.intText]
  split
  · rw [String.toList_append]
    exact append (by decide) (natText _)
  · exact natText _

theorem zeros (n : ℕ) : Inked (List.replicate n '0') := fun c h => by
  rw [(List.mem_replicate.mp h).2]
  rfl

theorem positional {digits mark : String} (hd : Inked digits.toList) (hm : Inked mark.toList)
    (exponent : ℤ) : Inked (Number.positional digits exponent mark).toList := by
  rw [Number.positional]
  split
  · simp only [String.toList_append, String.toList_ofList]
    exact (hd.append (zeros _)).append hm
  simp only
  split
  · simp only [String.toList_append, String.toList_ofList]
    exact (append (fun c h => hd c (List.mem_of_mem_take h)) (by decide)).append
      fun c h => hd c (List.mem_of_mem_drop h)
  · simp only [String.toList_append, String.toList_ofList]
    exact (append (by decide) (zeros _)).append hd

theorem scientificMantissa {digits : String} (hd : Inked digits.toList) :
    Inked (Number.scientificMantissa digits).toList := by
  unfold Number.scientificMantissa
  split
  · next first second rest heq =>
    rw [heq] at hd
    rw [String.toList_ofList]
    intro c hc
    rcases List.mem_cons.mp hc with rfl | hc
    · exact hd c (List.mem_cons_self ..)
    · rcases List.mem_cons.mp hc with rfl | hc
      · rfl
      · exact hd c (List.mem_cons_of_mem _ hc)
  · exact hd

theorem documentText (x : Double) : Inked x.documentText.toList := by
  have hsign (negative : Bool) : Inked (if negative then "-" else "").toList := by
    cases negative <;> decide
  have hplus : Inked Number.documentStyle.exponentPlus.toList := by decide
  have hmark : Inked Number.documentStyle.integralMark.toList := by decide
  rw [Double.documentText]
  generalize x.read = r
  unfold Number.FloatStyle.text
  split
  · decide
  · next negative => cases negative <;> decide
  simp only
  split
  · simp only [String.toList_append]
    exact ((hsign _).append (by decide)).append hmark
  split
  · rw [String.toList_append]
    exact (hsign _).append (positional (natText _) hmark _)
  · simp only [String.toList_append]
    refine (((hsign _).append (scientificMantissa (natText _))).append
      (by decide)).append ?_
    split
    · exact intText _
    · rw [String.toList_append]
      exact hplus.append (intText _)

end Inked

/-- A tree that is a number was read from the text of a number. -/
theorem readNumber?_of_readValue {fuel : ℕ} {cs : List Char} {l : Literal}
    {tail : Option (List Char)} (h : readValue fuel cs = (.number l, tail)) :
    ∃ more, readNumber? (skipSpace cs) = some (l, more) ∧ tail = some more := by
  have hword {letters : List Char} {s : Source} {ds : List Char} (hs : s ≠ .number l) :
      readValue.word letters s ds ≠ (.number l, tail) := by
    unfold readValue.word
    split
    · exact fun h => hs (Prod.mk.inj h).1
    · intro h
      cases (Prod.mk.inj h).1
  cases fuel with
  | zero => cases (Prod.mk.inj h).1
  | succ fuel =>
    rw [readValue] at h
    split at h
    · cases (Prod.mk.inj h).1
    · exact absurd h (hword (by simp))
    · exact absurd h (hword (by simp))
    · exact absurd h (hword (by simp))
    · split at h <;> cases (Prod.mk.inj h).1
    · split at h <;> cases (Prod.mk.inj h).1
    · split at h <;> cases (Prod.mk.inj h).1
    · next heq =>
      rw [heq]
      split at h
      · next hn =>
        obtain ⟨hl, rfl⟩ := Prod.mk.inj h
        obtain rfl := Source.number.inj hl
        exact ⟨_, hn, rfl⟩
      · cases (Prod.mk.inj h).1

theorem decode_eq_ok {α : Type} {d : Decoder α} {s : String} {x : α} : decode d s = .ok x ↔
    d depthLimit (Document.ofText s).root = .ok x ∧ (Document.ofText s).hasTrailing = false := by
  rw [decode]
  cases d depthLimit (Document.ofText s).root with
  | error e => exact ⟨nofun, fun h => nomatch h.1⟩
  | ok y => cases (Document.ofText s).hasTrailing <;> simp

/-- A tree whose value is a float is a number. -/
theorem value_eq_float {depth : ℕ} {s : Source} {x : Double}
    (h : value depth s = .ok (.float x)) : ∃ l, s = .number l ∧ l.value? = some (.float x) := by
  cases s with
  | number l =>
    refine ⟨l, rfl, ?_⟩
    rw [value] at h
    split at h
    · cases Except.ok.inj h
    · next heq =>
      obtain rfl := Json.float.inj (Except.ok.inj h)
      exact heq
    · cases h
  | string s => cases s <;> (rw [value] at h; cases h)
  | array xs =>
    rw [value] at h
    split at h
    · cases h
    · rcases hv : values (depth - 1) xs with _ | _ <;> (rw [hv] at h; cases h)
  | object fs =>
    rw [value] at h
    split at h
    · cases h
    · rcases hv : members (depth - 1) [] fs with _ | _ <;> (rw [hv] at h; cases h)
  | _ => rw [value] at h; cases h

/-- A float whose text alone is read back as the float. -/
def LegibleFloat (x : Double) : Prop := x.isFinite = true ∧ ofText? x.documentText = some (.float x)

/-- The text of such a float is a number literal, all of it. -/
theorem LegibleFloat.exists_literal {x : Double} (h : LegibleFloat x) :
    ∃ l, readNumber? x.documentText.toList = some (l, []) ∧
      (Document.ofText x.documentText).root = .number l ∧ l.value? = some (.float x) := by
  have hdecode : decode value x.documentText = .ok (.float x) := by
    have := h.2
    rw [ofText?] at this
    cases hd : decode value x.documentText with
    | error e => rw [hd] at this; nomatch this
    | ok j => rw [hd] at this; rw [Option.some.inj this]
  have hink := Inked.documentText x
  generalize x.documentText = s at hink hdecode ⊢
  have hskip (cs : List Char) (hcs : Inked cs) : skipSpace cs = cs :=
    List.dropWhile_eq_self_iff.mpr fun hl => by simp [hcs _ (List.getElem_mem hl)]
  obtain ⟨hroot, htrailing⟩ := decode_eq_ok.mp hdecode
  obtain ⟨l, hl, hv⟩ := value_eq_float hroot
  refine ⟨l, ?_, hl, hv⟩
  rw [Document.ofText] at hl htrailing
  rcases hread : readValue (2 * s.toList.length + 2) s.toList with ⟨root, tail⟩
  rw [hread] at hl htrailing
  obtain rfl : root = .number l := by cases tail <;> exact hl
  obtain ⟨more, hnumber, rfl⟩ := readNumber?_of_readValue hread
  rw [hskip _ hink] at hnumber
  have hmore : Inked more := fun c hc => hink c ((readNumber?_suffix hnumber).mem hc)
  have hnil : more = [] := by
    simpa [hskip _ hmore] using htrailing
  rwa [hnil] at hnumber

/-! ### Values -/

mutual

/-- The tree that the text of a value is read as. -/
def source : Json → Source
  | .null => .null
  | .bool b => .bool b
  | .int i => .number (.ofInt i)
  | .float x => (Document.ofText x.documentText).root
  | .str s => .string (some s)
  | .arr items => .array (itemSources items)
  | .obj fields => .object (fieldSources fields)

def itemSources : List Json → List Source
  | [] => []
  | j :: rest => source j :: itemSources rest

def fieldSources : List (String × Json) → List SourceField
  | [] => []
  | (key, j) :: rest => .field (some key) (source j) :: fieldSources rest

end

mutual

/-- Is the text of every float in a value read back? -/
def IsLegible : Json → Prop
  | .float x => LegibleFloat x
  | .arr items => ItemsLegible items
  | .obj fields => FieldsLegible fields
  | _ => True

def ItemsLegible : List Json → Prop
  | [] => True
  | j :: rest => IsLegible j ∧ ItemsLegible rest

def FieldsLegible : List (String × Json) → Prop
  | [] => True
  | (_, j) :: rest => IsLegible j ∧ FieldsLegible rest

end

/-- A number begins with a digit or its sign. -/
theorem readNumber?_head {cs tail : List Char} {l : Literal}
    (h : readNumber? cs = some (l, tail)) :
    ∃ c ds, cs = c :: ds ∧ (c = '-' ∨ isDigit c = true) := by
  cases cs with
  | nil => nomatch h
  | cons c cs =>
    refine ⟨c, cs, rfl, ?_⟩
    by_cases hc : c = '-'
    · exact Or.inl hc
    · rw [readNumber?_digit hc, readUnsigned?, List.takeWhile_cons] at h
      by_contra hd
      have hdigit : ¬ isDigit c = true := fun h => hd (Or.inr h)
      rw [if_neg hdigit] at h
      nomatch h

/-- The text of a legible float is a number before whatever may follow it. -/
theorem LegibleFloat.readValue {x : Double} (h : LegibleFloat x) {rest : List Char} (hr : Ends rest)
    {fuel : ℕ} (hf : 0 < fuel) :
    readValue fuel (x.documentText.toList ++ rest) = (source (.float x), some rest) := by
  obtain ⟨l, hl, halone, -⟩ := h.exists_literal
  obtain ⟨c, cs, hcs, hc⟩ := readNumber?_head hl
  have hrest := hr.readNumber? hl
  rw [hcs, List.cons_append, List.nil_append] at hrest
  obtain ⟨fuel, rfl⟩ := Nat.exists_eq_succ_of_ne_zero hf.ne'
  rw [source, halone, hcs, List.cons_append, readValue_number hc hrest]

theorem readValue_int (i : ℤ) {rest : List Char} (hr : Ends rest) {fuel : ℕ} (hf : 0 < fuel) :
    readValue fuel ((intText i).toList ++ rest) = (source (.int i), some rest) := by
  have hl := readNumber?_intText i
  obtain ⟨c, cs, hcs, hc⟩ := readNumber?_head hl
  have hrest := hr.readNumber? hl
  rw [hcs, List.cons_append, List.nil_append] at hrest
  obtain ⟨fuel, rfl⟩ := Nat.exists_eq_succ_of_ne_zero hf.ne'
  rw [source, hcs, List.cons_append, readValue_number hc hrest]

/-- A value's text begins with no blank and not with the end of an array. -/
theorem text_head {j : Json} (h : j.IsLegible) :
    ∃ c cs, j.text.toList = c :: cs ∧ isSpace c = false ∧ c ≠ ']' := by
  have hnumber {s : String} {l : Literal} (hl : readNumber? s.toList = some (l, [])) :
      ∃ c cs, s.toList = c :: cs ∧ isSpace c = false ∧ c ≠ ']' := by
    obtain ⟨c, cs, hcs, hc⟩ := readNumber?_head hl
    exact ⟨c, cs, hcs, isSpace_of_begins hc, ne_of_begins hc (by decide)⟩
  cases j with
  | null => exact ⟨'n', _, rfl, by decide⟩
  | bool b => cases b <;> exact ⟨_, _, rfl, by decide⟩
  | int i =>
    rw [text]
    exact hnumber (readNumber?_intText i)
  | float x =>
    obtain ⟨l, hl, -⟩ := LegibleFloat.exists_literal h
    rw [text, if_pos h.1]
    exact hnumber hl
  | str s =>
    rw [text, toList_stringText]
    exact ⟨'"', _, rfl, by decide⟩
  | arr items =>
    rw [text, String.toList_append, String.toList_append]
    exact ⟨'[', _, rfl, by decide⟩
  | obj fields =>
    rw [text, String.toList_append, String.toList_append]
    exact ⟨'\x7b', _, rfl, by decide⟩

theorem Ends.comma (rest : List Char) : Ends (',' :: rest) := fun _ h =>
  Or.inl (Option.some.inj h).symm

theorem Ends.bracket (rest : List Char) : Ends (']' :: rest) := fun _ h =>
  Or.inr (Or.inl (Option.some.inj h).symm)

theorem Ends.brace (rest : List Char) : Ends ('\x7d' :: rest) := fun _ h =>
  Or.inr (Or.inr (Option.some.inj h).symm)

theorem skipSpace_cons {c : Char} (h : isSpace c = false) (cs : List Char) :
    skipSpace (c :: cs) = c :: cs := by simp [skipSpace, h]

/-- The text of the value, wherever it stands, is read as its tree. -/
def IsReadBack (j : Json) : Prop :=
  ∀ fuel rest, 2 * j.text.toList.length ≤ fuel → Ends rest →
    readValue fuel (j.text.toList ++ rest) = (j.source, some rest)

theorem toList_itemsText_cons (j k : Json) (items : List Json) :
    (itemsText (j :: k :: items)).toList =
      j.text.toList ++ ',' :: (itemsText (k :: items)).toList := by
  simp [itemsText]

theorem readItems_text {items : List Json} (hne : items ≠ [])
    (h : ∀ j ∈ items, j.IsReadBack) (fuel : ℕ)
    (hf : 2 * (itemsText items).toList.length < fuel) (rest : List Char) :
    readItems fuel ((itemsText items).toList ++ ']' :: rest) = (itemSources items, some rest) := by
  induction items generalizing fuel with
  | nil => exact absurd rfl hne
  | cons j items ih =>
    obtain ⟨fuel, rfl⟩ := Nat.exists_eq_succ_of_ne_zero (by omega : fuel ≠ 0)
    have hj := h j (List.mem_cons_self ..)
    cases items with
    | nil =>
      rw [itemsText] at hf ⊢
      rw [readItems, hj fuel _ (by omega) (Ends.bracket rest)]
      rfl
    | cons k items =>
      rw [toList_itemsText_cons] at hf ⊢
      rw [List.length_append, List.length_cons] at hf
      rw [List.append_assoc, List.cons_append, readItems, hj fuel _ (by omega) (Ends.comma _)]
      have hitems := ih nofun (fun j hj => h j (List.mem_cons_of_mem _ hj)) fuel (by omega)
      exact congrArg (fun r : List Source × Option (List Char) => (j.source :: r.1, r.2)) hitems

/-- The text of the last field. -/
theorem readFields_last {key : String} {j : Json} (hj : j.IsReadBack) {fuel : ℕ}
    (hf : 2 * j.text.toList.length ≤ fuel) (rest : List Char) :
    readFields (fuel + 1) ((stringText key).toList ++ ':' :: (j.text.toList ++ '\x7d' :: rest)) =
      ([.field (some key) j.source], some rest) := by
  rw [toList_stringText, List.cons_append, List.append_assoc, List.cons_append, List.nil_append,
    readFields, skipSpace_cons rfl]
  simp only [readString?_stringText, skipSpace_cons (rfl : isSpace ':' = false),
    hj fuel _ hf (Ends.brace rest), skipSpace_cons (rfl : isSpace '\x7d' = false)]

/-- The text of a field before the others. -/
theorem readFields_next {key : String} {j : Json} (hj : j.IsReadBack) {fuel : ℕ}
    (hf : 2 * j.text.toList.length ≤ fuel) (rest : List Char) :
    readFields (fuel + 1) ((stringText key).toList ++ ':' :: (j.text.toList ++ ',' :: rest)) =
      (.field (some key) j.source :: (readFields fuel rest).1, (readFields fuel rest).2) := by
  rw [toList_stringText, List.cons_append, List.append_assoc, List.cons_append, List.nil_append,
    readFields, skipSpace_cons rfl]
  simp only [readString?_stringText, skipSpace_cons (rfl : isSpace ':' = false),
    hj fuel _ hf (Ends.comma rest), skipSpace_cons (rfl : isSpace ',' = false)]

theorem toList_fieldsText_single (key : String) (j : Json) (ds : List Char) :
    (fieldsText [(key, j)]).toList ++ ds =
      (stringText key).toList ++ ':' :: (j.text.toList ++ ds) := by
  simp [fieldsText]

theorem toList_fieldsText_cons (key : String) (j : Json) (f : String × Json)
    (fields : List (String × Json)) (ds : List Char) :
    (fieldsText ((key, j) :: f :: fields)).toList ++ ds =
      (stringText key).toList ++
        ':' :: (j.text.toList ++ ',' :: ((fieldsText (f :: fields)).toList ++ ds)) := by
  simp [fieldsText]

theorem readFields_text {fields : List (String × Json)} (hne : fields ≠ [])
    (h : ∀ f ∈ fields, f.2.IsReadBack) (fuel : ℕ)
    (hf : 2 * (fieldsText fields).toList.length < fuel) (rest : List Char) :
    readFields fuel ((fieldsText fields).toList ++ '\x7d' :: rest) =
      (fieldSources fields, some rest) := by
  induction fields generalizing fuel with
  | nil => exact absurd rfl hne
  | cons f fields ih =>
    obtain ⟨key, j⟩ := f
    obtain ⟨fuel, rfl⟩ := Nat.exists_eq_succ_of_ne_zero (by omega : fuel ≠ 0)
    have hj : j.IsReadBack := h (key, j) (List.mem_cons_self ..)
    cases fields with
    | nil =>
      have hlength := congrArg List.length (toList_fieldsText_single key j [])
      simp only [List.length_append, List.length_cons, List.length_nil] at hlength
      rw [toList_fieldsText_single, readFields_last hj (by omega)]
      rfl
    | cons f fields =>
      have hlength := congrArg List.length (toList_fieldsText_cons key j f fields [])
      simp only [List.length_append, List.length_cons, List.length_nil] at hlength
      rw [toList_fieldsText_cons, readFields_next hj (by omega),
        ih nofun (fun f hf => h f (List.mem_cons_of_mem _ hf)) fuel (by omega)]
      rfl

/-- A property of values that goes from the parts of a value to the value. -/
@[elab_as_elim]
theorem induction {motive : Json → Prop} (null : motive .null) (bool : ∀ b, motive (.bool b))
    (int : ∀ i, motive (.int i)) (float : ∀ x, motive (.float x)) (str : ∀ s, motive (.str s))
    (arr : ∀ items, (∀ j ∈ items, motive j) → motive (.arr items))
    (obj : ∀ fields, (∀ f ∈ fields, motive f.2) → motive (.obj fields)) (j : Json) : motive j :=
  @Json.rec motive (fun items => ∀ j ∈ items, motive j) (fun fields => ∀ f ∈ fields, motive f.2)
    (fun f => motive f.2) null bool int float str arr obj nofun
    (fun _ _ hj hjs => List.forall_mem_cons.mpr ⟨hj, hjs⟩) nofun
    (fun _ _ hf hfs => List.forall_mem_cons.mpr ⟨hf, hfs⟩) (fun _ _ h => h) j

theorem ItemsLegible.of_mem {items : List Json} (h : ItemsLegible items) :
    ∀ j ∈ items, j.IsLegible := by
  induction items with
  | nil => nofun
  | cons j items ih => exact List.forall_mem_cons.mpr ⟨h.1, ih h.2⟩

theorem FieldsLegible.of_mem {fields : List (String × Json)} (h : FieldsLegible fields) :
    ∀ f ∈ fields, f.2.IsLegible := by
  induction fields with
  | nil => nofun
  | cons f fields ih => exact List.forall_mem_cons.mpr ⟨h.1, ih h.2⟩

/-- Some fuel is always left, because no text is empty. -/
theorem IsReadBack.of_succ {j : Json} (hj : j.IsLegible)
    (h : ∀ fuel rest, 2 * j.text.toList.length ≤ fuel + 1 → Ends rest →
      readValue (fuel + 1) (j.text.toList ++ rest) = (j.source, some rest)) : j.IsReadBack := by
  intro fuel rest hf hr
  obtain ⟨c, cs, hcs, -⟩ := text_head hj
  have hpos : fuel ≠ 0 := by
    rw [hcs, List.length_cons] at hf
    omega
  obtain ⟨fuel, rfl⟩ := Nat.exists_eq_succ_of_ne_zero hpos
  exact h fuel rest hf hr

theorem IsReadBack.arr {items : List Json} (hl : ItemsLegible items)
    (h : ∀ j ∈ items, j.IsReadBack) : (Json.arr items).IsReadBack := by
  have htext (rest : List Char) : (Json.arr items).text.toList ++ rest =
      '[' :: ((itemsText items).toList ++ ']' :: rest) := by simp [text]
  refine IsReadBack.of_succ hl fun fuel rest hf _ => ?_
  have hlength := congrArg List.length (htext [])
  simp only [List.length_append, List.length_cons, List.length_nil] at hlength
  rw [htext, readValue, skipSpace_cons rfl, source]
  cases items with
  | nil => rfl
  | cons j items =>
    have hitems := readItems_text (List.cons_ne_nil j items) h fuel (by omega) rest
    -- the first item does not close the array
    obtain ⟨c, cs, hcs, hspace, hne⟩ := text_head (hl.of_mem j (List.mem_cons_self ..))
    obtain ⟨ds, hds⟩ : ∃ ds, (itemsText (j :: items)).toList ++ ']' :: rest = c :: ds := by
      cases items with
      | nil => exact ⟨_, by rw [itemsText, hcs]; rfl⟩
      | cons k items => exact ⟨_, by rw [toList_itemsText_cons, hcs]; rfl⟩
    rw [hds] at hitems ⊢
    simp only [skipSpace_cons hspace]
    split
    · next heq => exact absurd (List.cons.inj heq).1 hne
    · rw [hitems]

theorem IsReadBack.obj {fields : List (String × Json)} (hl : FieldsLegible fields)
    (h : ∀ f ∈ fields, f.2.IsReadBack) : (Json.obj fields).IsReadBack := by
  have htext (rest : List Char) : (Json.obj fields).text.toList ++ rest =
      '\x7b' :: ((fieldsText fields).toList ++ '\x7d' :: rest) := by simp [text]
  refine IsReadBack.of_succ hl fun fuel rest hf _ => ?_
  have hlength := congrArg List.length (htext [])
  simp only [List.length_append, List.length_cons, List.length_nil] at hlength
  rw [htext, readValue, skipSpace_cons rfl, source]
  cases fields with
  | nil => rfl
  | cons f fields =>
    have hfields := readFields_text (List.cons_ne_nil f fields) h fuel (by omega) rest
    -- the first key does not close the object
    obtain ⟨ds, hds⟩ : ∃ ds, (fieldsText (f :: fields)).toList ++ '\x7d' :: rest = '"' :: ds := by
      cases fields with
      | nil => exact ⟨_, by rw [toList_fieldsText_single, toList_stringText]; rfl⟩
      | cons k fields => exact ⟨_, by rw [toList_fieldsText_cons, toList_stringText]; rfl⟩
    rw [hds] at hfields ⊢
    exact congrArg (fun r : List SourceField × Option (List Char) => (Source.object r.1, r.2))
      hfields

/-- The text of a value is read as the tree of the value. -/
theorem IsLegible.isReadBack {j : Json} (h : j.IsLegible) : j.IsReadBack := by
  induction j using Json.induction with
  | null => exact IsReadBack.of_succ h fun _ _ _ _ => rfl
  | bool b => exact IsReadBack.of_succ h fun _ _ _ _ => by cases b <;> rfl
  | int i => exact IsReadBack.of_succ h fun fuel _ _ hr => readValue_int i hr fuel.succ_pos
  | float x =>
    refine IsReadBack.of_succ h fun fuel rest _ hr => ?_
    rw [text, if_pos h.1]
    exact LegibleFloat.readValue h hr fuel.succ_pos
  | str s =>
    refine IsReadBack.of_succ h fun fuel rest _ _ => ?_
    rw [text, toList_stringText, List.cons_append, readValue, skipSpace_cons rfl, List.append_assoc]
    simp only [List.cons_append, List.nil_append, readString?_stringText]
    rfl
  | arr items ih => exact IsReadBack.arr h fun j hj => ih j hj (ItemsLegible.of_mem h j hj)
  | obj fields ih => exact IsReadBack.obj h fun f hf => ih f hf (FieldsLegible.of_mem h f hf)

/-- A whole text is read as the tree of its value. -/
theorem ofText_text {j : Json} (h : j.IsLegible) : Document.ofText j.text = ⟨j.source, false⟩ := by
  have hread := h.isReadBack (2 * j.text.toList.length + 2) [] (by omega) nofun
  rw [List.append_nil] at hread
  rw [Document.ofText]
  simp only [hread]
  rfl

end SqlGateway.Json
