import SqlGateway.Proofs.Json.Reads
import Mathlib.Data.String.Basic

/-! Documents as a reader gives them: integers have 64 bits, the keys of an object are in order, and
    no more containers stand inside one another than may be opened. Such a document is read back
    from its text, if the texts of its floats are.

        {"b":1,"a":[2],"b":3}   ▶   a ↦ [2], b ↦ 3   ▶   {"a":[2],"b":3}   ▶   the same         -/

namespace SqlGateway.Json

open Number (Double)

/-- Keys in order, each once. -/
def Ordered (fields : List (String × Json)) : Prop := fields.Pairwise fun f g => f.1 < g.1

mutual

/-- Has the value the form that a reader gives to values? -/
def IsCanonical : Json → Prop
  | .int i => -2 ^ 63 ≤ i ∧ i < 2 ^ 64
  | .arr items => ItemsCanonical items
  | .obj fields => Ordered fields ∧ FieldsCanonical fields
  | _ => True

def ItemsCanonical : List Json → Prop
  | [] => True
  | j :: rest => IsCanonical j ∧ ItemsCanonical rest

def FieldsCanonical : List (String × Json) → Prop
  | [] => True
  | (_, j) :: rest => IsCanonical j ∧ FieldsCanonical rest

end

/-! ### Fields in order -/

theorem mem_insertSorted {key : String} {j : Json} {fields : List (String × Json)}
    {f : String × Json} (h : f ∈ insertSorted key j fields) : f = (key, j) ∨ f ∈ fields := by
  induction fields with
  | nil => exact .inl (List.mem_singleton.mp h)
  | cons g fields ih =>
    rw [insertSorted] at h
    grind

theorem Ordered.insertSorted {fields : List (String × Json)} (h : Ordered fields) (key : String)
    (j : Json) : Ordered (insertSorted key j fields) := by
  induction fields with
  | nil => exact List.pairwise_singleton ..
  | cons g fields ih =>
    obtain ⟨hg, hfields⟩ := List.pairwise_cons.mp h
    rw [Json.insertSorted]
    split
    next heq => exact List.pairwise_cons.mpr ⟨fun f hf => heq ▸ hg f hf, hfields⟩
    next hne =>
      split
      next hlt =>
        refine List.pairwise_cons.mpr ⟨fun f hf => ?_, h⟩
        rcases List.mem_cons.mp hf with rfl | hf
        · exact hlt
        · exact hlt.trans (hg f hf)
      next hge =>
        refine List.pairwise_cons.mpr ⟨fun f hf => ?_, ih hfields⟩
        rcases mem_insertSorted hf with rfl | hf
        · exact lt_of_le_of_ne (not_lt.mp hge) (Ne.symm hne)
        · exact hg f hf

/-- A key after all others goes to the end. -/
theorem insertSorted_of_lt {key : String} {j : Json} {fields : List (String × Json)}
    (h : ∀ f ∈ fields, f.1 < key) : insertSorted key j fields = fields ++ [(key, j)] := by
  induction fields with
  | nil => rfl
  | cons g fields ih =>
    obtain ⟨hg, hfields⟩ := List.forall_mem_cons.mp h
    rw [insertSorted, if_neg hg.ne', if_neg hg.asymm, ih hfields]
    rfl

theorem itemsCanonical_iff {items : List Json} :
    ItemsCanonical items ↔ ∀ j ∈ items, j.IsCanonical := by
  induction items with
  | nil => simp [ItemsCanonical]
  | cons j items ih => simp [ItemsCanonical, ih]

theorem itemsNesting_le_iff {items : List Json} {depth : ℕ} :
    itemsNesting items ≤ depth ↔ ∀ j ∈ items, j.nesting ≤ depth := by
  induction items with
  | nil => simp [itemsNesting]
  | cons j items ih => simp [itemsNesting, ih]

theorem fieldsCanonical_iff {fields : List (String × Json)} :
    FieldsCanonical fields ↔ ∀ f ∈ fields, f.2.IsCanonical := by
  induction fields with
  | nil => simp [FieldsCanonical]
  | cons f fields ih => simp [FieldsCanonical, ih]

theorem fieldsNesting_le_iff {fields : List (String × Json)} {depth : ℕ} :
    fieldsNesting fields ≤ depth ↔ ∀ f ∈ fields, f.2.nesting ≤ depth := by
  induction fields with
  | nil => simp [fieldsNesting]
  | cons f fields ih => simp [fieldsNesting, ih]

/-! ### What is read -/

theorem takeDigits_lt {start : ℕ} (h : start < wordCapacity) (taken : ℕ) (cs : List Char) :
    (takeDigits start taken cs).1 < wordCapacity := by
  induction cs generalizing start taken with
  | nil => exact h
  | cons c cs ih =>
    rw [takeDigits]
    split
    next hnext => exact ih hnext _
    next => exact h

/-- An integer is read from at most 64 bits. -/
theorem Literal.value?_int {l : Literal} {i : ℤ} (h : l.value? = some (.int i)) :
    -2 ^ 63 ≤ i ∧ i < 2 ^ 64 := by
  have hlt := takeDigits_lt (by decide : 0 < wordCapacity) 0 l.whole
  rw [wordCapacity_eq] at hlt
  -- whatever is not exact is a float, if it is a value at all
  have hfloat {p q : Prop} [Decidable p] [Decidable q] {x : Double} {o : Option Double}
      {f : Double → Double} (h : (if p then if q then none else some (Numeral.float x)
        else o.map fun y => Numeral.float (f y)) = some (.int i)) : False := by
    split at h
    · split at h <;> cases h
    · obtain ⟨y, -, hy⟩ := Option.map_eq_some_iff.mp h
      cases hy
  rw [value?] at h
  cases hn : l.negative with
  | false =>
    simp only [hn, Bool.false_eq_true, if_false] at h
    split at h
    next =>
      obtain rfl := Numeral.int.inj (Option.some.inj h)
      omega
    next => exact (hfloat h).elim
  | true =>
    simp only [hn, if_true] at h
    split at h
    next hexact =>
      obtain rfl := Numeral.int.inj (Option.some.inj h)
      have hle : (takeDigits 0 0 l.whole).1 ≤ 2 ^ 63 := hexact.2.2.2.2
      omega
    next => exact (hfloat h).elim

mutual

/-- What a value is read as is canonical and nests no deeper than is allowed. -/
theorem value_canonical : ∀ (s : Source) {depth : ℕ} {j : Json}, value depth s = .ok j →
    j.IsCanonical ∧ j.nesting ≤ depth
  | .broken, _, _, h => by rw [value] at h; cases h
  | .null, _, _, h => by rw [value] at h; cases h; exact ⟨trivial, Nat.zero_le _⟩
  | .bool _, _, _, h => by rw [value] at h; cases h; exact ⟨trivial, Nat.zero_le _⟩
  | .number l, _, _, h => by
    rw [value] at h
    split at h
    next i hi =>
      cases h
      exact ⟨Literal.value?_int hi, Nat.zero_le _⟩
    next x hx =>
      cases h
      exact ⟨trivial, Nat.zero_le _⟩
    next => cases h
  | .string (some _), _, _, h => by rw [value] at h; cases h; exact ⟨trivial, Nat.zero_le _⟩
  | .string none, _, _, h => by rw [value] at h; cases h
  | .array xs, depth, _, h => by
    rw [value] at h
    split at h
    · cases h
    next hd =>
      rcases hv : values (depth - 1) xs with e | items <;> rw [hv] at h <;> cases h
      obtain ⟨hc, hn⟩ := values_canonical xs hv
      exact ⟨hc, by rw [nesting]; omega⟩
  | .object fs, depth, _, h => by
    rw [value] at h
    split at h
    · cases h
    next hd =>
      rcases hv : members (depth - 1) [] fs with e | fields <;> rw [hv] at h <;> cases h
      obtain ⟨ho, hc, hn⟩ := members_canonical fs hv List.Pairwise.nil trivial (Nat.zero_le _)
      exact ⟨⟨ho, hc⟩, by rw [nesting]; omega⟩

theorem values_canonical : ∀ (xs : List Source) {depth : ℕ} {items : List Json},
    values depth xs = .ok items → ItemsCanonical items ∧ itemsNesting items ≤ depth
  | [], _, _, h => by rw [values] at h; cases h; exact ⟨trivial, Nat.zero_le _⟩
  | x :: xs, depth, _, h => by
    rw [values] at h
    split at h
    next => cases h
    next j hj =>
      rcases hv : values depth xs with e | items <;> rw [hv] at h <;> cases h
      obtain ⟨hc, hn⟩ := value_canonical x hj
      obtain ⟨hcs, hns⟩ := values_canonical xs hv
      exact ⟨⟨hc, hcs⟩, max_le hn hns⟩

theorem members_canonical : ∀ (fs : List SourceField) {depth : ℕ}
    {acc fields : List (String × Json)}, members depth acc fs = .ok fields → Ordered acc →
    FieldsCanonical acc → fieldsNesting acc ≤ depth →
    Ordered fields ∧ FieldsCanonical fields ∧ fieldsNesting fields ≤ depth
  | [], _, _, _, h, ho, hc, hn => by rw [members] at h; cases h; exact ⟨ho, hc, hn⟩
  | .broken :: _, _, _, _, h, _, _, _ => by rw [members] at h; cases h
  | .field none _ :: _, _, _, _, h, _, _, _ => by rw [members] at h; cases h
  | .field (some key) x :: fs, depth, acc, _, h, ho, hc, hn => by
    rw [members] at h
    split at h
    next => cases h
    next j hj =>
      obtain ⟨hjc, hjn⟩ := value_canonical x hj
      refine members_canonical fs h (ho.insertSorted key j) ?_ ?_
      · refine fieldsCanonical_iff.mpr fun f hf => ?_
        rcases mem_insertSorted hf with rfl | hf
        · exact hjc
        · exact fieldsCanonical_iff.mp hc f hf
      · refine fieldsNesting_le_iff.mpr fun f hf => ?_
        rcases mem_insertSorted hf with rfl | hf
        · exact hjn
        · exact fieldsNesting_le_iff.mp hn f hf

end

/-- What a text is read as is canonical and within the limit of nesting. -/
theorem canonical_of_ofText? {s : String} {j : Json} (h : ofText? s = some j) :
    j.IsCanonical ∧ j.nesting ≤ depthLimit := by
  rcases hd : decode value s with e | k <;> rw [ofText?, hd] at h
  · cases h
  · cases h
    exact value_canonical _ (decode_eq_ok.mp hd).1

/-! ### What is written -/

/-- Ordered fields are read into the place behind those before them. -/
theorem members_fieldSources {depth : ℕ} {acc fields : List (String × Json)}
    (ho : Ordered (acc ++ fields)) (h : ∀ f ∈ fields, value depth f.2.source = .ok f.2) :
    members depth acc (fieldSources fields) = .ok (acc ++ fields) := by
  induction fields generalizing acc with
  | nil => simp [fieldSources, members]
  | cons f fields ih =>
    obtain ⟨hf, hfs⟩ := List.forall_mem_cons.mp h
    obtain ⟨-, -, hlt⟩ := List.pairwise_append.mp ho
    have hacc : ∀ g ∈ acc, g.1 < f.1 := fun g hg => hlt g hg f (List.mem_cons_self ..)
    have hnext : Ordered (acc ++ [(f.1, f.2)] ++ fields) := by simpa [Ordered] using ho
    simp only [fieldSources, members, hf, insertSorted_of_lt hacc, ih hnext hfs]
    simp

theorem values_itemSources {depth : ℕ} {items : List Json}
    (h : ∀ j ∈ items, value depth j.source = .ok j) :
    values depth (itemSources items) = .ok items := by
  induction items with
  | nil => rfl
  | cons j items ih =>
    obtain ⟨hj, hjs⟩ := List.forall_mem_cons.mp h
    simp only [itemSources, values, hj, ih hjs]
    rfl

/-- A canonical document is read back from its text, if the texts of its floats are. -/
theorem Reads.value {j : Json} (hc : j.IsCanonical) (hl : j.IsLegible) : Reads Json.value j j := by
  refine ⟨hl, ?_⟩
  induction j using Json.induction with
  | null => exact fun _ _ => rfl
  | bool b => exact fun _ _ => rfl
  | str s => exact fun _ _ => rfl
  | int i =>
    intro depth _
    rw [source, Json.value, Reads.value?_ofInt hc.1 hc.2]
  | float x =>
    intro depth _
    obtain ⟨l, -, hl, hv⟩ := LegibleFloat.exists_literal hl
    rw [source, hl, Json.value, hv]
  | arr items ih =>
    intro depth hd
    rw [nesting] at hd
    have hitems : values (depth - 1) (itemSources items) = .ok items :=
      values_itemSources fun j hj => ih j hj (itemsCanonical_iff.mp hc j hj)
        (ItemsLegible.of_mem hl j hj) _ (itemsNesting_le_iff.mp (by omega) j hj)
    rw [source, Json.value, if_neg (by omega), hitems]
    rfl
  | obj fields ih =>
    intro depth hd
    rw [nesting] at hd
    have hfields : members (depth - 1) [] (fieldSources fields) = .ok fields :=
      members_fieldSources hc.1 fun f hf => ih f hf (fieldsCanonical_iff.mp hc.2 f hf)
        (FieldsLegible.of_mem hl f hf) _ (fieldsNesting_le_iff.mp (by omega) f hf)
    rw [source, Json.value, if_neg (by omega), hfields]
    rfl

theorem IsCanonical.ofText?_text {j : Json} (hc : j.IsCanonical) (hn : j.nesting ≤ depthLimit)
    (hl : j.IsLegible) : ofText? j.text = some j := by
  rw [ofText?, (Reads.value hc hl).decode hn]
  rfl

end SqlGateway.Json
