import SqlGateway.Proofs.Json.Printed
import SqlGateway.Query.Document

/-! Decoders that read what is written. A decoder reads a value off a document if it gives the value
    wherever the document stands, as long as its containers may still be opened:

        {"name":"staff","occurrence":1}   ▶   name filled   ▶   occurrence filled   ▶   staff1

    For a record this is put together from its fields. Each stretch of fields takes the record under
    construction from one state to the next; stretches that stand one after the other compose. -/

namespace SqlGateway.Json

/-! ### Nesting -/

mutual

/-- How many containers stand inside one another. -/
def nesting : Json → ℕ
  | .arr items => itemsNesting items + 1
  | .obj fields => fieldsNesting fields + 1
  | _ => 0

def itemsNesting : List Json → ℕ
  | [] => 0
  | j :: rest => max (nesting j) (itemsNesting rest)

def fieldsNesting : List (String × Json) → ℕ
  | [] => 0
  | (_, j) :: rest => max (nesting j) (fieldsNesting rest)

end

theorem fieldsNesting_append (fs gs : List (String × Json)) :
    fieldsNesting (fs ++ gs) = max (fieldsNesting fs) (fieldsNesting gs) := by
  induction fs with
  | nil => simp [fieldsNesting]
  | cons f fs ih => simp [fieldsNesting, ih, max_assoc]

theorem fieldSources_append (fs gs : List (String × Json)) :
    fieldSources (fs ++ gs) = fieldSources fs ++ fieldSources gs := by
  induction fs with
  | nil => rfl
  | cons f fs ih => simp [fieldSources, ih]

theorem fieldsLegible_append {fs gs : List (String × Json)} (hf : FieldsLegible fs)
    (hg : FieldsLegible gs) : FieldsLegible (fs ++ gs) := by
  induction fs with
  | nil => exact hg
  | cons f fs ih => exact ⟨hf.1, ih hf.2⟩

/-! ### Reading -/

/-- The decoder reads the value off the document wherever it stands. -/
structure Reads {α : Type} (d : Decoder α) (j : Json) (x : α) : Prop where
  isLegible : j.IsLegible
  decoder_eq : ∀ depth, j.nesting ≤ depth → d depth j.source = .ok x

/-- A stretch of fields takes a record under construction from one state to another. -/
structure Fills {σ : Type} (slots : List (Slot σ)) (acc : σ) (fields : List (String × Json))
    (next : σ) : Prop where
  isLegible : FieldsLegible fields
  fillFields_eq : ∀ depth, fieldsNesting fields ≤ depth → ∀ rest,
    fillFields slots depth acc (fieldSources fields ++ rest) = fillFields slots depth next rest

namespace Fills

variable {σ : Type} {slots : List (Slot σ)} {acc next : σ} {fields : List (String × Json)}

theorem nil : Fills slots acc [] acc := ⟨trivial, fun _ _ _ => rfl⟩

theorem append {last : σ} {more : List (String × Json)} (h : Fills slots acc fields next)
    (hm : Fills slots next more last) : Fills slots acc (fields ++ more) last where
  isLegible := fieldsLegible_append h.isLegible hm.isLegible
  fillFields_eq depth hd rest := by
    rw [fieldsNesting_append, max_le_iff] at hd
    rw [fieldSources_append, List.append_assoc, h.fillFields_eq depth hd.1,
      hm.fillFields_eq depth hd.2]

variable {key : String} {slot : Slot σ} {α : Type} {d : Decoder α} {set : α → σ}

/-- One field, into a slot that is still empty. -/
theorem field (hs : slots.find? (·.key == key) = some slot) (he : slot.isFilled acc = false)
    (hm : slot.fill acc = d.map set) {j : Json} {x : α} (hr : Reads d j x) :
    Fills slots acc [(key, j)] (set x) where
  isLegible := ⟨hr.isLegible, trivial⟩
  fillFields_eq depth hd rest := by
    rw [fieldsNesting, max_le_iff] at hd
    have hfill : slot.fill acc depth j.source = .ok (set x) := by
      rw [hm, Decoder.map, hr.decoder_eq depth hd.1]
      rfl
    simp only [fieldSources, List.cons_append, List.nil_append, fillFields, hs, he, hfill,
      Bool.false_eq_true, if_false]

/-- A field that stands there if its value does. -/
theorem fieldOf (hs : slots.find? (·.key == key) = some slot) (he : slot.isFilled acc = false)
    (hm : slot.fill acc = d.map set) {β : Type} {f : β → Json} {g : β → α} {o : Option β}
    (hr : ∀ x, o = some x → Reads d (f x) (g x)) :
    Fills slots acc (fieldOf key f o) (o.elim acc fun x => set (g x)) := by
  cases o with
  | none => exact nil
  | some x => exact field hs he hm (hr x rfl)

/-- A field that is left out when its value is the usual one. -/
theorem fieldUnless (hs : slots.find? (·.key == key) = some slot) (he : slot.isFilled acc = false)
    (hm : slot.fill acc = d.map set) {skip : Bool} {j : Json} {x : α}
    (hr : skip = false → Reads d j x) :
    Fills slots acc (fieldUnless skip key j) (if skip then acc else set x) := by
  cases skip with
  | false => exact field hs he hm (hr rfl)
  | true => exact nil

/-- A record is read off its fields. -/
theorem record {empty : σ} {finish : σ → Option α} {x : α} (h : Fills slots empty fields acc)
    (hf : finish acc = some x) : Reads (record slots empty finish) (.obj fields) x where
  isLegible := h.isLegible
  decoder_eq depth hd := by
    rw [nesting] at hd
    obtain ⟨below, rfl⟩ := Nat.exists_eq_add_of_le' (le_of_add_le_right hd)
    have hfill := h.fillFields_eq below (Nat.le_of_add_le_add_right hd) []
    rw [List.append_nil] at hfill
    simp only [source, Json.record, hfill, fillFields, Except.bind, Json.record.done, hf]

end Fills

namespace Reads

theorem string (s : String) : Reads Json.string (.str s) s := ⟨trivial, fun _ _ => rfl⟩

theorem boolean (b : Bool) : Reads Json.boolean (.bool b) b := ⟨trivial, fun _ _ => rfl⟩

theorem name {α : Type} {names : List (String × α)} {s : String} {x : α}
    (h : names.lookup s = some x) : Reads (Json.name names) (.str s) x where
  isLegible := trivial
  decoder_eq depth _ := by
    rw [source]
    simp only [Json.name, name.find, h]

/-- An integer of 64 bits, with or without a sign, is its literal. -/
theorem value?_ofInt {i : ℤ} (hl : -2 ^ 63 ≤ i) (hh : i < 2 ^ 64) :
    (Literal.ofInt i).value? = some (.int i) := by
  rcases (denotes_ofInt i).value? with ⟨h, -⟩ | ⟨h, rfl⟩ | ⟨h, -⟩
  · exact h
  · decide
  · omega

theorem natural {bits n : ℕ} (hb : bits ≤ 64) (hn : n < 2 ^ bits) :
    Reads (Json.natural bits) (.int n) n where
  isLegible := trivial
  decoder_eq depth _ := by
    have h64 : n < 2 ^ 64 := hn.trans_le (Nat.pow_le_pow_right (by norm_num) hb)
    have hfits : (0 : ℤ) ≤ n ∧ (n : ℤ) < (2 ^ bits : ℕ) := by omega
    rw [source, Json.natural, Decoder.filterMap]
    simp only [integer, value?_ofInt (by omega : -2 ^ 63 ≤ (n : ℤ)) (by omega), Nat.pow_eq,
      if_pos hfits, Except.bind, bind, Int.toNat_natCast]
    rfl

/-- A value that is not `null` is read as one that is there. -/
theorem optional {α : Type} {d : Decoder α} {j : Json} {x : α} (h : Reads d j x)
    (hj : j.source ≠ .null) : Reads (Json.optional d) j (some x) where
  isLegible := h.isLegible
  decoder_eq depth hd := by
    have hsome (s : Source) (hs : s ≠ .null) : Json.optional d depth s = (d depth s).map some := by
      cases s <;> first | rfl | exact absurd rfl hs
    rw [hsome _ hj, h.decoder_eq depth hd]
    rfl

theorem items {α : Type} {d : Decoder α} {f : α → Json} {xs : List α}
    (h : ∀ x ∈ xs, Reads d (f x) x) : ItemsLegible (xs.map f) ∧ ∀ depth,
      itemsNesting (xs.map f) ≤ depth → Json.items (d depth) (itemSources (xs.map f)) = .ok xs := by
  induction xs with
  | nil => exact ⟨trivial, fun _ _ => rfl⟩
  | cons x xs ih =>
    obtain ⟨hx, hxs⟩ := List.forall_mem_cons.mp h
    refine ⟨⟨hx.isLegible, (ih hxs).1⟩, fun depth hd => ?_⟩
    rw [List.map_cons, itemsNesting, max_le_iff] at hd
    rw [List.map_cons, itemSources, Json.items, hx.decoder_eq depth hd.1, (ih hxs).2 depth hd.2]
    rfl

/-- A list is read off the documents of its elements. -/
theorem list {α : Type} {d : Decoder α} {f : α → Json} {xs : List α}
    (h : ∀ x ∈ xs, Reads d (f x) x) : Reads (Json.list d) (.arr (xs.map f)) xs where
  isLegible := (items h).1
  decoder_eq depth hd := by
    rw [nesting] at hd
    obtain ⟨below, rfl⟩ := Nat.exists_eq_add_of_le' (le_of_add_le_right hd)
    exact (items h).2 below (Nat.le_of_add_le_add_right hd)

/-- What is read off a document is read off its text. -/
theorem decode {α : Type} {d : Decoder α} {j : Json} {x : α} (h : Reads d j x)
    (hd : j.nesting ≤ depthLimit) : Json.decode d j.text = .ok x := by
  rw [decode_eq_ok, ofText_text h.isLegible]
  exact ⟨h.decoder_eq depthLimit hd, rfl⟩

end Reads

end SqlGateway.Json
