import SqlGateway.Proofs.Json.Printed

/-! Single fields of records. A record is read from an object or from an array of its fields in
    order, so a field is told by its key in the one and by its place in the other:

        {"name":"a","value":1}       key value    ┐
                                                  ├─▶  1
        [null,"a",null,false,1]      place 4      ┘

    Where the other slots of a record neither look at what one slot fills nor change it, the record
    holds there what is read off this field, and a change of the field changes the record there and
    nowhere else. -/

namespace SqlGateway.Json

/-! ### Fields of a text -/

namespace SourceField

/-- The value of a field with the key. -/
def value? (key : String) : SourceField → Option Source
  | .field (some k) v => if k = key then some v else none
  | _ => none

/-- Change the value of a field with the key. -/
def modify (key : String) (f : Source → Source) : SourceField → SourceField
  | .field (some k) v => .field (some k) (if k = key then f v else v)
  | other => other

end SourceField

namespace Source

/-- The field of a record; the first one, if an object has the key more than once. -/
def field? (place : ℕ) (key : String) : Source → Option Source
  | .array items => items[place]?
  | .object fields => fields.findSome? (SourceField.value? key)
  | _ => none

/-- Change the field of a record. -/
def modifyField (place : ℕ) (key : String) (f : Source → Source) : Source → Source
  | .array items => .array (items.modify place f)
  | .object fields => .object (fields.map (SourceField.modify key f))
  | s => s

end Source

/-! ### Steps of a decoder -/

/-- What holds of a value that is there holds of it in a weaker relation. -/
theorem rel_imp {α β : Type} {r r' : α → β → Prop} {a : Option α} {b : Option β}
    (h : ∀ a b, r a b → r' a b) (hr : Option.Rel r a b) : Option.Rel r' a b := by
  cases hr with
  | none => exact .none
  | some hab => exact .some (h _ _ hab)

theorem Decoder.map_eq_ok {α β : Type} {d : Decoder α} {f : α → β} {depth : ℕ} {s : Source}
    {y : β} : d.map f depth s = .ok y ↔ ∃ x, d depth s = .ok x ∧ f x = y := by
  rw [Decoder.map]
  cases d depth s <;> simp [bind, Except.bind, pure, Except.pure]

theorem Decoder.filterMap_eq_ok {α β : Type} {d : Decoder α} {f : α → Option β} {depth : ℕ}
    {s : Source} {y : β} :
    d.filterMap f depth s = .ok y ↔ ∃ x, d depth s = .ok x ∧ f x = some y := by
  rw [Decoder.filterMap]
  cases d depth s with
  | error e => simp [bind, Except.bind]
  | ok x => cases hf : f x <;> simp [bind, Except.bind, pure, Except.pure, throw, throwThe,
      MonadExceptOf.throw, hf]

theorem boolean_eq_ok {depth : ℕ} {s : Source} {b : Bool} :
    boolean depth s = .ok b ↔ s = .bool b := by
  cases s <;> simp [boolean]

theorem items_eq_ok {α : Type} {d : Source → Except Defect α} {sources : List Source}
    {xs : List α} :
    items d sources = .ok xs ↔ List.Forall₂ (fun s x => d s = .ok x) sources xs := by
  induction sources generalizing xs with
  | nil => cases xs <;> simp [items]
  | cons s rest ih =>
    rw [items, List.forall₂_cons_left_iff]
    cases d s with
    | error e => simp [bind, Except.bind]
    | ok x =>
      cases hr : items d rest <;>
        simp [bind, Except.bind, pure, Except.pure, ← ih, hr, eq_comm]

/-- A list is read off an array, item by item. -/
theorem list_eq_ok {α : Type} {d : Decoder α} {depth : ℕ} {s : Source} {xs : List α} :
    list d depth s = .ok xs ↔ ∃ below sources, depth = below + 1 ∧ s = .array sources ∧
      List.Forall₂ (fun s x => d below s = .ok x) sources xs := by
  cases depth <;> cases s <;> simp [list, items_eq_ok]

section Steps

variable {σ : Type} {slots : List (Slot σ)} {slot : Slot σ} {depth : ℕ} {acc out : σ}

/-- A field of an object is skipped or goes into a slot that is still empty. -/
theorem fillFields_cons {field : SourceField} {rest : List SourceField} :
    fillFields slots depth acc (field :: rest) = .ok out ↔ ∃ k v, field = .field (some k) v ∧
      (slots.find? (·.key == k) = none ∧ v.isSkippable = true ∧
          fillFields slots depth acc rest = .ok out ∨
        ∃ slot next, slots.find? (·.key == k) = some slot ∧ slot.isFilled acc = false ∧
          slot.fill acc depth v = .ok next ∧ fillFields slots depth next rest = .ok out) := by
  rcases field with _ | ⟨_ | k, v⟩
  · simp [fillFields]
  · simp [fillFields]
  · cases hf : slots.find? (·.key == k) with
    | none => cases hv : v.isSkippable <;> simp [fillFields, hf, hv, -List.find?_eq_none]
    | some slot =>
      cases he : slot.isFilled acc with
      | true => simp [fillFields, hf, he, -List.find?_eq_none]
      | false =>
        cases hn : slot.fill acc depth v <;>
          simp [fillFields, hf, he, hn, -List.find?_eq_none]

/-- An item of an array goes into the slot at its place. -/
theorem fillItems_cons {v : Source} {more : List Source} :
    fillItems depth (slot :: slots) acc (v :: more) = .ok out ↔ v ≠ .broken ∧
      ∃ next, slot.fill acc depth v = .ok next ∧ fillItems depth slots next more = .ok out := by
  rcases eq_or_ne v .broken with rfl | hv
  · simp [fillItems]
  · cases hn : slot.fill acc depth v <;> simp [fillItems, hv, hn]

/-- An array may end where all slots that are left have a default. -/
theorem fillItems_nil : fillItems depth slots acc [] = .ok out ↔
    (∀ slot ∈ slots, slot.hasDefault = true) ∧ out = acc := by
  induction slots with
  | nil => exact ⟨fun h => ⟨nofun, (Except.ok.inj h).symm⟩, fun h => h.2 ▸ rfl⟩
  | cons slot slots ih => cases hd : slot.hasDefault <;> simp [fillItems, hd, ih]

/-- A record is read off an array or an object. -/
theorem record_eq_ok {α : Type} {empty : σ} {finish : σ → Option α} {s : Source} {x : α} :
    record slots empty finish depth s = .ok x ↔
      ∃ below acc, depth = below + 1 ∧ finish acc = some x ∧
        ((∃ items, s = .array items ∧ fillItems below slots empty items = .ok acc) ∨
          ∃ fields, s = .object fields ∧ fillFields slots below empty fields = .ok acc) := by
  have hdone (acc : σ) : record.done finish acc = .ok x ↔ finish acc = some x := by
    rw [record.done]
    cases finish acc <;> simp
  have hbind (r : Except Defect σ) : r.bind (record.done finish) = .ok x ↔
      ∃ acc, finish acc = some x ∧ r = .ok acc := by
    cases r with
    | error e => simp [Except.bind]
    | ok acc => simp [Except.bind, hdone]
  cases depth <;> cases s <;> simp [record, hbind]

end Steps

/-! ### Slots that leave one another alone -/

section Isolation

variable {σ α β : Type}

/-- A part of a record under construction: what is put there is there, in place of what was. -/
structure IsPart (get : σ → Option β) (set : σ → β → σ) : Prop where
  get_set : ∀ acc b, get (set acc b) = some b
  set_set : ∀ acc b b', set (set acc b) b' = set acc b'

/-- Change a part of a record under construction, if it is there. -/
def modifyPart (get : σ → Option β) (set : σ → β → σ) (g : β → β) (acc : σ) : σ :=
  (get acc).elim acc fun b => set acc (g b)

/-- A slot of another key, which neither looks at a part of the record under construction nor
    changes it. -/
structure Slot.Ignores (slot : Slot σ) (key : String) (get : σ → Option β) (set : σ → β → σ) :
    Prop where
  key_ne : slot.key ≠ key
  isFilled_set : ∀ acc b, slot.isFilled (set acc b) = slot.isFilled acc
  get_fill : ∀ {acc depth v next}, slot.fill acc depth v = .ok next → get next = get acc
  fill_set : ∀ {acc depth v next}, slot.fill acc depth v = .ok next → ∀ b,
    slot.fill (set acc b) depth v = .ok (set next b)

/-- The slot of a key, with a part of the record under construction for itself. -/
def Slot.own (key : String) (hasDefault : Bool) (d : Decoder β) (get : σ → Option β)
    (set : σ → β → σ) : Slot σ :=
  ⟨key, hasDefault, fun acc => (get acc).isSome, fun acc => d.map (set acc)⟩

/-- The slot at a place of a record has a part of it for itself. -/
structure Isolates (slots : List (Slot σ)) (empty : σ) (place : ℕ) (key : String) (d : Decoder β)
    (get : σ → Option β) (set : σ → β → σ) : Prop where
  split : ∃ front back hasDefault, slots = front ++ Slot.own key hasDefault d get set :: back ∧
    front.length = place ∧ ∀ slot ∈ front ++ back, slot.Ignores key get set
  get_empty : get empty = none
  isPart : IsPart get set

variable {slots : List (Slot σ)} {slot : Slot σ} {empty : σ} {place : ℕ} {key : String}
  {d : Decoder β} {get : σ → Option β} {set : σ → β → σ} {g : β → β} {acc out next : σ} {depth : ℕ}

/-- A slot with a decoder of its own ignores what its own part does not touch. -/
theorem Slot.Ignores.of_map {γ : Type} {d : Decoder γ} {isFilled : σ → Bool} {put : σ → γ → σ}
    {k : String} {hasDefault : Bool} (hk : k ≠ key)
    (hf : ∀ acc b, isFilled (set acc b) = isFilled acc)
    (hg : ∀ acc c, get (put acc c) = get acc)
    (hs : ∀ acc b c, put (set acc b) c = set (put acc c) b) :
    Slot.Ignores ⟨k, hasDefault, isFilled, fun acc => d.map (put acc)⟩ key get set where
  key_ne := hk
  isFilled_set := hf
  get_fill h := by
    obtain ⟨c, -, rfl⟩ := Decoder.map_eq_ok.mp h
    exact hg _ c
  fill_set h b := by
    obtain ⟨c, hc, rfl⟩ := Decoder.map_eq_ok.mp h
    exact Decoder.map_eq_ok.mpr ⟨c, hc, hs _ b c⟩

namespace Slot.Ignores

theorem isFilled_update (h : slot.Ignores key get set) :
    slot.isFilled (modifyPart get set g acc) = slot.isFilled acc := by
  rw [modifyPart]
  cases get acc with
  | none => rfl
  | some b => exact h.isFilled_set acc (g b)

theorem fill_update (h : slot.Ignores key get set) {v : Source}
    (hn : slot.fill acc depth v = .ok next) :
    slot.fill (modifyPart get set g acc) depth v = .ok (modifyPart get set g next) := by
  rw [modifyPart, modifyPart, h.get_fill hn]
  cases get acc with
  | none => exact hn
  | some b => exact h.fill_set hn (g b)

end Slot.Ignores

namespace IsPart

theorem update_set (h : IsPart get set) (acc : σ) (b : β) :
    modifyPart get set g (set acc b) = set acc (g b) := by
  rw [modifyPart, h.get_set, Option.elim_some, h.set_set]

theorem set_update (h : IsPart get set) (acc : σ) (b : β) :
    set (modifyPart get set g acc) b = set acc b := by
  rw [modifyPart]
  cases get acc with
  | none => rfl
  | some b' => exact h.set_set acc (g b') b

/-- The slot of a part fills it, whatever stood there before. -/
theorem fill_own (h : IsPart get set) {hasDefault : Bool} {f : Source → Source} {v : Source}
    (hd : ∀ {v b}, d depth v = .ok b → d depth (f v) = .ok (g b))
    (hn : (Slot.own key hasDefault d get set).fill acc depth v = .ok next) :
    (∃ b, d depth v = .ok b ∧ get next = some b) ∧
      (Slot.own key hasDefault d get set).fill (modifyPart get set g acc) depth (f v) =
        .ok (modifyPart get set g next) := by
  obtain ⟨b, hb, rfl⟩ := Decoder.map_eq_ok.mp hn
  refine ⟨⟨b, hb, h.get_set acc b⟩, ?_⟩
  rw [h.update_set, ← h.set_update acc (g b)]
  exact Decoder.map_eq_ok.mpr ⟨g b, hd hb, rfl⟩

end IsPart

namespace Isolates

/-- A key finds the slot itself, none, or another slot. -/
theorem find? (h : Isolates slots empty place key d get set) (k : String) :
    k = key ∧ (∃ hasDefault, slots.find? (·.key == k) = some (.own key hasDefault d get set)) ∨
      k ≠ key ∧ ∀ slot, slots.find? (·.key == k) = some slot → slot.Ignores key get set := by
  obtain ⟨front, back, hasDefault, rfl, -, hother⟩ := h.split
  rcases eq_or_ne k key with rfl | hk
  · have hfront : front.find? (·.key == k) = none := by
      refine List.find?_eq_none.mpr fun slot hs => ?_
      simpa using (hother slot (List.mem_append_left _ hs)).key_ne
    refine Or.inl ⟨rfl, hasDefault, ?_⟩
    rw [List.find?_append, hfront, Option.none_or]
    simp [Slot.own]
  · refine Or.inr ⟨hk, fun slot hs => ?_⟩
    have hkey : slot.key = k := by simpa using List.find?_some hs
    have hm := List.mem_of_find?_eq_some hs
    rw [List.perm_middle.mem_iff, List.mem_cons] at hm
    rcases hm with rfl | hm
    · exact absurd hkey.symm hk
    · exact hother slot hm

/-! ### Objects -/

/-- What is filled stays. -/
theorem get_fillFields (h : Isolates slots empty place key d get set) {b : β}
    {fields : List SourceField} (hb : get acc = some b)
    (hf : fillFields slots depth acc fields = .ok out) : get out = some b := by
  induction fields generalizing acc with
  | nil => exact Except.ok.inj hf ▸ hb
  | cons field rest ih =>
    obtain ⟨k, v, rfl, ⟨-, -, hrest⟩ | ⟨slot, next, hslot, he, hn, hrest⟩⟩ := fillFields_cons.mp hf
    · exact ih hb hrest
    · rcases h.find? k with ⟨rfl, hasDefault, hown⟩ | ⟨-, hother⟩
      · obtain rfl := Option.some.inj (hown.symm.trans hslot)
        simp [Slot.own, hb] at he
      · exact ih ((hother slot hslot).get_fill hn ▸ hb) hrest

/-- The part holds what is read off the field. -/
theorem fillFields_field (h : Isolates slots empty place key d get set)
    {fields : List SourceField} (he : get acc = none)
    (hf : fillFields slots depth acc fields = .ok out) :
    Option.Rel (fun v b => d depth v = .ok b) (fields.findSome? (SourceField.value? key))
      (get out) := by
  -- Up to the field the part is empty; from there on it is filled, and stays so.
  induction fields generalizing acc with
  | nil =>
    rw [← Except.ok.inj hf, he]
    exact .none
  | cons field rest ih =>
    obtain ⟨k, v, rfl, hstep⟩ := fillFields_cons.mp hf
    rcases h.find? k with ⟨rfl, hasDefault, hown⟩ | ⟨hk, hother⟩
    · rw [hown] at hstep
      obtain ⟨hnone, -⟩ | ⟨slot, next, hslot, -, hn, hrest⟩ := hstep
      · nomatch hnone
      · obtain rfl := Option.some.inj hslot
        obtain ⟨b, hb, hget⟩ := (h.isPart.fill_own (g := id) (f := id) id hn).1
        rw [h.get_fillFields hget hrest]
        simpa [SourceField.value?] using Option.Rel.some hb
    · have hskip : (SourceField.field (some k) v).value? key = none := by
        simp [SourceField.value?, hk]
      rw [List.findSome?_cons, hskip]
      obtain ⟨-, -, hrest⟩ | ⟨slot, next, hslot, -, hn, hrest⟩ := hstep
      · exact ih he hrest
      · exact ih ((hother slot hslot).get_fill hn ▸ he) hrest

/-- A change of the field is one of the part. -/
theorem fillFields_modify (h : Isolates slots empty place key d get set) {f : Source → Source}
    (hd : ∀ {v b}, d depth v = .ok b → d depth (f v) = .ok (g b)) {fields : List SourceField}
    (hf : fillFields slots depth acc fields = .ok out) :
    fillFields slots depth (modifyPart get set g acc) (fields.map (SourceField.modify key f)) =
      .ok (modifyPart get set g out) := by
  -- The two runs are in step: the record of the second is that of the first with its part changed.
  induction fields generalizing acc with
  | nil => rw [Except.ok.inj hf]; rfl
  | cons field rest ih =>
    obtain ⟨k, v, rfl, hstep⟩ := fillFields_cons.mp hf
    rw [List.map_cons, SourceField.modify]
    refine fillFields_cons.mpr ⟨k, _, rfl, ?_⟩
    rcases h.find? k with ⟨rfl, hasDefault, hown⟩ | ⟨hk, hother⟩
    · rw [hown] at hstep
      obtain ⟨hnone, -⟩ | ⟨slot, next, hslot, he, hn, hrest⟩ := hstep
      · nomatch hnone
      · obtain rfl := Option.some.inj hslot
        have hnone : get acc = none := by simpa [Slot.own] using he
        have hsame : modifyPart get set g acc = acc := by
          rw [modifyPart, hnone, Option.elim_none]
        rw [if_pos rfl]
        exact Or.inr ⟨_, _, hown, hsame.symm ▸ he, (h.isPart.fill_own hd hn).2, ih hrest⟩
    · rw [if_neg hk]
      obtain ⟨hnone, hv, hrest⟩ | ⟨slot, next, hslot, he, hn, hrest⟩ := hstep
      · exact Or.inl ⟨hnone, hv, ih hrest⟩
      · have hig := hother slot hslot
        exact Or.inr ⟨slot, _, hslot, hig.isFilled_update.trans he, hig.fill_update hn, ih hrest⟩

end Isolates

/-! ### Arrays -/

/-- Slots that ignore a part go through an array whatever the part is. -/
theorem fillItems_ignores (h : ∀ slot ∈ slots, slot.Ignores key get set) {items : List Source}
    (hf : fillItems depth slots acc items = .ok out) : get out = get acc ∧
      fillItems depth slots (modifyPart get set g acc) items = .ok (modifyPart get set g out) := by
  induction slots generalizing acc items with
  | nil =>
    cases items with
    | nil => rw [Except.ok.inj hf]; exact ⟨rfl, rfl⟩
    | cons v more => nomatch hf
  | cons slot slots ih =>
    obtain ⟨hslot, hslots⟩ := List.forall_mem_cons.mp h
    cases items with
    | nil =>
      obtain ⟨hdefault, rfl⟩ := fillItems_nil.mp hf
      exact ⟨rfl, fillItems_nil.mpr ⟨hdefault, rfl⟩⟩
    | cons v more =>
      obtain ⟨hv, next, hn, hrest⟩ := fillItems_cons.mp hf
      obtain ⟨hget, hnext⟩ := ih hslots hrest
      exact ⟨hget.trans (hslot.get_fill hn),
        fillItems_cons.mpr ⟨hv, _, hslot.fill_update hn, hnext⟩⟩

namespace Isolates

/-- The part holds what is read off the item at the place. -/
theorem fillItems_field (h : Isolates slots empty place key d get set) {items : List Source}
    (he : get acc = none) (hf : fillItems depth slots acc items = .ok out) :
    Option.Rel (fun v b => d depth v = .ok b) items[place]? (get out) := by
  -- On the slots in front, as their number is the place.
  obtain ⟨front, back, hasDefault, rfl, rfl, hother⟩ := h.split
  have hset := h.isPart.get_set
  clear h
  induction front generalizing acc items with
  | nil =>
    cases items with
    | nil =>
      rw [(fillItems_nil.mp hf).2, he]
      exact .none
    | cons v more =>
      obtain ⟨-, next, hn, hrest⟩ := fillItems_cons.mp hf
      obtain ⟨b, hb, rfl⟩ := Decoder.map_eq_ok.mp hn
      have hback := (fillItems_ignores (g := id) hother hrest).1
      rw [hback, hset]
      exact .some hb
  | cons slot front ih =>
    rw [List.cons_append, List.forall_mem_cons] at hother
    cases items with
    | nil =>
      rw [(fillItems_nil.mp hf).2, he]
      exact .none
    | cons v more =>
      obtain ⟨-, next, hn, hrest⟩ := fillItems_cons.mp hf
      exact ih (hother.1.get_fill hn ▸ he) hrest hother.2

/-- A change of the item at the place is one of the part. -/
theorem fillItems_modify (h : Isolates slots empty place key d get set) {f : Source → Source}
    (hd : ∀ {v b}, d depth v = .ok b → f v ≠ .broken ∧ d depth (f v) = .ok (g b))
    {items : List Source}
    (hf : fillItems depth slots acc items = .ok out) :
    fillItems depth slots (modifyPart get set g acc) (items.modify place f) =
      .ok (modifyPart get set g out) := by
  obtain ⟨front, back, hasDefault, rfl, rfl, hother⟩ := h.split
  have hp := h.isPart
  clear h
  induction front generalizing acc items with
  | nil =>
    cases items with
    | nil =>
      obtain ⟨hdefault, rfl⟩ := fillItems_nil.mp hf
      exact fillItems_nil.mpr ⟨hdefault, rfl⟩
    | cons v more =>
      obtain ⟨-, next, hn, hrest⟩ := fillItems_cons.mp hf
      obtain ⟨⟨b, hv, -⟩, hn⟩ := hp.fill_own (fun hv => (hd hv).2) hn
      have hback := (fillItems_ignores (g := g) hother hrest).2
      exact fillItems_cons.mpr ⟨(hd hv).1, _, hn, hback⟩
  | cons slot front ih =>
    rw [List.cons_append, List.forall_mem_cons] at hother
    cases items with
    | nil =>
      obtain ⟨hdefault, rfl⟩ := fillItems_nil.mp hf
      exact fillItems_nil.mpr ⟨hdefault, rfl⟩
    | cons v more =>
      obtain ⟨hv, next, hn, hrest⟩ := fillItems_cons.mp hf
      exact fillItems_cons.mpr ⟨hv, _, hother.1.fill_update hn, ih hrest hother.2⟩

/-! ### Records -/

variable {finish : σ → Option α} {s : Source} {x : α}

theorem record_field (h : Isolates slots empty place key d get set) {P : Option β → α → Prop}
    (hx : record slots empty finish depth s = .ok x)
    (hfinish : ∀ acc x, finish acc = some x → P (get acc) x) : ∃ below o, depth = below + 1 ∧
      Option.Rel (fun v b => d below v = .ok b) (s.field? place key) o ∧ P o x := by
  obtain ⟨below, acc, rfl, hacc, ⟨items, rfl, hi⟩ | ⟨fields, rfl, hf⟩⟩ := record_eq_ok.mp hx
  · exact ⟨below, _, rfl, h.fillItems_field h.get_empty hi, hfinish acc x hacc⟩
  · exact ⟨below, _, rfl, h.fillFields_field h.get_empty hf, hfinish acc x hacc⟩

theorem record_modify (h : Isolates slots empty place key d get set) {f : Source → Source}
    {k : α → α} (hx : record slots empty finish depth s = .ok x)
    (hd : ∀ {below v b}, d below v = .ok b → f v ≠ .broken ∧ d below (f v) = .ok (g b))
    (hfinish : ∀ acc, finish acc = some x → finish (modifyPart get set g acc) = some (k x)) :
    record slots empty finish depth (s.modifyField place key f) = .ok (k x) := by
  have hempty : modifyPart get set g empty = empty := by
    rw [modifyPart, h.get_empty, Option.elim_none]
  obtain ⟨below, acc, rfl, hacc, ⟨items, rfl, hi⟩ | ⟨fields, rfl, hf⟩⟩ := record_eq_ok.mp hx
  · have hi := h.fillItems_modify hd hi
    rw [hempty] at hi
    exact record_eq_ok.mpr ⟨below, _, rfl, hfinish acc hacc, Or.inl ⟨_, rfl, hi⟩⟩
  · have hf := h.fillFields_modify (fun hv => (hd hv).2) hf
    rw [hempty] at hf
    exact record_eq_ok.mpr ⟨below, _, rfl, hfinish acc hacc, Or.inr ⟨_, rfl, hf⟩⟩

/-- What a record has of a field is what is read off it, and a change of the field is one of this
    alone. -/
theorem record_isolated (place : ℕ) (key : String) (P : Option β → α → Prop)
    (hx : record slots empty finish depth s = .ok x)
    (h : Isolates slots empty place key d get set)
    (hfinish : ∀ acc x, finish acc = some x → P (get acc) x) :
    (∃ below o, depth = below + 1 ∧
      Option.Rel (fun v b => d below v = .ok b) (s.field? place key) o ∧ P o x) ∧
    ∀ (f : Source → Source) (g : β → β) (k : α → α),
      (∀ {below v b}, d below v = .ok b → f v ≠ .broken ∧ d below (f v) = .ok (g b)) →
      (∀ acc, finish acc = some x → finish (modifyPart get set g acc) = some (k x)) →
      record slots empty finish depth (s.modifyField place key f) = .ok (k x) :=
  ⟨h.record_field hx hfinish, fun _ _ _ hd hk => h.record_modify hx hd hk⟩

end Isolates

end Isolation

end SqlGateway.Json
