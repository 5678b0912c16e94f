import SqlGateway.Proofs.Json.Field
import SqlGateway.Query.Document

/-! What a query has of its document. Each where entry of the document is a filter of the query, and
    whether the filter has a value depends on whether the entry has the field, not on what it says:

        {"name":"a"}                   no value
        {"name":"a","value":null}      null
        {"name":"a","value":1}         1

    So the query without its filters of no value is that of the document without these entries. -/

namespace SqlGateway

open Json (Source Isolates)

/-! ### Values -/

namespace Value

variable {depth : ℕ} {v : Source} {j : Json} {x : Value}

theorem ofJson?_eq_null : ofJson? j = some .null ↔ j = .null := by
  cases j with
  | int i =>
    rw [ofJson?]
    split <;> simp
  | _ => simp [ofJson?]

theorem ofJson?_array {items : List Source} (h : Json.value depth (.array items) = .ok j) :
    ofJson? j = none := by
  rw [Json.value] at h
  split at h
  · nomatch h
  · cases hi : Json.values (depth - 1) items with
    | error e => simp [hi, Except.map] at h
    | ok js =>
      rw [hi] at h
      obtain rfl := Except.ok.inj h
      rfl

theorem ofJson?_object {fields : List Json.SourceField}
    (h : Json.value depth (.object fields) = .ok j) : ofJson? j = none := by
  rw [Json.value] at h
  split at h
  · nomatch h
  · cases hf : Json.members (depth - 1) [] fields with
    | error e => simp [hf, Except.map] at h
    | ok members =>
      rw [hf] at h
      obtain rfl := Except.ok.inj h
      rfl

/-- Nothing but `null` is read as null. -/
theorem eq_null_of_value (h : Json.value depth v = .ok .null) : v = .null := by
  cases v with
  | null => rfl
  | number l =>
    rw [Json.value] at h
    rcases hl : l.value? with _ | ⟨i | x⟩ <;> simp [hl] at h
  | string o => cases o <;> nomatch h
  | array items => nomatch ofJson?_array h
  | object fields => nomatch ofJson?_object h
  | broken => nomatch h
  | bool b => nomatch h

/-- A literal is read wherever it stands. -/
theorem value_zero (h : Json.value depth v = .ok j) (hj : ofJson? j = some x) :
    Json.value 0 v = .ok j := by
  cases v with
  | array items => rw [ofJson?_array h] at hj; nomatch hj
  | object fields => rw [ofJson?_object h] at hj; nomatch hj
  | string o => cases o <;> exact h
  | _ => exact h

theorem decoder_eq_ok (h : decoder depth v = .ok x) :
    decoder 0 v = .ok x ∧ (x = .null ↔ v = .null) := by
  obtain ⟨j, hj, hx⟩ := Json.Decoder.filterMap_eq_ok.mp h
  refine ⟨Json.Decoder.filterMap_eq_ok.mpr ⟨j, value_zero hj hx, hx⟩, ?_, ?_⟩
  · rintro rfl
    exact eq_null_of_value (ofJson?_eq_null.mp hx ▸ hj)
  · rintro rfl
    obtain rfl := Except.ok.inj hj
    exact (Option.some.inj hx).symm

end Value

namespace ColumnRef

/-- The value of a column is that of the field, if its document has one. -/
theorem value_of_decoder {depth : ℕ} {s : Source} {c : ColumnRef} (h : decoder depth s = .ok c) :
    Option.Rel (fun v x => Value.decoder 0 v = .ok x ∧ (x = .null ↔ v = .null))
      (s.field? 4 "value") c.value := by
  obtain ⟨⟨below, o, -, hr, rfl⟩, -⟩ := Isolates.record_isolated 4 "value"
    (fun o (c : ColumnRef) => c.value = o) h
    ⟨⟨[_, _, _, _], [], true, rfl, rfl, by
      -- Every slot fills a part of its own.
      simp only [List.append_nil, List.forall_mem_cons]
      refine ⟨?_, ?_, ?_, ?_, nofun⟩
      all_goals exact .of_map (by decide) (fun _ _ => rfl) (fun _ _ => rfl) fun _ _ _ => rfl⟩,
      rfl, ⟨fun _ _ => rfl, fun _ _ _ => rfl⟩⟩
    (fun acc c hc => by
      obtain ⟨name, -, rfl⟩ := Option.map_eq_some_iff.mp hc
      rfl)
  exact Json.rel_imp (fun _ _ => Value.decoder_eq_ok) hr

end ColumnRef

/-! ### Filters -/

/-- Has an entry of a document a value? It is the fifth field of a column. -/
def ColumnRef.hasValue (entry : Source) : Bool := (entry.field? 4 "value").isSome

theorem ColumnRef.hasValue_eq {depth : ℕ} {s : Source} {c : ColumnRef}
    (h : decoder depth s = .ok c) : hasValue s = c.value.isSome := by
  have hr := value_of_decoder h
  rw [hasValue]
  generalize s.field? 4 "value" = v at hr
  generalize c.value = x at hr
  cases hr <;> rfl

namespace Query

/-- Where entries of the document of a query. They are its fifth field. -/
def whereEntries (body : Source) : List Source :=
  match body.field? 4 "where" with
  | some (.array entries) => entries
  | _ => []

/-- An array without its entries that have no value. -/
def keepValued : Source → Source
  | .array entries => .array (entries.filter ColumnRef.hasValue)
  | s => s

/-- The document without its where entries that have no value. -/
def prune (body : Source) : Source := body.modifyField 4 "where" keepValued

/-- A query without its filters of no value. -/
def valued (q : Query) : Query := { q with filters := q.filters.filter (·.value.isSome) }

variable {depth : ℕ} {s : Source} {q : Query}

theorem list_keepValued {v : Source} {cs : List ColumnRef}
    (h : Json.list ColumnRef.decoder depth v = .ok cs) : keepValued v ≠ .broken ∧
      Json.list ColumnRef.decoder depth (keepValued v) = .ok (cs.filter (·.value.isSome)) := by
  obtain ⟨below, entries, rfl, rfl, hr⟩ := Json.list_eq_ok.mp h
  refine ⟨nofun, Json.list_eq_ok.mpr ⟨below, _, rfl, rfl, List.rel_filter ?_ hr⟩⟩
  intro e c hc
  simp only [ColumnRef.hasValue_eq hc]

/-- The filters of a query are the where entries of its document, and without the entries that have
    no value the filters without a value are gone. An entry stands within two containers. -/
theorem filters_of_decoder (h : decoder depth s = .ok q) :
    List.Forall₂ (fun e c => ColumnRef.decoder (depth - 2) e = .ok c) (whereEntries s) q.filters ∧
      decoder depth (prune s) = .ok q.valued := by
  obtain ⟨⟨below, o, rfl, hr, ho⟩, hmodify⟩ := Isolates.record_isolated 4 "where"
    (fun o (q : Query) => q.filters = o.getD []) h
    ⟨⟨[_, _, _, _], [_, _, _], true, rfl, rfl, by
      simp only [List.cons_append, List.nil_append, List.forall_mem_cons]
      refine ⟨?_, ?_, ?_, ?_, ?_, ?_, ?_, nofun⟩
      all_goals exact .of_map (by decide) (fun _ _ => rfl) (fun _ _ => rfl) fun _ _ _ => rfl⟩,
      rfl, ⟨fun _ _ => rfl, fun _ _ _ => rfl⟩⟩
    (fun acc q hq => by
      obtain ⟨kind, -, table, -, hq⟩ := by simpa [bind, Option.bind_eq_some_iff] using hq
      rw [← hq])
  refine ⟨?_, ?_⟩
  · rw [ho, whereEntries]
    generalize s.field? 4 "where" = v at hr
    cases hr with
    | none => exact .nil
    | some hcs =>
      obtain ⟨below, entries, rfl, rfl, hes⟩ := Json.list_eq_ok.mp hcs
      exact hes
  · refine hmodify keepValued (fun cs => cs.filter (·.value.isSome)) valued list_keepValued ?_
    rintro ⟨_ | kind, _ | table, columns, orderBy, _ | cs, limit, offset, allow⟩ hq
    all_goals cases hq <;> rfl

/-! ### Unfiltered writes -/

/-- A query that may go without a condition has a document that says so, in its eighth field. -/
theorem allowUnfiltered_of_decoder (h : decoder depth s = .ok q) (hq : q.allowUnfiltered = true) :
    s.field? 7 "allowUnfiltered" = some (.bool true) := by
  obtain ⟨⟨below, o, -, hr, ho⟩, -⟩ := Isolates.record_isolated 7 "allowUnfiltered"
    (fun o (q : Query) => q.allowUnfiltered = o.getD false) h
    ⟨⟨[_, _, _, _, _, _, _], [], true, rfl, rfl, by
      simp only [List.append_nil, List.forall_mem_cons]
      refine ⟨?_, ?_, ?_, ?_, ?_, ?_, ?_, nofun⟩
      all_goals exact .of_map (by decide) (fun _ _ => rfl) (fun _ _ => rfl) fun _ _ _ => rfl⟩,
      rfl, ⟨fun _ _ => rfl, fun _ _ _ => rfl⟩⟩
    (fun acc q hq => by
      obtain ⟨kind, -, table, -, hq⟩ := by simpa [bind, Option.bind_eq_some_iff] using hq
      rw [← hq])
  rw [hq] at ho
  generalize s.field? 7 "allowUnfiltered" = v at hr
  cases hr with
  | none => nomatch ho
  | some hb => rw [Json.boolean_eq_ok.mp hb, ho]; rfl

end Query

end SqlGateway
