import SqlGateway.Schema.Catalog
import SqlGateway.Proofs.Schema.Runs

/-! Routines that are folded from catalog rows. There is a routine for each run of rows with one
    specific name, so overloads of one name stay apart, and its arguments are those of the run:

        row                       run          routine
        area   area_1  integer    area_1       area (integer, integer)
        area   area_1  integer    .
        area   area_2  numeric    area_2       area (numeric)
        now    now_3   -          now_3        now ()

    Where the rows of every routine stand together, every routine is listed once. -/

namespace SqlGateway

/-- The routine that rows describe together. -/
def routine? (rows : List RoutineRow) : Option Routine :=
  rows.head?.map fun first => ⟨first.name, rows.filterMap (·.argument)⟩

/-- The routine of a row: its name, which overloads share, and its specific name. -/
def RoutineRow.routine (r : RoutineRow) : String × String := (r.name, r.specificName)

namespace RoutineFold

variable {f : RoutineFold} {r : RoutineRow} {last : Routine} {front : List Routine}

theorem push_of_ne (h : f.current ≠ some r.specificName) :
    f.push r = ⟨f.routines ++ [⟨r.name, r.argument.toList⟩], some r.specificName⟩ := by
  rw [push]
  split
  next => rw [if_neg h]
  next hl => rw [List.getLast?_eq_none_iff.mp hl, List.nil_append]

theorem push_of_eq (h : f.current = some r.specificName) (hl : f.routines = front ++ [last]) :
    f.push r = { f with routines :=
      front ++ [{ last with argumentTypes := last.argumentTypes ++ r.argument.toList }] } := by
  rw [push, hl, List.getLast?_concat]
  simp only [if_pos h, List.dropLast_concat]

end RoutineFold

/-- A further row of a routine adds its argument. -/
theorem routine?_concat {rows : List RoutineRow} {f : Routine} (h : routine? rows = some f)
    (r : RoutineRow) : routine? (rows ++ [r]) =
      some { f with argumentTypes := f.argumentTypes ++ r.argument.toList } := by
  obtain ⟨first, hf, rfl⟩ := Option.map_eq_some_iff.mp h
  have hargument : [r].filterMap (·.argument) = r.argument.toList := by
    cases hr : r.argument <;> simp [hr]
  rw [routine?, List.head?_append, hf, Option.some_or, List.filterMap_append, hargument]
  rfl

/-- Routines are folded run by run; the specific name that is remembered is that of the last one. -/
theorem foldsRuns_routines : FoldsRuns (·.specificName) RoutineFold.push RoutineFold.routines
    RoutineFold.current (fun run f => routine? run = some f) where
  start f r h := by
    rw [RoutineFold.push_of_ne h]
    exact ⟨⟨r.name, r.argument.toList⟩, by cases hr : r.argument <;> simp [routine?, hr], rfl, rfl⟩
  extend f r front last run h hl hlast := by
    rw [RoutineFold.push_of_eq h hl]
    exact ⟨_, routine?_concat hlast r, rfl, h⟩

theorem routine?_foldRoutines (rows : List RoutineRow) :
    List.Forall₂ (fun run f => routine? run = some f) (runs (·.specificName) rows)
      (foldRoutines rows) :=
  (foldsRuns_routines.foldl rfl rfl rows).entries

/-- The arguments of all routines are those of all rows, in order. -/
theorem flatMap_argumentTypes (rows : List RoutineRow) :
    (foldRoutines rows).flatMap (·.argumentTypes) = rows.filterMap (·.argument) := by
  have harguments {blocks : List (List RoutineRow)} {routines : List Routine}
      (h : List.Forall₂ (fun run f => routine? run = some f) blocks routines) :
      routines.flatMap (·.argumentTypes) = blocks.flatten.filterMap (·.argument) := by
    induction h with
    | nil => rfl
    | cons hf _ ih =>
      obtain ⟨first, -, rfl⟩ := Option.map_eq_some_iff.mp hf
      rw [List.flatMap_cons, ih, List.flatten_cons, List.filterMap_append]
  rw [harguments (routine?_foldRoutines rows), runs, List.flatten_splitBy]

/-- The routines of rows, in the order of their first rows. -/
def routinesOf (rows : List RoutineRow) : List (String × String) :=
  keysOf RoutineRow.routine rows

/-- There is a routine for each run of rows with one specific name, whatever the order of the rows
    is, and no argument is lost or moved. Where the rows of every routine stand together and a
    specific name is that of one routine only, the routines are listed once each, those without
    arguments too, each with the arguments of its rows. -/
theorem routines_by_runs (rows : List RoutineRow) :
    List.Forall₂ (fun run f => routine? run = some f) (runs (·.specificName) rows)
      (foldRoutines rows) ∧
    (foldRoutines rows).flatMap (·.argumentTypes) = rows.filterMap (·.argument) ∧
    (Contiguous RoutineRow.routine rows →
      (∀ r ∈ rows, ∀ s ∈ rows, r.specificName = s.specificName → r.routine = s.routine) →
      (routinesOf rows).Nodup ∧ (∀ k, k ∈ routinesOf rows ↔ ∃ r ∈ rows, r.routine = k) ∧
      foldRoutines rows = (routinesOf rows).map fun k =>
        ⟨k.1, (rows.filter fun r => r.routine = k).filterMap (·.argument)⟩) := by
  refine ⟨routine?_foldRoutines rows, flatMap_argumentTypes rows, fun hc hs => ⟨nodup_keysOf _ _,
    fun _ => mem_keysOf, ?_⟩⟩
  have hruns : runs (·.specificName) rows = runs RoutineRow.routine rows :=
    runs_congr fun r hr s hs' => ⟨hs r hr s hs', fun h => (Prod.mk.inj h).2⟩
  have hroutine : ∀ k ∈ routinesOf rows, routine? (rows.filter fun r => r.routine = k) =
      some ⟨k.1, (rows.filter fun r => r.routine = k).filterMap (·.argument)⟩ := by
    intro k hk
    obtain ⟨first, hf, hfirst⟩ := exists_head?_filter hk
    rw [routine?, hf, Option.map_some, ← hfirst]
    rfl
  have hfold := routine?_foldRoutines rows
  rw [hruns, runs_eq_groups hc] at hfold
  rw [← filterMap_of_forall₂ hfold, List.filterMap_map]
  refine (List.filterMap_congr hroutine).trans ?_
  rw [List.filterMap_eq_map']

/-- Two overloads of one name and a routine without arguments. -/
theorem routines_by_runs_overloads :
    let rows : List RoutineRow :=
      [⟨"area", "area_1", some "integer"⟩, ⟨"area", "area_1", some "integer"⟩,
        ⟨"area", "area_2", some "numeric"⟩, ⟨"now", "now_3", none⟩]
    Contiguous RoutineRow.routine rows ∧
    (∀ r ∈ rows, ∀ s ∈ rows, r.specificName = s.specificName → r.routine = s.routine) ∧
    routinesOf rows = [("area", "area_1"), ("area", "area_2"), ("now", "now_3")] ∧
    foldRoutines rows = (routinesOf rows).map fun k =>
      ⟨k.1, (rows.filter fun r => r.routine = k).filterMap (·.argument)⟩ := by
  intro rows
  have hc : Contiguous RoutineRow.routine rows := by decide +kernel
  have hs : ∀ r ∈ rows, ∀ s ∈ rows, r.specificName = s.specificName → r.routine = s.routine := by
    decide +kernel
  exact ⟨hc, hs, by decide +kernel, ((routines_by_runs rows).2.2 hc hs).2.2⟩

end SqlGateway
