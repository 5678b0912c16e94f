import SqlGateway.Registry.Basic
import SqlGateway.Proofs.Work.Ends
import Mathlib.Data.List.Nodup
import Mathlib.Logic.Function.Basic

/-! Handles under their identifiers. Handles are published, put in the place of others and forgotten
    under an identifier, and each of these changes what is found under that identifier alone:

        publish h      finds h under its identifier
        replace h      finds h under its identifier, if there was a handle
        forget id      finds nothing under id                                                    -/

namespace SqlGateway

variable {σ P : Type}

/-- The handle of an identifier among others. -/
def lookup (hs : List (Handle P)) (id : String) : Option (Handle P) := hs.find? (·.id == id)

/-- The details registered under an identifier. -/
def details (hs : List (Handle P)) (id : String) : Option ConnectionInfo :=
  (lookup hs id).map Handle.info

/-- Put a handle in the place of the one with its identifier. -/
def replace (h : Handle P) (hs : List (Handle P)) : List (Handle P) :=
  hs.map fun old => if old.id = h.id then h else old

/-- Drop the handle of an identifier. -/
def forget (id : String) (hs : List (Handle P)) : List (Handle P) :=
  hs.filter fun old => old.id != id

/-- No two handles have the same identifier. -/
def Distinct (hs : List (Handle P)) : Prop := (hs.map Handle.id).Nodup

theorem Distinct.nil : Distinct ([] : List (Handle P)) := List.nodup_nil

theorem lookup_cons (h : Handle P) (hs : List (Handle P)) (id : String) :
    lookup (h :: hs) id = if id = h.id then some h else lookup hs id := by
  rw [lookup, List.find?_cons]
  by_cases hi : id = h.id
  · simp [hi]
  · simp [hi, beq_eq_false_iff_ne.mpr (Ne.symm hi), lookup]

theorem id_of_lookup {hs : List (Handle P)} {id : String} {h : Handle P}
    (hl : lookup hs id = some h) : h.id = id := by
  simpa using List.find?_some hl

theorem lookup_forget (gone : String) (hs : List (Handle P)) (id : String) :
    lookup (forget gone hs) id = if id = gone then none else lookup hs id := by
  induction hs with
  | nil => simp [forget, lookup]
  | cons h hs ih =>
    rw [forget] at ih ⊢
    by_cases hg : h.id = gone
    · rw [List.filter_cons_of_neg (by simp [hg]), ih, lookup_cons, hg]
      split <;> rfl
    · rw [List.filter_cons_of_pos (by simp [hg]), lookup_cons, lookup_cons, ih]
      by_cases hi : id = h.id
      · rw [if_pos hi, if_neg (hi ▸ hg), if_pos hi]
      · rw [if_neg hi, if_neg hi]

theorem lookup_publish (h : Handle P) (hs : List (Handle P)) (id : String) :
    lookup (publish h hs) id = if id = h.id then some h else lookup hs id := by
  show lookup (h :: forget h.id hs) id = _
  rw [lookup_cons, lookup_forget]
  split <;> rfl

theorem lookup_replace (h : Handle P) (hs : List (Handle P)) (id : String) :
    lookup (replace h hs) id =
      if id = h.id then (lookup hs id).map fun _ => h else lookup hs id := by
  induction hs with
  | nil => simp [replace, lookup]
  | cons old hs ih =>
    have hc : replace h (old :: hs) = (if old.id = h.id then h else old) :: replace h hs := rfl
    rw [hc, lookup_cons, lookup_cons, ih]
    by_cases ho : old.id = h.id
    · rw [if_pos ho, ho]
      split <;> rfl
    · rw [if_neg ho]
      by_cases hi : id = old.id
      · rw [if_pos hi, if_pos hi, if_neg (hi ▸ ho)]
      · rw [if_neg hi, if_neg hi]

/-- A handle is found under its identifier. -/
theorem lookup_of_mem {hs : List (Handle P)} {h : Handle P} (hd : Distinct hs) (hm : h ∈ hs) :
    lookup hs h.id = some h := by
  induction hs with
  | nil => simp at hm
  | cons first hs ih =>
    obtain ⟨hn, hd'⟩ := List.nodup_cons.mp hd
    rw [lookup_cons]
    rcases List.mem_cons.mp hm with rfl | hm
    · rw [if_pos rfl]
    · have hi : h.id ≠ first.id := by
        intro he
        exact hn (he ▸ List.mem_map_of_mem hm)
      rw [if_neg hi]
      exact ih hd' hm

/-! ### Distinct identifiers -/

theorem Distinct.forget {hs : List (Handle P)} (hd : Distinct hs) (id : String) :
    Distinct (forget id hs) := hd.sublist (List.filter_sublist.map Handle.id)

theorem Distinct.publish {hs : List (Handle P)} (hd : Distinct hs) (h : Handle P) :
    Distinct (publish h hs) := by
  refine List.nodup_cons.mpr ⟨?_, hd.forget h.id⟩
  intro hm
  obtain ⟨old, ho, hi⟩ := List.mem_map.mp hm
  have hn := (List.mem_filter.mp ho).2
  simp [hi] at hn

theorem map_id_replace (h : Handle P) (hs : List (Handle P)) :
    (replace h hs).map Handle.id = hs.map Handle.id := by
  rw [replace, List.map_map]
  refine List.map_congr_left fun old _ => ?_
  show (if old.id = h.id then h else old).id = old.id
  split
  · next hi => exact hi.symm
  · rfl

theorem Distinct.replace {hs : List (Handle P)} (hd : Distinct hs) (h : Handle P) :
    Distinct (replace h hs) := by
  rw [Distinct, map_id_replace]
  exact hd

/-! ### Details -/

theorem details_publish (h : Handle P) (hs : List (Handle P)) :
    details (publish h hs) = Function.update (details hs) h.id (some h.info) := by
  funext id
  rw [details, lookup_publish, Function.update_apply]
  split <;> rfl

theorem details_forget (gone : String) (hs : List (Handle P)) :
    details (forget gone hs) = Function.update (details hs) gone none := by
  funext id
  rw [details, lookup_forget, Function.update_apply]
  split <;> rfl

theorem details_replace {h old : Handle P} {hs : List (Handle P)}
    (hl : lookup hs h.id = some old) :
    details (replace h hs) = Function.update (details hs) h.id (some h.info) := by
  funext id
  rw [details, lookup_replace, Function.update_apply]
  split
  · next hi => rw [hi, hl]; rfl
  · rfl

/-- Handles published one after the other. -/
def publishAll (new hs : List (Handle P)) : List (Handle P) :=
  new.foldl (fun hs h => publish h hs) hs

theorem Distinct.publishAll {hs : List (Handle P)} (hd : Distinct hs) (new : List (Handle P)) :
    Distinct (publishAll new hs) := by
  induction new generalizing hs with
  | nil => exact hd
  | cons h new ih => exact ih (hd.publish h)

/-- Under an identifier is what was published under it, or else what was there. -/
theorem lookup_publishAll (new hs : List (Handle P)) (id : String) :
    (∃ h ∈ new, h.id = id ∧ lookup (publishAll new hs) id = some h) ∨
      (∀ h ∈ new, h.id ≠ id) ∧ lookup (publishAll new hs) id = lookup hs id := by
  induction new generalizing hs with
  | nil => exact Or.inr ⟨by simp, rfl⟩
  | cons h new ih =>
    have hc : publishAll (h :: new) hs = publishAll new (publish h hs) := rfl
    rw [hc]
    rcases ih (publish h hs) with ⟨h', hm, hi, hl⟩ | ⟨hn, hl⟩
    · exact Or.inl ⟨h', List.mem_cons_of_mem _ hm, hi, hl⟩
    · rw [hl, lookup_publish]
      by_cases hi : id = h.id
      · exact Or.inl ⟨h, List.mem_cons_self, hi.symm, if_pos hi⟩
      · refine Or.inr ⟨?_, if_neg hi⟩
        rintro h' hm
        rcases List.mem_cons.mp hm with rfl | hm
        · exact Ne.symm hi
        · exact hn h' hm

end SqlGateway
