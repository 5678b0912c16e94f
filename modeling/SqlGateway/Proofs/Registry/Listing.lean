import SqlGateway.Proofs.Registry.Agreement
import Mathlib.Data.List.Permutation
import Mathlib.Data.List.Sort
import Mathlib.Data.Prod.Lex
import Mathlib.Data.String.Basic

/-! Listings of the registry. A listing is sorted by name and then by identifier. Identifiers are
    distinct, so no two entries tie, and only one list of the registered connections is in order:

        handles, in any order      by name, then by identifier
        ("b", 2) ("a", 3)          ("a", 1)
        ("a", 1) ("b", 0)          ("a", 3)
                                   ("b", 0)
                                   ("b", 2)                                                       -/

namespace SqlGateway

variable {σ P : Type}

namespace ConnectionSummary

/-- What a listing is sorted by. -/
def key (a : ConnectionSummary) : Lex (String × String) := toLex (a.info.name, a.id)

/-- The first comes before the second: its name does, or the names are equal and its identifier
    does. -/
def Precedes (a b : ConnectionSummary) : Prop :=
  a.info.name < b.info.name ∨ a.info.name = b.info.name ∧ a.id < b.id

variable {a b : ConnectionSummary}

theorem precedes_iff : a.Precedes b ↔ a.key < b.key := by
  rw [key, key, Prod.Lex.toLex_lt_toLex]
  rfl

instance : Std.Irrefl Precedes := ⟨fun a h => lt_irrefl a.key (precedes_iff.mp h)⟩

instance : Std.Antisymm Precedes :=
  ⟨fun _ _ h h' => absurd (precedes_iff.mp h) (lt_asymm (precedes_iff.mp h'))⟩

theorem listedBefore_iff : Gateway.listedBefore a b = true ↔ a.key ≤ b.key := by
  rw [key, key, Prod.Lex.toLex_le_toLex]
  simp [Gateway.listedBefore]

/-- Where identifiers differ the order is strict. -/
theorem precedes_of_listedBefore (h : Gateway.listedBefore a b = true) (hne : a.id ≠ b.id) :
    a.Precedes b := by
  refine precedes_iff.mpr (lt_of_le_of_ne (listedBefore_iff.mp h) fun he => hne ?_)
  exact congrArg (fun k => (ofLex k).2) he

end ConnectionSummary

namespace Gateway

open ConnectionSummary (listedBefore_iff precedes_of_listedBefore)

variable {g : Gateway σ P} {a : ConnectionSummary}

theorem summaries_perm (g : Gateway σ P) : g.summaries.Perm (g.handles.map Handle.summary) :=
  List.mergeSort_perm _ _

theorem map_id_summaries_perm (g : Gateway σ P) :
    (g.summaries.map ConnectionSummary.id).Perm (g.handles.map Handle.id) := by
  have hp := (summaries_perm g).map ConnectionSummary.id
  rwa [List.map_map] at hp

theorem pairwise_summaries (hd : Distinct g.handles) :
    g.summaries.Pairwise ConnectionSummary.Precedes := by
  have hsorted : g.summaries.Pairwise fun a b => listedBefore a b = true := by
    refine List.pairwise_mergeSort (fun a b c hab hbc => ?_) (fun a b => ?_) _
    · exact listedBefore_iff.mpr ((listedBefore_iff.mp hab).trans (listedBefore_iff.mp hbc))
    · rw [Bool.or_eq_true, listedBefore_iff, listedBefore_iff]
      exact le_total _ _
  have hids : g.summaries.Pairwise fun a b => a.id ≠ b.id :=
    List.pairwise_map.mp ((map_id_summaries_perm g).nodup_iff.mpr hd)
  exact hsorted.imp₂ (fun _ _ => precedes_of_listedBefore) hids

/-- Every registered connection is listed, with the details it has. -/
theorem mem_summaries_iff (hd : Distinct g.handles) :
    a ∈ g.summaries ↔ g.registered a.id = some a.info := by
  rw [(summaries_perm g).mem_iff, List.mem_map, registered, details, Option.map_eq_some_iff]
  constructor
  · rintro ⟨h, hm, rfl⟩
    exact ⟨h, lookup_of_mem hd hm, rfl⟩
  · rintro ⟨h, hl, hi⟩
    refine ⟨h, List.mem_of_find?_eq_some hl, ?_⟩
    rw [Handle.summary, hi, id_of_lookup hl]

theorem registered_perm {hs : List (Handle P)} (hd : Distinct g.handles)
    (hp : hs.Perm g.handles) : Gateway.registered { g with handles := hs } = g.registered := by
  have hd' : Distinct hs := (hp.map Handle.id).nodup_iff.mpr hd
  funext id
  refine Option.ext fun info => ?_
  rw [← mem_summaries_iff (g := { g with handles := hs }) (a := ⟨id, info⟩) hd',
    ← mem_summaries_iff (a := ⟨id, info⟩) hd, (summaries_perm _).mem_iff,
    (summaries_perm _).mem_iff]
  exact (hp.map Handle.summary).mem_iff

/-- A listing has one entry for each registered identifier, with the details that are registered
    now, in the order of names and then of identifiers. It is the only list that has: so another
    order of the handles, or another registry with the same registrations, gives the same one. -/
theorem summaries_by_registrations {g : Gateway σ P} (hd : Distinct g.handles) :
    g.summaries.Pairwise ConnectionSummary.Precedes ∧
    (g.summaries.map ConnectionSummary.id).Nodup ∧
    (∀ a, a ∈ g.summaries ↔ g.registered a.id = some a.info) ∧
    (∀ listing : List ConnectionSummary, listing.Pairwise ConnectionSummary.Precedes →
      (∀ a, a ∈ listing ↔ g.registered a.id = some a.info) → listing = g.summaries) ∧
    (∀ hs, hs.Perm g.handles → Gateway.summaries { g with handles := hs } = g.summaries) ∧
    (∀ (σ' P' : Type) (g' : Gateway σ' P'), Distinct g'.handles → g'.registered = g.registered →
      g'.summaries = g.summaries) := by
  have hsorted := pairwise_summaries hd
  have hmem (a : ConnectionSummary) := mem_summaries_iff (a := a) hd
  have honly (listing : List ConnectionSummary) (hp : listing.Pairwise ConnectionSummary.Precedes)
      (hl : ∀ a, a ∈ listing ↔ g.registered a.id = some a.info) : listing = g.summaries :=
    hp.eq_of_mem_iff hsorted fun a => (hl a).trans (hmem a).symm
  refine ⟨hsorted, (map_id_summaries_perm g).nodup_iff.mpr hd, hmem, honly, fun hs hp => ?_,
    fun σ' P' g' hd' hr => ?_⟩
  · have hd' : Distinct hs := (hp.map Handle.id).nodup_iff.mpr hd
    refine honly _ (pairwise_summaries hd') fun a => ?_
    rw [mem_summaries_iff hd', registered_perm hd hp]
  · refine honly _ (pairwise_summaries hd') fun a => ?_
    rw [mem_summaries_iff hd', hr]

/-- Two connections of one name and a third, one of them open. -/
theorem summaries_by_registrations_shops :
    let north : Handle Nat := ⟨"2", .file "shop" "north.db", none⟩
    let south : Handle Nat := ⟨"1", .file "shop" "south.db", some 7⟩
    let depot : Handle Nat := ⟨"3", .file "depot" "depot.db", none⟩
    let g : Gateway Unit Nat := ⟨(), [north, south, depot]⟩
    Distinct g.handles ∧ [depot, north, south].Perm g.handles ∧
    g.summaries = [depot.summary, south.summary, north.summary] ∧
    Gateway.summaries { g with handles := [depot, north, south] } = g.summaries := by
  intro north south depot g
  have hd : Distinct g.handles := by
    show (g.handles.map Handle.id).Nodup
    decide +kernel
  have hp : [depot, north, south].Perm g.handles := by decide +kernel
  exact ⟨hd, hp, by cbv, (summaries_by_registrations hd).2.2.2.2.1 _ hp⟩

end Gateway

end SqlGateway
