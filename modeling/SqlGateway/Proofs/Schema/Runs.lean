import Mathlib.Data.List.DropRight
import Mathlib.Data.List.Forall2
import Mathlib.Data.List.SplitBy
import Mathlib.Data.List.Sublists

/-! Runs of a list: maximal stretches of neighbours with one key.

        a a b b b a   ▶   a a | b b b | a

    A fold that looks at its last entry alone, and either extends it by an element or starts a new
    one, has an entry for each run (`FoldsRuns`). Where no key comes back after another one, the
    runs are the groups of the elements by their keys (`runs_eq_groups`). -/

namespace SqlGateway

variable {α β σ κ : Type} {key : α → κ}

/-- Do the elements of every key stand together? Between two of them there is no other one. -/
def Contiguous (key : α → κ) (l : List α) : Prop :=
  ∀ r m s, [r, m, s].Sublist l → key r = key s → key m = key r

theorem Contiguous.sublist {l l' : List α} (h : Contiguous key l) (hs : l'.Sublist l) :
    Contiguous key l' := fun r m s ht => h r m s (ht.trans hs)

variable [DecidableEq κ]

instance (key : α → κ) (l : List α) : Decidable (Contiguous key l) :=
  decidable_of_iff (∀ t ∈ l.sublistsLen 3, ∀ r ∈ t.head?, ∀ s ∈ t.getLast?, key r = key s →
      ∀ m ∈ t, key m = key r) <| by
    constructor
    · intro h r m s ht hk
      exact h _ (List.mem_sublistsLen.mpr ⟨ht, rfl⟩) r rfl s rfl hk m (by simp)
    · intro h t ht r hr s hs hk m hm
      obtain ⟨hsub, hlen⟩ := List.mem_sublistsLen.mp ht
      obtain ⟨x, y, z, rfl⟩ := List.length_eq_three.mp hlen
      obtain rfl : x = r := Option.some.inj hr
      obtain rfl : z = s := Option.some.inj hs
      simp only [List.mem_cons, List.not_mem_nil, or_false] at hm
      rcases hm with rfl | rfl | rfl
      · rfl
      · exact h _ _ _ hsub hk
      · exact hk.symm

/-- The runs of a list, whose elements have one key each. -/
def runs (key : α → κ) (l : List α) : List (List α) := l.splitBy fun a b => key a = key b

/-! ### Runs of longer lists -/

section Append

variable {l l' front run back : List α} {k : κ}

theorem runs_append (h : ∀ r ∈ l.getLast?, ∀ s ∈ l'.head?, key r ≠ key s) :
    runs key (l ++ l') = runs key l ++ runs key l' :=
  List.splitBy_append fun r hr s hs => decide_eq_false (h r hr s hs)

/-- Elements of one key are a run. -/
theorem runs_of_forall (hn : l ≠ []) (h : ∀ r ∈ l, key r = k) : runs key l = [l] := by
  refine List.splitBy_of_isChain hn (List.Pairwise.isChain ?_)
  exact List.pairwise_of_forall_mem_list fun r hr s hs =>
    decide_eq_true ((h r hr).trans (h s hs).symm)

/-- The elements of a key at the end of a list, and what stands before them. -/
theorem exists_split_end (key : α → κ) (k : κ) (l : List α) : ∃ before left, l = before ++ left ∧
    (∀ r ∈ left, key r = k) ∧ ∀ r ∈ before.getLast?, key r ≠ k := by
  refine ⟨l.rdropWhile fun r => key r = k, l.rtakeWhile fun r => key r = k,
    List.rdropWhile_append_rtakeWhile.symm, ?_, ?_⟩
  · intro r hr
    have hp := List.mem_rtakeWhile_imp hr
    exact of_decide_eq_true hp
  · intro r hr hk
    have hne := List.ne_nil_of_mem (List.mem_of_mem_getLast? hr)
    refine List.rdropWhile_last_not _ _ hne ?_
    rw [List.getLast_of_mem_getLast? hr]
    exact decide_eq_true hk

/-- The elements of a key at the beginning of a list, and what stands after them. -/
theorem exists_split_front (key : α → κ) (k : κ) (l : List α) : ∃ right after, l = right ++ after ∧
    (∀ r ∈ right, key r = k) ∧ ∀ r ∈ after.head?, key r ≠ k := by
  obtain ⟨after, right, hl, hright, hafter⟩ := exists_split_end key k l.reverse
  refine ⟨right.reverse, after.reverse, ?_, ?_, ?_⟩
  · rw [← List.reverse_append, ← hl, List.reverse_reverse]
  · exact fun r hr => hright r (List.mem_reverse.mp hr)
  · rwa [List.head?_reverse]

/-- Elements of one key between others are a run. -/
theorem runs_between {before middle after : List α} (hn : middle ≠ [])
    (hm : ∀ r ∈ middle, key r = k) (hb : ∀ r ∈ before.getLast?, key r ≠ k)
    (ha : ∀ r ∈ after.head?, key r ≠ k) :
    runs key (before ++ middle ++ after) = runs key before ++ middle :: runs key after := by
  rw [List.append_assoc, runs_append, runs_append, runs_of_forall hn hm, List.singleton_append]
  · intro r hr s hs he
    exact ha s hs (he.symm.trans (hm r (List.mem_of_mem_getLast? hr)))
  · intro r hr s hs he
    rw [List.head?_append_of_ne_nil _ hn] at hs
    exact hb r hr (he.trans (hm s (List.mem_of_mem_head? hs)))

/-- Elements of one key are in one run, wherever they are put into a list. What else is in it, and
    what the other runs are, does not depend on them; an element of this key right before them is in
    their run. -/
theorem exists_runs_middle (key : α → κ) (k : κ) (front back : List α) :
    ∃ before left right after, (∀ r ∈ front.getLast?, key r = k → r ∈ left.getLast?) ∧
      ∀ run ≠ [], (∀ r ∈ run, key r = k) →
        runs key (front ++ run ++ back) = before ++ (left ++ run ++ right) :: after := by
  obtain ⟨before, left, rfl, hleft, hbefore⟩ := exists_split_end key k front
  obtain ⟨right, after, rfl, hright, hafter⟩ := exists_split_front key k back
  refine ⟨runs key before, left, right, runs key after, fun r hr hk => ?_, fun run hn hrun => ?_⟩
  · cases hl : left.getLast? with
    | none =>
      rw [List.getLast?_eq_none_iff.mp hl, List.append_nil] at hr
      exact absurd hk (hbefore r hr)
    | some s => rwa [List.getLast?_append, hl] at hr
  have hparts : before ++ left ++ run ++ (right ++ after) =
      before ++ (left ++ run ++ right) ++ after := by simp only [List.append_assoc]
  rw [hparts]
  refine runs_between ?_ ?_ hbefore hafter
  · simp [hn]
  · intro r hr
    rw [List.mem_append, List.mem_append] at hr
    rcases hr with (hr | hr) | hr
    · exact hleft r hr
    · exact hrun r hr
    · exact hright r hr

/-- An element of another key than the last one starts a run. -/
theorem runs_concat_of_ne {a : α} (h : ∀ r ∈ l.getLast?, key r ≠ key a) :
    runs key (l ++ [a]) = runs key l ++ [[a]] :=
  runs_append fun r hr _ hs => Option.mem_some.mp hs ▸ h r hr

/-- An element of the key of the last one goes to the last run. -/
theorem runs_concat_of_eq {a r : α} (hr : r ∈ l.getLast?) (h : key r = key a) :
    ∃ rest run, runs key l = rest ++ [run] ∧ runs key (l ++ [a]) = rest ++ [run ++ [a]] := by
  obtain ⟨before, run, rfl, hrun, hbefore⟩ := exists_split_end key (key a) l
  have hne : run ≠ [] := by
    rintro rfl
    rw [List.append_nil] at hr
    exact hbefore r hr h
  refine ⟨runs key before, run, ?_, ?_⟩
  · have hb : runs key (before ++ run ++ []) = _ := runs_between hne hrun hbefore nofun
    rwa [List.append_nil] at hb
  · have hlonger : ∀ s ∈ run ++ [a], key s = key a := List.forall_mem_append.mpr ⟨hrun, by simp⟩
    have hb : runs key (before ++ (run ++ [a]) ++ []) = _ :=
      runs_between (by simp) hlonger hbefore nofun
    rwa [List.append_nil, ← List.append_assoc] at hb

/-- Keys that tell the same elements apart have the same runs. -/
theorem runs_congr {κ' : Type} [DecidableEq κ'] {key' : α → κ'}
    (h : ∀ r ∈ l, ∀ s ∈ l, key r = key s ↔ key' r = key' s) : runs key l = runs key' l := by
  induction l using List.reverseRecOn with
  | nil => rfl
  | append_singleton l a ih =>
    have hl : runs key l = runs key' l :=
      ih fun r hr s hs => h r (List.mem_append_left _ hr) s (List.mem_append_left _ hs)
    have ha : ∀ r ∈ l.getLast?, key r = key a ↔ key' r = key' a := fun r hr =>
      h r (List.mem_append_left _ (List.mem_of_mem_getLast? hr)) a (by simp)
    by_cases hlast : ∃ r ∈ l.getLast?, key r = key a
    · obtain ⟨r, hr, hk⟩ := hlast
      obtain ⟨rest, run, hr₁, hr₂⟩ := runs_concat_of_eq hr hk
      obtain ⟨rest', run', hr₁', hr₂'⟩ := runs_concat_of_eq hr ((ha r hr).mp hk)
      obtain ⟨rfl, hrun⟩ := List.append_inj' (hr₁.symm.trans (hl.trans hr₁')) rfl
      rw [hr₂, hr₂', List.singleton_inj.mp hrun]
    · have hne : ∀ r ∈ l.getLast?, key r ≠ key a := fun r hr hk => hlast ⟨r, hr, hk⟩
      rw [runs_concat_of_ne hne, runs_concat_of_ne fun r hr hk => hne r hr ((ha r hr).mpr hk), hl]

end Append

/-! ### Groups -/

/-- The keys of a list, in the order in which they occur first. -/
def keysOf (key : α → κ) (l : List α) : List κ := (l.map key).eraseDups

theorem mem_keysOf {l : List α} {k : κ} : k ∈ keysOf key l ↔ ∃ r ∈ l, key r = k := by
  rw [keysOf, List.mem_eraseDups, List.mem_map]

theorem nodup_eraseDups (ks : List κ) : ks.eraseDups.Nodup := by
  induction hn : ks.length using Nat.strong_induction_on generalizing ks with
  | _ n ih =>
    cases ks with
    | nil => exact List.nodup_nil
    | cons k ks =>
      have hlt : (ks.filter fun b => !b == k).length < n :=
        hn ▸ Nat.lt_succ_of_le (List.length_filter_le ..)
      rw [List.eraseDups_cons]
      refine List.nodup_cons.mpr ⟨fun hk => ?_, ih _ hlt _ rfl⟩
      have hkk := (List.mem_filter.mp (List.mem_eraseDups.mp hk)).2
      simp at hkk

theorem nodup_keysOf (key : α → κ) (l : List α) : (keysOf key l).Nodup := nodup_eraseDups _

/-- Where the elements of every key stand together, those of the first one stand before all others,
    and it does not come back. -/
theorem Contiguous.exists_front {a : α} {l : List α} (h : Contiguous key (a :: l)) :
    ∃ right after, l = right ++ after ∧ (∀ r ∈ right, key r = key a) ∧
      ∀ s ∈ after, key s ≠ key a := by
  obtain ⟨right, after, rfl, hright, hafter⟩ := exists_split_front key (key a) l
  refine ⟨right, after, rfl, hright, fun s hs hk => ?_⟩
  cases after with
  | nil => nomatch hs
  | cons m after =>
    have hm : key m ≠ key a := hafter m rfl
    rcases List.mem_cons.mp hs with rfl | hs
    · exact hm hk
    · have htwo : [m, s].Sublist (m :: after) := (List.singleton_sublist.mpr hs).cons_cons m
      have hthree : [a, m, s].Sublist (a :: (right ++ m :: after)) :=
        (htwo.trans (List.sublist_append_right right _)).cons_cons a
      exact hm (h a m s hthree hk.symm)

section Front

variable {a : α} {right after : List α} (hright : ∀ r ∈ right, key r = key a)
  (hafter : ∀ s ∈ after, key s ≠ key a)
include hright hafter

/-- A key that does not come back is first among the keys, once. -/
theorem keysOf_front : keysOf key (a :: right ++ after) = key a :: keysOf key after := by
  have hr : (right.map key).filter (fun k => !k == key a) = [] := by simpa using hright
  have ha : (after.map key).filter (fun k => !k == key a) = after.map key := by
    simpa using hafter
  rw [keysOf, List.cons_append, List.map_cons, List.map_append, List.eraseDups_cons,
    List.filter_append, hr, ha, List.nil_append, keysOf]

theorem filter_front : (a :: right ++ after).filter (fun r => key r = key a) = a :: right := by
  have hfirst : ∀ r ∈ a :: right, key r = key a := List.forall_mem_cons.mpr ⟨rfl, hright⟩
  have hnone : ∀ r ∈ after, ¬ (decide (key r = key a) = true) := by simpa using hafter
  rw [List.filter_append, List.filter_eq_self.mpr (by simpa using hfirst),
    List.filter_eq_nil_iff.mpr hnone, List.append_nil]

theorem filter_after {k : κ} (hk : k ∈ keysOf key after) :
    (a :: right ++ after).filter (fun r => key r = k) = after.filter fun r => key r = k := by
  obtain ⟨s, hs, rfl⟩ := mem_keysOf.mp hk
  have hfirst : ∀ r ∈ a :: right, key r = key a := List.forall_mem_cons.mpr ⟨rfl, hright⟩
  have hempty : (a :: right).filter (fun r => key r = key s) = [] :=
    List.filter_eq_nil_iff.mpr fun r hr => by simpa [hfirst r hr] using (hafter s hs).symm
  rw [List.filter_append, hempty, List.nil_append]

end Front

/-- Where the elements of every key stand together, the runs are the groups of the elements by
    their keys, in the order in which the keys occur first. -/
theorem runs_eq_groups {l : List α} (h : Contiguous key l) :
    runs key l = (keysOf key l).map fun k => l.filter fun r => key r = k := by
  induction hn : l.length using Nat.strong_induction_on generalizing l with
  | _ n ih =>
    cases l with
    | nil => rfl
    | cons a l =>
      obtain ⟨right, after, rfl, hright, hafter⟩ := h.exists_front
      have hruns : runs key ([] ++ (a :: right) ++ after) = _ :=
        runs_between (List.cons_ne_nil a right) (List.forall_mem_cons.mpr ⟨rfl, hright⟩) nofun
          fun r hr => hafter r (List.mem_of_mem_head? hr)
      have hlt : after.length < n := by
        rw [← hn, List.length_cons, List.length_append]
        omega
      have hrest : Contiguous key after :=
        h.sublist ((List.sublist_append_right right after).cons a)
      rw [← List.cons_append, keysOf_front hright hafter, List.map_cons,
        filter_front hright hafter, List.map_congr_left fun k hk => filter_after hright hafter hk,
        ← ih _ hlt hrest rfl]
      exact hruns

/-- A group has a first element. -/
theorem exists_head?_filter {l : List α} {k : κ} (h : k ∈ keysOf key l) :
    ∃ first, (l.filter fun r => key r = k).head? = some first ∧ key first = k := by
  obtain ⟨r, hr, hk⟩ := mem_keysOf.mp h
  have hmem : r ∈ l.filter fun r => key r = k := List.mem_filter.mpr ⟨hr, by simpa using hk⟩
  have hhead := List.isSome_head?.mpr (List.ne_nil_of_mem hmem)
  obtain ⟨first, hf⟩ := Option.isSome_iff_exists.mp hhead
  exact ⟨first, hf, by simpa using (List.mem_filter.mp (List.mem_of_mem_head? hf)).2⟩

theorem filterMap_of_forall₂ {f : α → Option β} {as : List α} {bs : List β}
    (h : List.Forall₂ (fun a b => f a = some b) as bs) : as.filterMap f = bs := by
  induction h with
  | nil => rfl
  | cons hab _ ih => rw [List.filterMap_cons_some hab, ih]

/-! ### Folds -/

theorem exists_of_forall₂_concat {R : α → β → Prop} {as : List α} {a : α} {bs : List β}
    (h : List.Forall₂ R (as ++ [a]) bs) : ∃ front b, bs = front ++ [b] ∧ List.Forall₂ R as front ∧
      R a b := by
  induction as generalizing bs with
  | nil =>
    obtain ⟨b, _, hb, hn, rfl⟩ := List.forall₂_cons_left_iff.mp h
    obtain rfl := List.forall₂_nil_left_iff.mp hn
    exact ⟨[], b, rfl, .nil, hb⟩
  | cons c as ih =>
    obtain ⟨d, rest, hd, hrest, rfl⟩ := List.forall₂_cons_left_iff.mp h
    obtain ⟨front, b, rfl, hfront, hb⟩ := ih hrest
    exact ⟨d :: front, b, rfl, .cons hd hfront, hb⟩

/-- A fold that extends its last entry by the elements of one key and starts a new entry with an
    element of another one. `out` are the entries of a state and `current` is the key of the last
    one; `P` says which entry stands for which elements. -/
structure FoldsRuns (key : α → κ) (push : σ → α → σ) (out : σ → List β) (current : σ → Option κ)
    (P : List α → β → Prop) : Prop where
  start : ∀ s a, current s ≠ some (key a) →
    ∃ b, P [a] b ∧ out (push s a) = out s ++ [b] ∧ current (push s a) = some (key a)
  extend : ∀ s a entries b run, current s = some (key a) → out s = entries ++ [b] → P run b →
    ∃ b', P (run ++ [a]) b' ∧ out (push s a) = entries ++ [b'] ∧ current (push s a) = some (key a)

/-- Are the entries of a state those of the runs of a list, in order? -/
structure Follows (key : α → κ) (out : σ → List β) (current : σ → Option κ) (P : List α → β → Prop)
    (l : List α) (s : σ) : Prop where
  entries : List.Forall₂ P (runs key l) (out s)
  current_eq : current s = l.getLast?.map key

namespace FoldsRuns

variable {push : σ → α → σ} {out : σ → List β} {current : σ → Option κ} {P : List α → β → Prop}

theorem step (h : FoldsRuns key push out current P) {l : List α} {s : σ}
    (hs : Follows key out current P l s) (a : α) :
    Follows key out current P (l ++ [a]) (push s a) := by
  have hlast : (l ++ [a]).getLast?.map key = some (key a) := by simp
  by_cases hc : current s = some (key a)
  · obtain ⟨r, hr, hkey⟩ := Option.map_eq_some_iff.mp (hs.current_eq.symm.trans hc)
    obtain ⟨rest, run, hl, hla⟩ := runs_concat_of_eq hr hkey
    have hentries := hs.entries
    rw [hl] at hentries
    obtain ⟨entries, b, hout, hrest, hb⟩ := exists_of_forall₂_concat hentries
    obtain ⟨b', hb', hout', hcur⟩ := h.extend s a entries b run hc hout hb
    refine ⟨?_, hcur.trans hlast.symm⟩
    rw [hla, hout']
    exact List.rel_append hrest (.cons hb' .nil)
  · obtain ⟨b, hb, hout, hcur⟩ := h.start s a hc
    have hne : ∀ r ∈ l.getLast?, key r ≠ key a := by
      intro r hr hk
      rw [hs.current_eq, Option.mem_def.mp hr, Option.map_some, hk] at hc
      exact hc rfl
    refine ⟨?_, hcur.trans hlast.symm⟩
    rw [runs_concat_of_ne hne, hout]
    exact List.rel_append hs.entries (.cons hb .nil)

/-- The entries are those of the runs of what was folded. -/
theorem foldl (h : FoldsRuns key push out current P) {start : σ} (ho : out start = [])
    (hc : current start = none) (l : List α) :
    Follows key out current P l (l.foldl push start) := by
  induction l using List.reverseRecOn with
  | nil => exact ⟨by rw [List.foldl_nil, ho]; exact .nil, hc⟩
  | append_singleton l a ih =>
    rw [List.foldl_append]
    exact h.step ih a

end FoldsRuns

end SqlGateway
