import SqlGateway.Query.JoinPlan
import Mathlib.Data.List.Nodup

/-! The join plan is the tree level by level. A queue that starts with the tables of one level ends,
    once they are worked off, with the tables of the next one:

        queue   ts ▸ … ▸ children of ts ▸ … ▸ children of those ▸ … ▸ []
        joins   those of ts      those of their children      …

    so the plan of a tree lists its joins in level order, and there is one exactly if no two tables
    of the tree have the same alias. -/

namespace SqlGateway

namespace JoinTree

/-- The joins at a depth, from left to right. -/
def level (t : JoinTree) : Nat → List Join
  | 0 => t.joins
  | k + 1 => (t.level k).flatMap fun j => j.table.joins

/-- All joins, level by level; a tree has no more levels than tables. -/
def levelOrder (t : JoinTree) : List Join := (List.range t.tableCount).flatMap t.level

/-- The aliases of all tables, the root's first. -/
def aliases (t : JoinTree) : List String :=
  t.aliasName :: t.levelOrder.map fun j => j.table.aliasName

/-- The tables joined to a table. -/
def children (t : JoinTree) : List JoinTree := t.joins.map Join.table

/-- Number of tables of several trees. -/
def size : List JoinTree → Nat
  | [] => 0
  | t :: ts => t.tableCount + size ts

/-- The joins at a depth of several trees side by side. -/
def forest (ts : List JoinTree) : Nat → List Join
  | 0 => ts.flatMap joins
  | k + 1 => (forest ts k).flatMap fun j => j.table.joins

theorem forest_singleton (t : JoinTree) (k : Nat) : forest [t] k = t.level k := by
  induction k with
  | zero => simp [forest, level]
  | succ k ih => rw [forest, level, ih]

/-- One level down, the children take the place of their parents. -/
theorem forest_succ (ts : List JoinTree) (k : Nat) :
    forest ts (k + 1) = forest (ts.flatMap children) k := by
  induction k with
  | zero => simp only [forest, List.flatMap_assoc, children, List.flatMap_map]
  | succ k ih =>
    rw [forest, ih]
    rfl

theorem size_append (ts us : List JoinTree) : size (ts ++ us) = size ts + size us := by
  induction ts with
  | nil => simp [size]
  | cons t ts ih => rw [List.cons_append, size, size, ih, Nat.add_assoc]

theorem joinedCount_eq_size (js : List Join) : joinedCount js = size (js.map Join.table) := by
  induction js with
  | nil => rfl
  | cons j js ih =>
    cases j with
    | mk kind conditions t => rw [joinedCount, ih]; rfl

theorem tableCount_eq (t : JoinTree) : t.tableCount = 1 + size t.children := by
  cases t with
  | node key js => rw [tableCount, joinedCount_eq_size js]; rfl

theorem size_eq (ts : List JoinTree) : size ts = ts.length + size (ts.flatMap children) := by
  induction ts with
  | nil => rfl
  | cons t ts ih =>
    have ht := tableCount_eq t
    rw [size, List.length_cons, List.flatMap_cons, size_append]
    omega

end JoinTree

namespace JoinPlan

open JoinTree (size forest forest_succ forest_singleton size_eq levelOrder)

/-- The joins that a queue of tables comes to. -/
def flatten : Nat → List JoinTree → List Join
  | 0, _ => []
  | _, [] => []
  | fuel + 1, t :: queue => t.joins ++ flatten fuel (queue ++ t.children)

/-- The front of the queue is worked off before what stands behind it, and its children are next. -/
theorem flatten_append (n : Nat) (queue next : List JoinTree) :
    flatten (queue.length + n) (queue ++ next) =
      queue.flatMap JoinTree.joins ++ flatten n (next ++ queue.flatMap JoinTree.children) := by
  induction queue generalizing next with
  | nil => simp
  | cons t queue ih =>
    have hl : (t :: queue).length + n = queue.length + n + 1 := by
      rw [List.length_cons]; omega
    rw [hl, List.cons_append, flatten, List.append_assoc, ih]
    simp only [List.flatMap_cons, List.append_assoc]

/-- A queue with a step for every table comes to the levels of its trees. -/
theorem flatten_size {m : Nat} {ts : List JoinTree} (h : size ts ≤ m) :
    flatten (size ts) ts = (List.range m).flatMap (forest ts) := by
  induction m generalizing ts with
  | zero =>
    rw [Nat.le_zero.mp h]
    rfl
  | succ m ih =>
    have hs := size_eq ts
    have hm : size (ts.flatMap JoinTree.children) ≤ m := by
      cases ts with
      | nil => exact Nat.zero_le m
      | cons t ts => rw [List.length_cons] at hs; omega
    have ha := flatten_append (size (ts.flatMap JoinTree.children)) ts []
    rw [List.append_nil, List.nil_append, ← hs] at ha
    rw [ha, ih hm, List.range_succ_eq_map, List.flatMap_cons, List.flatMap_map,
      ← funext (forest_succ ts)]
    rfl

theorem flatten_root (t : JoinTree) : flatten t.tableCount [t] = t.levelOrder := by
  have hs : size [t] = t.tableCount := by simp [size]
  have h := flatten_size (Nat.le_of_eq hs)
  rw [hs] at h
  rw [h, levelOrder, funext (forest_singleton t)]

/-- The aliases of joins. -/
def joinAliases (js : List Join) : List String := js.map fun j => j.table.aliasName

theorem enter_eq_ok_iff {js : List Join} {taken all : List String} (h : taken.Nodup) :
    enter taken js = .ok all ↔
      (taken ++ joinAliases js).Nodup ∧ all = taken ++ joinAliases js := by
  induction js generalizing taken with
  | nil => simp [enter, joinAliases, h, eq_comm]
  | cons j js ih =>
    have hc : taken ++ joinAliases (j :: js) =
        (taken ++ [j.table.aliasName]) ++ joinAliases js := by simp [joinAliases]
    rw [enter, hc]
    by_cases hm : j.table.aliasName ∈ taken
    · rw [if_pos (List.contains_iff_mem.mpr hm)]
      constructor
      · intro he
        simp at he
      · rintro ⟨hn, -⟩
        have ht : (taken ++ [j.table.aliasName]).Nodup := hn.of_append_left
        exact absurd rfl ((List.nodup_append.mp ht).2.2 _ hm _ (by simp))
    · have ht : (taken ++ [j.table.aliasName]).Nodup := by
        refine List.nodup_append.mpr ⟨h, by simp, ?_⟩
        rintro a ha b hb rfl
        exact hm (List.mem_singleton.mp hb ▸ ha)
      rw [if_neg (by simpa using hm), ih ht]

/-- A walk enters the aliases of the joins that the queue comes to. -/
theorem walk_eq_ok_iff {fuel : Nat} {queue : List JoinTree} {js : List Join}
    {taken : List String} {p : JoinPlan} (h : taken.Nodup) :
    walk fuel queue ⟨js, taken⟩ = .ok p ↔ (taken ++ joinAliases (flatten fuel queue)).Nodup ∧
      p = ⟨js ++ flatten fuel queue, taken ++ joinAliases (flatten fuel queue)⟩ := by
  induction fuel generalizing queue js taken with
  | zero => simp [walk, flatten, joinAliases, h, eq_comm]
  | succ fuel ih =>
    cases queue with
    | nil => simp [walk, flatten, joinAliases, h, eq_comm]
    | cons t queue =>
      have ha : joinAliases (t.joins ++ flatten fuel (queue ++ t.children)) =
          joinAliases t.joins ++ joinAliases (flatten fuel (queue ++ t.children)) := by
        simp [joinAliases]
      rw [walk, flatten, ha, ← List.append_assoc, ← List.append_assoc]
      cases he : enter taken t.joins with
      | error e =>
        constructor
        · intro h
          simp at h
        · rintro ⟨hn, -⟩
          have ho := (enter_eq_ok_iff h).mpr ⟨hn.of_append_left, rfl⟩
          simp [he] at ho
      | ok all =>
        obtain ⟨hn, rfl⟩ := (enter_eq_ok_iff h).mp he
        exact ih hn

/-- A tree has a plan if its aliases are distinct, and the plan is the tree in level order. -/
theorem ofTree_eq_ok_iff {t : JoinTree} {p : JoinPlan} :
    ofTree t = .ok p ↔ t.aliases.Nodup ∧ p = ⟨t.levelOrder, t.aliases⟩ := by
  rw [ofTree, walk_eq_ok_iff (by simp), flatten_root]
  rfl

end JoinPlan

end SqlGateway
