import SqlGateway.Proofs.Query.LevelOrder

/-! The joins of a tree branch by branch, each one followed by all that hangs below it:

        a ─┬─ b ─── d        branch by branch   b, d, c
           └─ c              level by level     b, c, d

    The level order lists the same joins, each of them once, and none before the join that it hangs
    below. -/

namespace SqlGateway

open scoped List

/-! ### Branches -/

namespace JoinTree

mutual

/-- Every join of a tree, branch by branch. -/
def descendants : JoinTree → List Join
  | .node _ joins => branches joins

/-- The joins of a list, each with all that hangs below it. -/
def branches : List Join → List Join
  | [] => []
  | .mk kind conditions table :: rest =>
    .mk kind conditions table :: (descendants table ++ branches rest)

end

/-- Every table of a tree, the root first. -/
def tables (t : JoinTree) : List JoinTree := t :: t.descendants.map Join.table

/-- Apart from their order, branches are the joins themselves and what hangs below them. -/
theorem branches_perm (js : List Join) :
    branches js ~ js ++ (js.map Join.table).flatMap descendants := by
  induction js with
  | nil => rfl
  | cons j js ih =>
    cases j with
    | mk kind conditions t =>
      have hswap : t.descendants ++ (js ++ (js.map Join.table).flatMap descendants) ~
          js ++ (t.descendants ++ (js.map Join.table).flatMap descendants) := by
        rw [← List.append_assoc, ← List.append_assoc]
        exact List.perm_append_comm.append_right _
      exact ((ih.append_left t.descendants).trans hswap).cons _

mutual

theorem length_descendants : ∀ t : JoinTree, t.descendants.length + 1 = t.tableCount
  | .node _ joins => by rw [descendants, tableCount, length_branches joins, Nat.add_comm]

theorem length_branches : ∀ js : List Join, (branches js).length = joinedCount js
  | [] => rfl
  | .mk _ _ table :: rest => by
    rw [branches, joinedCount, List.length_cons, List.length_append, ← length_descendants table,
      length_branches rest]
    omega

end

theorem descendants_perm (t : JoinTree) :
    t.descendants ~ t.joins ++ t.children.flatMap descendants := by
  cases t with
  | node key js => exact branches_perm js

end JoinTree

namespace JoinPlan

open JoinTree (size size_append tableCount_eq descendants descendants_perm)

/-- A queue with a step for every table comes to every join of its trees. -/
theorem flatten_perm {fuel : Nat} {queue : List JoinTree} (h : size queue ≤ fuel) :
    flatten fuel queue ~ queue.flatMap descendants := by
  induction fuel generalizing queue with
  | zero =>
    cases queue with
    | nil => rfl
    | cons t queue =>
      have ht := tableCount_eq t
      rw [size] at h
      omega
  | succ fuel ih =>
    cases queue with
    | nil => rfl
    | cons t queue =>
      have hs : size (queue ++ t.children) ≤ fuel := by
        have ht := tableCount_eq t
        rw [size] at h
        rw [size_append]
        omega
      have hq : flatten fuel (queue ++ t.children) ~
          queue.flatMap descendants ++ t.children.flatMap descendants := by
        rw [← List.flatMap_append]
        exact ih hs
      -- the joins of the head come first, and those of its children after the rest of the queue
      calc t.joins ++ flatten fuel (queue ++ t.children)
          ~ t.joins ++ (t.children.flatMap descendants ++ queue.flatMap descendants) :=
            (hq.trans List.perm_append_comm).append_left _
        _ = (t.joins ++ t.children.flatMap descendants) ++ queue.flatMap descendants :=
            (List.append_assoc ..).symm
        _ ~ t.descendants ++ queue.flatMap descendants :=
            (descendants_perm t).symm.append_right _

end JoinPlan

namespace JoinTree

/-- The level order lists every join of the tree, each of them once. -/
theorem levelOrder_perm (t : JoinTree) : t.levelOrder ~ t.descendants := by
  have hs : size [t] = t.tableCount := by simp [size]
  have h := JoinPlan.flatten_perm (Nat.le_of_eq hs)
  rw [JoinPlan.flatten_root] at h
  simpa using h

theorem length_levelOrder (t : JoinTree) : t.levelOrder.length + 1 = t.tableCount := by
  rw [(levelOrder_perm t).length_eq, length_descendants]

/-- The tables in level order are all tables, each of them once. -/
theorem tables_perm (t : JoinTree) : t :: t.levelOrder.map Join.table ~ t.tables :=
  ((levelOrder_perm t).map Join.table).cons t

/-! ### Parents before children -/

/-- A tree has no more levels than tables. -/
theorem level_tableCount (t : JoinTree) : t.level t.tableCount = [] := by
  have hs : size [t] = t.tableCount := by simp [size]
  have h := (JoinPlan.flatten_size (Nat.le_of_eq hs)).symm.trans
    (JoinPlan.flatten_size (Nat.le_succ_of_le (Nat.le_of_eq hs)))
  rw [List.range_succ, List.flatMap_append, List.self_eq_append_right] at h
  simpa [forest_singleton] using h

/-- Within levels that end, what hangs below a join comes after it. -/
theorem mem_after_of_levels {t : JoinTree} {n start : Nat} {before after : List Join} {j c : Join}
    (hend : t.level (start + n) = [])
    (h : (List.range' start n).flatMap t.level = before ++ j :: after) (hc : c ∈ j.table.joins) :
    c ∈ after := by
  induction n generalizing start before with
  | zero => simp at h
  | succ n ih =>
    have hend' : t.level (start + 1 + n) = [] := by
      rw [← hend]
      congr 1
      omega
    rw [List.range'_succ, List.flatMap_cons, List.append_eq_append_iff] at h
    rcases h with ⟨front, -, h⟩ | ⟨back, hl, h⟩
    · exact ih hend' h
    · cases back with
      | nil =>
        have h' : (List.range' (start + 1) n).flatMap t.level = [] ++ j :: after := h.symm
        exact ih hend' h'
      | cons b back =>
        obtain ⟨rfl, rfl⟩ := List.cons.inj h
        -- the join stands in the level itself, so its children stand in the next one
        have hn : c ∈ t.level (start + 1) := by
          rw [level, hl]
          exact List.mem_flatMap.mpr ⟨j, by simp, hc⟩
        refine List.mem_append_right back (List.mem_flatMap.mpr ⟨start + 1, ?_, hn⟩)
        cases n with
        | zero => simp [hend'] at hn
        | succ n => simp

/-- In level order, what hangs below a join comes after it. -/
theorem mem_after_of_levelOrder {t : JoinTree} {before after : List Join} {j c : Join}
    (h : t.levelOrder = before ++ j :: after) (hc : c ∈ j.table.joins) : c ∈ after := by
  rw [levelOrder, List.range_eq_range'] at h
  exact mem_after_of_levels (by rw [Nat.zero_add, level_tableCount]) h hc

end JoinTree

end SqlGateway
