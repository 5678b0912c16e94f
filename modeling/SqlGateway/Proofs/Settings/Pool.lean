import SqlGateway.Settings.CommandLine

/-! Which options a pool can work with: it has to allow a connection, must not keep more of them open
    than it allows, and has to wait for one. Options are checked as they were given, and what was
    left open is decided later:

        given              checked       a file is opened with    a server with
        nothing            accepted      1 of 1                   1 of 10
        least 5, most 4    refused       5 of 4                   5 of 4
        least 5            accepted      5 of 1                   5 of 10
        least 11           accepted      11 of 1                  11 of 10

    What is refused is usable nowhere. What is accepted allows a connection and waits for one; it
    keeps more open than it allows exactly if the largest number was left open and the least one is
    above the usual largest one. -/

namespace SqlGateway

/-- Can a pool work with the setup? -/
structure PoolSetup.IsUsable (s : PoolSetup) : Prop where
  allows : 1 ≤ s.maxConnections
  keeps : s.minConnections ≤ s.maxConnections
  waits : 0 < s.acquireTimeout

namespace PoolOptions

/-- The most connections of a pool if nothing is said of it. -/
def usualMax : Driver → UInt32
  | .sqlite => defaultMaxFile
  | .postgres | .mysql => defaultMaxNetwork

theorem one_le_usualMax (d : Driver) : 1 ≤ usualMax d := by
  cases d <;> decide

variable (o : PoolOptions) (d : Driver)

/-- Options without a defect: no number that was given is impossible, and the least number of
    connections does not contradict the largest one. -/
theorem defect?_eq_none_iff :
    o.defect? = none ↔ o.maxConnections ≠ some 0 ∧
      (∀ min ∈ o.minConnections, ∀ max ∈ o.maxConnections, min ≤ max) ∧
      o.acquireTimeout ≠ some 0 := by
  obtain ⟨max?, min?, idle?, acquire?, test?⟩ := o
  cases max? with
  | none => cases min? <;> simp [defect?]
  | some max =>
    by_cases hz : max = 0
    · simp [defect?, hz]
    · cases min? with
      | none => simp [defect?, hz]
      | some min =>
        by_cases hlt : max < min
        · simp [defect?, hz, hlt, UInt32.not_le.mpr hlt]
        · simp [defect?, hz, hlt, UInt32.not_lt.mp hlt]

/-! ### What a pool is opened with -/

theorem maxConnections_setup : (o.setup d).maxConnections = o.maxConnections.getD (usualMax d) := by
  cases d <;> rfl

theorem allows_setup_iff : 1 ≤ (o.setup d).maxConnections ↔ o.maxConnections ≠ some 0 := by
  rw [maxConnections_setup]
  cases o.maxConnections with
  | none => simpa using one_le_usualMax d
  | some max =>
    have hm : 1 ≤ max ↔ max ≠ 0 := by
      rw [UInt32.le_iff_toNat_le, ne_eq, ← UInt32.toNat_inj]
      exact Nat.one_le_iff_ne_zero
    simpa using hm

theorem waits_setup_iff : 0 < (o.setup d).acquireTimeout ↔ o.acquireTimeout ≠ some 0 := by
  rw [setup, effectiveAcquire]
  cases o.acquireTimeout with
  | none => simp
  | some seconds => simpa using UInt64.pos_iff_ne_zero

/-- Two numbers contradict each other where both were given, or where the largest one is left open
    and the usual one is too small. -/
theorem keeps_setup_iff (h : 1 ≤ (o.setup d).maxConnections) :
    (o.setup d).minConnections ≤ (o.setup d).maxConnections ↔
      (∀ min ∈ o.minConnections, ∀ max ∈ o.maxConnections, min ≤ max) ∧
      (o.maxConnections = none → ∀ min ∈ o.minConnections, min ≤ usualMax d) := by
  have hmin : (o.setup d).minConnections = o.minConnections.getD 1 := rfl
  rw [maxConnections_setup] at h
  rw [hmin, maxConnections_setup]
  cases o.minConnections with
  | none => simpa using h
  | some min => cases o.maxConnections <;> simp

/-- Only accepted options are usable, and they are unless what was left open gets in the way. -/
theorem isUsable_setup_iff :
    (o.setup d).IsUsable ↔ o.defect? = none ∧
      (o.maxConnections = none → ∀ min ∈ o.minConnections, min ≤ usualMax d) := by
  rw [defect?_eq_none_iff, ← allows_setup_iff o d, ← waits_setup_iff o d]
  constructor
  · rintro ⟨ha, hk, hw⟩
    obtain ⟨hg, hu⟩ := (keeps_setup_iff o d ha).mp hk
    exact ⟨⟨ha, hg, hw⟩, hu⟩
  · rintro ⟨⟨ha, hg, hw⟩, hu⟩
    exact ⟨ha, (keeps_setup_iff o d ha).mpr ⟨hg, hu⟩, hw⟩

/-- With accepted options a pool of every kind allows a connection and waits for one. It is to keep
    more open than it allows exactly if the largest number was left open and the least one was given
    above the usual largest one; else it is usable. -/
theorem accepted_setup (h : o.defect? = none) :
    1 ≤ (o.setup d).maxConnections ∧ 0 < (o.setup d).acquireTimeout ∧
    ((o.setup d).maxConnections < (o.setup d).minConnections ↔
      o.maxConnections = none ∧ ∃ min ∈ o.minConnections, usualMax d < min) := by
  obtain ⟨hz, hg, hw⟩ := (defect?_eq_none_iff o).mp h
  have ha : 1 ≤ (o.setup d).maxConnections := (allows_setup_iff o d).mpr hz
  refine ⟨ha, (waits_setup_iff o d).mpr hw, ?_⟩
  rw [← UInt32.not_le, keeps_setup_iff o d ha, and_iff_right hg]
  simp

/-- Five connections are too many to keep open to a file, and not to a server. -/
theorem accepted_setup_five :
    defect? { minConnections := some 5 } = none ∧
    1 ≤ (setup { minConnections := some 5 } .sqlite).maxConnections ∧
    0 < (setup { minConnections := some 5 } .sqlite).acquireTimeout ∧
    (setup { minConnections := some 5 } .sqlite).maxConnections <
      (setup { minConnections := some 5 } .sqlite).minConnections ∧
    ¬ (setup { minConnections := some 5 } .mysql).maxConnections <
      (setup { minConnections := some 5 } .mysql).minConnections := by
  have hd : defect? { minConnections := some 5 } = none := by decide
  obtain ⟨ha, hw, hk⟩ := accepted_setup { minConnections := some 5 } .sqlite hd
  obtain ⟨-, -, hn⟩ := accepted_setup { minConnections := some 5 } .mysql hd
  refine ⟨hd, ha, hw, hk.mpr ⟨rfl, 5, rfl, by decide⟩, ?_⟩
  rw [hn]
  rintro ⟨-, min, hm, hlt⟩
  obtain rfl : 5 = min := Option.some.inj hm
  exact absurd hlt (by decide)

/-- Eleven connections to keep open, and no word of the largest number: the command line is accepted,
    and the pools that it asks for are usable with no kind of database. -/
theorem accepted_not_isUsable :
    (Settings.read ["--min-connections", "11"] []).map Settings.pool =
      .ok { minConnections := some 11 } ∧
    defect? { minConnections := some 11 } = none ∧
    ∀ d : Driver, ¬ (setup { minConnections := some 11 } d).IsUsable := by
  refine ⟨by rfl, by decide, ?_⟩
  intro d h
  have hu : 11 ≤ usualMax d := ((isUsable_setup_iff _ d).mp h).2 rfl 11 rfl
  revert hu
  cases d <;> decide

end PoolOptions

end SqlGateway
