import SqlGateway.Proofs.Query.Binding
import Mathlib.Data.String.Basic

/-! Aliases after the server has cut them. PostgreSQL keeps 63 bytes of a name, or up to three fewer
    where a character would be cut in two, and drops the rest without a word:

        xx…x 1      ┐
                    ├─▶  xx…x     63 bytes, so the number of the occurrence is gone
        xx…x 2      ┘

    The labels of a select are known to fit, and a label is longer than the alias it begins with, so
    a table that something is projected of keeps its alias. The other ones may lose a part of it,
    and then two aliases may become one. That takes a name of more than 53 bytes. -/

namespace SqlGateway

open Statement
open String (utf8Len utf8Len_cons utf8Len_append utf8Len_nil utf8ByteSize_ofList)

/-! ### Cutting -/

namespace Text

/-- The characters of a text that fit into a number of bytes, up to the first that does not. -/
def keep : ℕ → List Char → List Char
  | _, [] => []
  | n, c :: cs => if c.utf8Size ≤ n then c :: keep (n - c.utf8Size) cs else []

variable {n : ℕ} {cs : List Char}

theorem prefix_keep {p : List Char} (hp : p <+: cs) (h : utf8Len p ≤ n) : p <+: keep n cs := by
  induction cs generalizing n p with
  | nil => rwa [keep]
  | cons c cs ih =>
    cases p with
    | nil => exact List.nil_prefix
    | cons a p =>
      obtain ⟨rfl, hrest⟩ := List.cons_prefix_cons.mp hp
      rw [utf8Len_cons] at h
      rw [keep, if_pos (by omega)]
      exact (List.prefix_cons_inj a).mpr (ih hrest (by omega))

/-- It is the longest beginning of the text that fits. -/
theorem keep_longest (n : ℕ) (cs : List Char) : keep n cs <+: cs ∧ utf8Len (keep n cs) ≤ n ∧
    ∀ p, p <+: cs → utf8Len p ≤ n → p <+: keep n cs := by
  refine ⟨?_, ?_, fun p => prefix_keep⟩
  · induction cs generalizing n with
    | nil => exact List.prefix_rfl
    | cons c cs ih =>
      rw [keep]
      split
      · exact (List.prefix_cons_inj c).mpr (ih _)
      · exact List.nil_prefix
  · induction cs generalizing n with
    | nil => exact Nat.zero_le n
    | cons c cs ih =>
      rw [keep]
      split
      · have := ih (n - c.utf8Size)
        rw [utf8Len_cons]
        omega
      · exact Nat.zero_le n

/-- A text that fits is kept. -/
theorem keep_of_le (h : utf8Len cs ≤ n) : keep n cs = cs := by
  obtain ⟨hp, -, hlongest⟩ := keep_longest n cs
  exact hp.eq_of_length_le (hlongest cs List.prefix_rfl h).length_le

/-- Of a text that does not fit, all is kept but less than one character. -/
theorem le_utf8Len_keep (h : n < utf8Len cs) : n ≤ utf8Len (keep n cs) + 3 := by
  induction cs generalizing n with
  | nil => nomatch h
  | cons c cs ih =>
    have hc := c.utf8Size_le_four
    rw [utf8Len_cons] at h
    rw [keep]
    split
    · have := ih (n := n - c.utf8Size) (by omega)
      rw [utf8Len_cons]
      omega
    · omega

end Text

namespace Dialect

/-- What the server keeps of a name. -/
def kept (d : Dialect) (name : String) : String :=
  match d.maxIdentifierLength with
  | some n => String.ofList (Text.keep n name.toList)
  | none => name

theorem utf8Len_toList (s : String) : utf8Len s.toList = s.utf8ByteSize := by
  rw [← utf8ByteSize_ofList, String.ofList_toList]

theorem toList_kept (name : String) :
    (postgres.kept name).toList = Text.keep 63 name.toList := String.toList_ofList

theorem kept_of_le {name : String} (h : name.utf8ByteSize ≤ 63) : postgres.kept name = name := by
  rw [← String.toList_inj, toList_kept]
  exact Text.keep_of_le (by rwa [utf8Len_toList])

theorem utf8ByteSize_kept {name : String} (h : 63 < name.utf8ByteSize) :
    60 ≤ (postgres.kept name).utf8ByteSize := by
  rw [← utf8Len_toList] at h
  have := Text.le_utf8Len_keep h
  rw [← utf8Len_toList, toList_kept]
  omega

end Dialect

/-! ### Sizes of aliases -/

namespace TableKey

theorem utf8Len_mark (k : TableKey) : utf8Len k.mark ≤ 10 := by
  have hlen (cs : List Char) (h : ∀ c ∈ cs, c.isDigit = true) : utf8Len cs = cs.length := by
    induction cs with
    | nil => rfl
    | cons c cs ih =>
      obtain ⟨hc, hcs⟩ := List.forall_mem_cons.mp h
      have h1 : c.utf8Size = 1 := by
        simp only [Char.isDigit, Bool.and_eq_true, decide_eq_true_eq] at hc
        rw [Char.utf8Size_eq_one_iff]
        exact UInt32.le_trans hc.2 (by decide)
      rw [utf8Len_cons, ih hcs, h1, List.length_cons]
  rw [hlen _ fun c hc => isDigit_of_mem_mark hc, mark]
  split
  · exact Nat.zero_le _
  · refine (Nat.length_toDigits_le_iff (by decide) (by decide)).mpr ?_
    exact k.occurrence.toNat_lt.trans (by decide)

/-- The number of an occurrence takes ten bytes at most. -/
theorem utf8ByteSize_aliasName (k : TableKey) :
    k.aliasName.utf8ByteSize ≤ k.name.utf8ByteSize + 10 := by
  have := k.utf8Len_mark
  rw [← Dialect.utf8Len_toList, toList_aliasName, utf8Len_append, Dialect.utf8Len_toList]
  omega

end TableKey

/-- A label is longer than the alias it begins with. -/
theorem ColumnRef.utf8ByteSize_tableAlias (c : ColumnRef) (root : TableKey) :
    (c.tableAlias root).utf8ByteSize + 1 ≤ (c.label root).utf8ByteSize := by
  have hdot : ".".utf8ByteSize = 1 := rfl
  rw [label]
  cases c.aggregate with
  | none =>
    simp only [String.utf8ByteSize_append, hdot]
    omega
  | some f =>
    simp only [String.utf8ByteSize_append, hdot]
    omega

/-! ### Aliases of a select -/

namespace Query

variable {q : Query} {s : Statement}

/-- Aliases that fit stay distinct. -/
theorem nodup_kept {as : List String} (hn : as.Nodup) (h : ∀ a ∈ as, a.utf8ByteSize ≤ 63) :
    (as.map Dialect.postgres.kept).Nodup := by
  refine hn.map_on fun a ha b hb he => ?_
  rwa [Dialect.kept_of_le (h a ha), Dialect.kept_of_le (h b hb)] at he

/-- What PostgreSQL keeps of the aliases that an accepted select declares. A table that something is
    projected of keeps its alias. Aliases that become one agree in sixty bytes, and one of them is
    too long and that of a table that nothing is projected of. So all stay distinct if all fit, as
    they do where the names take 53 bytes at most. -/
theorem aliases_kept (hk : q.kind = .select) (h : q.compile .postgres = .ok s) :
    ∃ cs, s.clauses? .postgres = some cs ∧ declared cs = q.table.aliases ∧ (declared cs).Nodup ∧
      (∀ c ∈ q.columns, Dialect.postgres.kept (c.tableAlias q.root) = c.tableAlias q.root) ∧
      (∀ a ∈ declared cs, ∀ b ∈ declared cs, a ≠ b →
        Dialect.postgres.kept a = Dialect.postgres.kept b →
        60 ≤ (Dialect.postgres.kept a).utf8ByteSize ∧
        ∃ long ∈ [a, b], 63 < long.utf8ByteSize ∧ ∀ c ∈ q.columns, c.tableAlias q.root ≠ long) ∧
      ((∀ a ∈ declared cs, a.utf8ByteSize ≤ 63) →
        ((declared cs).map Dialect.postgres.kept).Nodup) ∧
      ((∀ t ∈ q.table.tables, t.name.utf8ByteSize ≤ 53) →
        ((declared cs).map Dialect.postgres.kept).Nodup) := by
  have hs : q.IsReadable .postgres := by
    have hs := (isSound_iff.mp (compile_eq_ok_iff.mp h).1).1
    rwa [IsWellFormed, hk] at hs
  obtain ⟨cs, hcs, hd, -⟩ := declared_compile hk h
  have hn : (declared cs).Nodup := hd ▸ aliases_nodup_iff.mpr hs.aliases_nodup
  have hfit (c : ColumnRef) (hc : c ∈ q.columns) : (c.tableAlias q.root).utf8ByteSize ≤ 63 := by
    have hl := hs.labels_fit rfl c hc
    have := c.utf8ByteSize_tableAlias q.root
    omega
  have hlong {a : String} (ha : 63 < a.utf8ByteSize) :
      ∀ c ∈ q.columns, c.tableAlias q.root ≠ a := by
    rintro c hc rfl
    exact absurd ha (not_lt.mpr (hfit c hc))
  refine ⟨cs, hcs, hd, hn, fun c hc => Dialect.kept_of_le (hfit c hc), ?_, nodup_kept hn,
    fun hnames => nodup_kept hn fun a ha => ?_⟩
  · intro a ha b hb hne he
    -- Were both to fit, both would be kept, and be the same from the start.
    by_cases hsa : a.utf8ByteSize ≤ 63
    · have hsb : 63 < b.utf8ByteSize := by
        refine not_le.mp fun hsb => hne ?_
        rwa [Dialect.kept_of_le hsa, Dialect.kept_of_le hsb] at he
      exact ⟨he ▸ Dialect.utf8ByteSize_kept hsb, b, by simp, hsb, hlong hsb⟩
    · have hsa := not_le.mp hsa
      exact ⟨Dialect.utf8ByteSize_kept hsa, a, by simp, hsa, hlong hsa⟩
  · obtain ⟨t, ht, rfl⟩ := mem_aliases_iff.mp (hd ▸ ha)
    have hname := hnames t ht
    have := t.key.utf8ByteSize_aliasName
    exact this.trans (Nat.add_le_add_right hname 10)

/-- All aliases of the staff fit. -/
theorem aliases_kept_staffing : ∃ s cs, staffing.compile .postgres = .ok s ∧
    s.clauses? .postgres = some cs ∧ declared cs = ["staff", "staff1", "site", "city"] ∧
    ((declared cs).map Dialect.postgres.kept).Nodup := by
  obtain ⟨s, hs⟩ : ∃ s, staffing.compile .postgres = .ok s := ⟨_, rfl⟩
  have ha : staffing.table.aliases = ["staff", "staff1", "site", "city"] := by decide
  obtain ⟨cs, hcs, hd, -, -, -, hfit, -⟩ := aliases_kept rfl hs
  refine ⟨s, cs, hs, hcs, hd.trans ha, hfit fun a h => ?_⟩
  rw [hd, ha] at h
  revert a
  decide

/-- A name that leaves no byte for a number. -/
def longName : String := String.ofList (List.replicate 63 'x')

/-- Joins a table of a long name twice and projects nothing of it. -/
def numbered : Query where
  kind := .select
  table := .node ⟨"a", 0⟩
    [.mk .inner [⟨{ name := "id" }, .eq, { table := some ⟨longName, 1⟩, name := "id" }⟩]
      (.leaf ⟨longName, 1⟩),
    .mk .inner [⟨{ name := "id" }, .eq, { table := some ⟨longName, 2⟩, name := "id" }⟩]
      (.leaf ⟨longName, 2⟩)]
  columns := [{ name := "x" }]

/-- What is kept of the two aliases is the name. -/
theorem aliases_kept_numbered : ∃ s cs, numbered.compile .postgres = .ok s ∧
    s.clauses? .postgres = some cs ∧ declared cs = ["a", longName ++ "1", longName ++ "2"] ∧
    (declared cs).map Dialect.postgres.kept = ["a", longName, longName] ∧
    ¬ ((declared cs).map Dialect.postgres.kept).Nodup := by
  obtain ⟨s, hs⟩ : ∃ s, numbered.compile .postgres = .ok s := ⟨_, rfl⟩
  obtain ⟨cs, hcs, hd, -⟩ := declared_compile rfl hs
  have ha : declared cs = ["a", longName ++ "1", longName ++ "2"] := by
    rw [hd]
    decide +kernel
  have hkept : (declared cs).map Dialect.postgres.kept = ["a", longName, longName] := by
    rw [ha]
    decide +kernel
  refine ⟨s, cs, hs, hcs, ha, hkept, ?_⟩
  rw [hkept]
  simp

end Query

end SqlGateway
