import SqlGateway.Failure.Basic
import Mathlib.Data.List.Infix

/-! Failures that are retagged on their way outwards. Some kinds pass a retag as they are; any other
    failure becomes the message of a new one, under the connection of the retag:

        retag            passes                                             everything else
        persist          NotFound, PersistFailed                            PersistFailed
        introspection    ConnectionFailed, Timeout, IntrospectionFailed     IntrospectionFailed

    The two may alternate, so messages nest in messages. Whatever the sequence, the text ends with
    the text of the cause and names the connection of the first retag that took effect. -/

namespace SqlGateway

/-- What was being done when a failure was met. -/
inductive RetagKind where
  | persist
  | introspection
  deriving DecidableEq, Repr

namespace RetagKind

/-- Kinds of failures that the retag leaves as they are. -/
def passing : RetagKind → List String
  | .persist => ["NotFound", "PersistFailed"]
  | .introspection => ["ConnectionFailed", "Timeout", "IntrospectionFailed"]

/-- The kind of a failure that the retag made. -/
def made : RetagKind → String
  | .persist => "PersistFailed"
  | .introspection => "IntrospectionFailed"

theorem made_mem_passing (k : RetagKind) : k.made ∈ k.passing := by
  cases k <;> decide

end RetagKind

/-- A retag with the connection that it names. -/
structure Retag where
  kind : RetagKind
  connection : String
  deriving DecidableEq, Repr

namespace Failure

variable {f : Failure} {r : Retag}

def retag (f : Failure) (r : Retag) : Failure :=
  match r.kind with
  | .persist => f.intoPersist r.connection
  | .introspection => f.intoIntrospection r.connection

/-- Retag a failure again and again. -/
def retagAll (f : Failure) (rs : List Retag) : Failure := rs.foldl retag f

/-! ### One retag -/

/-- The failure that holds the text of another one. -/
def wrap (f : Failure) (r : Retag) : Failure :=
  match r.kind with
  | .persist => .persistFailed f.message r.connection
  | .introspection => .introspectionFailed f.message r.connection

theorem retag_of_passing (h : f.kind ∈ r.kind.passing) : f.retag r = f := by
  obtain ⟨k, connection⟩ := r
  cases k <;> cases f <;>
    simp_all [retag, intoPersist, intoIntrospection, RetagKind.passing, kind]

theorem retag_of_not_passing (h : f.kind ∉ r.kind.passing) : f.retag r = f.wrap r := by
  obtain ⟨k, connection⟩ := r
  cases k <;> cases f <;>
    simp_all [retag, wrap, intoPersist, intoIntrospection, RetagKind.passing, kind]

@[simp] theorem kind_wrap : (f.wrap r).kind = r.kind.made := by
  obtain ⟨k, connection⟩ := r
  cases k <;> rfl

/-- What a retag made is not worth a retry. -/
theorem isRetryable_of_kind {k : RetagKind} (h : f.kind = k.made) : f.isRetryable = false := by
  cases k <;> cases f <;> simp_all [kind, RetagKind.made, isRetryable]

/-- What comes before the text of the cause. -/
def lead (r : Retag) : List Char :=
  match r.kind with
  | .persist => "Persisting connection ".toList ++ r.connection.toList ++ " failed: ".toList
  | .introspection =>
    "Introspection failed on connection ".toList ++ r.connection.toList ++ ": ".toList

theorem toList_message_wrap : (f.wrap r).message.toList = lead r ++ f.message.toList := by
  obtain ⟨k, connection⟩ := r
  cases k with
  | persist =>
    show ("Persisting connection " ++ connection ++ " failed: " ++ f.message).toList =
      "Persisting connection ".toList ++ connection.toList ++ " failed: ".toList ++ _
    simp only [String.toList_append]
  | introspection =>
    show ("Introspection failed on connection " ++ connection ++ ": " ++ f.message).toList =
      "Introspection failed on connection ".toList ++ connection.toList ++ ": ".toList ++ _
    simp only [String.toList_append]

theorem connection_infix_lead : r.connection.toList <:+: lead r := by
  rw [lead]
  split <;> exact List.infix_append _ _ _

theorem lead_ne_nil : lead r ≠ [] := by
  obtain ⟨k, connection⟩ := r
  cases k <;> simp [lead]

theorem suffix_wrap : f.message.toList <:+ (f.wrap r).message.toList := by
  rw [toList_message_wrap]
  exact List.suffix_append _ _

theorem connection_infix_wrap : r.connection.toList <:+: (f.wrap r).message.toList := by
  rw [toList_message_wrap]
  exact connection_infix_lead.trans (List.prefix_append _ _).isInfix

/-- A failure is not its own cause: the text around it makes it longer. -/
theorem length_lt_wrap : f.message.toList.length < (f.wrap r).message.toList.length := by
  have hlead : 0 < (lead r).length := List.length_pos_of_ne_nil lead_ne_nil
  rw [toList_message_wrap, List.length_append]
  omega

theorem retag_eq_self_iff : f.retag r = f ↔ f.kind ∈ r.kind.passing := by
  refine ⟨fun h => ?_, retag_of_passing⟩
  by_contra hp
  have hlt := length_lt_wrap (f := f) (r := r)
  rw [← retag_of_not_passing hp, h] at hlt
  exact lt_irrefl _ hlt

theorem suffix_retag : f.message.toList <:+ (f.retag r).message.toList := by
  by_cases hp : f.kind ∈ r.kind.passing
  · rw [retag_of_passing hp]
  · rw [retag_of_not_passing hp]
    exact suffix_wrap

/-- A second retag of one kind finds what the first one made, or what passed it. -/
theorem retag_retag (k : RetagKind) (a b : String) :
    (f.retag ⟨k, a⟩).retag ⟨k, b⟩ = f.retag ⟨k, a⟩ := by
  refine retag_of_passing ?_
  by_cases hp : f.kind ∈ k.passing
  · rwa [retag_of_passing (r := ⟨k, a⟩) hp]
  · rw [retag_of_not_passing (r := ⟨k, a⟩) hp, kind_wrap]
    exact k.made_mem_passing

/-! ### Any number of retags -/

variable {rs : List Retag}

theorem suffix_retagAll (f : Failure) (rs : List Retag) :
    f.message.toList <:+ (f.retagAll rs).message.toList := by
  induction rs generalizing f with
  | nil => exact List.suffix_refl _
  | cons r rs ih => exact suffix_retag.trans (ih _)

/-- What a retag made stays a failure that some retag made. -/
theorem kind_retagAll (rs : List Retag) (h : ∃ k : RetagKind, f.kind = k.made) :
    ∃ k : RetagKind, (f.retagAll rs).kind = k.made := by
  induction rs generalizing f with
  | nil => exact h
  | cons r rs ih =>
    refine ih ?_
    by_cases hp : f.kind ∈ r.kind.passing
    · rwa [retag_of_passing hp]
    · rw [retag_of_not_passing hp]
      exact ⟨r.kind, kind_wrap⟩

/-- Either every retag is passed, or there is a first one that is not. -/
theorem passed_or_first (f : Failure) (rs : List Retag) :
    (∀ r ∈ rs, f.kind ∈ r.kind.passing) ∨
      ∃ before r after, rs = before ++ r :: after ∧
        (∀ p ∈ before, f.kind ∈ p.kind.passing) ∧ f.kind ∉ r.kind.passing := by
  induction rs with
  | nil => exact Or.inl (by simp)
  | cons r rs ih =>
    by_cases hp : f.kind ∈ r.kind.passing
    · rcases ih with hall | ⟨before, first, after, rfl, hbefore, hfirst⟩
      · exact Or.inl (List.forall_mem_cons.mpr ⟨hp, hall⟩)
      · exact Or.inr ⟨r :: before, first, after, rfl, List.forall_mem_cons.mpr ⟨hp, hbefore⟩,
          hfirst⟩
    · exact Or.inr ⟨[], r, rs, rfl, by simp, hp⟩

theorem retagAll_of_passed (h : ∀ r ∈ rs, f.kind ∈ r.kind.passing) : f.retagAll rs = f := by
  induction rs with
  | nil => rfl
  | cons r rs ih =>
    obtain ⟨hr, hrs⟩ := List.forall_mem_cons.mp h
    show (f.retag r).retagAll rs = f
    rw [retag_of_passing hr]
    exact ih hrs

/-- From the first retag that takes effect on, its failure is what is retagged. -/
theorem retagAll_first {before after : List Retag}
    (hbefore : ∀ p ∈ before, f.kind ∈ p.kind.passing) (hr : f.kind ∉ r.kind.passing) :
    f.retagAll (before ++ r :: after) = (f.wrap r).retagAll after := by
  have hb : before.foldl retag f = f := retagAll_of_passed hbefore
  rw [retagAll, List.foldl_append, hb, List.foldl_cons, retag_of_not_passing hr]
  rfl

/-- A retag that took effect is never undone. -/
theorem retagAll_eq_self_iff : f.retagAll rs = f ↔ ∀ r ∈ rs, f.kind ∈ r.kind.passing := by
  refine ⟨fun h => ?_, retagAll_of_passed⟩
  rcases passed_or_first f rs with hall | ⟨before, r, after, rfl, hbefore, hr⟩
  · exact hall
  · have hlt := length_lt_wrap (f := f) (r := r)
    have hle := (suffix_retagAll (f.wrap r) after).length_le
    rw [← retagAll_first hbefore hr, h] at hle
    omega

theorem isRetryable_retagAll :
    (f.retagAll rs).isRetryable = true ↔ f.isRetryable = true ∧ f.retagAll rs = f := by
  refine ⟨fun h => ?_, fun ⟨h, he⟩ => by rwa [he]⟩
  rcases passed_or_first f rs with hall | ⟨before, r, after, rfl, hbefore, hr⟩
  · have he := retagAll_of_passed hall
    exact ⟨by rwa [he] at h, he⟩
  · obtain ⟨k, hk⟩ := kind_retagAll after ⟨r.kind, kind_wrap (f := f) (r := r)⟩
    rw [retagAll_first hbefore hr, isRetryable_of_kind hk] at h
    exact absurd h (by decide)

/-- Whatever a failure is retagged with and how often, its text stays at the end of the text, a
    retag of the kind of the last one changes nothing, exactly the passing kinds come through with
    all that they hold, and a retry is worth it exactly if it was and no retag took effect. If it
    comes out as another failure, that is one of the two kinds that retags make, and its text names
    the connection of the first retag that took effect. -/
theorem retagged_keeps_cause (f : Failure) (rs : List Retag) :
    f.message.toList <:+ (f.retagAll rs).message.toList ∧
    (∀ k a b, f.retagAll (rs ++ [⟨k, a⟩, ⟨k, b⟩]) = f.retagAll (rs ++ [⟨k, a⟩])) ∧
    (∀ r, f.retag r = f ↔ f.kind ∈ r.kind.passing) ∧
    ((f.retagAll rs).isRetryable = true ↔ f.isRetryable = true ∧ f.retagAll rs = f) ∧
    (f.retagAll rs = f ↔ ∀ r ∈ rs, f.retag r = f) ∧
    (f.retagAll rs ≠ f →
      (f.retagAll rs).kind ∈ ["PersistFailed", "IntrospectionFailed"] ∧
      ∃ before r after, rs = before ++ r :: after ∧ (∀ p ∈ before, f.retag p = f) ∧
        f.retag r ≠ f ∧ r.connection.toList <:+: (f.retagAll rs).message.toList) := by
  refine ⟨suffix_retagAll f rs, fun k a b => ?_, fun r => retag_eq_self_iff, isRetryable_retagAll,
    by simp only [retag_eq_self_iff, retagAll_eq_self_iff], fun hne => ?_⟩
  · simp only [retagAll, List.foldl_append, List.foldl_cons, List.foldl_nil]
    exact retag_retag k a b
  · simp only [ne_eq, retag_eq_self_iff]
    rcases passed_or_first f rs with hall | ⟨before, r, after, rfl, hbefore, hr⟩
    · exact absurd (retagAll_of_passed hall) hne
    · rw [retagAll_first hbefore hr]
      refine ⟨?_, before, r, after, rfl, hbefore, hr,
        connection_infix_wrap.trans (suffix_retagAll _ after).isInfix⟩
      obtain ⟨k, hk⟩ := kind_retagAll after ⟨r.kind, kind_wrap (f := f) (r := r)⟩
      rw [hk]
      cases k <;> decide

/-- A timeout passes the reading of a catalog and is then met again while a record is written. -/
theorem retagged_keeps_cause_timeout :
    let f : Failure := .timeout "query execution" (some 30)
    let rs : List Retag := [⟨.introspection, "a"⟩, ⟨.persist, "b"⟩, ⟨.introspection, "c"⟩]
    f.retagAll rs ≠ f ∧
    (f.retagAll rs).message = "Introspection failed on connection c: " ++
      "Persisting connection b failed: Timeout: query execution exceeded 30s" ∧
    ∃ before r after, rs = before ++ r :: after ∧ (∀ p ∈ before, f.retag p = f) ∧
      f.retag r ≠ f ∧ r.connection.toList <:+: (f.retagAll rs).message.toList := by
  intro f rs
  have hne : f.retagAll rs ≠ f := by decide +kernel
  exact ⟨hne, by decide +kernel, ((retagged_keeps_cause f rs).2.2.2.2.2 hne).2⟩

end Failure

end SqlGateway
