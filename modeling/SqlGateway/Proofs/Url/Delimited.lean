import SqlGateway.Url.Basic
import SqlGateway.Proofs.Number.IntegerText

/-! Addresses whose text can be taken apart again. Every part ends at a sign that it does not
    contain itself:

        part        ends at
        scheme      :
        user        : @                    never / ? # either
        password    @                      never / ? # either
        host        : outside brackets     never @ / ? # either
        path        ? #                    begins with / after an authority
        query       #

    So no two addresses of this kind have the same text. -/

namespace SqlGateway.Url

open Number (natText)

/-! ### Parts after a sign -/

/-- A part that stands after its sign, if there is one. -/
def after (sign : Char) : Option (List Char) → List Char
  | none => []
  | some cs => sign :: cs

theorem mem_after {sign c : Char} {o : Option (List Char)} (h : c ∈ after sign o) :
    c = sign ∨ ∃ cs ∈ o, c ∈ cs := by
  cases o with
  | none => simp [after] at h
  | some cs => simpa [after] using h

/-- A text is cut in one way only at a sign that the part before it does not contain. -/
theorem append_after_inj {sign : Char} {a b : List Char} {o p : Option (List Char)} (ha : sign ∉ a)
    (hb : sign ∉ b) (h : a ++ after sign o = b ++ after sign p) : a = b ∧ o = p := by
  induction a generalizing b with
  | nil =>
    cases b with
    | nil =>
      refine ⟨rfl, ?_⟩
      cases o <;> cases p <;> simp_all [after]
    | cons c b =>
      cases o with
      | none => simp [after] at h
      | some cs =>
        obtain ⟨rfl, -⟩ := List.cons.inj h
        exact absurd List.mem_cons_self hb
  | cons c a ih =>
    cases b with
    | nil =>
      cases p with
      | none => simp [after] at h
      | some cs =>
        obtain ⟨rfl, -⟩ := List.cons.inj h
        exact absurd List.mem_cons_self ha
    | cons d b =>
      obtain ⟨rfl, ht⟩ := List.cons.inj h
      obtain ⟨rfl, rfl⟩ := ih (fun hm => ha (List.mem_cons_of_mem _ hm))
        (fun hm => hb (List.mem_cons_of_mem _ hm)) ht
      exact ⟨rfl, rfl⟩

theorem append_sign_inj {sign : Char} {a b r s : List Char} (ha : sign ∉ a) (hb : sign ∉ b)
    (h : a ++ sign :: r = b ++ sign :: s) : a = b ∧ r = s := by
  obtain ⟨hab, hrs⟩ := append_after_inj (o := some r) (p := some s) ha hb h
  exact ⟨hab, Option.some.inj hrs⟩

/-- A part that stands before its sign, if there is one. -/
def before (sign : Char) : Option (List Char) → List Char
  | none => []
  | some cs => cs ++ [sign]

theorem reverse_before (sign : Char) (o : Option (List Char)) :
    (before sign o).reverse = after sign (o.map List.reverse) := by
  cases o <;> simp [before, after]

theorem before_append_inj {sign : Char} {a b : List Char} {o p : Option (List Char)} (ha : sign ∉ a)
    (hb : sign ∉ b) (h : before sign o ++ a = before sign p ++ b) : o = p ∧ a = b := by
  have hr := congrArg List.reverse h
  rw [List.reverse_append, List.reverse_append, reverse_before, reverse_before] at hr
  obtain ⟨hab, hop⟩ := append_after_inj (by simpa using ha) (by simpa using hb) hr
  exact ⟨Option.map_injective List.reverse_injective hop, List.reverse_injective hab⟩

/-! ### The text in parts -/

/-- User and password, if there is one of them. -/
def credentials (u : Url) : Option (List Char) :=
  if u.user.isEmpty && u.password.isNone then none
  else some (u.user.toList ++ after ':' (u.password.map String.toList))

/-- Host and port. -/
def location (u : Url) : List Char :=
  u.host.toList ++ after ':' (u.port.map fun n => (natText n).toList)

/-- What stands before the path. -/
def authority (u : Url) : List Char :=
  if u.hasAuthority then '/' :: '/' :: (before '@' u.credentials ++ u.location) else []

theorem toList_signed {s : String} {sign : Char} (hs : s.toList = [sign]) (part : Option String) :
    ((part.map (s ++ ·)).getD "").toList = after sign (part.map String.toList) := by
  cases part with
  | none => rfl
  | some t => simp [after, hs]

theorem toList_text (u : Url) : u.text.toList = u.scheme.toList ++ ':' ::
    (u.authority ++ u.path.toList ++ after '?' (u.query.map String.toList) ++
      after '#' (u.fragment.map String.toList)) := by
  have huser : (if u.user.isEmpty && u.password.isNone then ""
      else u.user ++ (u.password.map (":" ++ ·)).getD "" ++ "@").toList =
        before '@' u.credentials := by
    rw [credentials, apply_ite String.toList, apply_ite (before '@')]
    simp only [String.toList_append, toList_signed (s := ":") rfl]
    rfl
  have hport : ((u.port.map fun n => ":" ++ natText n).getD "").toList =
      after ':' (u.port.map fun n => (natText n).toList) := by
    cases u.port <;> simp [after]
  have hauthority : (if u.hasAuthority then "//" ++ (if u.user.isEmpty && u.password.isNone then ""
      else u.user ++ (u.password.map (":" ++ ·)).getD "" ++ "@") ++ u.host ++
      (u.port.map fun n => ":" ++ natText n).getD "" else "").toList = u.authority := by
    rw [authority, apply_ite String.toList]
    simp only [String.toList_append, huser, hport, location, List.append_assoc]
    rfl
  rw [text]
  simp only [String.toList_append, hauthority, toList_signed (s := "?") rfl,
    toList_signed (s := "#") rfl, List.append_assoc]
  rfl

/-! ### Parts without the signs that end them -/

/-- A host: a name, or colons and other characters in brackets. -/
def IsHost (cs : List Char) : Prop :=
  (∀ c ∈ ['@', '/', '?', '#'], c ∉ cs) ∧
    (':' ∉ cs ∧ '[' ∉ cs ∨ ∃ inner, ']' ∉ inner ∧ cs = '[' :: (inner ++ [']']))

/-- Every part is free of the signs that end it, and nothing is read where there is no authority. -/
structure Delimited (u : Url) : Prop where
  scheme : ':' ∉ u.scheme.toList
  user : ∀ c ∈ [':', '@', '/', '?', '#'], c ∉ u.user.toList
  password : ∀ p ∈ u.password, ∀ c ∈ ['@', '/', '?', '#'], c ∉ p.toList
  host : IsHost u.host.toList
  path : ∀ c ∈ ['?', '#'], c ∉ u.path.toList
  query : ∀ q ∈ u.query, '#' ∉ q.toList
  rooted : u.hasAuthority = true → ∃ o, u.path.toList = after '/' o
  plain : u.hasAuthority = false → u.user = "" ∧ u.password = none ∧ u.host = "" ∧ u.port = none ∧
    ∀ cs, u.path.toList ≠ '/' :: '/' :: cs

theorem map_toList_injective : Function.Injective (Option.map String.toList) :=
  Option.map_injective fun _ _ => String.toList_injective

theorem natText_injective : Function.Injective natText := by
  intro m n h
  have hread := Number.readInteger?_natText m
  rw [h, Number.readInteger?_natText] at hread
  exact (Int.ofNat.inj (Option.some.inj hread)).symm

theorem notMem_natText {c : Char} (hc : Number.isDigit c = false) (n : ℕ) :
    c ∉ (natText n).toList := by
  intro h
  rw [natText, String.toList_ofList] at h
  rw [Json.isDigit_of_mem_toDigits h] at hc
  exact absurd hc (by decide)

/-- Host and port are told apart: the first colon outside brackets stands between them. -/
theorem location_inj {h h' : List Char} {o o' : Option (List Char)} (hh : IsHost h)
    (hh' : IsHost h') (he : h ++ after ':' o = h' ++ after ':' o') : h = h' ∧ o = o' := by
  have hmixed {h inner : List Char} {o o' : Option (List Char)} (hn : '[' ∉ h)
      (he : h ++ after ':' o = '[' :: (inner ++ [']']) ++ after ':' o') : False := by
    cases h with
    | nil => cases o <;> simp [after] at he
    | cons c h =>
      obtain ⟨rfl, -⟩ := List.cons.inj he
      exact hn List.mem_cons_self
  rcases hh.2 with ⟨hn, hb⟩ | ⟨inner, hi, rfl⟩ <;> rcases hh'.2 with ⟨hn', hb'⟩ | ⟨inner', hi', rfl⟩
  · exact append_after_inj hn hn' he
  · exact (hmixed hb he).elim
  · exact (hmixed hb' he.symm).elim
  · simp only [List.cons_append, List.append_assoc, List.nil_append, List.cons.injEq,
      true_and] at he
    obtain ⟨rfl, ho⟩ := append_sign_inj hi hi' he
    exact ⟨rfl, (append_after_inj (a := []) (b := []) List.not_mem_nil List.not_mem_nil ho).2⟩

variable {u v : Url}

namespace Delimited

theorem notMem_location (hu : u.Delimited) {c : Char} (hc : c ∈ ['@', '/', '?', '#']) :
    c ∉ u.location := by
  have hdigit : ∀ c ∈ ['@', '/', '?', '#'], c ≠ ':' ∧ Number.isDigit c = false :=
    List.forall_iff_forall_mem.mp (by decide)
  intro h
  rcases List.mem_append.mp h with h | h
  · exact hu.host.1 c hc h
  · rcases mem_after h with rfl | ⟨cs, hcs, h⟩
    · exact (hdigit _ hc).1 rfl
    · obtain ⟨n, -, rfl⟩ := Option.map_eq_some_iff.mp hcs
      exact notMem_natText (hdigit c hc).2 n h

theorem notMem_credentials (hu : u.Delimited) {c : Char} (hc : c ∈ ['@', '/', '?', '#']) :
    ∀ cs ∈ u.credentials, c ∉ cs := by
  intro cs hcs h
  obtain ⟨-, hcs⟩ := Option.ite_none_left_eq_some.mp hcs
  rw [← Option.some.inj hcs] at h
  rcases List.mem_append.mp h with h | h
  · exact hu.user c (List.mem_cons_of_mem _ hc) h
  · rcases mem_after h with rfl | ⟨cs, hcs, h⟩
    · exact absurd hc (by decide)
    · obtain ⟨p, hp, rfl⟩ := Option.map_eq_some_iff.mp hcs
      exact hu.password p hp c hc h

theorem notMem_front (hu : u.Delimited) {c : Char} (hc : c ∈ ['/', '?', '#']) :
    c ∉ before '@' u.credentials ++ u.location := by
  have hc' : c ∈ ['@', '/', '?', '#'] := List.mem_cons_of_mem _ hc
  intro h
  rcases List.mem_append.mp h with h | h
  · cases ho : u.credentials with
    | none => simp [ho, before] at h
    | some cs =>
      rw [ho, before, List.mem_append, List.mem_singleton] at h
      rcases h with h | rfl
      · exact hu.notMem_credentials hc' cs ho h
      · exact absurd hc (by decide)
  · exact hu.notMem_location hc' h

theorem notMem_authority (hu : u.Delimited) {c : Char} (hc : c ∈ ['?', '#']) :
    c ∉ u.authority := by
  rw [authority]
  split
  · rw [List.mem_cons, List.mem_cons]
    rintro (rfl | rfl | h)
    · exact absurd hc (by decide)
    · exact absurd hc (by decide)
    · exact hu.notMem_front (List.mem_cons_of_mem _ hc) h
  · exact List.not_mem_nil

theorem credentials_inj (hu : u.Delimited) (hv : v.Delimited) (h : u.credentials = v.credentials) :
    u.user = v.user ∧ u.password = v.password := by
  rw [credentials, credentials] at h
  split at h <;> split at h
  next hu₀ hv₀ =>
    rw [Bool.and_eq_true, String.isEmpty_iff, Option.isNone_iff_eq_none] at hu₀ hv₀
    exact ⟨hu₀.1.trans hv₀.1.symm, hu₀.2.trans hv₀.2.symm⟩
  next => exact absurd h nofun
  next => exact absurd h nofun
  next =>
    obtain ⟨huser, hpassword⟩ :=
      append_after_inj (hu.user ':' (by decide)) (hv.user ':' (by decide)) (Option.some.inj h)
    exact ⟨String.toList_injective huser, map_toList_injective hpassword⟩

/-- With an authority the path begins at its first slash; without one there are not two slashes at
    the front. -/
theorem authority_inj (hu : u.Delimited) (hv : v.Delimited)
    (h : u.authority ++ u.path.toList = v.authority ++ v.path.toList) :
    u.hasAuthority = v.hasAuthority ∧ u.user = v.user ∧ u.password = v.password ∧
      u.host = v.host ∧ u.port = v.port ∧ u.path = v.path := by
  have hmixed {w w' : Url} (hw : w.Delimited) (hno : w.hasAuthority = false)
      (hin : w'.hasAuthority = true)
      (he : w.authority ++ w.path.toList = w'.authority ++ w'.path.toList) : False := by
    rw [authority, authority, hno, hin, if_neg Bool.false_ne_true, if_pos rfl] at he
    exact (hw.plain hno).2.2.2.2 _ he
  cases hau : u.hasAuthority <;> cases hav : v.hasAuthority
  · obtain ⟨huser, hpassword, hhost, hport, -⟩ := hu.plain hau
    obtain ⟨huser', hpassword', hhost', hport', -⟩ := hv.plain hav
    rw [authority, authority, hau, hav, if_neg Bool.false_ne_true] at h
    exact ⟨rfl, huser.trans huser'.symm, hpassword.trans hpassword'.symm, hhost.trans hhost'.symm,
      hport.trans hport'.symm, String.toList_injective h⟩
  · exact (hmixed hu hau hav h).elim
  · exact (hmixed hv hav hau h.symm).elim
  · obtain ⟨o, ho⟩ := hu.rooted hau
    obtain ⟨o', ho'⟩ := hv.rooted hav
    rw [authority, authority, hau, hav, if_pos rfl, if_pos rfl, ho, ho'] at h
    obtain ⟨hfront, hpath⟩ := append_after_inj (hu.notMem_front (c := '/') (by decide))
      (hv.notMem_front (c := '/') (by decide)) (List.cons.inj (List.cons.inj h).2).2
    obtain ⟨hcredentials, hlocation⟩ := before_append_inj (hu.notMem_location (by decide))
      (hv.notMem_location (by decide)) hfront
    obtain ⟨huser, hpassword⟩ := hu.credentials_inj hv hcredentials
    obtain ⟨hhost, hport⟩ := location_inj hu.host hv.host hlocation
    refine ⟨rfl, huser, hpassword, String.toList_injective hhost, ?_, ?_⟩
    · exact Option.map_injective (fun _ _ h => natText_injective (String.toList_injective h)) hport
    · exact String.toList_injective (by rw [ho, ho', hpath])

/-- No two such addresses have the same text. -/
theorem text_inj (hu : u.Delimited) (hv : v.Delimited) (h : u.text = v.text) : u = v := by
  have hquery {w : Url} (hw : w.Delimited) : '#' ∉ w.authority ++ w.path.toList ++
      after '?' (w.query.map String.toList) := by
    intro hm
    rcases List.mem_append.mp hm with hm | hm
    · rcases List.mem_append.mp hm with hm | hm
      · exact hw.notMem_authority (by decide) hm
      · exact hw.path '#' (by decide) hm
    · rcases mem_after hm with hm | ⟨cs, hcs, hm⟩
      · exact absurd hm (by decide)
      · obtain ⟨q, hq, rfl⟩ := Option.map_eq_some_iff.mp hcs
        exact hw.query q hq hm
  have hpath {w : Url} (hw : w.Delimited) : '?' ∉ w.authority ++ w.path.toList := by
    intro hm
    rcases List.mem_append.mp hm with hm | hm
    · exact hw.notMem_authority (by decide) hm
    · exact hw.path '?' (by decide) hm
  have ht := congrArg String.toList h
  rw [toList_text, toList_text] at ht
  obtain ⟨hscheme, ht⟩ := append_sign_inj hu.scheme hv.scheme ht
  obtain ⟨ht, hf⟩ := append_after_inj (hquery hu) (hquery hv) ht
  obtain ⟨ht, hq⟩ := append_after_inj (hpath hu) (hpath hv) ht
  obtain ⟨ha, huser, hpassword, hhost, hport, hp⟩ := hu.authority_inj hv ht
  have hs := String.toList_injective hscheme
  have hq := map_toList_injective hq
  have hf := map_toList_injective hf
  cases u
  cases v
  simp_all

end Delimited

end SqlGateway.Url
