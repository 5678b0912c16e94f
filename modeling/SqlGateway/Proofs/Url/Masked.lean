import SqlGateway.Connection.Address
import SqlGateway.Proofs.Json.Printed
import SqlGateway.Proofs.Url.Read
import Mathlib.Data.List.DropRight

/-! What a masked address shows: all of the address but the password before the at sign. Wherever a
    text has one,

        front "://" user ":" password "@" rest

    any other password in its place is masked alike. Everything else is shown:

        postgres://meta:secret@db/meta              postgres://meta:****@db/meta
        postgres://meta@db/meta?password=secret     postgres://meta@db/meta?password=secret     -/

namespace SqlGateway.Url

open Text (percentEncode)

/-! ### Texts around a password -/

/-- What stands before the scheme's colon, between the slashes and the colon of the password, and
    after the at sign. -/
structure Surroundings where
  front : List Char
  user : List Char
  rest : List Char

/-- The scheme that ends at a colon. -/
def schemeBefore? (front : List Char) : Option String :=
  (splitScheme? (cleaned (front ++ [':']))).map Prod.fst

/-- Does the authority go on with the character? -/
def isInside (web : Bool) (c : Char) : Bool := !endsAuthority web c

namespace Surroundings

/-- The text with a password. -/
def text (a : Surroundings) (password : List Char) : String :=
  String.ofList (a.front ++ ':' :: '/' :: '/' :: (a.user ++ ':' :: (password ++ '@' :: a.rest)))

def isWeb (a : Surroundings) : Bool := (schemeBefore? a.front).any Url.isWeb

/-- The password is read as one: the authority goes on behind it, its last at sign is the one after
    the password, and the password is not empty. -/
structure Fits (a : Surroundings) (password : List Char) : Prop where
  front : ':' ∉ a.front
  user : ':' ∉ a.user
  inside : ∀ c ∈ a.user ++ password, isInside a.isWeb c = true
  rest : '@' ∉ a.rest.takeWhile (isInside a.isWeb)
  solid : ∃ c ∈ password, isKept c = true

end Surroundings

/-! ### Reading around a password -/

theorem dropWhile_append_of_not {α : Type} {f : α → Bool} {a : α} (ha : f a = false)
    (xs ys : List α) : (xs ++ a :: ys).dropWhile f = xs.dropWhile f ++ a :: ys :=
  (Json.takeWhile_append_of_head (by simpa using ha) xs).2

theorem takeWhile_append_of_not {α : Type} {f : α → Bool} {a : α} (ha : f a = false)
    {xs : List α} (hx : ∀ x ∈ xs, f x = true) (ys : List α) :
    (xs ++ a :: ys).takeWhile f = xs := by
  rw [List.takeWhile_append_of_pos hx, List.takeWhile_cons_of_neg (by simp [ha]), List.append_nil]

theorem rdropWhile_append_of_not {α : Type} {f : α → Bool} {a : α} (ha : f a = false)
    (xs ys : List α) : (xs ++ a :: ys).rdropWhile f = xs ++ a :: ys.rdropWhile f := by
  rw [List.rdropWhile, List.reverse_append, List.reverse_cons, List.append_assoc,
    List.singleton_append, dropWhile_append_of_not ha]
  simp [List.rdropWhile]

theorem cleaned_append {c : Char} (hc : isEdge c = false) (front rest : List Char) :
    cleaned (front ++ c :: rest) =
      (front.dropWhile isEdge).filter isKept ++ (c :: rest.rdropWhile isEdge).filter isKept := by
  show (((front ++ c :: rest).dropWhile isEdge).rdropWhile isEdge).filter isKept = _
  rw [dropWhile_append_of_not hc, rdropWhile_append_of_not hc, List.filter_append]

/-- A text is cut at its first colon if what stands before it is a scheme. -/
theorem splitScheme?_cut {cs : List Char} (h : ':' ∉ cs) (rest : List Char) :
    splitScheme? (cs ++ ':' :: rest) =
      if cs.all isSchemePart && (cs.head?.any Char.isAlpha) then
        some (String.ofList (cs.map Char.toLower), rest)
      else none := by
  unfold splitScheme?
  rw [dropWhile_append_of_not (by decide)]
  cases hd : cs.dropWhile isSchemePart with
  | nil =>
    have hall := List.dropWhile_eq_nil_iff.mp hd
    rw [takeWhile_append_of_not (by decide) hall, List.all_eq_true.mpr hall, Bool.true_and]
    cases cs <;> rfl
  | cons d post =>
    have hmem : d ∈ cs := (List.dropWhile_sublist _).subset (hd ▸ List.mem_cons_self)
    have hpart : isSchemePart d = false := by
      have hhead := List.head?_dropWhile_not isSchemePart cs
      rw [hd] at hhead
      exact hhead
    have hne : d ≠ ':' := fun he => h (he ▸ hmem)
    have hall : cs.all isSchemePart = false := List.all_eq_false.mpr ⟨d, hmem, by simp [hpart]⟩
    rw [hall, Bool.false_and, if_neg Bool.false_ne_true]
    split
    next heq => exact absurd (List.cons.inj heq).1 hne
    next => rfl

/-- The scheme in front of the first colon does not depend on what stands behind it. -/
theorem splitScheme?_append {cs : List Char} (h : ':' ∉ cs) (rest : List Char) :
    splitScheme? (cs ++ ':' :: rest) =
      ((splitScheme? (cs ++ [':'])).map Prod.fst).map (·, rest) := by
  rw [splitScheme?_cut h, splitScheme?_cut h]
  split <;> rfl

theorem splitUserinfo_append {cs location : List Char} (h : '@' ∉ location) :
    splitUserinfo (cs ++ '@' :: location) = some (cs, location) := by
  have htail : ((cs ++ '@' :: location).reverse.takeWhile (· != '@')).reverse = location := by
    rw [List.reverse_append, List.reverse_cons, List.append_assoc, List.singleton_append,
      takeWhile_append_of_not (by decide) (fun c hc => ?_), List.reverse_reverse]
    exact bne_iff_ne.mpr fun he => h (he ▸ List.mem_reverse.mp hc)
  have hlength : (cs ++ '@' :: location).length = cs.length + 1 + location.length := by
    rw [List.length_append, List.length_cons]
    omega
  simp only [splitUserinfo, htail, hlength]
  rw [if_neg (by omega), Nat.add_sub_cancel, Nat.add_sub_cancel, List.take_left]

theorem readUserinfo_append {user password : List Char} (hu : ':' ∉ user) (hp : password ≠ []) :
    readUserinfo (user ++ ':' :: password) =
      (String.ofList (percentEncode inUserSet user),
        some (String.ofList (percentEncode inUserSet password))) := by
  have hall : ∀ c ∈ user, (c != ':') = true := fun c hc => bne_iff_ne.mpr fun he => hu (he ▸ hc)
  have htake := takeWhile_append_of_not (f := (· != ':')) (a := ':') (by decide) hall password
  have hdrop : (user ++ ':' :: password).dropWhile (· != ':') = ':' :: password := by
    rw [List.dropWhile_append_of_pos hall, List.dropWhile_cons_of_neg (by decide)]
  simp only [readUserinfo, htake, hdrop, List.drop_one, List.tail_cons]
  rw [if_neg (by simpa using hp)]

/-- Of the password the rest of the reading sees only that there is one. -/
theorem compose_masked {scheme user p q : String} {one two location rest : List Char}
    (h₁ : readUserinfo one = (user, some p)) (h₂ : readUserinfo two = (user, some q)) :
    (compose scheme one location rest).map masked =
      (compose scheme two location rest).map masked := by
  simp only [compose, h₁, h₂]
  cases readLocation (isWeb scheme) location with
  | error d => rfl
  | ok found =>
    obtain ⟨host, port⟩ := found
    show Except.map masked (if host.isEmpty && (!user.isEmpty || true) then _ else _) =
      Except.map masked (if host.isEmpty && (!user.isEmpty || true) then _ else _)
    cases host.isEmpty <;> cases user.isEmpty <;> rfl

/-- Everything before the last at sign of the authority is user and password. -/
theorem readAuthority_append {scheme : String} {userinfo rest : List Char} (hne : userinfo ≠ [])
    (hu : ∀ c ∈ userinfo, isInside (isWeb scheme) c = true)
    (hr : '@' ∉ rest.takeWhile (isInside (isWeb scheme))) :
    readAuthority scheme (userinfo ++ '@' :: rest) = compose scheme userinfo
      (rest.takeWhile (isInside (isWeb scheme))) (rest.dropWhile (isInside (isWeb scheme))) := by
  have hat : isInside (isWeb scheme) '@' = true := by
    cases isWeb scheme <;> rfl
  have htake : (userinfo ++ '@' :: rest).takeWhile (fun c => !endsAuthority (isWeb scheme) c) =
      userinfo ++ '@' :: rest.takeWhile (isInside (isWeb scheme)) := by
    show (userinfo ++ '@' :: rest).takeWhile (isInside (isWeb scheme)) = _
    rw [List.takeWhile_append_of_pos hu, List.takeWhile_cons_of_pos hat]
  have hdrop : (userinfo ++ '@' :: rest).dropWhile (fun c => !endsAuthority (isWeb scheme) c) =
      rest.dropWhile (isInside (isWeb scheme)) := by
    show (userinfo ++ '@' :: rest).dropWhile (isInside (isWeb scheme)) = _
    rw [List.dropWhile_append_of_pos hu, List.dropWhile_cons_of_pos hat]
  simp only [readAuthority, htake, hdrop, splitUserinfo_append hr]
  rw [List.isEmpty_eq_false_iff.mpr hne, Bool.false_and, Bool.false_and, if_neg Bool.false_ne_true]

/-- The two slashes are read in the same way for every scheme if no third one follows. -/
theorem readRest_slashes {scheme : String} {cs : List Char}
    (hc : ∀ c ∈ cs.head?, isInside (isWeb scheme) c = true) :
    readRest scheme ('/' :: '/' :: cs) = readAuthority scheme cs := by
  unfold readRest
  cases hweb : isWeb scheme with
  | false => rfl
  | true =>
    rw [if_pos rfl, List.dropWhile_cons_of_pos (by decide), List.dropWhile_cons_of_pos (by decide)]
    cases cs with
    | nil => rfl
    | cons c cs =>
      have hslash : (c == '/' || c == '\\') = false := by
        have hc := hc c rfl
        simp only [hweb, isInside, endsAuthority, Bool.true_and, Bool.not_eq_true',
          Bool.or_eq_false_iff] at hc ⊢
        exact ⟨hc.1.1.1, hc.2⟩
      rw [List.dropWhile_cons_of_neg (by simp [hslash])]

theorem isInside_of_not_kept {web : Bool} {c : Char} (h : isKept c = false) :
    isInside web c = true := by
  have hc : c ∈ ['\t', '\n', '\r'] := by
    simp only [isKept, Bool.and_eq_false_iff, bne_eq_false_iff_eq] at h
    simpa [or_assoc] using h
  simp only [List.mem_cons, List.not_mem_nil, or_false] at hc
  rcases hc with rfl | rfl | rfl <;> cases web <;> rfl

theorem takeWhile_subset_append {α : Type} {f : α → Bool} (xs ys : List α) :
    xs.takeWhile f ⊆ (xs ++ ys).takeWhile f := by
  rw [List.takeWhile_append]
  split
  · exact fun x hx => List.mem_append_left _ (List.takeWhile_subset _ hx)
  · exact List.Subset.refl _

namespace Surroundings

variable {a : Surroundings} {p q : List Char}

/-- What is read after the at sign. -/
def behind (a : Surroundings) : List Char := (a.rest.rdropWhile isEdge).filter isKept

/-- Reading drops blanks and line ends in each part by itself: none of the signs between the parts
    is dropped. -/
theorem ofText_text (h : ':' ∉ a.front) : ofText (a.text p) =
    match schemeBefore? a.front with
    | none => .error .relative
    | some scheme => readRest scheme ('/' :: '/' ::
        (a.user.filter isKept ++ ':' :: p.filter isKept ++ '@' :: a.behind)) := by
  have hlead : ':' ∉ (a.front.dropWhile isEdge).filter isKept := fun hm =>
    h ((List.dropWhile_subset _) (List.mem_of_mem_filter hm))
  have hbefore : schemeBefore? a.front =
      (splitScheme? ((a.front.dropWhile isEdge).filter isKept ++ [':'])).map Prod.fst := by
    rw [schemeBefore?, cleaned_append (by decide)]
    rfl
  have hrest : cleaned (a.text p).toList = (a.front.dropWhile isEdge).filter isKept ++
      ':' :: ('/' :: '/' ::
        (a.user.filter isKept ++ ':' :: p.filter isKept ++ '@' :: a.behind)) := by
    have htail : ('/' :: '/' :: (a.user ++ ':' :: (p ++ '@' :: a.rest))).rdropWhile isEdge =
        '/' :: '/' :: (a.user ++ ':' :: p) ++ '@' :: a.rest.rdropWhile isEdge := by
      rw [← rdropWhile_append_of_not (by decide)]
      simp
    have hkept : ∀ c ∈ [':', '/', '@'], isKept c = true := List.forall_iff_forall_mem.mp (by decide)
    rw [text, String.toList_ofList, cleaned_append (by decide), htail]
    simp [behind, hkept]
  rw [ofText, hrest, splitScheme?_append hlead, ← hbefore]
  cases schemeBefore? a.front <;> rfl

theorem notMem_behind (h : '@' ∉ a.rest.takeWhile (isInside a.isWeb)) :
    '@' ∉ a.behind.takeWhile (isInside a.isWeb) := by
  -- what is dropped inside would not have ended the authority
  have hdropped : (fun c => !isKept c || isInside a.isWeb c) = isInside a.isWeb := by
    funext c
    cases hk : isKept c with
    | true => rfl
    | false => rw [isInside_of_not_kept hk, Bool.or_true]
  intro hm
  rw [behind, List.takeWhile_filter, hdropped] at hm
  obtain ⟨more, hmore⟩ := List.rdropWhile_prefix (p := isEdge) (l := a.rest)
  have hsub := takeWhile_subset_append (f := isInside a.isWeb) (a.rest.rdropWhile isEdge) more
  rw [hmore] at hsub
  exact h (hsub (List.mem_of_mem_filter hm))

/-- The password is masked, whatever it is. -/
theorem map_masked_ofText_text (hp : a.Fits p) (hq : a.Fits q) :
    (ofText (a.text p)).map masked = (ofText (a.text q)).map masked := by
  rw [ofText_text hp.front, ofText_text hq.front]
  cases hs : schemeBefore? a.front with
  | none => rfl
  | some scheme =>
    have hweb : a.isWeb = Url.isWeb scheme := by rw [isWeb, hs]; rfl
    have hread {p : List Char} (hp : a.Fits p) : readRest scheme ('/' :: '/' ::
        (a.user.filter isKept ++ ':' :: p.filter isKept ++ '@' :: a.behind)) =
        compose scheme (a.user.filter isKept ++ ':' :: p.filter isKept)
          (a.behind.takeWhile (isInside (Url.isWeb scheme)))
          (a.behind.dropWhile (isInside (Url.isWeb scheme))) := by
      have hinside : ∀ c ∈ a.user.filter isKept ++ ':' :: p.filter isKept,
          isInside (Url.isWeb scheme) c = true := by
        intro c hc
        rw [← hweb]
        rcases List.mem_append.mp hc with hc | hc
        · exact hp.inside c (List.mem_append_left _ (List.mem_of_mem_filter hc))
        · rcases List.mem_cons.mp hc with rfl | hc
          · cases a.isWeb <;> rfl
          · exact hp.inside c (List.mem_append_right _ (List.mem_of_mem_filter hc))
      rw [readRest_slashes fun c hc => ?_]
      · exact readAuthority_append (by simp) hinside (hweb ▸ notMem_behind hp.rest)
      · rw [List.head?_append_of_ne_nil _ (by simp)] at hc
        exact hinside c (List.mem_of_mem_head? hc)
    have huser {p : List Char} (hp : a.Fits p) :
        readUserinfo (a.user.filter isKept ++ ':' :: p.filter isKept) =
          (String.ofList (percentEncode inUserSet (a.user.filter isKept)),
            some (String.ofList (percentEncode inUserSet (p.filter isKept)))) := by
      obtain ⟨c, hc, hkept⟩ := hp.solid
      exact readUserinfo_append (fun hm => hp.user (List.mem_of_mem_filter hm))
        (List.ne_nil_of_mem (List.mem_filter.mpr ⟨hc, hkept⟩))
    simp only [hread hp, hread hq]
    exact compose_masked (huser hp) (huser hq)

end Surroundings

/-! ### Masked texts -/

variable {s t : String} {u v : Url}

theorem Delimited.masked (hu : u.Delimited) : u.masked.Delimited :=
  { hu with
    password := by
      intro p hp c hc
      obtain ⟨_, -, rfl⟩ := Option.map_eq_some_iff.mp hp
      revert c
      exact List.forall_iff_forall_mem.mp (by decide)
    plain := fun h => by
      obtain ⟨huser, hpassword, hrest⟩ := hu.plain h
      exact ⟨huser, by rw [Url.masked, hpassword, Option.map_none], hrest⟩ }

theorem maskedText_of_ok (h : ofText s = .ok u) : maskedText s = u.masked.text := by
  rw [maskedText, h]

theorem maskedText_of_error {d : Defect} (h : ofText s = .error d) :
    maskedText s = "<unparseable url>" := by
  rw [maskedText, h]

/-- The remark in place of a masked address is no address. -/
theorem text_ne_remark (u : Url) : u.text ≠ "<unparseable url>" := by
  intro h
  have hcolon : ':' ∈ u.text.toList := by
    rw [toList_text]
    exact List.mem_append_right _ List.mem_cons_self
  rw [h] at hcolon
  exact absurd hcolon (by decide)

theorem toOption_map_masked (r : Except Defect Url) :
    (r.map masked).toOption = r.toOption.map masked := by
  cases r <;> rfl

theorem maskedText_eq_iff : maskedText s = maskedText t ↔
    (ofText s).toOption.map masked = (ofText t).toOption.map masked := by
  cases hs : ofText s with
  | error d =>
    cases ht : ofText t with
    | error e => simp [maskedText_of_error hs, maskedText_of_error ht, Except.toOption]
    | ok v =>
      rw [maskedText_of_error hs, maskedText_of_ok ht]
      exact ⟨fun h => absurd h.symm (text_ne_remark _), nofun⟩
  | ok u =>
    cases ht : ofText t with
    | error e =>
      rw [maskedText_of_ok hs, maskedText_of_error ht]
      exact ⟨fun h => absurd h (text_ne_remark _), nofun⟩
    | ok v =>
      rw [maskedText_of_ok hs, maskedText_of_ok ht]
      constructor
      · intro h
        have hm := (ofText_delimited hs).masked.text_inj (ofText_delimited ht).masked h
        exact congrArg some hm
      · intro h
        exact congrArg text (Option.some.inj h)

theorem query_shown {query : String} (h : ofText s = .ok u) (hq : u.query = some query) :
    '?' :: query.toList <:+: (maskedText s).toList := by
  have hquery : u.masked.query = some query := hq
  rw [maskedText_of_ok h, toList_text, hquery]
  refine ⟨u.scheme.toList ++ ':' :: (u.masked.authority ++ u.path.toList),
    after '#' (u.fragment.map String.toList), ?_⟩
  simp only [Option.map_some, after, List.append_assoc, List.cons_append]
  rfl

/-- Addresses that differ in the password before the at sign and in the query at most are masked
    alike exactly if the queries are the same and both have such a password or neither. -/
theorem masked_eq_iff (h : { u with password := none, query := none } =
      { v with password := none, query := none }) :
    u.masked = v.masked ↔ u.query = v.query ∧ u.password.isSome = v.password.isSome := by
  obtain ⟨scheme, hasAuthority, user, password, host, port, path, query, fragment⟩ := u
  obtain ⟨scheme', hasAuthority', user', password', host', port', path', query', fragment'⟩ := v
  obtain ⟨rfl, rfl, rfl, -, rfl, rfl, rfl, -, rfl⟩ := Url.mk.inj h
  cases password <;> cases password' <;> simp [Url.masked]

/-- Two texts are masked alike exactly if neither can be read, or what is read differs in nothing
    but the password before the at sign, which both have or neither has. So a password there is
    masked like any other in its place. A query is shown as it is, with a password among its
    parameters: texts that differ in such a password are not masked alike. -/
theorem password_before_at_masked_alone (s t : String) :
    (maskedText s = maskedText t ↔
      (ofText s).toOption.map masked = (ofText t).toOption.map masked) ∧
    (∀ (a : Surroundings) p q, a.Fits p → a.Fits q → s = a.text p → t = a.text q →
      maskedText s = maskedText t) ∧
    (∀ u v, ofText s = .ok u → ofText t = .ok v →
      { u with password := none, query := none } = { v with password := none, query := none } →
      (maskedText s = maskedText t ↔
        u.query = v.query ∧ u.password.isSome = v.password.isSome)) ∧
    ∀ u query, ofText s = .ok u → u.query = some query →
      '?' :: query.toList <:+: (maskedText s).toList := by
  refine ⟨maskedText_eq_iff, fun a p q hp hq hs ht => maskedText_eq_iff.mpr ?_,
    fun u v hu hv h => ?_, fun u query => query_shown⟩
  · rw [hs, ht, ← toOption_map_masked, ← toOption_map_masked,
      Surroundings.map_masked_ofText_text hp hq]
  · rw [← masked_eq_iff h, maskedText_eq_iff, hu, hv]
    exact Option.some_inj

/-- A password with a colon and an at sign in it is masked like another one; a query is shown. -/
theorem password_before_at_masked_alone_meta :
    maskedText "postgres://meta:s3c:r@t@db:5432/meta" =
      maskedText "postgres://meta:other@db:5432/meta" ∧
    '?' :: "mode=rwc".toList <:+: (maskedText "sqlite://datapoint.db?mode=rwc").toList ∧
    maskedText "postgres://db?password=a" ≠ maskedText "postgres://db?password=b" := by
  let a : Surroundings := ⟨"postgres".toList, "meta".toList, "db:5432/meta".toList⟩
  have hfits (p : List Char) (hinside : (a.user ++ p).all (isInside a.isWeb) = true)
      (hsolid : p.any isKept = true) : a.Fits p :=
    ⟨by decide, by decide, List.all_eq_true.mp hinside, by decide +kernel,
      List.any_eq_true.mp hsolid⟩
  have hone := hfits "s3c:r@t".toList (by decide +kernel) (by decide +kernel)
  have htwo := hfits "other".toList (by decide +kernel) (by decide +kernel)
  have hfile : ofText "sqlite://datapoint.db?mode=rwc" =
      .ok ⟨"sqlite", true, "", none, "datapoint.db", none, "", some "mode=rwc", none⟩ := by
    decide +kernel
  have hquery : ofText "postgres://db?password=a" =
      .ok ⟨"postgres", true, "", none, "db", none, "", some "password=a", none⟩ := by
    decide +kernel
  have hquery' : ofText "postgres://db?password=b" =
      .ok ⟨"postgres", true, "", none, "db", none, "", some "password=b", none⟩ := by
    decide +kernel
  refine ⟨?_, ?_, ?_⟩
  · exact (password_before_at_masked_alone _ _).2.1 a _ _ hone htwo (by decide +kernel)
      (by decide +kernel)
  · exact (password_before_at_masked_alone _ "").2.2.2 _ _ hfile rfl
  · intro h
    have hsame := ((password_before_at_masked_alone _ _).2.2.1 _ _ hquery hquery' rfl).mp h
    exact absurd hsame.1 (by decide)

/-- The driver takes the password from the query, and the masked text shows it. -/
theorem password_in_query_shown :
    let one := "postgres://meta@db/meta?password=secret"
    let two := "postgres://meta@db/meta?password=other"
    Address.ofText .postgres one = .ok (.server .postgres "db" "meta" "secret" "meta") ∧
    Address.ofText .postgres two = .ok (.server .postgres "db" "meta" "other" "meta") ∧
    maskedText one = one ∧ maskedText one ≠ maskedText two := by
  decide +kernel

end SqlGateway.Url
