import SqlGateway.Proofs.Query.Accepted
import SqlGateway.Proofs.Url.Delimited
import SqlGateway.Proofs.Uuid.Spelling

/-! What is read as an address. The signs that would end a part are cut off before it is read or
    encoded in it, so the address that comes out is in delimited parts:

        part        without                  because it is
        scheme      :                        made of letters, digits and + - .
        user        : @ / ? #                encoded
        password    : @ / ? #                encoded
        host        @ / ? # and :            refused with them, apart from colons in brackets
        path        ? #                      cut off there
        query       #                        cut off there                                       -/

namespace SqlGateway

namespace Text

/-! ### Encoded characters -/

/-- What escapes are written with. -/
def escapeChars : List Char := '%' :: "0123456789ABCDEF".toList

theorem mem_percentByte (b : UInt8) {c : Char} (h : c ∈ percentByte b) :
    c ∈ escapeChars := by
  have hdigit : ∀ n < 16, (Json.hexDigit n).toUpper ∈ escapeChars := by decide
  have hb : b.toNat < 256 := b.toNat_lt
  simp only [percentByte, hexByte, List.map_cons, List.map_nil, List.mem_cons,
    List.not_mem_nil, or_false] at h
  rcases h with rfl | rfl | rfl
  · exact List.mem_cons_self
  · exact hdigit _ (by omega)
  · exact hdigit _ (by omega)

/-- A sign stands in an encoded text only if it stood in the text and is not in the set. -/
theorem notMem_percentEncode {inSet : Char → Bool} {cs : List Char} {c : Char}
    (hc : c ∉ escapeChars) (h : inSet c = true ∨ c ∉ cs) :
    c ∉ percentEncode inSet cs := by
  intro hm
  obtain ⟨d, hd, hm⟩ := List.mem_flatMap.mp hm
  split at hm
  next =>
    obtain ⟨b, -, hb⟩ := List.mem_flatMap.mp hm
    exact hc (mem_percentByte b hb)
  next hset =>
    obtain rfl := List.mem_singleton.mp hm
    simp only [Bool.or_eq_true, not_or] at hset
    exact h.elim hset.2 fun h => h hd

/-- What an encoded text begins with. -/
theorem head_percentEncode {inSet : Char → Bool} {c d : Char} {cs ds : List Char}
    (h : percentEncode inSet (c :: cs) = d :: ds) : d = '%' ∨ d = c := by
  rw [percentEncode, List.flatMap_cons] at h
  split at h
  next =>
    cases hb : String.utf8EncodeChar c with
    | nil =>
      have hlength := String.length_utf8EncodeChar c
      rw [hb] at hlength
      exact absurd hlength.symm c.utf8Size_pos.ne'
    | cons b bs =>
      rw [hb, List.flatMap_cons, percentByte] at h
      exact Or.inl (List.cons.inj h).1.symm
  next => exact Or.inr (List.cons.inj h).1.symm

end Text

namespace Url

open Text (percentEncode escapeChars notMem_percentEncode)

/-! ### Parts as they are read -/

theorem splitScheme?_notMem {cs rest : List Char} {scheme : String}
    (h : splitScheme? cs = some (scheme, rest)) : ':' ∉ scheme.toList := by
  unfold splitScheme? at h
  split at h
  next c more _ htake hdrop =>
    obtain ⟨-, he⟩ := Option.ite_none_right_eq_some.mp h
    obtain ⟨rfl, -⟩ := Prod.mk.inj (Option.some.inj he)
    rw [String.toList_ofList]
    intro hm
    obtain ⟨d, hd, hlow⟩ := List.mem_map.mp hm
    obtain rfl := Uuid.eq_of_toLower hlow (by decide)
    have hpart := List.mem_takeWhile_imp (htake ▸ hd)
    exact absurd hpart (by decide)
  next => exact absurd h nofun

theorem readUserinfo_notMem {cs : List Char} {user : String} {password : Option String}
    (h : readUserinfo cs = (user, password)) {c : Char} (hc : c ∈ [':', '@', '/', '?', '#']) :
    c ∉ user.toList ∧ ∀ p ∈ password, c ∉ p.toList := by
  have hset : ∀ c ∈ [':', '@', '/', '?', '#'],
      c ∉ escapeChars ∧ inUserSet c = true := List.forall_iff_forall_mem.mp (by decide)
  have henc (cs : List Char) : c ∉ (String.ofList (percentEncode inUserSet cs)).toList := by
    rw [String.toList_ofList]
    exact notMem_percentEncode (hset c hc).1 (Or.inl (hset c hc).2)
  obtain ⟨rfl, rfl⟩ := Prod.mk.inj h
  refine ⟨henc _, fun p hp => ?_⟩
  obtain ⟨-, hp⟩ := Option.ite_none_left_eq_some.mp hp
  rw [← Option.some.inj hp]
  exact henc _

theorem mem_intercalate {sep : String} {parts : List String} {c : Char}
    (h : c ∈ (sep.intercalate parts).toList) : c ∈ sep.toList ∨ ∃ p ∈ parts, c ∈ p.toList := by
  induction parts with
  | nil => simp at h
  | cons p parts ih =>
    cases parts with
    | nil => exact Or.inr ⟨p, List.mem_cons_self, by simpa using h⟩
    | cons q parts =>
      rw [String.intercalate_cons_cons, String.toList_append, String.toList_append,
        List.mem_append, List.mem_append] at h
      rcases h with (h | h) | h
      · exact Or.inr ⟨p, List.mem_cons_self, h⟩
      · exact Or.inl h
      · exact (ih h).imp id fun ⟨r, hr, h⟩ => ⟨r, List.mem_cons_of_mem _ hr, h⟩

theorem mem_ipv6Text {groups : List ℕ} {c : Char} (h : c ∈ (ipv6Text groups).toList) :
    c = ':' ∨ ∃ n, c ∈ Nat.toDigits 16 n := by
  have hhex {gs : List ℕ} (h : c ∈ (":".intercalate
      (gs.map fun g => String.ofList (Nat.toDigits 16 g))).toList) :
      c = ':' ∨ ∃ n, c ∈ Nat.toDigits 16 n := by
    rcases mem_intercalate h with h | ⟨p, hp, h⟩
    · exact Or.inl (List.mem_singleton.mp h)
    · obtain ⟨n, -, rfl⟩ := List.mem_map.mp hp
      exact Or.inr ⟨n, by simpa using h⟩
  unfold ipv6Text at h
  simp only at h
  split at h
  · exact hhex h
  · rw [String.toList_append, String.toList_append, List.mem_append, List.mem_append] at h
    rcases h with (h | h) | h
    · exact hhex h
    · exact Or.inl (by simpa using h)
    · exact hhex h

theorem readHost_isHost {cs : List Char} {host : String} (h : readHost cs = .ok host) :
    IsHost host.toList := by
  unfold readHost at h
  split at h
  next =>
    split at h
    next =>
      split at h
      next groups _ =>
        have hdigit : ∀ k < 16, Nat.digitChar k ∉ ['@', '/', '?', '#', ']'] := by decide
        have hnot : ∀ c ∈ ['@', '/', '?', '#', ']'], c ∉ (ipv6Text groups).toList := by
          intro c hc hm
          rcases mem_ipv6Text hm with rfl | ⟨n, hn⟩
          · exact absurd hc (by decide)
          · obtain ⟨k, hk, rfl⟩ := Uuid.exists_digitChar_of_mem_toDigits hn
            exact hdigit k hk hc
        have htext : host.toList = '[' :: ((ipv6Text groups).toList ++ [']']) := by
          rw [← Except.ok.inj h, String.toList_append, String.toList_append]
          rfl
        rw [htext]
        refine ⟨fun c hc hm => ?_, Or.inr ⟨_, hnot ']' (by decide), rfl⟩⟩
        rw [List.mem_cons, List.mem_append, List.mem_singleton] at hm
        rcases hm with rfl | hm | rfl
        · exact absurd hc (by decide)
        · exact hnot c (List.mem_append_left [']'] hc) hm
        · exact absurd hc (by decide)
      next => exact absurd h nofun
    next => exact absurd h nofun
  next =>
    split at h
    next => exact absurd h nofun
    next hall =>
      have hnot : ∀ c ∈ ['@', '/', '?', '#', ':', '['], c ∉ host.toList := by
        have hforbidden : ∀ c ∈ ['@', '/', '?', '#', ':', '['],
            c ∉ escapeChars ∧ isForbiddenInHost c = true :=
          List.forall_iff_forall_mem.mp (by decide)
        intro c hc
        rw [← Except.ok.inj h, String.toList_ofList]
        refine notMem_percentEncode (hforbidden c hc).1 (Or.inr fun hm => hall ?_)
        exact List.any_eq_true.mpr ⟨c, hm, (hforbidden c hc).2⟩
      exact ⟨fun c hc => hnot c (List.mem_append_left [':', '['] hc),
        Or.inl ⟨hnot ':' (by decide), hnot '[' (by decide)⟩⟩

/-- Resolving dots makes no segment but the empty one. -/
theorem forall_mem_resolveDots {Q : String → Prop} (hempty : Q "") {above segments : List String}
    (ha : ∀ p ∈ above, Q p) (hs : ∀ p ∈ segments, Q p) : ∀ p ∈ resolveDots above segments, Q p := by
  induction above, segments using resolveDots.induct with
  | case1 above => exact fun p hp => ha p (List.mem_reverse.mp hp)
  | case2 above segment rest hd ih =>
    have hdrop : ∀ p ∈ above.drop 1, Q p := fun p hp => ha p (List.mem_of_mem_drop hp)
    rw [resolveDots, if_pos hd]
    refine ih ?_ (List.forall_mem_of_forall_mem_cons hs)
    split
    · exact List.forall_mem_cons.mpr ⟨hempty, hdrop⟩
    · exact hdrop
  | case3 above segment rest hd hsingle ih =>
    rw [resolveDots, if_neg hd, if_pos hsingle]
    refine ih ?_ (List.forall_mem_of_forall_mem_cons hs)
    split
    · exact List.forall_mem_cons.mpr ⟨hempty, ha⟩
    · exact ha
  | case4 above segment rest hd hsingle ih =>
    rw [resolveDots, if_neg hd, if_neg hsingle]
    obtain ⟨hfirst, hrest⟩ := List.forall_mem_cons.mp hs
    exact ih (List.forall_mem_cons.mpr ⟨hfirst, ha⟩) hrest

theorem exists_readSegments (web : Bool) (cs : List Char) :
    ∃ path, (readSegments web cs).toList = '/' :: path ∧ ∀ c ∈ ['?', '#'], c ∉ path := by
  refine ⟨_, by rw [readSegments, String.toList_append]; rfl, fun c hc hm => ?_⟩
  have hset : ∀ c ∈ ['?', '#'], c ∉ escapeChars ∧ inPathSet c = true :=
    List.forall_iff_forall_mem.mp (by decide)
  rcases mem_intercalate hm with hm | ⟨p, hp, hm⟩
  · rw [List.mem_singleton.mp hm] at hc
    exact absurd hc (by decide)
  · revert hm
    refine forall_mem_resolveDots (Q := fun p => c ∉ p.toList) ?_ ?_ ?_ p hp
    · simp
    · exact fun _ h => absurd h List.not_mem_nil
    · intro s hs
      obtain ⟨part, -, rfl⟩ := List.mem_map.mp hs
      rw [String.toList_ofList]
      exact notMem_percentEncode (hset c hc).1 (Or.inl (hset c hc).2)

theorem readTail_notMem {web : Bool} {cs : List Char} {query fragment : Option String}
    (h : readTail web cs = (query, fragment)) : ∀ q ∈ query, '#' ∉ q.toList := by
  intro q hq
  unfold readTail at h
  simp only at h
  split at h
  next rest =>
    obtain ⟨rfl, -⟩ := Prod.mk.inj h
    rw [← Option.some.inj hq, String.toList_ofList]
    exact notMem_percentEncode (by decide) (Or.inl rfl)
  next =>
    obtain ⟨rfl, -⟩ := Prod.mk.inj h
    exact absurd hq nofun

theorem notMem_readPath {web : Bool} {rest : List Char} {c : Char} (hc : c ∈ ['?', '#']) :
    c ∉ (readPath web rest).toList := by
  have hslash : c ≠ '/' := by
    rintro rfl
    exact absurd hc (by decide)
  unfold readPath
  split
  · cases web
    · simp
    · simpa using hslash
  · obtain ⟨path, hp, hn⟩ := exists_readSegments web _
    rw [hp, List.mem_cons, not_or]
    exact ⟨hslash, hn c hc⟩

theorem exists_after_readPath (web : Bool) (rest : List Char) :
    ∃ o, (readPath web rest).toList = after '/' o := by
  unfold readPath
  split
  · cases web
    · exact ⟨none, rfl⟩
    · exact ⟨some [], rfl⟩
  · obtain ⟨path, hp, -⟩ := exists_readSegments web _
    exact ⟨some path, hp⟩

/-! ### Whole addresses -/

theorem readLocation_isHost {web : Bool} {cs : List Char} {host : String} {port : Option ℕ}
    (h : readLocation web cs = .ok (host, port)) : IsHost host.toList := by
  obtain ⟨-, h⟩ := unless_eq_ok_iff.mp h
  obtain ⟨name, hname, h⟩ := bind_eq_ok_iff.mp h
  obtain ⟨-, h⟩ := unless_eq_ok_iff.mp h
  obtain ⟨_, -, h⟩ := bind_eq_ok_iff.mp h
  obtain ⟨rfl, -⟩ := Prod.mk.inj (pure_eq_ok_iff.mp h)
  exact readHost_isHost hname

theorem compose_delimited {scheme : String} {userinfo location rest : List Char} {u : Url}
    (hs : ':' ∉ scheme.toList) (h : compose scheme userinfo location rest = .ok u) :
    u.Delimited := by
  obtain ⟨⟨host, port⟩, hlocation, h⟩ := bind_eq_ok_iff.mp h
  obtain ⟨-, h⟩ := unless_eq_ok_iff.mp h
  obtain rfl := pure_eq_ok_iff.mp h
  exact
    { scheme := hs
      user := fun c hc => (readUserinfo_notMem rfl hc).1
      password := fun p hp c hc => (readUserinfo_notMem rfl (List.mem_cons_of_mem _ hc)).2 p hp
      host := readLocation_isHost hlocation
      path := fun c hc => notMem_readPath hc
      query := readTail_notMem rfl
      rooted := fun _ => exists_after_readPath _ _
      plain := nofun }

/-- The path of an address without authority ends before a query or a fragment, and does not look
    like an authority. -/
theorem readPlain_path (scheme : String) (cs : List Char) :
    (∀ c ∈ ['?', '#'], c ∉ (readPlain scheme cs).path.toList) ∧
      ∀ more, (readPlain scheme cs).path.toList ≠ '/' :: '/' :: more := by
  simp only [readPlain]
  split
  next more _ =>
    obtain ⟨path, hp, hn⟩ := exists_readSegments false more
    split
    next =>
      have htext : ("/." ++ readSegments false more).toList = '/' :: '.' :: '/' :: path := by
        rw [String.toList_append, hp]
        rfl
      rw [htext]
      refine ⟨fun c hc hm => ?_, by simp⟩
      simp only [List.mem_cons] at hm
      rcases hm with rfl | rfl | rfl | hm
      · exact absurd hc (by decide)
      · exact absurd hc (by decide)
      · exact absurd hc (by decide)
      · exact hn c hc hm
    next hno =>
      rw [hp] at hno ⊢
      refine ⟨fun c hc hm => ?_, fun more he => hno ?_⟩
      · rcases List.mem_cons.mp hm with rfl | hm
        · exact absurd hc (by decide)
        · exact hn c hc hm
      · rw [he]
        rfl
  next hslash =>
    rw [String.toList_ofList]
    have hsign : ∀ c ∈ ['?', '#'], c ∉ escapeChars ∧ endsPath c = true :=
      List.forall_iff_forall_mem.mp (by decide)
    refine ⟨fun c hc => notMem_percentEncode (hsign c hc).1 (Or.inr fun hm => ?_),
      fun more he => ?_⟩
    · have hpart := List.mem_takeWhile_imp hm
      rw [(hsign c hc).2] at hpart
      exact absurd hpart (by decide)
    · cases hpath : cs.takeWhile fun c => !endsPath c with
      | nil => simp [hpath, percentEncode] at he
      | cons c rest =>
        rw [hpath] at he
        rcases Text.head_percentEncode he with h | rfl
        · exact absurd h (by decide)
        · exact hslash rest hpath

theorem readPlain_delimited {scheme : String} (cs : List Char) (hs : ':' ∉ scheme.toList) :
    (readPlain scheme cs).Delimited where
  scheme := hs
  user c _ := by simp [readPlain]
  password := nofun
  host := ⟨fun c _ => by simp [readPlain], Or.inl (by simp [readPlain])⟩
  path := (readPlain_path scheme cs).1
  query := readTail_notMem rfl
  rooted := nofun
  plain _ := ⟨rfl, rfl, rfl, rfl, (readPlain_path scheme cs).2⟩

theorem readAuthority_delimited {scheme : String} {cs : List Char} {u : Url}
    (hs : ':' ∉ scheme.toList) (h : readAuthority scheme cs = .ok u) : u.Delimited := by
  unfold readAuthority at h
  simp only at h
  split at h
  next =>
    split at h
    next => exact absurd h nofun
    next => exact compose_delimited hs h
  next => exact compose_delimited hs h

/-- Whatever is read as an address is in delimited parts. -/
theorem ofText_delimited {s : String} {u : Url} (h : ofText s = .ok u) : u.Delimited := by
  unfold ofText at h
  split at h
  next => exact absurd h nofun
  next scheme rest hscheme =>
    have hs := splitScheme?_notMem hscheme
    unfold readRest at h
    split at h
    next => exact readAuthority_delimited hs h
    next =>
      split at h
      next => exact readAuthority_delimited hs h
      next => exact Except.ok.inj h ▸ readPlain_delimited _ hs

end Url

end SqlGateway
