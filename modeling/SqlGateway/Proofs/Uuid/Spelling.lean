import SqlGateway.Proofs.Uuid

/-! The texts that denote an identifier. Letter case aside, there are four of them:

        550e8400-e29b-41d4-a716-446655440000                  its text
        550e8400e29b41d4a716446655440000                      the 32 digits
        {550e8400-e29b-41d4-a716-446655440000}                its text in braces
        urn:uuid:550e8400-e29b-41d4-a716-446655440000         its text after the name of a scheme

    Whatever is read as an identifier is one of these: digits of equal number and equal value are
    equal, so no identifier has two texts of one form. -/

namespace SqlGateway.Uuid

/-! ### Letter case -/

theorem toLower_of_not_ascii {c : Char} (h : 128 ≤ c.toNat) : c.toLower = c := by
  unfold Char.toLower
  split
  next hc =>
    have hle : c.toNat ≤ 90 := hc.2
    omega
  next => rfl

theorem hexValue?_toLower (c : Char) : Json.hexValue? c.toLower = Json.hexValue? c := by
  have hascii : ∀ n < 128,
      Json.hexValue? (Char.ofNat n).toLower = Json.hexValue? (Char.ofNat n) := by
    decide +kernel
  rcases Nat.lt_or_ge c.toNat 128 with h | h
  · simpa using hascii c.toNat h
  · rw [toLower_of_not_ascii h]

/-- A hexadecimal digit in lower case is the one that is written for its value. -/
theorem toLower_of_hexValue? {c : Char} {n : ℕ} (h : Json.hexValue? c = some n) :
    n < 16 ∧ c.toLower = Nat.digitChar n := by
  have hascii : ∀ k < 128, ∀ n ∈ Json.hexValue? (Char.ofNat k),
      n < 16 ∧ (Char.ofNat k).toLower = Nat.digitChar n := by
    decide +kernel
  rcases Nat.lt_or_ge c.toNat 128 with hc | hc
  · exact by simpa using hascii c.toNat hc n (by simpa using h)
  · have hle : ∀ d : Char, d.toNat < 128 → ¬ c ≤ d := fun d hd hcd => by
      have hcd : c.toNat ≤ d.toNat := hcd
      omega
    simp [Json.hexValue?, hle] at h

/-- Only a letter has a lower-case form other than itself. -/
theorem eq_of_toLower {c d : Char} (h : c.toLower = d) (hd : ¬ ('a' ≤ d ∧ d ≤ 'z')) : c = d := by
  unfold Char.toLower at h
  split at h
  next hc =>
    refine absurd ?_ hd
    rw [← h]
    have hlow : 65 ≤ c.val.toNat := hc.1
    have hhigh : c.val.toNat ≤ 90 := hc.2
    have hsum : (c.val + ('a'.val - 'A'.val)).toNat = c.val.toNat + 32 := by
      rw [UInt32.toNat_add]
      have : ('a'.val - 'A'.val).toNat = 32 := rfl
      omega
    constructor
    · show 97 ≤ (c.val + ('a'.val - 'A'.val)).toNat
      omega
    · show (c.val + ('a'.val - 'A'.val)).toNat ≤ 122
      omega
  next => exact h

theorem eq_dash_of_toLower {c : Char} (h : c.toLower = '-') : c = '-' :=
  eq_of_toLower h (by decide)

theorem toLower_digitChar : ∀ n < 16, (Nat.digitChar n).toLower = Nat.digitChar n := by decide

/-! ### Digits -/

/-- A digit more at the end. -/
theorem digitsValue?_concat {cs : List Char} {c : Char} {n : ℕ} :
    digitsValue? (cs ++ [c]) = some n ↔
      ∃ m k, digitsValue? cs = some m ∧ Json.hexValue? c = some k ∧ n = 16 * m + k := by
  rw [digitsValue?_append, Option.bind_eq_some_iff]
  constructor
  · rintro ⟨m, hm, hf⟩
    obtain ⟨k, hk, rfl⟩ : ∃ k, Json.hexValue? c = some k ∧ 16 * m + k = n := by simpa using hf
    exact ⟨m, k, hm, hk, rfl⟩
  · rintro ⟨m, k, hm, hk, rfl⟩
    exact ⟨m, hm, by simp [hk]⟩

theorem digitsValue?_map_toLower (cs : List Char) :
    digitsValue? (cs.map Char.toLower) = digitsValue? cs := by
  rw [digitsValue?, List.foldlM_map]
  simp only [hexValue?_toLower]
  rfl

theorem lt_of_digitsValue? {cs : List Char} {n : ℕ} (h : digitsValue? cs = some n) :
    n < 16 ^ cs.length := by
  induction cs using List.reverseRecOn generalizing n with
  | nil =>
    obtain rfl : 0 = n := by simpa [digitsValue?] using h
    exact Nat.one_pos
  | append_singleton cs c ih =>
    obtain ⟨m, k, hm, hk, rfl⟩ := digitsValue?_concat.mp h
    have hlt := ih hm
    have hk := (toLower_of_hexValue? hk).1
    rw [List.length_append, List.length_singleton, pow_succ]
    omega

/-- Equally many digits of equal value are the same digits. -/
theorem map_toLower_eq_of_digitsValue? {cs ds : List Char} {n : ℕ}
    (hlength : cs.length = ds.length) (hc : digitsValue? cs = some n)
    (hd : digitsValue? ds = some n) : cs.map Char.toLower = ds.map Char.toLower := by
  induction cs using List.reverseRecOn generalizing ds n with
  | nil => rw [List.length_eq_zero_iff.mp hlength.symm]
  | append_singleton cs c ih =>
    rcases List.eq_nil_or_concat ds with rfl | ⟨ds, d, rfl⟩
    · simp at hlength
    rw [List.concat_eq_append] at hlength hd ⊢
    obtain ⟨m, k, hm, hk, rfl⟩ := digitsValue?_concat.mp hc
    obtain ⟨m', k', hm', hk', he⟩ := digitsValue?_concat.mp hd
    obtain ⟨hlt, hcl⟩ := toLower_of_hexValue? hk
    obtain ⟨hlt', hdl⟩ := toLower_of_hexValue? hk'
    obtain ⟨rfl, rfl⟩ : m = m' ∧ k = k' := by omega
    have hfront := ih (by simpa using hlength) hm hm'
    rw [List.map_append, List.map_append, hfront, List.map_singleton, List.map_singleton, hcl, hdl]

variable {u : Uuid}

theorem map_toLower_digits : u.digits.map Char.toLower = u.digits := by
  refine (List.map_congr_left fun c hc => ?_).trans (List.map_id _)
  obtain ⟨k, hk, rfl⟩ := exists_digitChar_of_mem_digits hc
  exact toLower_digitChar k hk

theorem ofPlain?_eq_some_iff {cs : List Char} :
    ofPlain? cs = some u ↔ u.value < 2 ^ 128 ∧ cs.map Char.toLower = u.digits := by
  constructor
  · intro h
    obtain ⟨hlength, h⟩ := Option.ite_none_right_eq_some.mp h
    obtain ⟨n, hn, rfl⟩ := Option.map_eq_some_iff.mp h
    have hlt : n < 2 ^ 128 := by
      have hlt := lt_of_digitsValue? hn
      rw [hlength] at hlt
      exact hlt.trans_eq (by norm_num)
    refine ⟨hlt, ?_⟩
    rw [← map_toLower_digits (u := ⟨n⟩)]
    exact map_toLower_eq_of_digitsValue? (by rw [hlength, length_digits (u := ⟨n⟩) hlt]) hn
      digitsValue?_digits
  · rintro ⟨hlt, hl⟩
    have hlength : cs.length = 32 := by
      rw [← length_digits hlt, ← hl, List.length_map]
    rw [ofPlain?, if_pos hlength, ← digitsValue?_map_toLower, hl, digitsValue?_digits]
    rfl

/-! ### Forms -/

theorem unhyphenate?_eq_some_iff {cs ds : List Char} : unhyphenate? cs = some ds ↔
    ∃ a b c d e : List Char, a.length = 8 ∧ b.length = 4 ∧ c.length = 4 ∧ d.length = 4 ∧
      e.length = 12 ∧ cs = a ++ '-' :: b ++ '-' :: c ++ '-' :: d ++ '-' :: e ∧
      ds = a ++ b ++ c ++ d ++ e := by
  constructor
  · intro h
    obtain ⟨⟨hcs, he⟩, hds⟩ := Option.ite_none_right_eq_some.mp h
    have hlength : cs.length = 36 := by
      rw [List.length_drop] at he
      omega
    exact ⟨_, _, _, _, _, by simp [hlength], by simp [hlength], by simp [hlength],
      by simp [hlength], he, hcs, (Option.some.inj hds).symm⟩
  · rintro ⟨a, b, c, d, e, ha, hb, hc, hd, he, rfl, rfl⟩
    exact unhyphenate?_groups ha hb hc hd he

theorem ofHyphenated?_eq_some_iff {cs : List Char} :
    ofHyphenated? cs = some u ↔ u.value < 2 ^ 128 ∧ cs.map Char.toLower = u.text.toList := by
  rw [ofHyphenated?, Option.bind_eq_some_iff]
  simp only [unhyphenate?_eq_some_iff, ofPlain?_eq_some_iff]
  constructor
  · rintro ⟨_, ⟨a, b, c, d, e, ha, hb, hc, hd, he, rfl, rfl⟩, hlt, hl⟩
    refine ⟨hlt, ?_⟩
    obtain ⟨a', b', c', d', e', ha', hb', hc', hd', -, hdigits, htext⟩ := exists_groups hlt
    rw [hdigits] at hl
    simp only [List.map_append] at hl
    -- groups of equal lengths, so the digits are cut in the same places
    obtain ⟨habcd, hel⟩ := List.append_inj hl (by simp [*])
    obtain ⟨habc, hdl⟩ := List.append_inj habcd (by simp [*])
    obtain ⟨hab, hcl⟩ := List.append_inj habc (by simp [*])
    obtain ⟨hal, hbl⟩ := List.append_inj hab (by simp [*])
    rw [htext, ← hal, ← hbl, ← hcl, ← hdl, ← hel]
    simp only [List.map_append, List.map_cons]
    rfl
  · rintro ⟨hlt, hl⟩
    obtain ⟨a', b', c', d', e', ha', hb', hc', hd', he', hdigits, htext⟩ := exists_groups hlt
    rw [htext] at hl
    simp only [List.append_assoc, List.cons_append, List.map_eq_append_iff,
      List.map_eq_cons_iff] at hl
    obtain ⟨a, _, rfl, rfl, x, _, rfl, hx, b, _, rfl, rfl, y, _, rfl, hy, c, _, rfl, rfl, z, _,
      rfl, hz, d, _, rfl, rfl, w, e, rfl, hw, rfl⟩ := hl
    simp only [List.length_map] at ha' hb' hc' hd' he'
    rw [eq_dash_of_toLower hx, eq_dash_of_toLower hy, eq_dash_of_toLower hz, eq_dash_of_toLower hw]
    exact ⟨_, ⟨a, b, c, d, e, ha', hb', hc', hd', he', by simp, rfl⟩, hlt, by simp [hdigits]⟩

/-- The forms that are read, in lower case. -/
def spellings (u : Uuid) : List (List Char) :=
  [u.text.toList, u.digits, '\x7b' :: u.text.toList ++ ['\x7d'],
    "urn:uuid:".toList ++ u.text.toList]

theorem length_text (h : u.value < 2 ^ 128) : u.text.toList.length = 36 := by
  obtain ⟨a, b, c, d, e, ha, hb, hc, hd, he, -, htext⟩ := exists_groups h
  simp [*]

/-- A text begins with a digit. -/
theorem exists_head?_text (h : u.value < 2 ^ 128) :
    ∃ n < 16, u.text.toList.head? = some (Nat.digitChar n) := by
  obtain ⟨a, b, c, d, e, ha, -, -, -, -, hdigits, htext⟩ := exists_groups h
  obtain ⟨x, a, rfl⟩ := List.exists_cons_of_length_pos (by omega : 0 < a.length)
  obtain ⟨n, hn, rfl⟩ := exists_digitChar_of_mem_digits (hdigits ▸ by simp : x ∈ u.digits)
  exact ⟨n, hn, by simp [htext]⟩

/-- What stands in braces. -/
theorem eq_braced {cs : List Char} (hhead : cs.head? = some '\x7b')
    (hlast : cs.getLast? = some '\x7d') (hne : (cs.drop 1).dropLast ≠ []) :
    cs = '\x7b' :: (cs.drop 1).dropLast ++ ['\x7d'] := by
  obtain ⟨c, rest, rfl⟩ := List.exists_cons_of_ne_nil (by rintro rfl; simp at hhead : cs ≠ [])
  obtain rfl : c = '\x7b' := by simpa using hhead
  have hrest : rest ≠ [] := by
    rintro rfl
    simp at hne
  rw [List.getLast?_cons_of_ne_nil hrest, List.getLast?_eq_some_getLast hrest] at hlast
  rw [List.drop_one, List.tail_cons, List.cons_append, ← Option.some.inj hlast,
    List.dropLast_append_getLast]

variable {t : String}

/-- What is read as an identifier has one of its forms. -/
theorem mem_spellings_of_ofText? (h : ofText? t = some u) :
    u.value < 2 ^ 128 ∧ t.toList.map Char.toLower ∈ u.spellings := by
  have hurn : "urn:uuid:".toList.length = 9 := rfl
  simp only [ofText?, hurn] at h
  simp only [spellings, List.mem_cons, List.not_mem_nil, or_false]
  generalize t.toList = cs at h ⊢
  by_cases hplain : cs.length = 32
  · rw [if_pos hplain] at h
    exact (ofPlain?_eq_some_iff.mp h).imp id fun h => Or.inr (Or.inl h)
  rw [if_neg hplain] at h
  by_cases hbraces : cs.head? = some '\x7b' ∧ cs.getLast? = some '\x7d'
  · rw [if_pos hbraces] at h
    obtain ⟨hlt, h⟩ := ofHyphenated?_eq_some_iff.mp h
    refine ⟨hlt, Or.inr (Or.inr (Or.inl ?_))⟩
    have hne : (cs.drop 1).dropLast ≠ [] := by
      intro hnil
      have hlength := length_text hlt
      rw [← h, hnil] at hlength
      simp at hlength
    rw [← h, eq_braced hbraces.1 hbraces.2 hne]
    simp
  rw [if_neg hbraces] at h
  by_cases hscheme : (cs.take 9).map Char.toLower = "urn:uuid:".toList
  · rw [if_pos hscheme] at h
    obtain ⟨hlt, h⟩ := ofHyphenated?_eq_some_iff.mp h
    refine ⟨hlt, Or.inr (Or.inr (Or.inr ?_))⟩
    rw [← h, ← hscheme, ← List.map_append, List.take_append_drop]
  · rw [if_neg hscheme] at h
    exact (ofHyphenated?_eq_some_iff.mp h).imp id Or.inl

/-- Every form of an identifier is read as the identifier. -/
theorem ofText?_of_mem_spellings (hlt : u.value < 2 ^ 128)
    (h : t.toList.map Char.toLower ∈ u.spellings) : ofText? t = some u := by
  have hurn : "urn:uuid:".toList.length = 9 := rfl
  simp only [spellings, List.mem_cons, List.not_mem_nil, or_false] at h
  simp only [ofText?, hurn]
  generalize t.toList = cs at h ⊢
  rcases h with htext | hdigits | hbraces | hscheme
  · have hlength : cs.length ≠ 32 := by
      have := length_text hlt
      rw [← htext, List.length_map] at this
      omega
    obtain ⟨n, hn, hhead⟩ := exists_head?_text hlt
    rw [← htext, List.head?_map] at hhead
    obtain ⟨hbrace, hu⟩ := head_ne n hn
    rw [if_neg hlength, if_neg, if_neg]
    · exact ofHyphenated?_eq_some_iff.mpr ⟨hlt, htext⟩
    · intro hs
      have hs := congrArg List.head? hs
      rw [List.head?_map, List.head?_take, if_neg (by decide), hhead] at hs
      rw [toLower_digitChar n hn] at hu
      exact hu (Option.some.inj hs)
    · rintro ⟨hb, -⟩
      rw [hb] at hhead
      exact hbrace (Option.some.inj hhead).symm
  · have hlength : cs.length = 32 := by
      rw [← length_digits hlt, ← hdigits, List.length_map]
    rw [if_pos hlength]
    exact ofPlain?_eq_some_iff.mpr ⟨hlt, hdigits⟩
  · rw [List.cons_append, List.map_eq_cons_iff] at hbraces
    obtain ⟨x, rest, rfl, hx, hrest⟩ := hbraces
    obtain ⟨mid, last, rfl, hmid, hlast⟩ := List.map_eq_append_iff.mp hrest
    obtain ⟨y, rfl, hy⟩ := List.map_eq_singleton_iff.mp hlast
    obtain rfl := eq_of_toLower hx (by decide)
    obtain rfl := eq_of_toLower hy (by decide)
    have hlength : mid.length = 36 := by
      rw [← length_text hlt, ← hmid, List.length_map]
    have hends : ('\x7b' :: (mid ++ ['\x7d'])).getLast? = some '\x7d' := by
      rw [← List.cons_append, List.getLast?_concat]
    rw [if_neg (by simp [hlength]), if_pos ⟨rfl, hends⟩, List.drop_one, List.tail_cons,
      List.dropLast_concat]
    exact ofHyphenated?_eq_some_iff.mpr ⟨hlt, hmid⟩
  · obtain ⟨front, back, rfl, hfront, hback⟩ := List.map_eq_append_iff.mp hscheme
    have hnine : front.length = 9 := by
      rw [← hurn, ← hfront, List.length_map]
    have hlength : back.length = 36 := by
      rw [← length_text hlt, ← hback, List.length_map]
    have hbrace : (front ++ back).head? ≠ some '\x7b' := by
      intro hb
      have hb := congrArg (Option.map Char.toLower) hb
      rw [← List.head?_map, List.map_append, hfront] at hb
      exact absurd (Option.some.inj hb) (by decide)
    rw [if_neg (by simp [hnine, hlength]), if_neg fun hb => hbrace hb.1,
      List.take_left' hnine, if_pos hfront, List.drop_left' hnine]
    exact ofHyphenated?_eq_some_iff.mpr ⟨hlt, hback⟩

/-- What is read as an identifier is its text, in braces or after the name of the scheme if need
    be, or its digits, each in any letter case. -/
theorem ofText?_eq_some_iff :
    ofText? t = some u ↔ u.value < 2 ^ 128 ∧ t.toList.map Char.toLower ∈ u.spellings :=
  ⟨mem_spellings_of_ofText?, fun h => ofText?_of_mem_spellings h.1 h.2⟩

end SqlGateway.Uuid
