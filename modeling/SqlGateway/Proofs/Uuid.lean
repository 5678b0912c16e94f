import SqlGateway.Proofs.Number.Padded
import SqlGateway.Uuid

/-! The text of an identifier is read back to the identifier. An identifier of 128 bits has 32
    digits, of which the groups of the text are stretches of fixed length:

        8 - 4 - 4 - 4 - 12

    Its text is as long as no other form that is read, and begins like none of them. -/

namespace SqlGateway.Uuid

/-! ### Digits -/

theorem hexValue?_digitChar : ∀ n < 16, Json.hexValue? (Nat.digitChar n) = some n := by decide

theorem isBlank_digitChar : ∀ n < 16, Text.isBlank (Nat.digitChar n) = false := by decide

theorem digitsValue?_append (cs ds : List Char) : digitsValue? (cs ++ ds) =
    (digitsValue? cs).bind fun n =>
      ds.foldlM (fun n c => (Json.hexValue? c).map (16 * n + ·)) n := by
  rw [digitsValue?, List.foldlM_append]
  rfl

theorem digitsValue?_toDigits (n : ℕ) : digitsValue? (Nat.toDigits 16 n) = some n := by
  induction n using Nat.strongRecOn with
  | ind n ih =>
    rw [Nat.toDigits_eq_if (by norm_num)]
    split
    next h => simp [digitsValue?, hexValue?_digitChar n h]
    next h =>
      rw [digitsValue?_append, ih (n / 16) (by omega)]
      simp [hexValue?_digitChar (n % 16) (Nat.mod_lt _ (by norm_num))]
      omega

theorem digitsValue?_zeros (k : ℕ) (cs : List Char) :
    digitsValue? (List.replicate k '0' ++ cs) = digitsValue? cs := by
  induction k with
  | zero => rfl
  | succ k ih => exact ih

variable {u : Uuid}

theorem digitsValue?_digits : digitsValue? u.digits = some u.value := by
  rw [digits, digitsValue?_zeros, digitsValue?_toDigits]

theorem exists_digitChar_of_mem_toDigits {n : ℕ} {c : Char} (h : c ∈ Nat.toDigits 16 n) :
    ∃ k < 16, c = Nat.digitChar k := by
  induction n using Nat.strongRecOn with
  | ind n ih =>
    rw [Nat.toDigits_eq_if (by norm_num)] at h
    split at h
    next hn => exact ⟨n, hn, List.mem_singleton.mp h⟩
    next hn =>
      rcases List.mem_append.mp h with h | h
      · exact ih (n / 16) (by omega) h
      · exact ⟨n % 16, Nat.mod_lt _ (by norm_num), List.mem_singleton.mp h⟩

theorem exists_digitChar_of_mem_digits {c : Char} (h : c ∈ u.digits) :
    ∃ k < 16, c = Nat.digitChar k := by
  rcases List.mem_append.mp h with h | h
  · exact ⟨0, by norm_num, (List.mem_replicate.mp h).2⟩
  · exact exists_digitChar_of_mem_toDigits h

theorem length_digits (h : u.value < 2 ^ 128) : u.digits.length = 32 := by
  have hle : (Nat.toDigits 16 u.value).length ≤ 32 :=
    (Nat.length_toDigits_le_iff (by norm_num) (by norm_num)).mpr (h.trans_eq (by norm_num))
  simp only [digits, List.length_append, List.length_replicate]
  omega

/-! ### Groups -/

/-- Groups of the right lengths are found where they stand. -/
theorem unhyphenate?_groups {a b c d e : List Char} (ha : a.length = 8) (hb : b.length = 4)
    (hc : c.length = 4) (hd : d.length = 4) (he : e.length = 12) :
    unhyphenate? (a ++ '-' :: b ++ '-' :: c ++ '-' :: d ++ '-' :: e) =
      some (a ++ b ++ c ++ d ++ e) := by
  have htake {n : ℕ} {xs ys : List Char} (h : xs.length = n) : (xs ++ ys).take n = xs :=
    List.take_left' h
  have hdrop {n k : ℕ} {xs ys : List Char} (h : xs.length = n) :
      (xs ++ '-' :: ys).drop (n + 1 + k) = ys.drop k := by
    rw [List.drop_append, h]
    simp [List.drop_eq_nil_of_le (by omega : xs.length ≤ n + 1 + k),
      (by omega : n + 1 + k - n = k + 1)]
  simp only [List.append_assoc, List.cons_append]
  have h9 : (a ++ '-' :: (b ++ '-' :: (c ++ '-' :: (d ++ '-' :: e)))).drop 9 =
      b ++ '-' :: (c ++ '-' :: (d ++ '-' :: e)) := hdrop (k := 0) ha
  have h14 : (a ++ '-' :: (b ++ '-' :: (c ++ '-' :: (d ++ '-' :: e)))).drop 14 =
      c ++ '-' :: (d ++ '-' :: e) := (hdrop (k := 5) ha).trans (hdrop (k := 0) hb)
  have h19 : (a ++ '-' :: (b ++ '-' :: (c ++ '-' :: (d ++ '-' :: e)))).drop 19 =
      d ++ '-' :: e :=
    (hdrop (k := 10) ha).trans ((hdrop (k := 5) hb).trans (hdrop (k := 0) hc))
  have h24 : (a ++ '-' :: (b ++ '-' :: (c ++ '-' :: (d ++ '-' :: e)))).drop 24 = e :=
    (hdrop (k := 15) ha).trans ((hdrop (k := 10) hb).trans ((hdrop (k := 5) hc).trans
      (hdrop (k := 0) hd)))
  rw [unhyphenate?, htake ha, h9, h14, h19, h24, htake hb, htake hc, htake hd]
  simp [he]

/-- The digits in groups. -/
theorem exists_groups (h : u.value < 2 ^ 128) : ∃ a b c d e : List Char,
    a.length = 8 ∧ b.length = 4 ∧ c.length = 4 ∧ d.length = 4 ∧ e.length = 12 ∧
      u.digits = a ++ b ++ c ++ d ++ e ∧
      u.text.toList = a ++ '-' :: b ++ '-' :: c ++ '-' :: d ++ '-' :: e := by
  have hlength := length_digits h
  have hcut (k : ℕ) : (u.digits.drop k).take 4 ++ u.digits.drop (k + 4) = u.digits.drop k := by
    rw [← List.drop_drop]
    exact List.take_append_drop 4 _
  have hdigits : u.digits.take 8 ++ (u.digits.drop 8).take 4 ++ (u.digits.drop 12).take 4 ++
      (u.digits.drop 16).take 4 ++ u.digits.drop 20 = u.digits := by
    simp only [List.append_assoc, hcut, List.take_append_drop]
  refine ⟨_, _, _, _, _, ?_, ?_, ?_, ?_, ?_, hdigits.symm, by rw [text, String.toList_ofList]⟩
  all_goals simp only [List.length_take, List.length_drop]; omega

/-- The first character of a text, a digit, opens neither braces nor the name of a scheme. -/
theorem head_ne : ∀ n < 16, Nat.digitChar n ≠ '\x7b' ∧ (Nat.digitChar n).toLower ≠ 'u' := by decide

/-- The text of an identifier is read as the identifier. -/
theorem ofText?_text (h : u.value < 2 ^ 128) : ofText? u.text = some u := by
  obtain ⟨a, b, c, d, e, ha, hb, hc, hd, he, hdigits, htext⟩ := exists_groups h
  obtain ⟨x, a, rfl⟩ := List.exists_cons_of_length_pos (by omega : 0 < a.length)
  obtain ⟨n, hn, rfl⟩ := exists_digitChar_of_mem_digits
    (hdigits ▸ by simp : x ∈ u.digits)
  obtain ⟨hbrace, hurn⟩ := head_ne n hn
  have hread : ofHyphenated? u.text.toList = some u := by
    rw [ofHyphenated?, htext, unhyphenate?_groups ha hb hc hd he, ← hdigits, Option.bind_some,
      ofPlain?, if_pos (length_digits h), digitsValue?_digits]
    rfl
  have hlength : u.text.toList.length ≠ 32 := by
    simp only [htext, List.length_append, List.length_cons] at ha ⊢
    omega
  have hhead : ¬ (u.text.toList.head? = some '\x7b' ∧ u.text.toList.getLast? = some '\x7d') :=
    fun hb => hbrace (by simpa [htext] using hb.1)
  have hscheme : ¬ (u.text.toList.take "urn:uuid:".toList.length).map Char.toLower =
      "urn:uuid:".toList := fun hu => hurn (by simpa [htext] using congrArg List.head? hu)
  simp only [ofText?, if_neg hlength, if_neg hhead, if_neg hscheme, hread]

theorem solid_text (h : u.value < 2 ^ 128) : Text.Solid u.text.toList := by
  obtain ⟨a, b, c, d, e, -, -, -, -, -, hdigits, htext⟩ := exists_groups h
  have hsolid : Text.Solid (a ++ b ++ c ++ d ++ e) := fun x hx => by
    obtain ⟨n, hn, rfl⟩ := exists_digitChar_of_mem_digits (hdigits ▸ hx)
    exact isBlank_digitChar n hn
  rw [htext]
  intro x hx
  by_cases hdash : x = '-'
  · rw [hdash]
    decide
  · simp only [List.mem_append, List.mem_cons, hdash, false_or] at hx
    exact hsolid x (by simpa only [List.mem_append] using hx)

end SqlGateway.Uuid
