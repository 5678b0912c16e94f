import SqlGateway.Proofs.Json.IntegerLiteral
import SqlGateway.Text.Blank

/-! Numbers in a field of digits. Zeros fill the field from the left, so what stands in it has the
    width of the field, unless the number is wider, and the value of the number:

        padded 4 37   ▶   0037   ▶   37

    Texts that are put together from such fields hold no blank, so trimming leaves them alone. -/

namespace SqlGateway

namespace Number

theorem toList_padded (width n : ℕ) : (padded width n).toList =
    List.replicate (width - (Nat.toDigits 10 n).length) '0' ++ Nat.toDigits 10 n := by
  simp [padded]

theorem isDigit_of_mem_padded {width n : ℕ} {c : Char} (h : c ∈ (padded width n).toList) :
    isDigit c = true := by
  rw [toList_padded, List.mem_append] at h
  rcases h with h | h
  · rw [(List.mem_replicate.mp h).2]
    rfl
  · exact Json.isDigit_of_mem_toDigits h

theorem length_padded (width n : ℕ) :
    (padded width n).toList.length = max width (Nat.toDigits 10 n).length := by
  rw [toList_padded, List.length_append, List.length_replicate]
  omega

theorem length_padded_of_lt {width n : ℕ} (hw : 0 < width) (hn : n < 10 ^ width) :
    (padded width n).toList.length = width := by
  rw [length_padded]
  exact max_eq_left ((Nat.length_toDigits_le_iff (by norm_num) hw).mpr hn)

theorem padded_ne_nil (width n : ℕ) : (padded width n).toList ≠ [] := by
  rw [toList_padded]
  exact List.append_ne_nil_of_right_ne_nil _ Nat.toDigits_ne_nil

theorem digitsValue_zeros (k : ℕ) : digitsValue 0 (List.replicate k '0') = 0 := by
  induction k with
  | zero => rfl
  | succ k ih => simpa [List.replicate_succ, digitsValue] using ih

theorem digitsValue_padded (width n : ℕ) : digitsValue 0 (padded width n).toList = n := by
  rw [toList_padded, Json.digitsValue_append, digitsValue_zeros, Json.digitsValue_toDigits]

end Number

/-! ### Blanks -/

namespace Text

theorem isBlank_of_isDigit {c : Char} (h : Number.isDigit c = true) : isBlank c = false := by
  simp only [Number.isDigit, Bool.and_eq_true, decide_eq_true_eq] at h
  have hl : 48 ≤ c.toNat := h.1
  have hh : c.toNat ≤ 57 := h.2
  simp only [isBlank, Bool.or_eq_false_iff, Bool.and_eq_false_iff, decide_eq_false_iff_not,
    beq_eq_false_iff_ne]
  omega

/-- No character is blank. -/
def Solid (cs : List Char) : Prop := ∀ c ∈ cs, isBlank c = false

instance : DecidablePred Solid := List.decidableBAll fun c => isBlank c = false

namespace Solid

theorem append {cs ds : List Char} (hc : Solid cs) (hd : Solid ds) : Solid (cs ++ ds) := fun c h =>
  (List.mem_append.mp h).elim (hc c) (hd c)

theorem cons {c : Char} {cs : List Char} (hc : isBlank c = false) (hcs : Solid cs) :
    Solid (c :: cs) := List.forall_mem_cons.mpr ⟨hc, hcs⟩

theorem digits {cs : List Char} (h : ∀ c ∈ cs, Number.isDigit c = true) : Solid cs := fun c hc =>
  isBlank_of_isDigit (h c hc)

theorem padded (width n : ℕ) : Solid (Number.padded width n).toList :=
  digits fun _ => Number.isDigit_of_mem_padded

/-- Blanks around what has no blank are cut off. -/
theorem trimChars_blanks {front cs back : List Char} (h : Solid cs)
    (hf : ∀ c ∈ front, isBlank c = true) (hb : ∀ c ∈ back, isBlank c = true) :
    trimChars (front ++ cs ++ back) = cs := by
  have hcut {ds : List Char} (hd : Solid ds) (hne : ds ≠ []) (rest : List Char) :
      (ds ++ rest).dropWhile isBlank = ds ++ rest := by
    obtain ⟨d, ds, rfl⟩ := List.exists_cons_of_ne_nil hne
    have hfirst : ¬ isBlank d = true := Bool.not_eq_true _ ▸ hd d List.mem_cons_self
    exact List.dropWhile_cons_of_neg hfirst
  have hrev : Solid cs.reverse := fun c hc => h c (List.mem_reverse.mp hc)
  have hbrev : ∀ c ∈ back.reverse, isBlank c = true := fun c hc => hb c (List.mem_reverse.mp hc)
  rw [trimChars, List.append_assoc, List.dropWhile_append_of_pos hf]
  rcases eq_or_ne cs [] with rfl | hne
  · rw [List.nil_append, List.dropWhile_eq_nil_iff.mpr hb]
    rfl
  · have hback := hcut hrev (List.reverse_ne_nil_iff.mpr hne) []
    rw [List.append_nil] at hback
    rw [hcut h hne back, List.reverse_append, List.dropWhile_append_of_pos hbrev, hback,
      List.reverse_reverse]

/-- A text without blanks is left alone. -/
theorem trim {s : String} (h : Solid s.toList) : Text.trim s = s := by
  have hcut : trimChars ([] ++ s.toList ++ []) = s.toList := h.trimChars_blanks nofun nofun
  rw [List.nil_append, List.append_nil] at hcut
  rw [Text.trim, hcut, String.ofList_toList]

end Solid

end Text

end SqlGateway
