import FluentSql.Text.Blank
import Mathlib

/-!
# FluentSql.Proofs.Keywords — the normal form of keywords

* `Text.IsWord`: a text that is not empty and has no blank.
* `Text.words_intercalate`: words with single spaces between them are found again.
* `Text.words_trim`: blanks at the ends are no part of words.
* `Text.words_keywordForm`: the words of a normal form are the words of the text in upper case.
* `Text.keywordForm_eq`, `Text.keywordForm_keywordForm`: a normal form is made of the words in upper case, and it is its
  own normal form.
-/

namespace FluentSql
namespace Text

/-! ## Cutting at blanks -/

section Cuts

variable {p : Char → Bool} {a b : List Char} {c : Char}

theorem splitWhere_of_forall (h : ∀ c ∈ a, p c = false) : splitWhere p a = [a] := by
  induction a with
  | nil => rfl
  | cons c a ih =>
    obtain ⟨hc, ha⟩ := List.forall_mem_cons.1 h
    rw [splitWhere, if_neg (ne_true_of_eq_false hc), ih ha]

theorem splitWhere_ne_nil (p : Char → Bool) (cs : List Char) : splitWhere p cs ≠ [] := by
  cases cs with
  | nil => exact List.cons_ne_nil [] []
  | cons c cs =>
    rw [splitWhere]
    split
    · exact List.cons_ne_nil [] _
    · split <;> exact List.cons_ne_nil _ _

/-- A list is cut at an element into the parts in front of it and those behind it. -/
theorem splitWhere_append_cons (hc : p c = true) (a b : List Char) :
    splitWhere p (a ++ c :: b) = splitWhere p a ++ splitWhere p b := by
  induction a with
  | nil => simp [splitWhere, hc]
  | cons d a ih =>
    rw [List.cons_append, splitWhere, splitWhere, ih]
    by_cases hd : p d = true
    · rw [if_pos hd, if_pos hd, List.cons_append]
    · obtain ⟨w, ws, hws⟩ := List.exists_cons_of_ne_nil (splitWhere_ne_nil p a)
      rw [if_neg hd, if_neg hd, hws]
      rfl

theorem splitWhere_append (h : ∀ c ∈ a, p c = false) (hc : p c = true) (b : List Char) :
    splitWhere p (a ++ c :: b) = a :: splitWhere p b := by
  rw [splitWhere_append_cons hc, splitWhere_of_forall h, List.singleton_append]

/-- A list that is cut everywhere has no parts but empty ones. -/
theorem filter_splitWhere_of_forall (h : ∀ c ∈ a, p c = true) : (splitWhere p a).filter (!·.isEmpty) = [] := by
  induction a with
  | nil => rfl
  | cons c a ih =>
    obtain ⟨hc, ha⟩ := List.forall_mem_cons.1 h
    rw [splitWhere, if_pos hc, List.filter_cons_of_neg (by simp), ih ha]

/-- No part of a cut list has an element at which it is cut. -/
theorem forall_of_mem_splitWhere {w : List Char} (hw : w ∈ splitWhere p a) : ∀ c ∈ w, p c = false := by
  intro c hc
  have hmem : c ∈ a.filter fun c => !p c := by
    rw [← flatten_splitWhere]
    exact List.mem_flatten.2 ⟨w, hw, hc⟩
  simpa using (List.mem_filter.1 hmem).2

/-- Parts that are joined at an element are cut there again. -/
theorem splitWhere_intercalate {ws : List (List Char)} (hne : ws ≠ []) (hc : p c = true)
    (h : ∀ w ∈ ws, ∀ d ∈ w, p d = false) : splitWhere p (List.intercalate [c] ws) = ws := by
  induction ws with
  | nil => exact absurd rfl hne
  | cons w ws ih =>
    obtain ⟨hw, hws⟩ := List.forall_mem_cons.1 h
    cases ws with
    | nil => rw [List.intercalate_singleton, splitWhere_of_forall hw]
    | cons v ws =>
      rw [List.intercalate_cons_cons, List.append_assoc, List.singleton_append, splitWhere_append hw hc,
        ih (List.cons_ne_nil v ws) hws]

end Cuts

/-! ## Words -/

/-- A text that is not empty and has no blank. -/
def IsWord (w : String) : Prop :=
  w ≠ "" ∧ ∀ c ∈ w.toList, isBlank c = false

theorem isWord_of_mem_words {s w : String} (hw : w ∈ words s) : IsWord w := by
  obtain ⟨cs, hcs, rfl⟩ := List.mem_map.1 hw
  obtain ⟨hmem, hne⟩ := List.mem_filter.1 hcs
  refine ⟨fun h => ?_, ?_⟩
  · rw [← String.toList_eq_nil_iff, String.toList_ofList] at h
    rw [h] at hne
    exact absurd hne (by decide)
  · rw [String.toList_ofList]
    exact forall_of_mem_splitWhere hmem

/-- Words with single spaces between them are found again. -/
theorem words_intercalate {ws : List String} (h : ∀ w ∈ ws, IsWord w) : words (" ".intercalate ws) = ws := by
  cases ws with
  | nil => rfl
  | cons w ws =>
    have hcut : splitWhere isBlank (List.intercalate [' '] ((w :: ws).map String.toList)) =
        (w :: ws).map String.toList := by
      refine splitWhere_intercalate (by simp) (by decide) fun cs hcs => ?_
      obtain ⟨v, hv, rfl⟩ := List.mem_map.1 hcs
      exact (h v hv).2
    have hkept : ((w :: ws).map String.toList).filter (!·.isEmpty) = (w :: ws).map String.toList := by
      refine List.filter_eq_self.2 fun cs hcs => ?_
      obtain ⟨v, hv, rfl⟩ := List.mem_map.1 hcs
      simpa using (h v hv).1
    rw [words, String.toList_intercalate]
    show ((splitWhere isBlank (List.intercalate [' '] _)).filter _).map _ = _
    rw [hcut, hkept, List.map_map]
    simp

/-! ## Blanks at the ends -/

/-- A trimmed text with the blanks that stood at its ends. -/
theorem exists_trimChars (cs : List Char) :
    ∃ front back, cs = front ++ trimChars cs ++ back ∧ (∀ c ∈ front, isBlank c = true) ∧
      ∀ c ∈ back, isBlank c = true := by
  have hback := List.takeWhile_append_dropWhile (p := isBlank) (l := (cs.dropWhile isBlank).reverse)
  refine ⟨cs.takeWhile isBlank, ((cs.dropWhile isBlank).reverse.takeWhile isBlank).reverse, ?_, ?_, ?_⟩
  · rw [trimChars, List.append_assoc, ← List.reverse_append, hback, List.reverse_reverse,
      List.takeWhile_append_dropWhile]
  · exact fun c hc => List.mem_takeWhile_imp hc
  · exact fun c hc => List.mem_takeWhile_imp (List.mem_reverse.1 hc)

section Ends

variable {a b : List Char}

theorem words_append_blanks (h : ∀ c ∈ b, isBlank c = true) :
    words (String.ofList (a ++ b)) = words (String.ofList a) := by
  cases b with
  | nil => rw [List.append_nil]
  | cons c b =>
    obtain ⟨hc, hb⟩ := List.forall_mem_cons.1 h
    simp only [words, String.toList_ofList]
    rw [splitWhere_append_cons hc, List.filter_append, filter_splitWhere_of_forall hb, List.append_nil]

theorem words_blanks_append (h : ∀ c ∈ a, isBlank c = true) :
    words (String.ofList (a ++ b)) = words (String.ofList b) := by
  induction a with
  | nil => rfl
  | cons c a ih =>
    obtain ⟨hc, ha⟩ := List.forall_mem_cons.1 h
    rw [← ih ha]
    simp only [words, String.toList_ofList, List.cons_append]
    rw [splitWhere, if_pos hc, List.filter_cons_of_neg (by simp)]

end Ends

/-- Blanks at the ends are no part of words. -/
theorem words_trim (s : String) : words (trim s) = words s := by
  obtain ⟨front, back, hs, hfront, hback⟩ := exists_trimChars s.toList
  calc words (trim s) = words (String.ofList (front ++ trimChars s.toList ++ back)) := by
        rw [words_append_blanks hback, words_blanks_append hfront, trim]
    _ = words s := by rw [← hs, String.ofList_toList]

/-! ## Upper case -/

theorem isBlank_of_isAlpha {c : Char} (h : c.isAlpha = true) : isBlank c = false := by
  have hrange : (65 ≤ c.toNat ∧ c.toNat ≤ 90) ∨ (97 ≤ c.toNat ∧ c.toNat ≤ 122) := by
    simpa [Char.isAlpha, Char.isUpper, Char.isLower, UInt32.le_iff_toNat_le] using h
  simp only [isBlank, Bool.or_eq_false_iff, Bool.and_eq_false_iff, decide_eq_false_iff_not, beq_eq_false_iff_ne]
  omega

/-- Letters are no blanks, in upper case or not. -/
theorem isBlank_toUpper (c : Char) : isBlank c.toUpper = isBlank c := by
  by_cases h : c.isLower = true
  · have halpha : c.isAlpha = true := by simp [Char.isAlpha, h]
    rw [isBlank_of_isAlpha halpha, isBlank_of_isAlpha (by rwa [Char.isAlpha_toUpper_eq_isAlpha])]
  · rw [Char.toUpper_eq_of_not_isLower h]

@[simp] theorem upperAscii_upperAscii (s : String) : upperAscii (upperAscii s) = upperAscii s := by
  simp [upperAscii, Function.comp_def]

theorem IsWord.upperAscii {w : String} (h : IsWord w) : IsWord (upperAscii w) := by
  refine ⟨fun hempty => h.1 ?_, fun c hc => ?_⟩
  · simpa [Text.upperAscii] using hempty
  · rw [Text.upperAscii, String.toList_ofList] at hc
    obtain ⟨d, hd, rfl⟩ := List.mem_map.1 hc
    rw [isBlank_toUpper]
    exact h.2 d hd

theorem upperAscii_append (s t : String) : upperAscii (s ++ t) = upperAscii s ++ upperAscii t := by
  simp [upperAscii]

/-- Spaces have no letter case. -/
theorem upperAscii_intercalate (ws : List String) :
    upperAscii (" ".intercalate ws) = " ".intercalate (ws.map upperAscii) := by
  induction ws with
  | nil => rfl
  | cons w ws ih =>
    cases ws with
    | nil => simp
    | cons v ws =>
      rw [String.intercalate_cons_cons, upperAscii_append, upperAscii_append, ih, List.map_cons, List.map_cons,
        List.map_cons, String.intercalate_cons_cons]
      rfl

/-! ## Normal forms -/

theorem keywordForm_eq (s : String) : keywordForm s = " ".intercalate ((words s).map upperAscii) :=
  upperAscii_intercalate (words s)

theorem words_keywordForm (s : String) : words (keywordForm s) = (words s).map upperAscii := by
  rw [keywordForm_eq]
  refine words_intercalate fun w hw => ?_
  obtain ⟨v, hv, rfl⟩ := List.mem_map.1 hw
  exact (isWord_of_mem_words hv).upperAscii

/-- A normal form is its own normal form. -/
theorem keywordForm_keywordForm (s : String) : keywordForm (keywordForm s) = keywordForm s := by
  rw [keywordForm_eq (keywordForm s), words_keywordForm, List.map_map, keywordForm_eq]
  simp [Function.comp_def]

end Text
end FluentSql
