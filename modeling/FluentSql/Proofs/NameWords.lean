import FluentSql.Naming
import Mathlib

/-!
# FluentSql.Proofs.NameWords — what a convention makes of a name

* `Naming.flatten_nameWords`: the words of a name are its letters and numbers.
* `Naming.WrittenAs`: a word and its form in a convention.
* `ColumnNaming.apply_of_alphanumeric`: a convention leaves something of every name with a letter or number, and no
  hyphen.
-/

namespace FluentSql

/-! ## Characters -/

namespace Text

/-- A hyphen comes from its own code only. -/
theorem eq_of_ofNat_eq_hyphen {n : Nat} (h : Char.ofNat n = '-') : n = 0x2d := by
  have htoNat : (Char.ofNat n).toNat = 0x2d := by rw [h]; rfl
  rw [Char.toNat_ofNat] at htoNat
  split_ifs at htoNat
  exact htoNat

/-- Tables of a mapping that makes something of each letter, and no hyphen. -/
structure MapsLetters (expansions : List (Nat × List Nat)) (runs : List (Nat × Nat × Nat × Nat)) : Prop where
  expansions : expansions.all (fun e => !e.2.isEmpty && e.2.all (· != 0x2d)) = true
  shifts : runs.all (fun r => 0x2d < r.2.2.2) = true

theorem mapsLetters_lower : MapsLetters lowerExpansions lowerShifts :=
  ⟨by decide +kernel, by decide +kernel⟩

theorem mapsLetters_upper : MapsLetters upperExpansions upperShifts :=
  ⟨by decide +kernel, by decide +kernel⟩

theorem MapsLetters.lt_shifted {expansions : List (Nat × List Nat)} {runs : List (Nat × Nat × Nat × Nat)}
    (h : MapsLetters expansions runs) {n : Nat} (hn : 0x2d < n) : 0x2d < shifted runs n := by
  unfold shifted
  split
  · rename_i lo hi step image hfound
    have himage : 0x2d < image := by simpa using List.all_eq_true.1 h.shifts _ (List.mem_of_find?_eq_some hfound)
    omega
  · exact hn

theorem MapsLetters.mapped_ne_nil {expansions : List (Nat × List Nat)} {runs : List (Nat × Nat × Nat × Nat)}
    (h : MapsLetters expansions runs) (c : Char) : mapped expansions runs c ≠ [] := by
  unfold mapped
  split
  · rename_i n image hfound
    have himage := List.all_eq_true.1 h.expansions _ (List.mem_of_find?_eq_some hfound)
    simp only [Bool.and_eq_true, Bool.not_eq_true', List.isEmpty_eq_false_iff] at himage
    simpa using himage.1
  · exact List.cons_ne_nil _ _

theorem MapsLetters.hyphen_notMem_mapped {expansions : List (Nat × List Nat)} {runs : List (Nat × Nat × Nat × Nat)}
    (h : MapsLetters expansions runs) {c : Char} (hc : 0x2d < c.toNat) : '-' ∉ mapped expansions runs c := by
  intro hmem
  unfold mapped at hmem
  split at hmem
  · rename_i n image hfound
    have himage := List.all_eq_true.1 h.expansions _ (List.mem_of_find?_eq_some hfound)
    simp only [Bool.and_eq_true, List.all_eq_true, bne_iff_ne] at himage
    obtain ⟨m, hm, heq⟩ := List.mem_map.1 hmem
    exact himage.2 m hm (eq_of_ofNat_eq_hyphen heq)
  · have hshift := eq_of_ofNat_eq_hyphen (List.mem_singleton.1 hmem).symm
    have := h.lt_shifted hc
    omega

theorem ascii_ne_hyphen {c : Char} (h : isAlphanumeric c = true) (hc : c.toNat < 0x80) :
    c.toLower ≠ '-' ∧ c.toUpper ≠ '-' := by
  have hascii : ∀ n < 0x80, isAlphanumeric (Char.ofNat n) = true →
      (Char.ofNat n).toLower ≠ '-' ∧ (Char.ofNat n).toUpper ≠ '-' := by
    decide
  have := hascii c.toNat hc
  rw [Char.ofNat_toNat] at this
  exact this h

theorem lowerChar_ne_nil (c : Char) : lowerChar c ≠ [] := by
  unfold lowerChar
  split_ifs
  · exact List.cons_ne_nil _ _
  · exact mapsLetters_lower.mapped_ne_nil c

theorem upperChar_ne_nil (c : Char) : upperChar c ≠ [] := by
  unfold upperChar
  split_ifs
  · exact List.cons_ne_nil _ _
  · exact mapsLetters_upper.mapped_ne_nil c

theorem hyphen_notMem_lowerChar {c : Char} (h : isAlphanumeric c = true) : '-' ∉ lowerChar c := by
  unfold lowerChar
  split_ifs with hc
  · exact fun hmem => (ascii_ne_hyphen h hc).1 (List.mem_singleton.1 hmem).symm
  · exact mapsLetters_lower.hyphen_notMem_mapped (by omega)

theorem hyphen_notMem_upperChar {c : Char} (h : isAlphanumeric c = true) : '-' ∉ upperChar c := by
  unfold upperChar
  split_ifs with hc
  · exact fun hmem => (ascii_ne_hyphen h hc).2 (List.mem_singleton.1 hmem).symm
  · exact mapsLetters_upper.hyphen_notMem_mapped (by omega)

/-! ## Words -/

theorem lowerWord_ne_nil {w : List Char} (h : w ≠ []) : lowerWord w ≠ [] := by
  fun_cases lowerWord w with
  | case1 => exact absurd rfl h
  | case2 => exact List.cons_ne_nil _ _
  | case3 c r =>
    intro hnil
    exact lowerChar_ne_nil c (List.append_eq_nil_iff.1 hnil).1

theorem hyphen_notMem_lowerWord {w : List Char} (h : ∀ c ∈ w, isAlphanumeric c = true) : '-' ∉ lowerWord w := by
  fun_induction lowerWord w with
  | case1 => exact List.not_mem_nil
  | case2 => decide
  | case3 c r _ ih =>
    obtain ⟨hc, hr⟩ := List.forall_mem_cons.1 h
    exact List.not_mem_append (hyphen_notMem_lowerChar hc) (ih hr)

end Text

/-! ## Conventions -/

namespace Naming

open Text

theorem flatten_consWord (c : Char) (ws : List (List Char)) : (consWord c ws).flatten = c :: ws.flatten := by
  cases ws <;> rfl

/-- Cutting at case changes loses nothing. -/
theorem flatten_caseWords (mode : LastCase) (cs : List Char) : (caseWords mode cs).flatten = cs := by
  fun_induction caseWords mode cs with
  | case1 => rfl
  | case2 => rfl
  | case3 => simp_all
  | case4 => simp_all [flatten_consWord]
  | case5 => simp_all [flatten_consWord]

/-- The words of a name are its letters and numbers. -/
theorem flatten_nameWords (s : String) : (nameWords s).flatten = s.toList.filter isAlphanumeric := by
  have hflat (parts : List (List Char)) : (parts.flatMap (caseWords .uncased)).flatten = parts.flatten := by
    induction parts with
    | nil => rfl
    | cons part parts ih => rw [List.flatMap_cons, List.flatten_append, flatten_caseWords, ih, List.flatten_cons]
  rw [nameWords, hflat, flatten_splitWhere]
  simp

/-- A word and its form in a convention. -/
structure WrittenAs (w image : List Char) : Prop where
  ne_nil : w ≠ [] → image ≠ []
  hyphen_notMem : (∀ c ∈ w, isAlphanumeric c = true) → '-' ∉ image

theorem writtenAs_lowerWord (w : List Char) : WrittenAs w (lowerWord w) :=
  ⟨lowerWord_ne_nil, hyphen_notMem_lowerWord⟩

theorem writtenAs_capitalize (w : List Char) : WrittenAs w (capitalize w) := by
  cases w with
  | nil => exact ⟨fun h => absurd rfl h, fun _ => List.not_mem_nil⟩
  | cons c r =>
    refine ⟨fun _ hnil => upperChar_ne_nil c (List.append_eq_nil_iff.1 hnil).1, fun h => ?_⟩
    obtain ⟨hc, hr⟩ := List.forall_mem_cons.1 h
    exact List.not_mem_append (hyphen_notMem_upperChar hc) (hyphen_notMem_lowerWord hr)

theorem notMem_intercalate {separator : List Char} {ws : List (List Char)} {c : Char} (hseparator : c ∉ separator)
    (h : ∀ w ∈ ws, c ∉ w) : c ∉ separator.intercalate ws := by
  induction ws with
  | nil => simp [List.intercalate]
  | cons w ws ih =>
    obtain ⟨hw, hws⟩ := List.forall_mem_cons.1 h
    cases ws with
    | nil => rwa [List.intercalate_singleton]
    | cons v ws =>
      rw [List.intercalate_cons_cons]
      exact List.not_mem_append (List.not_mem_append hw hseparator) (ih hws)

theorem exists_ne_nil_of_writtenAs {ws images : List (List Char)} (h : List.Forall₂ WrittenAs ws images)
    (hne : ws.flatten ≠ []) : ∃ image ∈ images, image ≠ [] := by
  induction h with
  | nil => exact absurd rfl hne
  | @cons w image ws images hw _ ih =>
    by_cases hword : w = []
    · rw [hword] at hne
      obtain ⟨image', himage', hne'⟩ := ih hne
      exact ⟨image', List.mem_cons_of_mem image himage', hne'⟩
    · exact ⟨image, List.mem_cons_self, hw.ne_nil hword⟩

theorem hyphen_notMem_of_writtenAs {ws images : List (List Char)} (h : List.Forall₂ WrittenAs ws images)
    (hletters : ∀ c ∈ ws.flatten, isAlphanumeric c = true) : ∀ image ∈ images, '-' ∉ image := by
  induction h with
  | nil => simp
  | cons hw _ ih =>
    rw [List.flatten_cons, List.forall_mem_append] at hletters
    exact List.forall_mem_cons.2 ⟨hw.hyphen_notMem hletters.1, ih hletters.2⟩

theorem joinWords_of_writtenAs {separator : List Char} {ws images : List (List Char)}
    (himages : List.Forall₂ WrittenAs ws images) (hletters : ∀ c ∈ ws.flatten, isAlphanumeric c = true)
    (hne : ws.flatten ≠ []) (hseparator : '-' ∉ separator) :
    joinWords separator images ≠ "" ∧ joinWords separator images ≠ "-" := by
  have htoList : (joinWords separator images).toList = separator.intercalate images := by
    rw [joinWords, String.toList_ofList]
  constructor
  · intro hempty
    obtain ⟨image, himage, hne⟩ := exists_ne_nil_of_writtenAs himages hne
    obtain ⟨c, hc⟩ := List.exists_mem_of_ne_nil image hne
    have hmem : c ∈ separator.intercalate images := mem_intercalate himage hc
    rw [← htoList, hempty] at hmem
    exact absurd hmem List.not_mem_nil
  · intro hdash
    have hnotMem := notMem_intercalate hseparator (hyphen_notMem_of_writtenAs himages hletters)
    rw [← htoList, hdash] at hnotMem
    exact hnotMem (by decide)

end Naming

/-- A convention leaves something of every name with a letter or number, and no hyphen alone. -/
theorem ColumnNaming.apply_of_alphanumeric {naming : ColumnNaming} (hnaming : naming ≠ .asIs) {name : String}
    (h : ∃ c ∈ name.toList, Text.isAlphanumeric c = true) : naming.apply name ≠ "" ∧ naming.apply name ≠ "-" := by
  have hwords := Naming.flatten_nameWords name
  have hletters : ∀ c ∈ (Naming.nameWords name).flatten, Text.isAlphanumeric c = true := by
    rw [hwords]
    exact fun c hc => (List.mem_filter.1 hc).2
  have hne : (Naming.nameWords name).flatten ≠ [] := by
    obtain ⟨c, hc, hletter⟩ := h
    rw [hwords]
    exact List.ne_nil_of_mem (List.mem_filter.2 ⟨hc, hletter⟩)
  have hcapitalized (ws : List (List Char)) : List.Forall₂ Naming.WrittenAs ws (ws.map Text.capitalize) :=
    List.forall₂_map_right_iff.2 (List.forall₂_same.2 fun w _ => Naming.writtenAs_capitalize w)
  -- each rule writes the words in some case and joins them, so their letters stay
  cases naming with
  | asIs => exact absurd rfl hnaming
  | snakeCase =>
    have hlowered : List.Forall₂ Naming.WrittenAs (Naming.nameWords name) ((Naming.nameWords name).map Text.lowerWord) :=
      List.forall₂_map_right_iff.2 (List.forall₂_same.2 fun w _ => Naming.writtenAs_lowerWord w)
    exact Naming.joinWords_of_writtenAs hlowered hletters hne (by decide)
  | pascalCase => exact Naming.joinWords_of_writtenAs (hcapitalized _) hletters hne List.not_mem_nil
  | camelCase =>
    show Naming.camelCase name ≠ "" ∧ Naming.camelCase name ≠ "-"
    unfold Naming.camelCase
    cases hcases : Naming.nameWords name with
    | nil => exact absurd (congrArg List.flatten hcases) hne
    | cons w ws =>
      rw [hcases] at hletters hne
      exact Naming.joinWords_of_writtenAs (.cons (Naming.writtenAs_lowerWord w) (hcapitalized ws)) hletters hne
        List.not_mem_nil

end FluentSql
