import FluentSql.Execution.Hook
import FluentSql.Proofs.ByteSegments

/-!
# FluentSql.Proofs.Truncation — texts cut to a number of bytes

* `Text.LongestFront`: the longest part of a text, from its start on, that ends between two characters and fits.
* `Text.takeBytes_longest`: `takeBytes` finds it.
* `Text.cutBytes`: the cut at a position in bytes that is looked for backwards. It has no result if the position is
  inside a character; `Text.cutBytes_eq` says that this never happens, and that it finds the same.
* `Text.ShownUpTo`: a text that fits, or the longest part of it and `...`.
* `shown_up_to_limit`: what hooks show of queries and what is told of failures.
-/

namespace FluentSql
namespace Text

open Template (utf8 length_utf8_cons utf8ByteSize_eq splitAtByte splitAtByte_append)

/-! ## Characters that fit -/

section Chars

variable {n : Nat} {a cs : List Char}

theorem exists_takeChars (n : Nat) (cs : List Char) : ∃ rest, cs = takeChars n cs ++ rest := by
  fun_induction takeChars n cs with
  | case1 => exact ⟨[], rfl⟩
  | case2 n c r hfits ih =>
    obtain ⟨rest, hrest⟩ := ih
    exact ⟨rest, congrArg (c :: ·) hrest⟩
  | case3 n c r hfits => exact ⟨c :: r, rfl⟩

theorem takeChars_fits (n : Nat) (cs : List Char) : (utf8 (takeChars n cs)).length ≤ n := by
  fun_induction takeChars n cs with
  | case1 => exact Nat.zero_le _
  | case2 n c r hfits ih =>
    rw [length_utf8_cons]
    omega
  | case3 => exact Nat.zero_le _

/-- Whatever a text starts with and fits is no longer. -/
theorem length_le_takeChars (ha : a <+: cs) (hfits : (utf8 a).length ≤ n) :
    (utf8 a).length ≤ (utf8 (takeChars n cs)).length := by
  fun_induction takeChars n cs generalizing a with
  | case1 => rw [List.prefix_nil.1 ha]
  | case2 n c r hc ih =>
    cases a with
    | nil => exact Nat.zero_le _
    | cons d a =>
      obtain ⟨rfl, htail⟩ := List.cons_prefix_cons.1 ha
      rw [length_utf8_cons] at hfits
      rw [length_utf8_cons, length_utf8_cons]
      exact Nat.add_le_add_left (ih htail (Nat.le_sub_of_add_le' hfits)) _
  | case3 n c r hc =>
    cases a with
    | nil => exact Nat.zero_le _
    | cons d a =>
      obtain ⟨rfl, -⟩ := List.cons_prefix_cons.1 ha
      rw [length_utf8_cons] at hfits
      omega

/-- A text that does not fit loses less than one character of what would. -/
theorem le_length_takeChars (h : n < (utf8 cs).length) : n ≤ (utf8 (takeChars n cs)).length + 3 := by
  fun_induction takeChars n cs with
  | case1 => exact absurd h (Nat.not_lt_zero _)
  | case2 n c r hc ih =>
    rw [length_utf8_cons] at h ⊢
    have hrest := ih (by omega)
    omega
  | case3 n c r hc =>
    have hsize := c.utf8Size_le_four
    omega

end Chars

/-! ## The longest part that fits -/

/-- The longest part of a text, from its start on, that ends between two characters and takes at most `limit` bytes. -/
structure LongestFront (limit : Nat) (s front : String) : Prop where
  splits : ∃ rest, s = front ++ rest
  between : (⟨front.utf8ByteSize⟩ : String.Pos.Raw).IsValid s
  fits : front.utf8ByteSize ≤ limit
  longest : ∀ p : String.Pos.Raw, p.IsValid s → p.byteIdx ≤ limit → p.byteIdx ≤ front.utf8ByteSize

theorem takeBytes_longest (limit : Nat) (s : String) : LongestFront limit s (takeBytes limit s) := by
  have hsize : (takeBytes limit s).utf8ByteSize = (utf8 (takeChars limit s.toList)).length := by
    rw [utf8ByteSize_eq, takeBytes, String.toList_ofList]
  obtain ⟨rest, hrest⟩ := exists_takeChars limit s.toList
  have hsplits : s = takeBytes limit s ++ String.ofList rest := by
    rw [takeBytes, ← String.ofList_append, ← hrest, String.ofList_toList]
  refine ⟨⟨_, hsplits⟩, ?_, ?_, ?_⟩
  · exact String.Pos.Raw.isValid_iff_exists_append.2 ⟨_, _, hsplits, rfl⟩
  · rw [hsize]
    exact takeChars_fits limit s.toList
  · intro p hp hfits
    obtain ⟨front, back, rfl, rfl⟩ := String.Pos.Raw.isValid_iff_exists_append.1 hp
    rw [String.byteIdx_rawEndPos, utf8ByteSize_eq] at hfits ⊢
    rw [hsize]
    exact length_le_takeChars ⟨back.toList, String.toList_append.symm⟩ hfits

theorem le_takeBytes {limit : Nat} {s : String} (h : limit < s.utf8ByteSize) :
    limit ≤ (takeBytes limit s).utf8ByteSize + 3 := by
  rw [utf8ByteSize_eq] at h
  rw [utf8ByteSize_eq, takeBytes, String.toList_ofList]
  exact le_length_takeChars h

/-- A text that fits is its own longest part. -/
theorem LongestFront.eq_of_fits {limit : Nat} {s front : String} (h : LongestFront limit s front)
    (hfits : s.utf8ByteSize ≤ limit) : front = s := by
  obtain ⟨rest, rfl⟩ := h.splits
  have hwhole := h.longest _ String.Pos.Raw.isValid_rawEndPos hfits
  rw [String.byteIdx_rawEndPos, String.utf8ByteSize_append] at hwhole
  have hrest : rest = "" := String.utf8ByteSize_eq_zero_iff.1 (by omega)
  rw [hrest, String.append_empty]

/-! ## Cuts at positions -/

/-- The last position between two characters that is at most `limit` bytes from the start. The search goes back from
there byte by byte. -/
def backOff (s : String) (limit : Nat) : Nat :=
  Nat.findGreatest (fun i => (⟨i⟩ : String.Pos.Raw).IsValid s) limit

/-- A text of at most `limit` bytes, any other one cut at a position. There is no result if the position is inside a
character. -/
def cutBytes (limit : Nat) (s : String) : Option String :=
  if s.utf8ByteSize ≤ limit then some s
  else (splitAtByte (backOff s limit) s.toList).map fun parts => String.ofList parts.1

theorem backOff_eq {limit : Nat} {s front : String} (h : LongestFront limit s front) :
    backOff s limit = front.utf8ByteSize := by
  have hvalid : (⟨backOff s limit⟩ : String.Pos.Raw).IsValid s :=
    Nat.findGreatest_spec (P := fun i => (⟨i⟩ : String.Pos.Raw).IsValid s) (Nat.zero_le limit)
      String.Pos.Raw.isValid_zero
  exact Nat.le_antisymm (h.longest _ hvalid (Nat.findGreatest_le limit)) (Nat.le_findGreatest h.fits h.between)

/-- The cut is never inside a character, and what is in front of it is the longest part that fits. -/
theorem cutBytes_eq (limit : Nat) (s : String) : cutBytes limit s = some (takeBytes limit s) := by
  have hlongest := takeBytes_longest limit s
  rw [cutBytes]
  split
  case isTrue hfits => rw [hlongest.eq_of_fits hfits]
  case isFalse =>
    obtain ⟨rest, hrest⟩ := hlongest.splits
    have hchars : s.toList = (takeBytes limit s).toList ++ rest.toList := by
      rw [← String.toList_append, ← hrest]
    rw [backOff_eq hlongest, utf8ByteSize_eq, hchars, splitAtByte_append, Option.map_some, String.ofList_toList]

/-! ## Texts that are shown -/

/-- What is shown of a text up to a limit: all of it, or the longest part that fits and three dots. The part is at most
three bytes shorter than the limit. -/
inductive ShownUpTo (limit : Nat) (s : String) : String → Prop
  | whole (hfits : s.utf8ByteSize ≤ limit) : ShownUpTo limit s s
  | cut {front : String} (hlong : limit < s.utf8ByteSize) (hfront : cutBytes limit s = some front)
      (hlongest : LongestFront limit s front) (hloss : limit ≤ front.utf8ByteSize + 3) :
      ShownUpTo limit s (front ++ "...")

theorem ShownUpTo.size_le {limit : Nat} {s shown : String} (h : ShownUpTo limit s shown) :
    shown.utf8ByteSize ≤ limit + 3 := by
  cases h with
  | whole hfits => exact Nat.le_add_right_of_le hfits
  | cut hlong hfront hlongest hloss =>
    have hdots : "...".utf8ByteSize = 3 := by decide
    rw [String.utf8ByteSize_append, hdots]
    exact Nat.add_le_add_right hlongest.fits 3

theorem abbreviate_shown (limit : Nat) (s : String) : ShownUpTo limit s (abbreviate limit s) := by
  unfold abbreviate
  split
  case isTrue hfits => exact .whole hfits
  case isFalse hlong =>
    have hlong := Nat.lt_of_not_le hlong
    exact .cut hlong (cutBytes_eq limit s) (takeBytes_longest limit s) (le_takeBytes hlong)

end Text

open Text

/-- **What is shown of a text.** Going back from a limit to a position between two characters and cutting there always
has a result: the longest part of the text that ends between two characters and fits. Queries are shown by tracing hooks
up to their limit, and failures are told up to 512 bytes: a text that fits is unchanged, and of any other one this part
is followed by three dots, so that at most three bytes more than the limit are shown, and at most three bytes are lost
to the character that is not cut. -/
theorem shown_up_to_limit :
    (∀ limit s, cutBytes limit s = some (takeBytes limit s) ∧ LongestFront limit s (takeBytes limit s)) ∧
    (∀ t : Hook.Tracing, ∀ sql,
      (t.sqlLimit = none → t.shown sql = sql) ∧
      ∀ limit, t.sqlLimit = some limit →
        ShownUpTo limit sql (t.shown sql) ∧ (t.shown sql).utf8ByteSize ≤ limit + 3) ∧
    ∀ message, ∃ shown, QueryOutcome.ofMessage message = .failed shown ∧
      ShownUpTo 512 message shown ∧ shown.utf8ByteSize ≤ 512 + 3 := by
  refine ⟨fun limit s => ⟨cutBytes_eq limit s, takeBytes_longest limit s⟩, fun t sql => ⟨fun h => ?_, fun limit h => ?_⟩,
    fun message => ⟨_, rfl, abbreviate_shown 512 message, (abbreviate_shown 512 message).size_le⟩⟩
  · rw [Hook.Tracing.shown, h]
  · have hshown : t.shown sql = abbreviate limit sql := by rw [Hook.Tracing.shown, h]
    rw [hshown]
    exact ⟨abbreviate_shown limit sql, (abbreviate_shown limit sql).size_le⟩

/-- A limit inside the second of two characters of two bytes each. -/
theorem shown_up_to_limit_accented :
    ({ sqlLimit := some 3 } : Hook.Tracing).sqlLimit = some 3 ∧
      ({ sqlLimit := some 3 } : Hook.Tracing).shown "éé" = "é..." ∧ cutBytes 3 "éé" = some "é" ∧
      ShownUpTo 3 "éé" "é..." ∧ "é...".utf8ByteSize ≤ 3 + 3 := by
  have hlimit : ({ sqlLimit := some 3 } : Hook.Tracing).sqlLimit = some 3 := rfl
  have htaken : takeBytes 3 "éé" = "é" := by decide
  have hshown : ({ sqlLimit := some 3 } : Hook.Tracing).shown "éé" = "é..." := by decide
  obtain ⟨hcut, htracing, -⟩ := shown_up_to_limit
  have hlawful := (htracing { sqlLimit := some 3 } "éé").2 3 hlimit
  rw [hshown] at hlawful
  exact ⟨hlimit, hshown, htaken ▸ (hcut 3 "éé").1, hlawful⟩

end FluentSql
