import FluentSql.Proofs.QuotedText
import FluentSql.Proofs.Relexing

/-!
# FluentSql.Proofs.ByteSegments — templates cut at positions in bytes

A template can be cut while its bytes are read one by one, with positions that jump over quoted text and over markers of
two bytes. A text that starts or ends inside a character cannot be cut out, so that such a cut might have no result.

* `Template.slice`: the characters between two positions in bytes, if no character lies across one of them.
* `Template.skipAt`, `Template.cutAt`, `Template.byteSegments`: the cut at positions.
* `Template.CutsFrom`: from some characters on, the cut goes on as the scan of the characters does. One rule for each
  thing that can come next, and `Template.cutsFrom` for all characters.
* `Template.Segment.MayPrecede`: which segments stand next to each other.
* `Template.segments_lawful`: the cut has a result, and what is known of it; how the markers of two templates behind
  each other are counted.
-/

namespace FluentSql
namespace Template

/-! ## Cuts at positions -/

/-- The characters in front of a position in bytes and those behind it. There are none for a position inside a character
or behind the end. -/
def splitAtByte : Nat → List Char → Option (List Char × List Char)
  | 0, cs => some ([], cs)
  | _ + 1, [] => none
  | n + 1, c :: cs =>
    if c.utf8Size ≤ n + 1 then (splitAtByte (n + 1 - c.utf8Size) cs).map fun (a, b) => (c :: a, b) else none

/-- The characters from a position in bytes to another one. -/
def slice (cs : List Char) (start stop : Nat) : Option (List Char) :=
  (splitAtByte stop cs).bind fun (front, _) => (splitAtByte start front).map Prod.snd

/-- The byte of a quote. -/
def isQuoteByte (b : UInt8) : Bool :=
  b == '\''.toUInt8 || b == '"'.toUInt8 || b == '`'.toUInt8

/-- The position behind quoted text, from a position inside it on. An escape and a doubled quote are passed at once,
even over the end. -/
def skipAt (bs : List UInt8) (quote : UInt8) (i : Nat) : Nat :=
  if h : i < bs.length then
    if bs[i] = '\\'.toUInt8 ∧ quote ≠ '`'.toUInt8 then skipAt bs quote (i + 2)
    else if bs[i] = quote then if bs[i + 1]? = some quote then skipAt bs quote (i + 2) else i + 1
    else skipAt bs quote (i + 1)
  else bs.length
termination_by bs.length - i

/-- What escapes in quoted text, in bytes. -/
def escapeByte (quote : UInt8) : Option UInt8 :=
  if quote = '`'.toUInt8 then none else some '\\'.toUInt8

theorem escapeByte_eq_some_iff {quote b : UInt8} :
    escapeByte quote = some b ↔ b = '\\'.toUInt8 ∧ quote ≠ '`'.toUInt8 := by
  unfold escapeByte
  split_ifs with h
  · simp [h]
  · simp [h, eq_comm]

/-- At a position there is the last byte, or two bytes and what is behind them. -/
theorem drop_cases {bs : List UInt8} {i : Nat} (h : i < bs.length) :
    (i + 1 = bs.length ∧ bs[i + 1]? = none ∧ bs.drop i = [bs[i]]) ∨
      ∃ b, i + 1 < bs.length ∧ bs[i + 1]? = some b ∧ bs.drop i = bs[i] :: b :: bs.drop (i + 2) := by
  by_cases hlast : i + 1 < bs.length
  · right
    refine ⟨bs[i + 1], hlast, List.getElem?_eq_getElem hlast, ?_⟩
    rw [List.drop_eq_getElem_cons h, List.drop_eq_getElem_cons hlast]
  · left
    have hlength : i + 1 = bs.length := by omega
    refine ⟨hlength, List.getElem?_eq_none (by omega), ?_⟩
    rw [List.drop_eq_getElem_cons h, List.drop_eq_nil_of_le (Nat.le_of_not_lt hlast)]

theorem skipAt_of_le {bs : List UInt8} {quote : UInt8} {i : Nat} (h : bs.length ≤ i) :
    skipAt bs quote i = bs.length := by
  rw [skipAt, dif_neg (Nat.not_lt.2 h)]

/-- Quoted text reaches at positions as far as in a list of bytes. -/
theorem skipAt_eq {bs : List UInt8} {quote : UInt8} {i : Nat} (h : i ≤ bs.length) :
    skipAt bs quote i = i + quotedLength (escapeByte quote) quote (bs.drop i) := by
  -- on the position; at each one the bytes left decide as the list does
  fun_induction skipAt bs quote i with
  | case1 i hi hescape ih =>
    obtain ⟨hlast, -, hdrop⟩ | ⟨b, hmore, -, hdrop⟩ := drop_cases hi
    · rw [skipAt_of_le (by omega), hdrop, quotedLength, hlast]
    · rw [ih hmore, hdrop, quotedLength, if_pos (escapeByte_eq_some_iff.2 hescape)]
      omega
  | case2 i hi hescape hquote hdouble ih =>
    obtain ⟨-, hnone, -⟩ | ⟨b, hmore, hb, hdrop⟩ := drop_cases hi
    · exact absurd (hnone.symm.trans hdouble) (Option.some_ne_none quote).symm
    · have hsame : b = quote := Option.some.inj (hb.symm.trans hdouble)
      rw [ih hmore, hdrop, quotedLength, if_neg (mt escapeByte_eq_some_iff.1 hescape), if_pos hquote, if_pos hsame]
      omega
  | case3 i hi hescape hquote hdouble =>
    obtain ⟨-, -, hdrop⟩ | ⟨b, -, hb, hdrop⟩ := drop_cases hi
    · rw [hdrop, quotedLength]
    · have hother : b ≠ quote := fun hsame => hdouble (hsame ▸ hb)
      rw [hdrop, quotedLength, if_neg (mt escapeByte_eq_some_iff.1 hescape), if_pos hquote, if_neg hother]
  | case4 i hi hescape hquote ih =>
    rw [ih hi, List.drop_eq_getElem_cons hi, quotedLength_pass (mt escapeByte_eq_some_iff.1 hescape) hquote]
    omega
  | case5 i hi =>
    rw [List.drop_eq_nil_of_le (Nat.le_of_not_lt hi), quotedLength]
    omega

theorem le_skipAt {bs : List UInt8} (quote : UInt8) {i : Nat} (h : i ≤ bs.length) : i ≤ skipAt bs quote i := by
  rw [skipAt_eq h]
  exact Nat.le_add_right i _

/-- The text from a position to another one as a segment, none if it is empty. -/
def textAt (cs : List Char) (start stop : Nat) : Option (List Segment) :=
  if start < stop then (slice cs start stop).map ([.text ·]) else some []

/-- Cuts characters with these bytes. All in front of `start` is cut already, and from there to `i` is text. There is no
result if a text does not lie between two characters. -/
def cutAt (cs : List Char) (bs : List UInt8) (start i : Nat) : Option (List Segment) :=
  if h : i < bs.length then
    if isQuoteByte bs[i] then cutAt cs bs start (skipAt bs bs[i] (i + 1))
    else if bs[i] = '?'.toUInt8 then do
      let front ← textAt cs start i
      if bs[i + 1]? = some '?'.toUInt8 then return front ++ .escape :: (← cutAt cs bs (i + 2) (i + 2))
      else return front ++ .placeholder :: (← cutAt cs bs (i + 1) (i + 1))
    else cutAt cs bs start (i + 1)
  else textAt cs start bs.length
termination_by bs.length - i
decreasing_by
  · have hskip : i + 1 ≤ skipAt bs bs[i] (i + 1) := le_skipAt bs[i] h
    omega
  all_goals omega

/-- The segments of a template, cut at positions. -/
def byteSegments (template : String) : Option (List Segment) :=
  cutAt template.toList (bytes template) 0 0

/-! ## Between characters -/

theorem splitAtByte_append (a b : List Char) : splitAtByte (utf8 a).length (a ++ b) = some (a, b) := by
  induction a with
  | nil =>
    show splitAtByte 0 b = some ([], b)
    rw [splitAtByte]
  | cons c a ih =>
    have hlength := length_utf8_cons c a
    have hpos : 0 < c.utf8Size := c.utf8Size_pos
    obtain ⟨n, hn⟩ : ∃ n, (utf8 (c :: a)).length = n + 1 := Nat.exists_eq_succ_of_ne_zero (by omega)
    have hrest : n + 1 - c.utf8Size = (utf8 a).length := by omega
    rw [hn, List.cons_append, splitAtByte, if_pos (by omega), hrest, ih]
    rfl

/-- A slice between characters. -/
theorem slice_append (a m b : List Char) :
    slice (a ++ m ++ b) (utf8 a).length (utf8 (a ++ m)).length = some m := by
  rw [slice, splitAtByte_append]
  show (splitAtByte (utf8 a).length (a ++ m)).map Prod.snd = some m
  rw [splitAtByte_append]
  rfl

theorem utf8_length_lt (a : List Char) {m : List Char} (hm : m ≠ []) :
    (utf8 a).length < (utf8 (a ++ m)).length := by
  obtain ⟨c, m, rfl⟩ := List.exists_cons_of_ne_nil hm
  obtain ⟨b, bs, hbs, -⟩ := exists_utf8EncodeChar c
  rw [utf8_append, utf8_cons, hbs, List.length_append, List.cons_append, List.length_cons]
  omega

/-- The text between characters, in front of segments that do not start with text. -/
theorem textAt_append (a m b : List Char) {segs : List Segment} (hsegs : ∀ s ∈ segs.head?, s.isMarker = true) :
    (textAt (a ++ m ++ b) (utf8 a).length (utf8 (a ++ m)).length).map (· ++ segs) = some (m.foldr consText segs) := by
  by_cases hm : m = []
  · subst hm
    rw [List.append_nil, textAt, if_neg (Nat.lt_irrefl _)]
    rfl
  · rw [textAt, if_pos (utf8_length_lt a hm), slice_append, foldr_consText hsegs hm]
    rfl

/-! ## Bytes of characters -/

theorem isQuoteByte_iff {b : UInt8} :
    isQuoteByte b = true ↔ b = '\''.toUInt8 ∨ b = '"'.toUInt8 ∨ b = '`'.toUInt8 := by
  simp [isQuoteByte, or_assoc]

theorem isQuote_iff {c : Char} : isQuote c = true ↔ c = '\'' ∨ c = '"' ∨ c = '`' := by
  simp [isQuote, or_assoc]

/-- A quote has one byte, and the same escapes behind it as behind its byte. -/
theorem byte_of_isQuote {c : Char} (h : isQuote c = true) :
    c.toNat < 128 ∧ isQuoteByte c.toUInt8 = true ∧ escapeByte c.toUInt8 = (escapeIn c).map Char.toUInt8 ∧
      ∀ e ∈ escapeIn c, e.toNat < 128 := by
  have hescape : ∀ e ∈ escapeIn c, e.toNat < 128 := by
    intro e he
    rw [(escapeIn_eq_some_iff.1 he).1]
    decide
  obtain rfl | rfl | rfl := isQuote_iff.1 h <;> exact ⟨by decide, rfl, rfl, hescape⟩

/-- No byte of any other character is that of a quote or a question mark. -/
theorem plain_bytes {c : Char} (hquote : isQuote c = false) (hmark : c ≠ '?') :
    ∀ b ∈ String.utf8EncodeChar c, isQuoteByte b = false ∧ b ≠ '?'.toUInt8 := by
  intro b hb
  have hother {d : Char} (hd : d.toNat < 128) (hne : c ≠ d) : b ≠ d.toUInt8 := by
    rcases utf8EncodeChar_cases c with ⟨hc, hone⟩ | ⟨-, hlarge⟩
    · obtain rfl := List.mem_singleton.1 (hone ▸ hb)
      exact fun h => hne (toUInt8_inj hc hd h)
    · rintro rfl
      have hbyte := hlarge _ hb
      rw [toNat_toUInt8 hd] at hbyte
      exact absurd hd (Nat.not_lt.2 hbyte)
  refine ⟨?_, hother (by decide) hmark⟩
  rw [Bool.eq_false_iff, ne_eq, isQuote_iff, not_or, not_or] at hquote
  rw [Bool.eq_false_iff, ne_eq, isQuoteByte_iff, not_or, not_or]
  exact ⟨hother (by decide) hquote.1, hother (by decide) hquote.2.1, hother (by decide) hquote.2.2⟩

/-- The next byte is that of a question mark exactly when the next character is one. -/
theorem head?_utf8 (r : List Char) : (utf8 r).head? = some '?'.toUInt8 ↔ r.head? = some '?' := by
  cases r with
  | nil => decide
  | cons c r =>
    obtain ⟨b, bs, hbs, -⟩ := exists_utf8EncodeChar c
    rw [utf8_cons, hbs, List.cons_append, List.head?_cons, List.head?_cons, Option.some.injEq, Option.some.injEq]
    constructor
    · rintro rfl
      exact eq_of_head (by decide) hbs
    · rintro rfl
      exact (List.cons.inj (hbs.symm.trans (utf8EncodeChar_of_small (by decide)))).1

/-! ## The cut -/

section Cutting

variable {cs : List Char} {start : Nat} {front back : List UInt8} {b : UInt8}

theorem cutAt_quote (hb : isQuoteByte b = true) : cutAt cs (front ++ b :: back) start front.length =
    cutAt cs (front ++ b :: back) start (front.length + 1 + quotedLength (escapeByte b) b back) := by
  have hskip : skipAt (front ++ b :: back) b (front.length + 1) =
      front.length + 1 + quotedLength (escapeByte b) b back := by
    rw [skipAt_eq (by simp), List.drop_length_add_append, List.drop_one, List.tail_cons]
  rw [cutAt]
  simp [hb, hskip]

/-- The text in front of a marker is cut, and then what is found from the marker on. -/
theorem cutAt_mark {segs : List Segment}
    (hsegs : (if back.head? = some '?'.toUInt8 then
        (cutAt cs (front ++ '?'.toUInt8 :: back) (front.length + 2) (front.length + 2)).map (Segment.escape :: ·)
      else
        (cutAt cs (front ++ '?'.toUInt8 :: back) (front.length + 1) (front.length + 1)).map
          (Segment.placeholder :: ·)) = some segs) :
    cutAt cs (front ++ '?'.toUInt8 :: back) start front.length =
      (textAt cs start front.length).map (· ++ segs) := by
  have hbyte : (front ++ '?'.toUInt8 :: back)[front.length + 1]? = back.head? := by
    rw [List.getElem?_append_right (by omega), Nat.add_sub_cancel_left, List.getElem?_cons_succ, List.head?_eq_getElem?]
  have hquote : isQuoteByte '?'.toUInt8 = false := rfl
  have hlength : front.length < (front ++ '?'.toUInt8 :: back).length := by simp
  have hget : (front ++ '?'.toUInt8 :: back)[front.length] = '?'.toUInt8 := by simp
  rw [cutAt, dif_pos hlength]
  simp only [hget, hquote, hbyte, Bool.false_eq_true, if_false, if_true]
  -- the text in front of the mark is cut first, and may fail for both
  rw [Option.map_eq_bind]
  refine congrArg (Option.bind _) (funext fun before => ?_)
  split_ifs at hsegs ⊢
  · obtain ⟨rest, hrest, rfl⟩ := Option.map_eq_some_iff.1 hsegs
    rw [hrest]
    rfl
  · obtain ⟨rest, hrest, rfl⟩ := Option.map_eq_some_iff.1 hsegs
    rw [hrest]
    rfl

/-- Bytes that are neither quotes nor question marks are passed one by one. -/
theorem cutAt_plain {bs : List UInt8} (h : ∀ b ∈ bs, isQuoteByte b = false ∧ b ≠ '?'.toUInt8) :
    cutAt cs (front ++ bs ++ back) start front.length =
      cutAt cs (front ++ bs ++ back) start (front ++ bs).length := by
  induction bs generalizing front with
  | nil => rw [List.append_nil]
  | cons b bs ih =>
    obtain ⟨⟨hquote, hmark⟩, hbs⟩ := List.forall_mem_cons.1 h
    have hnext : cutAt cs (front ++ b :: bs ++ back) start front.length =
        cutAt cs (front ++ b :: bs ++ back) start (front ++ [b]).length := by
      have hlength : front.length < (front ++ b :: bs ++ back).length := by simp
      have hget : (front ++ b :: bs ++ back)[front.length] = b := by simp
      rw [cutAt, dif_pos hlength]
      simp only [hget, hquote, hmark, Bool.false_eq_true, if_false, List.length_append, List.length_singleton]
    have hrest : cutAt cs (front ++ [b] ++ bs ++ back) start (front ++ [b]).length =
        cutAt cs (front ++ [b] ++ bs ++ back) start (front ++ [b] ++ bs).length := ih hbs
    rw [List.append_assoc front [b] bs, List.singleton_append] at hrest
    rw [hnext, hrest]

end Cutting

theorem utf8_append_cons (a r : List Char) {c : Char} (hc : c.toNat < 128) :
    utf8 (a ++ c :: r) = utf8 a ++ c.toUInt8 :: utf8 r := by
  rw [utf8_append, utf8_cons, utf8EncodeChar_of_small hc]
  rfl

/-- From these characters on, a cut between two characters goes on as the scan of the characters does, whatever is cut
before it and whatever text is not cut yet. -/
def CutsFrom (r : List Char) : Prop :=
  ∀ a m, cutAt (a ++ m ++ r) (utf8 (a ++ m ++ r)) (utf8 a).length (utf8 (a ++ m)).length =
    some (m.foldr consText (segmentsFrom .outside r))

namespace CutsFrom

variable {c : Char} {r : List Char}

theorem nil : CutsFrom [] := by
  intro a m
  have htext : (textAt (a ++ m ++ []) (utf8 a).length (utf8 (a ++ m)).length).map (· ++ []) =
      some (m.foldr consText []) := textAt_append a m [] (by simp)
  have hmap : (fun segs : List Segment => segs ++ []) = id := funext List.append_nil
  rw [hmap, Option.map_id, id] at htext
  rw [cutAt, dif_neg (by simp), List.append_nil] at *
  exact htext

/-- Quoted text is skipped in bytes and in characters alike. -/
theorem quote (hquote : isQuote c = true) (h : CutsFrom (r.drop (quotedLength (escapeIn c) c r))) :
    CutsFrom (c :: r) := by
  intro a m
  obtain ⟨hsmall, hbyte, hescape, hescapes⟩ := byte_of_isQuote hquote
  let k := quotedLength (escapeIn c) c r
  have hsame : a ++ (m ++ c :: r.take k) ++ r.drop k = a ++ m ++ c :: r := by simp
  -- the scan ends where as many characters as were skipped end
  have hskipped : (utf8 (a ++ m)).length + 1 + quotedLength (escapeByte c.toUInt8) c.toUInt8 (utf8 r) =
      (utf8 (a ++ (m ++ c :: r.take k))).length := by
    rw [hescape, quotedLength_utf8 hescapes hsmall, ← List.append_assoc, utf8_append_cons _ _ hsmall,
      List.length_append, List.length_cons]
    exact Nat.succ_add_eq_add_succ _ _
  have hmark : c ≠ '?' := by
    rintro rfl
    exact absurd hquote (by decide)
  have hscan : segmentsFrom .outside (c :: r) =
      (c :: r.take k).foldr consText (segmentsFrom .outside (r.drop k)) := by
    rw [segmentsFrom_cons (fun _ => hmark), Quoting.step, if_pos hquote, segmentsFrom_inside hquote]
    rfl
  have hrest := h a (m ++ c :: r.take k)
  rw [hsame] at hrest
  rw [utf8_append_cons _ _ hsmall] at hrest ⊢
  rw [cutAt_quote hbyte, hskipped, hrest, hscan, List.foldr_append]

/-- Behind a marker the cut goes on with no text in front of it. -/
theorem behind_marks (marks : List Char) (h : CutsFrom r) (a m : List Char) :
    cutAt (a ++ m ++ (marks ++ r)) (utf8 (a ++ m ++ (marks ++ r))) ((utf8 (a ++ m)).length + (utf8 marks).length)
      ((utf8 (a ++ m)).length + (utf8 marks).length) = some (segmentsFrom .outside r) := by
  have hrest := h (a ++ m ++ marks) []
  rw [List.append_nil, List.append_assoc (a ++ m) marks r, utf8_append (a ++ m) marks, List.length_append] at hrest
  exact hrest

theorem escape (h : CutsFrom r) : CutsFrom ('?' :: '?' :: r) := by
  intro a m
  have hbytes := utf8_append_cons (a ++ m) ('?' :: r) (c := '?') (by decide)
  have hrest := h.behind_marks ['?', '?'] a m
  have hhead : (utf8 ('?' :: r)).head? = some '?'.toUInt8 := (head?_utf8 ('?' :: r)).2 rfl
  have hsegs := congrArg (Option.map (Segment.escape :: ·)) (hbytes ▸ hrest)
  rw [hbytes, cutAt_mark (by rw [if_pos hhead]; exact hsegs), segmentsFrom]
  exact textAt_append a m ('?' :: '?' :: r) (by simp)

theorem placeholder (hr : r.head? ≠ some '?') (h : CutsFrom r) : CutsFrom ('?' :: r) := by
  intro a m
  have hbytes := utf8_append_cons (a ++ m) r (c := '?') (by decide)
  have hrest := h.behind_marks ['?'] a m
  have hhead : ¬ (utf8 r).head? = some '?'.toUInt8 := mt (head?_utf8 r).1 hr
  have hsegs := congrArg (Option.map (Segment.placeholder :: ·)) (hbytes ▸ hrest)
  rw [hbytes, cutAt_mark (by rw [if_neg hhead]; exact hsegs), segmentsFrom_placeholder hr]
  exact textAt_append a m ('?' :: r) (by simp)

/-- Any other character is passed with all its bytes. -/
theorem plain (hquote : isQuote c = false) (hmark : c ≠ '?') (h : CutsFrom r) : CutsFrom (c :: r) := by
  intro a m
  have hsame : a ++ (m ++ [c]) ++ r = a ++ m ++ c :: r := by simp
  have hnext : utf8 (a ++ m) ++ String.utf8EncodeChar c = utf8 (a ++ (m ++ [c])) := by
    rw [← List.append_assoc a, utf8_append (a ++ m), utf8_cons]
    exact congrArg (utf8 (a ++ m) ++ ·) (List.append_nil _).symm
  have hbytes : utf8 (a ++ m ++ c :: r) = utf8 (a ++ m) ++ String.utf8EncodeChar c ++ utf8 r := by
    rw [utf8_append, utf8_cons, List.append_assoc]
  have hscan : segmentsFrom .outside (c :: r) = consText c (segmentsFrom .outside r) := by
    rw [segmentsFrom_cons (fun _ => hmark), Quoting.step, if_neg (ne_true_of_eq_false hquote)]
  have hrest := h a (m ++ [c])
  rw [hsame] at hrest
  rw [hbytes, cutAt_plain (plain_bytes hquote hmark), ← hbytes, hnext, hrest, hscan, List.foldr_append]
  rfl

end CutsFrom

/-- From any characters on. The induction is on their number, for quoted text takes more than one of them. -/
theorem cutsFrom (r : List Char) : CutsFrom r := by
  induction hn : r.length using Nat.strong_induction_on generalizing r with
  | _ n ih =>
    subst hn
    cases r with
    | nil => exact .nil
    | cons c r =>
      by_cases hquote : isQuote c = true
      · refine .quote hquote (ih _ ?_ _ rfl)
        rw [List.length_drop, List.length_cons]
        omega
      · by_cases hmark : c = '?'
        · subst hmark
          by_cases hr : r.head? = some '?'
          · obtain ⟨r, rfl⟩ := List.head?_eq_some_iff.1 hr
            exact .escape (ih r.length (by simp) r rfl)
          · exact .placeholder hr (ih r.length (by simp) r rfl)
        · exact .plain (Bool.eq_false_iff.2 hquote) hmark (ih r.length (by simp) r rfl)

/-- Cutting at positions always succeeds, and finds what a scan of the characters finds. -/
theorem byteSegments_eq (template : String) : byteSegments template = some (segments template) := by
  rw [byteSegments, bytes_eq_utf8]
  exact cutsFrom template.toList [] []

/-! ## The segments of a template -/

/-- One segment may stand right before another: no text before a text, and no marker behind a placeholder. -/
def Segment.MayPrecede : Segment → Segment → Prop
  | .text _, s => s.isMarker = true
  | .escape, _ => True
  | .placeholder, s => s.isMarker = false

theorem isChain_consText {c : Char} {segs : List Segment} (h : segs.IsChain Segment.MayPrecede) :
    (consText c segs).IsChain Segment.MayPrecede := by
  cases segs with
  | nil => exact .singleton _
  | cons s segs =>
    cases s with
    | text cs =>
      obtain ⟨hnext, hrest⟩ := List.isChain_cons.1 h
      exact List.isChain_cons.2 ⟨hnext, hrest⟩
    | escape => exact .cons_cons rfl h
    | placeholder => exact .cons_cons rfl h

theorem isChain_segmentsFrom (q : Quoting) (cs : List Char) : (segmentsFrom q cs).IsChain Segment.MayPrecede := by
  fun_induction segmentsFrom q cs with
  | case1 q => exact .nil
  | case2 r ih => exact List.isChain_cons.2 ⟨fun _ _ => trivial, ih⟩
  | case3 r hr ih =>
    exact List.isChain_cons.2 ⟨isMarker_head?_segmentsFrom (head?_ne_mark_of_forall hr), ih⟩
  | case4 q c r hesc hmark ih => exact isChain_consText ih

/-- No text is empty. -/
theorem ne_nil_of_mem_segmentsFrom (q : Quoting) (cs : List Char) :
    ∀ ds, Segment.text ds ∈ segmentsFrom q cs → ds ≠ [] := by
  intro ds hds
  fun_induction segmentsFrom q cs with
  | case1 q => exact absurd hds List.not_mem_nil
  | case2 r ih => exact ih ((List.mem_cons.1 hds).resolve_left (by simp))
  | case3 r hr ih => exact ih ((List.mem_cons.1 hds).resolve_left (by simp))
  | case4 q c r hesc hmark ih =>
    obtain ⟨cs, rest, htext, hsubset⟩ := exists_consText c (segmentsFrom (q.step c) r)
    rw [htext] at hds
    obtain hhead | hrest := List.mem_cons.1 hds
    · rw [Segment.text.inj hhead]
      exact List.cons_ne_nil c cs
    · exact ih (hsubset hrest)

/-- What a text without markers has in front of a question mark does not end outside quoted text. -/
theorem after_ne_outside_of_quiet {q : Quoting} {a b : List Char} (h : markersFrom q (a ++ '?' :: b) = []) :
    q.after a ≠ .outside := by
  induction a generalizing q with
  | nil => exact fun hq => ne_mark_of_quiet h hq rfl
  | cons c a ih =>
    rw [List.cons_append, markersFrom_cons (ne_mark_of_quiet h)] at h
    exact ih h

/-- A text among segments has no marker of its own. -/
theorem Scanned.quiet {q : Quoting} {before behind : List Segment} {cs : List Char}
    (h : Scanned q (before ++ .text cs :: behind)) : markersFrom (q.after (written before)) cs = [] := by
  induction before generalizing q with
  | nil => exact h.1
  | cons s before ih =>
    rw [written_cons, Quoting.after_append]
    cases s with
    | text ds => exact ih h.2
    | escape =>
      obtain ⟨rfl, hrest⟩ := h
      exact ih hrest
    | placeholder =>
      obtain ⟨rfl, -, hrest⟩ := h
      exact ih hrest

/-- **The scan for markers.** A template can be cut by its bytes: no cut is out of range or inside a character. Nothing
is lost, no text is empty, a question mark in a text stands inside quoted text, no two texts stand next to each other,
and no marker stands right behind a placeholder. Behind a text that ends outside quoted text the markers of another one
are counted apart, unless a question mark at its start could belong to a placeholder at the end of the first. -/
theorem segments_lawful :
    (∀ template : String,
      byteSegments template = some (segments template) ∧
      String.ofList (written (segments template)) = template ∧
      (∀ cs, .text cs ∈ segments template → cs ≠ []) ∧
      (∀ before cs behind a b, segments template = before ++ .text cs :: behind → cs = a ++ '?' :: b →
        Quoting.outside.after (written before ++ a) ≠ .outside) ∧
      (segments template).IsChain Segment.MayPrecede) ∧
    ∀ a b : String, Closed a → ¬ ((segments a).getLast? = some .placeholder ∧ b.toList.head? = some '?') →
      countMarkers (a ++ b) = countMarkers a + countMarkers b := by
  refine ⟨fun template => ⟨byteSegments_eq template, written_segments template, ?_, ?_, ?_⟩, fun a b ha hseam => ?_⟩
  · exact ne_nil_of_mem_segmentsFrom .outside template.toList
  · rintro before cs behind a b hsegs rfl
    have hscanned := scanned_segmentsFrom .outside template.toList
    rw [show segmentsFrom .outside template.toList = _ from hsegs] at hscanned
    rw [Quoting.after_append]
    exact after_ne_outside_of_quiet hscanned.quiet
  · exact isChain_segmentsFrom .outside template.toList
  -- markers are counted on both sides of the seam, and the seam makes none
  · have hsplit := markersFrom_append_of_seam .outside a.toList (b := b.toList) fun hlast hhead =>
      hseam ⟨hlast, hhead⟩
    rw [countMarkers, countMarkers, countMarkers, segments, segments, segments, countP_eq_length_markersFrom,
      countP_eq_length_markersFrom, countP_eq_length_markersFrom, String.toList_append, hsplit, List.length_append, ha]

/-- Two quoted texts that meet at the seam, and a marker behind them. -/
theorem segments_lawful_seam : countMarkers ("? 'x'" ++ "'y' ??") = countMarkers "? 'x'" + countMarkers "'y' ??" :=
  segments_lawful.2 "? 'x'" "'y' ??" (by decide) (by decide)

end Template
end FluentSql
