import FluentSql.Proofs.Scanning
import Mathlib

/-!
# FluentSql.Proofs.QuotedText — how far quoted text reaches, and what it says

* `Template.quotedLength`: how far quoted text reaches, in symbols of any alphabet; `Template.skipQuoted`: the position
  behind it.
* `Template.unescaped`: what quoted text says.
* `Template.segmentsFrom_inside`: a scan for markers passes exactly that much.
* `Template.skipQuoted_utf8`: in bytes it reaches as far as in characters.
-/

namespace FluentSql
namespace Template

/-! ## How far quoted text reaches -/

section Alphabet

variable {α : Type} [DecidableEq α]

/-- How many symbols behind an opening quote belong to quoted text, with the closing quote. An escaped symbol does not
close it, nor does a doubled quote; where nothing does, it reaches to the end. -/
def quotedLength (escape : Option α) (quote : α) : List α → Nat
  | [] => 0
  | [_] => 1
  | c :: d :: r =>
    if escape = some c then quotedLength escape quote r + 2
    else if c = quote then if d = quote then quotedLength escape quote r + 2 else 1
    else quotedLength escape quote (d :: r) + 1

/-- What quoted text says: of an escape and the symbol behind it this symbol, and one quote for two. -/
def unescaped (escape : Option α) (quote : α) : List α → List α
  | [] => []
  | [c] => [c]
  | c :: d :: r =>
    if escape = some c then d :: unescaped escape quote r
    else if c = quote ∧ d = quote then quote :: unescaped escape quote r
    else c :: unescaped escape quote (d :: r)

/-- The position behind quoted text that opens at a position. -/
def skipQuoted (escape : Option α) (quote : α) (cs : List α) (opening : Nat) : Nat :=
  opening + 1 + quotedLength escape quote (cs.drop (opening + 1))

variable {escape : Option α} {quote : α}

theorem skipQuoted_append (before : List α) (c : α) (r : List α) :
    skipQuoted escape quote (before ++ c :: r) before.length = before.length + 1 + quotedLength escape quote r := by
  rw [skipQuoted, List.drop_length_add_append, List.drop_one, List.tail_cons]

/-- A symbol that neither escapes nor closes. -/
theorem quotedLength_pass {c : α} (hescape : escape ≠ some c) (hquote : c ≠ quote) (r : List α) :
    quotedLength escape quote (c :: r) = quotedLength escape quote r + 1 := by
  cases r with
  | nil => rfl
  | cons d r => rw [quotedLength, if_neg hescape, if_neg hquote]

theorem quotedLength_pass_all {cs : List α} (h : ∀ c ∈ cs, escape ≠ some c ∧ c ≠ quote) (r : List α) :
    quotedLength escape quote (cs ++ r) = cs.length + quotedLength escape quote r := by
  induction cs with
  | nil => simp
  | cons c cs ih =>
    obtain ⟨⟨hescape, hquote⟩, hcs⟩ := List.forall_mem_cons.1 h
    rw [List.cons_append, quotedLength_pass hescape hquote, ih hcs, List.length_cons]
    omega

/-- A quote closes if no other quote follows it. -/
theorem quotedLength_close {r : List α} (hescape : escape ≠ some quote) (hr : r.head? ≠ some quote) :
    quotedLength escape quote (quote :: r) = 1 := by
  cases r with
  | nil => rfl
  | cons d r =>
    have hd : d ≠ quote := by simpa using hr
    rw [quotedLength, if_neg hescape, if_pos rfl, if_neg hd]

theorem unescaped_pass {c : α} (hescape : escape ≠ some c) (hquote : c ≠ quote) (r : List α) :
    unescaped escape quote (c :: r) = c :: unescaped escape quote r := by
  cases r with
  | nil => rfl
  | cons d r => rw [unescaped, if_neg hescape, if_neg fun h => hquote h.1]

end Alphabet

/-! ## Scans for markers -/

/-- What escapes in quoted text: a backslash, except between back-ticks. -/
def escapeIn (quote : Char) : Option Char :=
  if quote = '`' then none else some '\\'

theorem escapeIn_eq_some_iff {quote c : Char} : escapeIn quote = some c ↔ c = '\\' ∧ quote ≠ '`' := by
  unfold escapeIn
  split_ifs with h
  · simp [h]
  · simp [h, eq_comm]

/-- A scan for markers passes quoted text and goes on behind it. -/
theorem segmentsFrom_inside {quote : Char} (hquote : isQuote quote = true) (cs : List Char) :
    segmentsFrom (.inside quote) cs =
      (cs.take (quotedLength (escapeIn quote) quote cs)).foldr consText
        (segmentsFrom .outside (cs.drop (quotedLength (escapeIn quote) quote cs))) := by
  have hinside (q : Quoting) (hq : q ≠ .outside) (c : Char) (r : List Char) :
      segmentsFrom q (c :: r) = consText c (segmentsFrom (q.step c) r) :=
    segmentsFrom_cons (fun h => absurd h hq) r
  have hmark : quote ≠ '?' := by
    rintro rfl
    exact absurd hquote (by decide)
  have hself : escapeIn quote ≠ some quote := by
    intro h
    obtain ⟨rfl, -⟩ := escapeIn_eq_some_iff.1 h
    exact absurd hquote (by decide)
  have hclose : Quoting.step (.inside quote) quote = .outside := by
    rw [Quoting.step, if_neg (fun h => hself (escapeIn_eq_some_iff.2 h)), if_pos rfl]
  have hopen : Quoting.step .outside quote = .inside quote := by
    rw [Quoting.step, if_pos hquote]
  fun_induction quotedLength (escapeIn quote) quote cs with
  | case1 => rfl
  | case2 c =>
    rw [hinside _ (by simp)]
    cases Quoting.step (.inside quote) c <;> rfl
  | case3 c d r hescape ih =>
    have hstep : Quoting.step (.inside quote) c = .escaped quote := by
      rw [Quoting.step, if_pos (escapeIn_eq_some_iff.1 hescape)]
    rw [hinside _ (by simp), hstep, hinside _ (by simp)]
    show consText c (consText d (segmentsFrom (.inside quote) r)) = _
    rw [ih]
    rfl
  | case4 r hescape ih =>
    -- a doubled quote closes the literal and opens it again at once
    rw [hinside _ (by simp), hclose, segmentsFrom_cons (fun _ => hmark), hopen, ih]
    rfl
  | case5 d r hd hescape =>
    rw [hinside _ (by simp), hclose]
    rfl
  | case6 c d r hescape hc ih =>
    have hstep : Quoting.step (.inside quote) c = .inside quote := by
      rw [Quoting.step, if_neg (fun h => hescape (escapeIn_eq_some_iff.2 h)), if_neg hc]
    rw [hinside _ (by simp), hstep, ih]
    rfl

/-! ## Bytes -/

/-- The bytes of characters. -/
def utf8 (cs : List Char) : List UInt8 :=
  cs.flatMap String.utf8EncodeChar

theorem utf8_cons (c : Char) (cs : List Char) : utf8 (c :: cs) = String.utf8EncodeChar c ++ utf8 cs :=
  List.flatMap_cons

theorem utf8_append (a b : List Char) : utf8 (a ++ b) = utf8 a ++ utf8 b :=
  List.flatMap_append

theorem length_utf8_cons (c : Char) (cs : List Char) : (utf8 (c :: cs)).length = c.utf8Size + (utf8 cs).length := by
  rw [utf8_cons, List.length_append, String.length_utf8EncodeChar]

/-- The bytes of a text. -/
def bytes (s : String) : List UInt8 :=
  s.toUTF8.data.toList

theorem bytes_eq_utf8 (s : String) : bytes s = utf8 s.toList := by
  have h : s.toByteArray = (utf8 s.toList).toByteArray := by
    rw [← String.ofList_toList (s := s), String.toByteArray_ofList, String.toList_ofList]
    rfl
  rw [bytes, String.toUTF8, h, List.data_toByteArray]

theorem length_bytes (s : String) : (bytes s).length = s.utf8ByteSize :=
  rfl

theorem utf8ByteSize_eq (s : String) : s.utf8ByteSize = (utf8 s.toList).length := by
  rw [← length_bytes, bytes_eq_utf8]

/-- A character of one byte, or of several, none of which is the byte of such a character. -/
theorem utf8EncodeChar_cases (c : Char) :
    (c.toNat < 128 ∧ String.utf8EncodeChar c = [c.toUInt8]) ∨
      (128 ≤ c.toNat ∧ ∀ b ∈ String.utf8EncodeChar c, 128 ≤ b.toNat) := by
  by_cases hc : c.val.toNat ≤ 127
  · left
    refine ⟨Nat.lt_succ_of_le hc, ?_⟩
    unfold String.utf8EncodeChar
    simp only [if_pos hc]
    rfl
  · right
    refine ⟨Nat.lt_of_not_le hc, ?_⟩
    unfold String.utf8EncodeChar
    simp only [if_neg hc]
    split_ifs <;> simp <;> omega

theorem utf8EncodeChar_of_small {c : Char} (hc : c.toNat < 128) : String.utf8EncodeChar c = [c.toUInt8] :=
  (utf8EncodeChar_cases c).elim And.right fun h => absurd hc (Nat.not_lt.2 h.1)

/-- Behind the first byte of a character are only bytes that are no characters. -/
theorem exists_utf8EncodeChar (c : Char) :
    ∃ b bs, String.utf8EncodeChar c = b :: bs ∧ ∀ b' ∈ bs, 128 ≤ b'.toNat := by
  obtain ⟨b, bs, hbs⟩ := List.exists_cons_of_ne_nil (String.utf8EncodeChar_ne_nil (c := c))
  refine ⟨b, bs, hbs, fun b' hb' => ?_⟩
  rcases utf8EncodeChar_cases c with ⟨-, hone⟩ | ⟨-, hlarge⟩
  · rw [hone] at hbs
    rw [← (List.cons.inj hbs).2] at hb'
    exact absurd hb' List.not_mem_nil
  · exact hlarge b' (hbs ▸ List.mem_cons_of_mem b hb')

theorem toNat_toUInt8 {c : Char} (hc : c.toNat < 128) : c.toUInt8.toNat = c.toNat := by
  show c.val.toNat % 2 ^ 8 = c.val.toNat
  exact Nat.mod_eq_of_lt (lt_trans hc (by decide))

/-- Characters of one byte differ in it. -/
theorem toUInt8_inj {c d : Char} (hc : c.toNat < 128) (hd : d.toNat < 128) (h : c.toUInt8 = d.toUInt8) : c = d := by
  rw [← Char.toNat_inj, ← toNat_toUInt8 hc, ← toNat_toUInt8 hd, h]

/-- The first byte of a character is that of a character of one byte only if it is the same character. -/
theorem eq_of_head {c d : Char} (hd : d.toNat < 128) {bs : List UInt8}
    (h : String.utf8EncodeChar c = d.toUInt8 :: bs) : c = d := by
  rcases utf8EncodeChar_cases c with ⟨hc, hone⟩ | ⟨-, hlarge⟩
  · rw [hone] at h
    exact toUInt8_inj hc hd (List.cons.inj h).1
  · have hbyte := hlarge d.toUInt8 (h ▸ List.mem_cons_self)
    rw [toNat_toUInt8 hd] at hbyte
    exact absurd hd (Nat.not_lt.2 hbyte)

section Bytes

variable {escape : Option Char} {quote : Char}

/-- Bytes of characters with several bytes are passed. -/
theorem pass_of_large (hescape : ∀ e ∈ escape, e.toNat < 128) (hquote : quote.toNat < 128) {b : UInt8}
    (hb : 128 ≤ b.toNat) : escape.map Char.toUInt8 ≠ some b ∧ b ≠ quote.toUInt8 := by
  have hne {c : Char} (hc : c.toNat < 128) : b ≠ c.toUInt8 := by
    rintro rfl
    rw [toNat_toUInt8 hc] at hb
    exact absurd hc (Nat.not_lt.2 hb)
  refine ⟨fun h => ?_, hne hquote⟩
  obtain ⟨e, he, heb⟩ := Option.map_eq_some_iff.1 h
  exact hne (hescape e he) heb.symm

/-- A character that neither escapes nor closes is passed with all its bytes. -/
theorem quotedLength_pass_char (hescape : ∀ e ∈ escape, e.toNat < 128) (hquote : quote.toNat < 128) {c : Char}
    (hne : escape ≠ some c) (hne' : c ≠ quote) (bs : List UInt8) :
    quotedLength (escape.map Char.toUInt8) quote.toUInt8 (String.utf8EncodeChar c ++ bs) =
      (String.utf8EncodeChar c).length + quotedLength (escape.map Char.toUInt8) quote.toUInt8 bs := by
  refine quotedLength_pass_all (fun b hb => ?_) bs
  rcases utf8EncodeChar_cases c with ⟨hc, hone⟩ | ⟨-, hlarge⟩
  · obtain rfl := List.mem_singleton.1 (hone ▸ hb)
    refine ⟨fun h => ?_, fun h => hne' (toUInt8_inj hc hquote h)⟩
    obtain ⟨e, he, heb⟩ := Option.map_eq_some_iff.1 h
    exact hne (toUInt8_inj (hescape e he) hc heb ▸ he)
  · exact pass_of_large hescape hquote (hlarge b hb)

/-- Quoted text reaches as far in bytes as in characters, if the characters that close and escape have one byte: none
of the bytes of other characters is one of these, and of an escaped character only the first byte is passed at once. -/
theorem quotedLength_utf8 (hescape : ∀ e ∈ escape, e.toNat < 128) (hquote : quote.toNat < 128) (cs : List Char) :
    quotedLength (escape.map Char.toUInt8) quote.toUInt8 (utf8 cs) =
      (utf8 (cs.take (quotedLength escape quote cs))).length := by
  have hpass {bs : List UInt8} (hbs : ∀ b ∈ bs, 128 ≤ b.toNat) (r : List UInt8) :
      quotedLength (escape.map Char.toUInt8) quote.toUInt8 (bs ++ r) =
        bs.length + quotedLength (escape.map Char.toUInt8) quote.toUInt8 r :=
    quotedLength_pass_all (fun b hb => pass_of_large hescape hquote (hbs b hb)) r
  have hplain (hne : escape ≠ some quote) : escape.map Char.toUInt8 ≠ some quote.toUInt8 := by
    intro h
    obtain ⟨e, he, heq⟩ := Option.map_eq_some_iff.1 h
    exact hne (toUInt8_inj (hescape e he) hquote heq ▸ he)
  -- on the characters; whatever stops the scan is a single byte
  fun_induction quotedLength escape quote cs with
  | case1 => rfl
  | case2 c =>
    rcases utf8EncodeChar_cases c with ⟨-, hc⟩ | ⟨-, hlarge⟩
    · show quotedLength _ _ (String.utf8EncodeChar c ++ []) = (String.utf8EncodeChar c ++ []).length
      rw [hc]
      rfl
    · show quotedLength _ _ (String.utf8EncodeChar c ++ []) = (String.utf8EncodeChar c ++ []).length
      rw [hpass hlarge, List.append_nil]
      rfl
  | case3 c d r hc ih =>
    -- only the first byte of `d` is escaped; its other bytes are large and are passed
    obtain ⟨b, bs, hbs, hlarge⟩ := exists_utf8EncodeChar d
    have hlength : (utf8 (c :: d :: r.take (quotedLength escape quote r))).length =
        (utf8 (r.take (quotedLength escape quote r))).length + bs.length + 2 := by
      rw [utf8_cons, utf8_cons, utf8EncodeChar_of_small (hescape c hc), hbs]
      simp
      omega
    rw [List.take_succ_cons, List.take_succ_cons, hlength, utf8_cons, utf8_cons,
      utf8EncodeChar_of_small (hescape c hc), hbs]
    show quotedLength _ _ (c.toUInt8 :: b :: (bs ++ utf8 r)) = _
    rw [quotedLength, if_pos (by rw [hc]; rfl), hpass hlarge, ih, Nat.add_comm bs.length]
  | case4 r hc ih =>
    rw [List.take_succ_cons, List.take_succ_cons, utf8_cons, utf8_cons, utf8_cons, utf8_cons,
      utf8EncodeChar_of_small hquote]
    show quotedLength _ _ (quote.toUInt8 :: quote.toUInt8 :: utf8 r) = _
    rw [quotedLength, if_neg (hplain hc), if_pos rfl, if_pos rfl, ih]
    rfl
  | case5 d r hd hc =>
    -- a byte that equals the quote can only be the quote itself
    have hhead : (utf8 (d :: r)).head? ≠ some quote.toUInt8 := by
      obtain ⟨b, bs, hbs, -⟩ := exists_utf8EncodeChar d
      rw [utf8_cons, hbs]
      intro h
      exact hd (eq_of_head hquote (hbs.trans (by rw [Option.some.inj h])))
    rw [utf8_cons quote, utf8EncodeChar_of_small hquote]
    show quotedLength _ _ (quote.toUInt8 :: utf8 (d :: r)) = (utf8 [quote]).length
    rw [quotedLength_close (hplain hc) hhead, utf8_cons, utf8EncodeChar_of_small hquote]
    rfl
  | case6 c d r hne hne' ih =>
    rw [List.take_succ_cons, utf8_cons c, utf8_cons c, quotedLength_pass_char hescape hquote hne hne', ih,
      List.length_append]

/-- Skipping quoted text arrives at the same place in bytes as in characters. -/
theorem skipQuoted_utf8 (hescape : ∀ e ∈ escape, e.toNat < 128) (hquote : quote.toNat < 128) (before r : List Char) :
    skipQuoted (escape.map Char.toUInt8) quote.toUInt8 (utf8 (before ++ quote :: r)) (utf8 before).length =
      (utf8 ((before ++ quote :: r).take (skipQuoted escape quote (before ++ quote :: r) before.length))).length := by
  have htake (n : Nat) : (before ++ quote :: r).take (before.length + 1 + n) = before ++ quote :: r.take n := by
    rw [Nat.add_assoc, List.take_length_add_append, Nat.add_comm 1, List.take_succ_cons]
  have hbytes (r : List Char) : utf8 (before ++ quote :: r) = utf8 before ++ quote.toUInt8 :: utf8 r := by
    rw [utf8_append, utf8_cons, utf8EncodeChar_of_small hquote]
    rfl
  rw [skipQuoted_append, htake, hbytes, hbytes, skipQuoted_append, quotedLength_utf8 hescape hquote,
    List.length_append, List.length_cons]
  omega

end Bytes

end Template
end FluentSql
