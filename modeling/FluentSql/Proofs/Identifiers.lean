import FluentSql.Error
import Mathlib

/-!
# FluentSql.Proofs.Identifiers — the grammar of identifiers

* `Ident.QuotedText`: what may stand between back-ticks, and the name that it writes.
* `Ident.Part`, `Ident.Dotted`: one part, and parts separated by dots, each with the names that they write.
* `Ident.readParts_eq_ok_iff`: the reader accepts exactly the dotted parts and gives their names.
* `Ident.dotted_sql`: the back-tick quoted form of an identifier writes its own parts.
* `Ident.parse_iff_dotted`: reading follows the grammar, and what was read is read again from its quoted form.
-/

namespace FluentSql
namespace Ident

/-! ## The grammar -/

/-- A character that may stand outside back-ticks. -/
def PlainChar (c : Char) : Prop :=
  ('a' ≤ c ∧ c ≤ 'z') ∨ ('A' ≤ c ∧ c ≤ 'Z') ∨ ('0' ≤ c ∧ c ≤ '9') ∨ c = '_' ∨ c = '$' ∨ 0x7f < c.toNat

/-- The text between two back-ticks and the name it stands for: a back-tick is doubled. -/
inductive QuotedText : List Char → List Char → Prop
  | nil : QuotedText [] []
  | char {c : Char} {text name : List Char} (h : c ≠ '`') (rest : QuotedText text name) :
      QuotedText (c :: text) (c :: name)
  | doubled {text name : List Char} (rest : QuotedText text name) : QuotedText ('`' :: '`' :: text) ('`' :: name)

/-- The text of one part and the name it stands for. -/
inductive Part : List Char → List Char → Prop
  | plain {text : List Char} (h : text ≠ []) (chars : ∀ c ∈ text, PlainChar c) : Part text text
  | quoted {text name : List Char} (h : text ≠ []) (items : QuotedText text name) : Part ('`' :: (text ++ ['`'])) name

/-- The text of parts separated by dots, and the names they stand for. -/
inductive Dotted : List Char → List (List Char) → Prop
  | one {text name : List Char} (part : Part text name) : Dotted text [name]
  | cons {text name rest : List Char} {names : List (List Char)} (part : Part text name) (more : Dotted rest names) :
      Dotted (text ++ '.' :: rest) (name :: names)

/-! ## Characters -/

theorem isPlain_iff {c : Char} : isPlain c = true ↔ PlainChar c := by
  simp only [isPlain, PlainChar, Char.isAlphanum, Char.isAlpha, Char.isUpper, Char.isLower, Char.isDigit,
    Bool.or_eq_true, Bool.and_eq_true, beq_iff_eq, decide_eq_true_eq, Char.le_def, ge_iff_le]
  tauto

theorem plainChars_of_all {text : List Char} (h : text.all isPlain = true) : ∀ c ∈ text, PlainChar c :=
  fun c hc => isPlain_iff.1 (List.all_eq_true.1 h c hc)

theorem PlainChar.ne_dot {c : Char} (h : PlainChar c) : c ≠ '.' := by
  rintro rfl
  exact absurd (isPlain_iff.2 h) (by decide)

theorem PlainChar.ne_tick {c : Char} (h : PlainChar c) : c ≠ '`' := by
  rintro rfl
  exact absurd (isPlain_iff.2 h) (by decide)

theorem PlainChar.ne_nul {c : Char} (h : PlainChar c) : c ≠ '\x00' := by
  rintro rfl
  exact absurd (isPlain_iff.2 h) (by decide)

/-! ## The characters of a text and of its names -/

theorem QuotedText.mem_iff {text name : List Char} (items : QuotedText text name) {c : Char} (hc : c ≠ '`') :
    c ∈ text ↔ c ∈ name := by
  induction items with
  | nil => rfl
  | char _ _ ih => simp [ih]
  | doubled _ ih => simp [ih, hc]

theorem Part.mem_iff {text name : List Char} (part : Part text name) {c : Char} (hc : c ≠ '`') :
    c ∈ text ↔ c ∈ name := by
  cases part with
  | plain _ _ => rfl
  | quoted _ items => simp [items.mem_iff hc, hc]

/-- Every character of a text but dots and back-ticks is one of a name, and the other way round. -/
theorem Dotted.mem_iff {text : List Char} {names : List (List Char)} (h : Dotted text names) {c : Char}
    (htick : c ≠ '`') (hdot : c ≠ '.') : c ∈ text ↔ ∃ name ∈ names, c ∈ name := by
  induction h with
  | one part => simp [part.mem_iff htick]
  | cons part _ ih => simp [part.mem_iff htick, hdot, ih]

theorem Part.text_ne_nil {text name : List Char} (part : Part text name) : text ≠ [] := by
  cases part with
  | plain h _ => exact h
  | quoted h items => exact List.cons_ne_nil _ _

theorem Dotted.text_ne_nil {text : List Char} {names : List (List Char)} (h : Dotted text names) : text ≠ [] := by
  cases h with
  | one part => exact part.text_ne_nil
  | cons part _ => simp

theorem QuotedText.eq_nil_iff {text name : List Char} (items : QuotedText text name) : text = [] ↔ name = [] := by
  cases items <;> simp

theorem Part.name_ne_nil {text name : List Char} (part : Part text name) : name ≠ [] := by
  cases part with
  | plain h _ => exact h
  | quoted h items => exact fun he => h (items.eq_nil_iff.2 he)

theorem Dotted.name_ne_nil {text : List Char} {names : List (List Char)} (h : Dotted text names) :
    ∀ name ∈ names, name ≠ [] := by
  induction h with
  | one part => exact fun name hn => List.mem_singleton.1 hn ▸ part.name_ne_nil
  | cons part _ ih => exact List.forall_mem_cons.2 ⟨part.name_ne_nil, ih⟩

theorem Dotted.names_ne_nil {text : List Char} {names : List (List Char)} (h : Dotted text names) : names ≠ [] := by
  cases h <;> exact List.cons_ne_nil _ _

/-! ## Reading one part -/

theorem readQuoted_sound {cs name rest : List Char} (h : readQuoted cs = .ok (name, rest)) :
    ∃ text, cs = text ++ '`' :: rest ∧ QuotedText text name := by
  fun_induction readQuoted cs generalizing name with
  | case1 => cases h
  | case2 r ih =>
    obtain ⟨⟨inner, behind⟩, hr, hp⟩ := ok_of_map h
    cases hp
    obtain ⟨text, rfl, items⟩ := ih hr
    exact ⟨'`' :: '`' :: text, rfl, .doubled items⟩
  | case3 r =>
    cases h
    exact ⟨[], rfl, .nil⟩
  | case4 c r _ hc ih =>
    obtain ⟨⟨inner, behind⟩, hr, hp⟩ := ok_of_map h
    cases hp
    obtain ⟨text, rfl, items⟩ := ih hr
    exact ⟨c :: text, rfl, .char hc items⟩

/-- The closing back-tick is found when no other one follows it. -/
theorem readQuoted_complete {text name : List Char} (items : QuotedText text name) {rest : List Char}
    (hrest : rest.head? ≠ some '`') : readQuoted (text ++ '`' :: rest) = .ok (name, rest) := by
  induction items with
  | nil =>
    rw [List.nil_append, readQuoted]
    rintro r rfl
    exact hrest rfl
  | char hc _ ih =>
    rw [List.cons_append, readQuoted, ih]
    · rfl
    · rintro r rfl
      exact absurd rfl hc
    · exact hc
  | doubled _ ih =>
    rw [List.cons_append, List.cons_append, readQuoted, ih]
    rfl

theorem readPlain_sound {cs name rest : List Char} (h : readPlain cs = .ok (name, rest)) :
    cs = name ++ rest ∧ ∀ c ∈ name, PlainChar c := by
  fun_induction readPlain cs generalizing name with
  | case1 =>
    cases h
    exact ⟨rfl, List.forall_mem_nil _⟩
  | case2 r =>
    cases h
    exact ⟨rfl, List.forall_mem_nil _⟩
  | case3 c r _ hc ih =>
    obtain ⟨⟨inner, behind⟩, hr, hp⟩ := ok_of_map h
    cases hp
    obtain ⟨rfl, chars⟩ := ih hr
    exact ⟨rfl, List.forall_mem_cons.2 ⟨isPlain_iff.1 hc, chars⟩⟩
  | case4 => cases h

theorem readPlain_complete {name : List Char} (chars : ∀ c ∈ name, PlainChar c) {rest : List Char}
    (hrest : rest = [] ∨ rest.head? = some '.') : readPlain (name ++ rest) = .ok (name, rest) := by
  induction name with
  | nil =>
    cases rest with
    | nil => rfl
    | cons d r =>
      obtain rfl : d = '.' := by simpa using hrest
      rfl
  | cons c name ih =>
    obtain ⟨hc, hname⟩ := List.forall_mem_cons.1 chars
    rw [List.cons_append, readPlain, if_pos (isPlain_iff.2 hc), ih hname]
    · rfl
    · exact hc.ne_dot

/-- A name that was read is kept if it is not empty. -/
theorem kept_iff {x : Except IdentFault (List Char × List Char)} {fault : IdentFault} {p : List Char × List Char} :
    (do let (name, rest) ← x; if name.isEmpty then .error fault else .ok (name, rest)) = Except.ok p ↔
      x = .ok p ∧ p.1 ≠ [] := by
  cases x with
  | error e => exact ⟨fun h => (nomatch h), fun h => (nomatch h.1)⟩
  | ok q =>
    obtain ⟨name, rest⟩ := q
    cases name with
    | nil =>
      refine ⟨fun h => (nomatch h), fun ⟨h, hne⟩ => absurd ?_ hne⟩
      rw [← Except.ok.inj h]
    | cons c name =>
      refine ⟨fun h => ⟨h, ?_⟩, And.left⟩
      rw [← Except.ok.inj h]
      exact List.cons_ne_nil c name

theorem readPart_of_tick {r : List Char} {p : List Char × List Char} :
    readPart ('`' :: r) = .ok p ↔ readQuoted r = .ok p ∧ p.1 ≠ [] := by
  rw [readPart]
  exact kept_iff

theorem readPart_of_plain {cs : List Char} (h : cs.head? ≠ some '`') {p : List Char × List Char} :
    readPart cs = .ok p ↔ readPlain cs = .ok p ∧ p.1 ≠ [] := by
  rw [readPart]
  · exact kept_iff
  · rintro r rfl
    exact h rfl

theorem readPart_sound {cs name rest : List Char} (h : readPart cs = .ok (name, rest)) :
    ∃ text, cs = text ++ rest ∧ Part text name := by
  by_cases htick : cs.head? = some '`'
  · obtain ⟨r, rfl⟩ : ∃ r, cs = '`' :: r := List.head?_eq_some_iff.1 htick
    obtain ⟨hr, hne⟩ := readPart_of_tick.1 h
    obtain ⟨text, rfl, items⟩ := readQuoted_sound hr
    have htext : text ≠ [] := fun he => hne (items.eq_nil_iff.1 he)
    exact ⟨'`' :: (text ++ ['`']), by simp, .quoted htext items⟩
  · obtain ⟨hr, hne⟩ := (readPart_of_plain htick).1 h
    obtain ⟨rfl, chars⟩ := readPlain_sound hr
    exact ⟨name, rfl, .plain hne chars⟩

/-- A part is read when a dot or nothing follows it. -/
theorem readPart_complete {text name : List Char} (part : Part text name) {rest : List Char}
    (hrest : rest = [] ∨ rest.head? = some '.') : readPart (text ++ rest) = .ok (name, rest) := by
  cases part with
  | plain h chars =>
    obtain ⟨c, name, rfl⟩ := List.exists_cons_of_ne_nil h
    have hc : c ≠ '`' := (chars c List.mem_cons_self).ne_tick
    exact (readPart_of_plain (by simpa using hc)).2 ⟨readPlain_complete chars hrest, h⟩
  | @quoted text _ h items =>
    have hclosed : rest.head? ≠ some '`' := by
      rcases hrest with rfl | hdot
      · simp
      · simp [hdot]
    rw [List.cons_append, List.append_assoc]
    exact readPart_of_tick.2 ⟨readQuoted_complete items hclosed, fun he => h (items.eq_nil_iff.2 he)⟩

/-! ## Reading all parts -/

/-- The steps of the reader: a part is last, or a dot and more parts follow it. -/
theorem readParts_last {cs name : List Char} (h : readPart cs = .ok (name, [])) : readParts cs = .ok [name] := by
  rw [readParts]
  split <;> simp_all

theorem readParts_dot {cs name r : List Char} (h : readPart cs = .ok (name, '.' :: r)) (hr : r ≠ []) :
    readParts cs = (readParts r).map (name :: ·) := by
  rw [readParts]
  split <;> simp_all

theorem readParts_sound {cs : List Char} {names : List (List Char)} (h : readParts cs = .ok names) :
    Dotted cs names := by
  fun_induction readParts cs generalizing names with
  | case1 cs e he => cases h
  | case2 cs name hp =>
    cases h
    obtain ⟨text, rfl, part⟩ := readPart_sound hp
    rw [List.append_nil]
    exact .one part
  | case3 cs name hp => cases h
  | case4 cs name r hr hp ih =>
    obtain ⟨more, hmore, rfl⟩ := ok_of_map h
    obtain ⟨text, rfl, part⟩ := readPart_sound hp
    exact .cons part (ih hmore)
  | case5 => cases h

theorem readParts_complete {text : List Char} {names : List (List Char)} (h : Dotted text names) :
    readParts text = .ok names := by
  induction h with
  | @one text name part =>
    have hp := readPart_complete part (.inl rfl)
    rw [List.append_nil] at hp
    exact readParts_last hp
  | @cons text name rest names part more ih =>
    have hdot : '.' :: rest = [] ∨ ('.' :: rest).head? = some '.' := .inr rfl
    have hp := readPart_complete part hdot
    rw [readParts_dot hp more.text_ne_nil, ih]
    rfl

/-- The reader accepts exactly the dotted parts and gives their names. -/
theorem readParts_eq_ok_iff {text : List Char} {names : List (List Char)} :
    readParts text = .ok names ↔ Dotted text names :=
  ⟨readParts_sound, readParts_complete⟩

/-! ## Whole texts -/

/-- Reading follows the grammar, and refuses the character NUL. -/
theorem parse_eq_ok_iff {s : String} {i : Ident} :
    Ident.parse s = .ok i ↔ '\x00' ∉ s.toList ∧ Dotted s.toList (i.parts.map String.toList) := by
  have hnul : s.toList.contains '\x00' = true ↔ '\x00' ∈ s.toList := List.contains_iff_mem
  unfold Ident.parse
  constructor
  · intro h
    split_ifs at h with hempty hmem
    obtain ⟨names, hnames, rfl⟩ := ok_of_map h
    refine ⟨fun hc => hmem (hnul.2 hc), ?_⟩
    have hparts : (names.map String.ofList).map String.toList = names := by simp [Function.comp_def]
    rw [hparts]
    exact readParts_eq_ok_iff.1 hnames
  · rintro ⟨hmem, hdotted⟩
    have hempty : ¬ s.isEmpty = true := by
      intro he
      rw [String.isEmpty_iff] at he
      exact hdotted.text_ne_nil (by rw [he]; rfl)
    rw [if_neg hempty, if_neg fun h => hmem (hnul.1 h), readParts_eq_ok_iff.2 hdotted]
    have hparts : (i.parts.map String.toList).map String.ofList = i.parts := by simp [Function.comp_def]
    show Except.ok (Ident.mk ((i.parts.map String.toList).map String.ofList)) = .ok i
    rw [hparts]

/-- A text of plain characters is an identifier of one part. -/
theorem parse_of_plain {s : String} (hne : s ≠ "") (chars : ∀ c ∈ s.toList, PlainChar c) :
    Ident.parse s = .ok ⟨[s]⟩ := by
  have htext : s.toList ≠ [] := by simpa using hne
  exact parse_eq_ok_iff.2 ⟨fun hmem => (chars _ hmem).ne_nul rfl, .one (.plain htext chars)⟩

/-! ## The quoted form -/

theorem quoted_doubled : ∀ name : List Char, QuotedText (doubled name) name
  | [] => .nil
  | c :: name => by
    by_cases hc : c = '`'
    · subst hc
      simpa [doubled] using (quoted_doubled name).doubled
    · simpa [doubled, hc] using (quoted_doubled name).char hc

/-- A name in back-ticks is a part of that name. -/
theorem part_of_name {name : List Char} (h : name ≠ []) : Part ('`' :: (doubled name ++ ['`'])) name :=
  .quoted (fun he => h ((quoted_doubled name).eq_nil_iff.1 he)) (quoted_doubled name)

/-- Names in back-ticks, joined by dots. -/
theorem dotted_of_names : ∀ names : List (List Char), names ≠ [] → (∀ n ∈ names, n ≠ []) →
    Dotted (['.'].intercalate (names.map fun n => '`' :: (doubled n ++ ['`']))) names
  | [], h, _ => absurd rfl h
  | [name], _, hne => by
    rw [List.map_singleton, List.intercalate_singleton]
    exact .one (part_of_name (hne name (by simp)))
  | name :: next :: names, _, hne => by
    obtain ⟨hname, hrest⟩ := List.forall_mem_cons.1 hne
    have more := dotted_of_names (next :: names) (List.cons_ne_nil _ _) hrest
    rw [List.map_cons, List.map_cons, List.intercalate_cons_cons, List.append_assoc, List.singleton_append]
    exact .cons (part_of_name hname) (by simpa using more)

theorem sql_toList (i : Ident) :
    i.sql.toList = ['.'].intercalate ((i.parts.map String.toList).map fun n => '`' :: (doubled n ++ ['`'])) := by
  have hpart : String.toList ∘ partSql = (fun n => '`' :: (doubled n ++ ['`'])) ∘ String.toList := by
    funext part
    simp [partSql]
  simp only [sql, String.toList_intercalate, List.map_map, hpart]
  rfl

/-- The back-tick quoted form of an identifier writes its own parts. -/
theorem dotted_sql {i : Ident} (h : i.parts ≠ []) (hne : ∀ p ∈ i.parts, p ≠ "") :
    Dotted i.sql.toList (i.parts.map String.toList) := by
  rw [sql_toList]
  refine dotted_of_names _ (by simpa using h) fun n hn => ?_
  obtain ⟨p, hp, rfl⟩ := List.mem_map.1 hn
  simpa using hne p hp

/-! ## Identifiers that can be had -/

/-- An identifier that was read from a text, or made of one name. -/
def Obtained (i : Ident) : Prop :=
  (∃ s, Ident.parse s = .ok i) ∨ ∃ name, Ident.quoted name = .ok i

/-- An identifier has parts, and no part is empty or holds the character NUL. -/
theorem Obtained.parts {i : Ident} (h : i.Obtained) :
    i.parts ≠ [] ∧ (∀ p ∈ i.parts, p ≠ "") ∧ ∀ p ∈ i.parts, '\x00' ∉ p.toList := by
  obtain ⟨s, hs⟩ | ⟨name, hname⟩ := h
  · obtain ⟨hnul, hdotted⟩ := parse_eq_ok_iff.1 hs
    refine ⟨fun he => hdotted.names_ne_nil (by rw [he]; rfl), fun p hp he => ?_, fun p hp hmem => hnul ?_⟩
    · exact hdotted.name_ne_nil p.toList (List.mem_map_of_mem hp) (by rw [he]; rfl)
    · exact (hdotted.mem_iff (by decide) (by decide)).2 ⟨p.toList, List.mem_map_of_mem hp, hmem⟩
  · unfold Ident.quoted at hname
    split_ifs at hname with hempty hnul
    cases hname
    have hne : name ≠ "" := fun he => hempty (String.isEmpty_iff.2 he)
    exact ⟨List.cons_ne_nil _ _, fun p hp => List.mem_singleton.1 hp ▸ hne,
      fun p hp => List.mem_singleton.1 hp ▸ fun hmem => hnul (List.contains_iff_mem.2 hmem)⟩

/-- An identifier is read again from its quoted form. -/
theorem parse_sql_of_obtained {i : Ident} (h : i.Obtained) : Ident.parse i.sql = .ok i := by
  obtain ⟨hparts, hne, hnul⟩ := h.parts
  have hdotted := dotted_sql hparts hne
  refine parse_eq_ok_iff.2 ⟨fun hmem => ?_, hdotted⟩
  obtain ⟨name, hname, hc⟩ := (hdotted.mem_iff (by decide) (by decide)).1 hmem
  obtain ⟨p, hp, rfl⟩ := List.mem_map.1 hname
  exact hnul p hp hc

end Ident

theorem quoteIdent_eq_ok_iff {s q : String} : quoteIdent s = .ok q ↔ ∃ i, Ident.parse s = .ok i ∧ i.sql = q := by
  unfold quoteIdent
  cases Ident.parse s with
  | error fault => exact ⟨fun h => (nomatch h), fun ⟨_, h, _⟩ => (nomatch h)⟩
  | ok i =>
    refine ⟨fun h => ⟨i, rfl, Except.ok.inj h⟩, ?_⟩
    rintro ⟨j, hj, rfl⟩
    exact congrArg (fun k => Except.ok k.sql) (Except.ok.inj hj)

theorem quoteIdent_of_parse {name : String} {i : Ident} (h : Ident.parse name = .ok i) :
    quoteIdent name = .ok i.sql := by
  rw [quoteIdent, h]

namespace Ident

/-- **Identifiers are read by their grammar and written so that they are read again.** A text is read exactly if it
has no NUL and consists of parts separated by dots; what is read are the names of the parts, none of them empty. An
identifier that was read, or made of one name, is read again from its quoted form. So different identifiers have
different quoted forms, and quoting a quoted form changes nothing. -/
theorem parse_iff_dotted :
    (∀ s, (∃ i, Ident.parse s = .ok i) ↔ '\x00' ∉ s.toList ∧ ∃ names, Dotted s.toList names) ∧
      (∀ s i, Ident.parse s = .ok i ↔ '\x00' ∉ s.toList ∧ Dotted s.toList (i.parts.map String.toList)) ∧
      (∀ s i, Ident.parse s = .ok i → ∀ p ∈ i.parts, p ≠ "") ∧
      (∀ i : Ident, i.Obtained → Ident.parse i.sql = .ok i) ∧
      (∀ i j : Ident, i.Obtained → j.Obtained → i.sql = j.sql → i = j) ∧
      ∀ s q, quoteIdent s = .ok q → quoteIdent q = .ok q := by
  refine ⟨fun s => ⟨?_, ?_⟩, fun s i => parse_eq_ok_iff, fun s i h => (Obtained.parts (.inl ⟨s, h⟩)).2.1,
    fun i h => parse_sql_of_obtained h, fun i j hi hj hsql => ?_, fun s q h => ?_⟩
  · rintro ⟨i, h⟩
    obtain ⟨hnul, hdotted⟩ := parse_eq_ok_iff.1 h
    exact ⟨hnul, _, hdotted⟩
  · rintro ⟨hnul, names, hdotted⟩
    have hnames : (names.map String.ofList).map String.toList = names := by simp [Function.comp_def]
    exact ⟨⟨names.map String.ofList⟩, parse_eq_ok_iff.2 ⟨hnul, hnames.symm ▸ hdotted⟩⟩
  · have hj' := parse_sql_of_obtained hj
    rw [← hsql, parse_sql_of_obtained hi] at hj'
    exact Except.ok.inj hj'
  · obtain ⟨i, hi, rfl⟩ := quoteIdent_eq_ok_iff.1 h
    exact quoteIdent_eq_ok_iff.2 ⟨i, parse_sql_of_obtained (.inl ⟨s, hi⟩), rfl⟩

/-- A doubled back-tick and a dot inside back-ticks, and a plain part: the quoted form is read as the same two names. -/
theorem parse_tick_and_dot :
    Ident.parse "`a``.b`.Qty" = .ok ⟨["a`.b", "Qty"]⟩ ∧
      Ident.parse (Ident.sql ⟨["a`.b", "Qty"]⟩) = .ok ⟨["a`.b", "Qty"]⟩ := by
  have hitems : QuotedText "a``.b".toList "a`.b".toList :=
    .char (by decide) (.doubled (.char (by decide) (.char (by decide) .nil)))
  have htick : Part "`a``.b`".toList "a`.b".toList := .quoted (by decide) hitems
  have hplain : Part "Qty".toList "Qty".toList := .plain (by decide) (plainChars_of_all (by decide))
  have hread : Ident.parse "`a``.b`.Qty" = .ok ⟨["a`.b", "Qty"]⟩ :=
    (parse_iff_dotted.2.1 _ _).2 ⟨by decide, .cons htick (.one hplain)⟩
  exact ⟨hread, parse_iff_dotted.2.2.2.1 _ (.inl ⟨_, hread⟩)⟩

end Ident
end FluentSql
