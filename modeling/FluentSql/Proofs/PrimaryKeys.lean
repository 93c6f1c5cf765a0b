import FluentSql.Proofs.TableLayout
import Mathlib

/-!
# FluentSql.Proofs.PrimaryKeys — how many primary keys a table definition declares

* `occurrences`: how often a phrase stands in a text; `Apart`: texts before which no start of the phrase is completed.
* `primaryKeysIn`: the primary keys that a text declares outside quoted text.
* `Declares`, `Trails`, `Silent`: texts with a number of primary keys, those that may stand behind any other, and those
  that have none.
* `Item.sql_declares`: the definition of a column or key declares what it was given.
* `TableDefinition.Call`, `TableDefinition.run`: a table definition that is built step by step.
* `TableDefinition.build_primaryKeys`: a finished statement declares one primary key for each primary column, and one
  for a composite key.
-/

namespace FluentSql

open Template

/-! ## Occurrences of a phrase -/

section Occurrences

variable {α : Type} [DecidableEq α] {phrase : List α}

/-- How often a phrase stands in a text. -/
def occurrences (phrase : List α) : List α → Nat
  | [] => 0
  | c :: r => (if phrase <+: c :: r then 1 else 0) + occurrences phrase r

/-- A text in front of which no start of the phrase is completed. -/
def Apart (phrase r : List α) : Prop :=
  ∀ n, 0 < n → n < phrase.length → ¬ phrase.drop n <+: r

omit [DecidableEq α] in
/-- A phrase across a seam would have a part behind it. -/
theorem Apart.prefix_append_iff {r : List α} (h : Apart phrase r) {a : List α} (ha : a ≠ []) :
    phrase <+: a ++ r ↔ phrase <+: a := by
  constructor
  · rintro ⟨rest, hrest⟩
    rcases List.append_eq_append_iff.1 hrest with ⟨b, rfl, -⟩ | ⟨b, hphrase, hr⟩
    · exact List.prefix_append phrase b
    · by_cases hb : b = []
      · rw [hphrase, hb, List.append_nil]
      · have hlength : a.length < phrase.length := by
          have := List.length_pos_iff.2 hb
          rw [hphrase, List.length_append]
          omega
        refine absurd ?_ (h a.length (List.length_pos_iff.2 ha) hlength)
        rw [hphrase, List.drop_left, hr]
        exact List.prefix_append b rest
  · rintro ⟨rest, hrest⟩
    exact ⟨rest ++ r, by rw [← List.append_assoc, hrest]⟩

theorem occurrences_append {r : List α} (h : Apart phrase r) (a : List α) :
    occurrences phrase (a ++ r) = occurrences phrase a + occurrences phrase r := by
  induction a with
  | nil => simp [occurrences]
  | cons c a ih =>
    -- a phrase that begins in front of the seam ends there too
    have hseam : phrase <+: c :: (a ++ r) ↔ phrase <+: c :: a := h.prefix_append_iff (a := c :: a) (by simp)
    rw [List.cons_append, occurrences, occurrences, ih, if_congr hseam rfl rfl, Nat.add_assoc]

/-- A text without the first symbol of the phrase. -/
theorem occurrences_append_of_notMem {first : α} {more a : List α} (h : first ∉ a) (r : List α) :
    occurrences (first :: more) (a ++ r) = occurrences (first :: more) r := by
  induction a with
  | nil => rfl
  | cons c a ih =>
    obtain ⟨hc, ha⟩ := not_or.1 (mt List.mem_cons.2 h)
    have hno : ¬ first :: more <+: c :: (a ++ r) := fun hprefix => hc (List.cons_prefix_cons.1 hprefix).1
    rw [List.cons_append, occurrences, if_neg hno, Nat.zero_add, ih ha]

end Occurrences

/-! ## Primary keys in a text -/

/-- The keywords that declare a primary key. -/
def keyPhrase : List Char :=
  "PRIMARY KEY".toList

theorem keyPhrase_eq_cons : keyPhrase = 'P' :: keyPhrase.tail :=
  rfl

/-- The primary keys that a text declares outside quoted text. -/
def primaryKeysIn (s : String) : Nat :=
  occurrences keyPhrase (unquoted .outside s.toList)

/-- A text that ends outside quoted text and declares a number of primary keys. -/
structure Declares (n : Nat) (s : String) : Prop where
  closed : Closed s
  keys : primaryKeysIn s = n

instance (n : Nat) (s : String) : Decidable (Declares n s) :=
  decidable_of_iff (Closed s ∧ primaryKeysIn s = n) ⟨fun h => ⟨h.1, h.2⟩, fun h => ⟨h.closed, h.keys⟩⟩

/-- A text that does not start a primary key, whatever follows it. -/
structure Silent (s : String) : Prop where
  closed : Closed s
  notMem : 'P' ∉ unquoted .outside s.toList

instance (s : String) : Decidable (Silent s) :=
  decidable_of_iff (Closed s ∧ 'P' ∉ unquoted .outside s.toList) ⟨fun h => ⟨h.1, h.2⟩, fun h => ⟨h.closed, h.notMem⟩⟩

/-- The first characters of a text that completes no start of the keywords. -/
def startsApart : List Char → Bool
  | [] => true
  | ' ' :: c :: _ => c != 'K'
  | c :: _ => !(keyPhrase.tail.contains c)

/-- A text that may stand behind any other. -/
structure Trails (n : Nat) (s : String) : Prop extends Declares n s where
  starts : startsApart (unquoted .outside s.toList) = true

instance (n : Nat) (s : String) : Decidable (Trails n s) :=
  decidable_of_iff (Declares n s ∧ startsApart (unquoted .outside s.toList) = true)
    ⟨fun h => ⟨h.1, h.2⟩, fun h => ⟨h.toDeclares, h.starts⟩⟩

theorem apart_of_startsApart {r : List Char} (h : startsApart r = true) : Apart keyPhrase r := by
  intro n hpos hn hprefix
  unfold startsApart at h
  split at h
  · rw [List.prefix_nil, List.drop_eq_nil_iff] at hprefix
    omega
  · change n < 11 at hn
    change List.drop n ['P', 'R', 'I', 'M', 'A', 'R', 'Y', ' ', 'K', 'E', 'Y'] <+: _ at hprefix
    interval_cases n <;> simp at hprefix
    exact absurd hprefix.1.symm (by simpa using h)
  · rename_i c r _
    have hc : c ∈ keyPhrase.drop n := by
      rw [List.drop_eq_getElem_cons hn] at hprefix ⊢
      rw [(List.cons_prefix_cons.1 hprefix).1]
      exact List.mem_cons_self
    have htail : c ∈ keyPhrase.tail := by
      rw [← List.drop_one]
      exact (List.drop_sublist_drop_left keyPhrase hpos).mem hc
    simp [htail] at h

theorem startsApart_append {x y : List Char} (hx : startsApart x = true) (hy : x = [] → startsApart y = true) :
    startsApart (x ++ y) = true := by
  unfold startsApart at hx
  split at hx
  · exact hy rfl
  · exact hx
  · rename_i c r hr
    have hc : c ≠ ' ' := by
      rintro rfl
      exact absurd hx (by decide)
    rw [List.cons_append, startsApart]
    · exact hx
    · rintro d r' rfl
      exact absurd rfl hc

theorem unquoted_append_of_closed {a : String} (ha : Closed a) (b : String) :
    unquoted .outside (a ++ b).toList = unquoted .outside a.toList ++ unquoted .outside b.toList := by
  rw [String.toList_append, PunctuatedFrom.unquoted_append, ha]

theorem closed_append {a b : String} (ha : Closed a) (hb : Closed b) : Closed (a ++ b) := by
  unfold Closed
  rw [String.toList_append, Quoting.after_append, ha, hb]

theorem Punctuated.closed {p : Punctuation} {s : String} (h : Punctuated p s) : Closed s := by
  have hafter := congrArg Enclosure.quoting (PunctuatedFrom.after_eq h 0)
  rwa [Enclosure.quoting_after] at hafter

namespace Silent

variable {a b s : String}

theorem append (ha : Silent a) (hb : Silent b) : Silent (a ++ b) := by
  refine ⟨closed_append ha.closed hb.closed, ?_⟩
  rw [unquoted_append_of_closed ha.closed]
  exact fun h => (List.mem_append.1 h).elim ha.notMem hb.notMem

/-- In front of other text. -/
theorem before {n : Nat} (ha : Silent a) (hb : Declares n b) : Declares n (a ++ b) := by
  refine ⟨closed_append ha.closed hb.closed, ?_⟩
  rw [primaryKeysIn, unquoted_append_of_closed ha.closed, keyPhrase_eq_cons, occurrences_append_of_notMem ha.notMem]
  exact hb.keys

theorem declares (h : Silent s) : Declares 0 s := by
  have hempty : Declares 0 "" := by decide
  have hs := h.before hempty
  rwa [String.append_empty] at hs

theorem intercalate {separator : String} {ss : List String} (hsep : Silent separator) (h : ∀ s ∈ ss, Silent s) :
    Silent (separator.intercalate ss) :=
  intercalate_of_append (by decide) (fun _ _ => append) hsep h

end Silent

theorem Declares.append {n m : Nat} {a b : String} (ha : Declares n a) (hb : Trails m b) :
    Declares (n + m) (a ++ b) := by
  refine ⟨closed_append ha.closed hb.closed, ?_⟩
  rw [primaryKeysIn, unquoted_append_of_closed ha.closed, occurrences_append (apart_of_startsApart hb.starts)]
  exact congrArg₂ (· + ·) ha.keys hb.keys

namespace Trails

variable {n m : Nat} {a b s : String}

theorem empty : Trails 0 "" := by decide

theorem append (ha : Trails n a) (hb : Trails m b) : Trails (n + m) (a ++ b) := by
  refine ⟨ha.toDeclares.append hb, ?_⟩
  rw [unquoted_append_of_closed ha.closed]
  exact startsApart_append ha.starts fun _ => hb.starts

/-- A text behind one that may stand behind any other. -/
theorem of_silent (ha : Silent a) (hstarts : startsApart (unquoted .outside a.toList) = true)
    (hne : unquoted .outside a.toList ≠ []) (hb : Declares n b) : Trails n (a ++ b) := by
  refine ⟨ha.before hb, ?_⟩
  rw [unquoted_append_of_closed ha.closed]
  exact startsApart_append hstarts fun h => absurd h hne

theorem intercalate {separator : String} {ss : List String} (hsep : Trails 0 separator) (h : ∀ s ∈ ss, Trails 0 s) :
    Trails 0 (separator.intercalate ss) :=
  intercalate_of_append empty (fun _ _ => append) hsep h

end Trails

/-! ### Quoted texts and numbers -/

/-- The inside of an identifier with its closing back-tick: outside quoted text are only doubled back-ticks. -/
theorem mem_unquoted_doubled {c : Char} (cs : List Char)
    (h : c ∈ unquoted (.inside '`') (Ident.doubled cs ++ ['`'])) : c = '`' := by
  have hopen : Quoting.step .outside '`' = .inside '`' := by decide
  have hclose : Quoting.step (.inside '`') '`' = .outside := by decide
  induction cs with
  | nil =>
    rw [Ident.doubled, List.nil_append, unquoted, if_neg (by decide), hclose] at h
    exact absurd h List.not_mem_nil
  | cons d cs ih =>
    rw [Ident.doubled] at h
    by_cases hd : d = '`'
    · rw [if_pos hd, List.cons_append, List.cons_append, unquoted, if_neg (by decide), hclose, unquoted, if_pos rfl,
        hopen] at h
      exact (List.mem_cons.1 h).elim id ih
    · have hstay : Quoting.step (.inside '`') d = .inside '`' := by simp [Quoting.step, hd]
      rw [if_neg hd, List.cons_append, unquoted, if_neg (by decide), hstay] at h
      exact ih h

/-- The inside of a string literal with its closing quote: outside quoted text are only doubled quotes. -/
theorem mem_unquoted_literalBody {c : Char} (cs : List Char)
    (h : c ∈ unquoted (.inside '\'') (literalBody cs ++ ['\''])) : c = '\'' := by
  have hopen : Quoting.step .outside '\'' = .inside '\'' := by decide
  have hclose : Quoting.step (.inside '\'') '\'' = .outside := by decide
  have hescape : Quoting.step (.inside '\'') '\\' = .escaped '\'' := by decide
  have hback : Quoting.step (.escaped '\'') '\\' = .inside '\'' := by decide
  induction cs with
  | nil =>
    rw [literalBody, List.nil_append, unquoted, if_neg (by decide), hclose] at h
    exact absurd h List.not_mem_nil
  | cons d cs ih =>
    rw [literalBody] at h
    -- only a doubled quote leaves the literal, and it is opened again at once
    by_cases hquote : d = '\''
    · rw [if_pos hquote, List.cons_append, List.cons_append, unquoted, if_neg (by decide), hclose, unquoted, if_pos rfl,
        hopen] at h
      exact (List.mem_cons.1 h).elim id ih
    · by_cases hslash : d = '\\'
      · rw [if_neg hquote, if_pos hslash, List.cons_append, List.cons_append, unquoted, if_neg (by decide), hescape,
          unquoted, if_neg (by decide), hback] at h
        exact ih h
      · have hstay : Quoting.step (.inside '\'') d = .inside '\'' := by simp [Quoting.step, hquote, hslash]
        rw [if_neg hquote, if_neg hslash, List.cons_append, unquoted, if_neg (by decide), hstay] at h
        exact ih h

theorem stringLiteral_trails (text : String) : Trails 0 (stringLiteral text) := by
  have hchars : unquoted .outside (stringLiteral text).toList =
      '\'' :: unquoted (.inside '\'') (literalBody text.toList ++ ['\'']) := by
    rw [stringLiteral, String.toList_ofList]
    rfl
  have hsilent : Silent (stringLiteral text) := by
    refine ⟨(Punctuated.stringLiteral (p := .none) text).closed, ?_⟩
    rw [hchars]
    intro h
    rcases List.mem_cons.1 h with h | h
    · exact absurd h (by decide)
    · exact absurd (mem_unquoted_literalBody _ h) (by decide)
  exact ⟨hsilent.declares, by rw [hchars]; rfl⟩

theorem partSql_silent (part : String) : Silent (Ident.partSql part) := by
  refine ⟨(Punctuated.partSql (p := .none) part).closed, ?_⟩
  have hchars : unquoted .outside (Ident.partSql part).toList =
      '`' :: unquoted (.inside '`') (Ident.doubled part.toList ++ ['`']) := by
    rw [Ident.partSql, String.toList_ofList]
    rfl
  rw [hchars]
  intro h
  rcases List.mem_cons.1 h with h | h
  · exact absurd h (by decide)
  · exact absurd (mem_unquoted_doubled _ h) (by decide)

theorem quoteIdent_silent {name sql : String} (h : quoteIdent name = .ok sql) : Silent sql := by
  obtain ⟨i, -, rfl⟩ := quoteIdent_eq_ok_iff.1 h
  have hdot : Silent "." := by decide
  refine Silent.intercalate hdot fun s hs => ?_
  obtain ⟨part, -, rfl⟩ := List.mem_map.1 hs
  exact partSql_silent part

theorem quoteIdent_trails {name sql : String} (h : quoteIdent name = .ok sql) : Trails 0 sql := by
  refine ⟨(quoteIdent_silent h).declares, ?_⟩
  obtain ⟨cs, hcs⟩ := List.head?_eq_some_iff.1 (head?_quoteIdent h)
  rw [hcs]
  rfl

theorem unquoted_of_bare {cs : List Char} (h : ∀ c ∈ cs, isQuote c = false) : unquoted .outside cs = cs := by
  induction cs with
  | nil => rfl
  | cons c cs ih =>
    obtain ⟨hc, hcs⟩ := List.forall_mem_cons.1 h
    have hstep : Quoting.step .outside c = .outside := by simp [Quoting.step, hc]
    rw [unquoted, if_pos rfl, hstep, ih hcs]

theorem Trails.of_numeric {s : String} (h : s.toList.all Numeral.isNumeric = true) : Trails 0 s := by
  have hnumeric : ∀ c ∈ s.toList, Numeral.isNumeric c = true := List.all_eq_true.1 h
  have hbare : unquoted .outside s.toList = s.toList := by
    refine unquoted_of_bare fun c hc => ?_
    have hunmarked := Numeral.isUnmarked_of_isNumeric (hnumeric c hc)
    simp only [isUnmarked, Bool.and_eq_true, Bool.not_eq_true'] at hunmarked
    exact hunmarked.2
  -- the phrase has a letter, so it is not in a numeral
  have hsilent : Silent s := by
    refine ⟨(Punctuated.of_numeric (p := .none) h).closed, fun hmem => ?_⟩
    rw [hbare] at hmem
    exact absurd (hnumeric 'P' hmem) (by decide)
  refine ⟨hsilent.declares, ?_⟩
  rw [hbare]
  cases hs : s.toList with
  | nil => rfl
  | cons c cs =>
    have hc : Numeral.isNumeric c = true := hnumeric c (by rw [hs]; exact List.mem_cons_self)
    -- nor does a numeral finish a phrase that was begun in front of it
    have hphrase : keyPhrase.tail.all (fun d => !Numeral.isNumeric d) = true := by decide
    have hnot : c ∉ keyPhrase.tail := by
      intro hmem
      have := List.all_eq_true.1 hphrase c hmem
      rw [hc] at this
      exact Bool.false_ne_true this
    rw [startsApart]
    · simpa using hnot
    · rintro d r' rfl
      exact absurd hc (by decide)

/-! ## Types, defaults and keys -/

theorem memberList_trails {keyword sql : String} {members : List String} (h : memberList keyword members = .ok sql) :
    Trails 0 sql := by
  unfold memberList at h
  split_ifs at h
  rw [← Except.ok.inj h]
  refine .intercalate (by decide) fun s hs => ?_
  obtain ⟨text, -, rfl⟩ := List.mem_map.1 hs
  exact stringLiteral_trails text

theorem sized_declares {keyword : String} (h : Declares 0 keyword) (n : Nat) : Declares 0 (sized keyword n) := by
  have htext : sized keyword n = keyword ++ "(" ++ toString n ++ ")" := rfl
  have hopen : Trails 0 "(" := by decide
  have hclose : Trails 0 ")" := by decide
  rw [htext]
  exact ((h.append hopen).append (.of_numeric (Numeral.numeric_toString n))).append hclose

theorem scaled_declares {keyword : String} (h : Declares 0 keyword) (precision scale : Nat) :
    Declares 0 (scaled keyword precision scale) := by
  have htext : scaled keyword precision scale =
      keyword ++ "(" ++ toString precision ++ ", " ++ toString scale ++ ")" := rfl
  have hopen : Trails 0 "(" := by decide
  have hcomma : Trails 0 ", " := by decide
  have hclose : Trails 0 ")" := by decide
  rw [htext]
  exact ((((h.append hopen).append (.of_numeric (Numeral.numeric_toString precision))).append hcomma).append
    (.of_numeric (Numeral.numeric_toString scale))).append hclose

theorem ColumnType.sql_declares {t : ColumnType} {sql : String} (h : t.sql = .ok sql) : Declares 0 sql := by
  have hkeywords : ∀ keyword ∈ typeKeywords ++ ["ENUM", "SET"], Declares 0 keyword := by decide
  have hopen : Trails 0 "(" := by decide
  have hclose : Trails 0 ")" := by decide
  rcases sql_cases h with ⟨keyword, hkeyword, hsql⟩ | ⟨keyword, hkeyword, members, list, hlist, rfl⟩
  · have hdeclares := hkeywords keyword (List.mem_append_left _ hkeyword)
    rcases hsql with rfl | ⟨n, rfl⟩ | ⟨p, s, rfl⟩
    · exact hdeclares
    · exact sized_declares hdeclares n
    · exact scaled_declares hdeclares p s
  · have hdeclares := hkeywords keyword (List.mem_append_right _ hkeyword)
    exact ((hdeclares.append hopen).append (memberList_trails hlist)).append hclose

theorem Value.literal_declares {v : Value} {sql : String} (h : v.literal = .ok sql) : Declares 0 sql := by
  rcases literal_cases h with rfl | hnumeric | ⟨text, rfl⟩
  · decide
  · exact (Trails.of_numeric hnumeric).toDeclares
  · exact (stringLiteral_trails text).toDeclares

theorem keyName_trails {name : Option String} {sql : String} (h : keyName name = .ok sql) : Trails 0 sql := by
  cases name with
  | none =>
    rw [← Except.ok.inj h]
    decide
  | some name =>
    obtain ⟨quoted, hquoted, h⟩ := ok_of_bind h
    rw [← Except.ok.inj h]
    have hblank : Silent " " := by decide
    obtain ⟨cs, hcs⟩ := List.head?_eq_some_iff.1 (head?_quoteIdent hquoted)
    refine ⟨hblank.before (quoteIdent_trails hquoted).toDeclares, ?_⟩
    rw [String.toList_append, hcs]
    rfl

theorem quotedList_trails {context sql : String} {columns : List String} (h : quotedList context columns = .ok sql) :
    Trails 0 sql := by
  unfold quotedList at h
  split_ifs at h
  obtain ⟨names, hnames, h⟩ := ok_of_bind h
  rw [← Except.ok.inj h]
  exact .intercalate (by decide) (forall_mem_of_forall₂ (ok_of_mapM hnames) fun _ _ hname => quoteIdent_trails hname)

/-! ## Definitions -/

namespace Column

/-- The primary keys that a default declares which is written as it is. -/
def verbatimKeys (c : Column) : Nat :=
  match c.default with
  | some (.verbatim text) => primaryKeysIn text
  | _ => 0

/-- A default that is written as it is ends outside quoted text. -/
def VerbatimClosed (c : Column) : Prop :=
  ∀ text, c.default = some (.verbatim text) → Closed text

theorem modifier_trails {n : Nat} {text : String} (h : Trails n text) (present : Bool) :
    Trails (if present then n else 0) (modifier present text) := by
  cases present
  · exact .empty
  · exact h

theorem defaultSql_trails {c : Column} {sql : String} (hverbatim : c.VerbatimClosed) (h : c.defaultSql = .ok sql) :
    Trails c.verbatimKeys sql := by
  unfold defaultSql at h
  unfold verbatimKeys
  cases hdefault : c.default with
  | none =>
    rw [hdefault] at h
    rw [← Except.ok.inj h]
    split_ifs <;> decide
  | some d =>
    rw [hdefault] at h
    obtain ⟨text, htext, h⟩ := ok_of_bind h
    rw [← Except.ok.inj h]
    refine .of_silent (by decide) (by decide) (by decide) ?_
    cases d with
    | literal v => exact Value.literal_declares htext
    | verbatim sql =>
      obtain rfl : sql = text := Except.ok.inj htext
      exact ⟨hverbatim sql hdefault, rfl⟩

theorem comment_trails {keyword : String} (h : Trails 0 keyword) (comment : Option String) :
    Trails 0 ((comment.map fun text => keyword ++ stringLiteral text).getD "") := by
  cases comment with
  | none =>
    exact .empty
  | some text => exact h.append (stringLiteral_trails text)

/-- A column declares its primary key, and what its default says. -/
theorem sql_declares {c : Column} {sql : String} (hverbatim : c.VerbatimClosed) (h : c.sql = .ok sql) :
    Declares (c.verbatimKeys + if c.primary then 1 else 0) sql := by
  obtain ⟨name, hname, h⟩ := ok_of_bind h
  obtain ⟨type, htype, h⟩ := ok_of_bind h
  obtain ⟨default, hdefault, h⟩ := ok_of_bind h
  have hblank : Silent " " := by decide
  have hunsigned : Trails 0 " UNSIGNED" := by decide
  have hnotNull : Trails 0 " NOT NULL" := by decide
  have hautoIncrement : Trails 0 " AUTO_INCREMENT" := by decide
  have hprimary : Trails 1 " PRIMARY KEY" := by decide
  have hunique : Trails 0 " UNIQUE" := by decide
  have hkeyword : Trails 0 " COMMENT " := by decide
  have htyped : Declares 0 (name ++ " " ++ type) :=
    ((quoteIdent_silent hname).append hblank).before (ColumnType.sql_declares htype)
  have hdefaulted := ((htyped.append (modifier_trails hunsigned c.unsigned)).append
    (modifier_trails hnotNull (!c.nullable))).append (defaultSql_trails hverbatim hdefault)
  have hwhole := (((hdefaulted.append (modifier_trails hautoIncrement c.autoIncrement)).append
    (modifier_trails hprimary c.primary)).append (modifier_trails hunique c.unique)).append
    (comment_trails hkeyword c.comment)
  rw [← Except.ok.inj h]
  simpa only [ite_self, Nat.zero_add, Nat.add_zero] using hwhole

end Column

theorem Key.sql_declares {k : Key} {n : Nat} {keyword sql : String} (hkeyword : Declares n keyword)
    (h : k.sql keyword = .ok sql) : Declares n sql := by
  obtain ⟨name, hname, h⟩ := ok_of_bind h
  obtain ⟨columns, hcolumns, h⟩ := ok_of_bind h
  have hopen : Trails 0 " (" := by decide
  have hclose : Trails 0 ")" := by decide
  rw [← Except.ok.inj h]
  exact (((hkeyword.append (keyName_trails hname)).append hopen).append (quotedList_trails hcolumns)).append hclose

theorem actionSql_trails {keywords : String} (h : ∀ a : ReferenceAction, Trails 0 (keywords ++ a.sql))
    (action : Option ReferenceAction) : Trails 0 (actionSql keywords action) := by
  cases action with
  | none =>
    exact .empty
  | some a => exact h a

theorem ForeignKey.sql_declares {k : ForeignKey} {sql : String} (h : k.sql = .ok sql) : Declares 0 sql := by
  unfold ForeignKey.sql at h
  split_ifs at h
  · nomatch h
  obtain ⟨name, hname, h⟩ := ok_of_bind h
  obtain ⟨columns, hcolumns, h⟩ := ok_of_bind h
  obtain ⟨table, htable, h⟩ := ok_of_bind h
  obtain ⟨references, hreferences, h⟩ := ok_of_bind h
  have hkeyword : Declares 0 "FOREIGN KEY" := by decide
  have hopen : Trails 0 " (" := by decide
  have hreferencesKeyword : Trails 0 ") REFERENCES " := by decide
  have hclose : Trails 0 ")" := by decide
  have hupdate (a : ReferenceAction) : Trails 0 (" ON UPDATE " ++ a.sql) := by cases a <;> decide
  have hdelete (a : ReferenceAction) : Trails 0 (" ON DELETE " ++ a.sql) := by cases a <;> decide
  have hcolumnList := ((hkeyword.append (keyName_trails hname)).append hopen).append (quotedList_trails hcolumns)
  have hreferred := (((hcolumnList.append hreferencesKeyword).append (quoteIdent_trails htable)).append hopen).append
    (quotedList_trails hreferences)
  rw [← Except.ok.inj h]
  exact ((hreferred.append hclose).append (actionSql_trails hupdate _)).append (actionSql_trails hdelete _)

namespace TableDefinition

/-- How many primary keys an item is given. -/
def Item.primaryKeys : Item → Nat
  | .column c => c.verbatimKeys + if c.primary then 1 else 0
  | .primary _ => 1
  | _ => 0

/-- The default of a column that is written as it is ends outside quoted text. -/
def Item.VerbatimClosed : Item → Prop
  | .column c => c.VerbatimClosed
  | _ => True

theorem indexDefinition_declares {c : Column} {sql : String} (h : indexDefinition c = .ok sql) : Declares 0 sql := by
  obtain ⟨name, hname, h⟩ := ok_of_bind h
  have hkeyword : Declares 0 "INDEX (" := by decide
  have hclose : Trails 0 ")" := by decide
  rw [← Except.ok.inj h]
  exact (hkeyword.append (quoteIdent_trails hname)).append hclose

theorem referenceDefinition_declares {c : Column} {target sql : String} (h : referenceDefinition c target = .ok sql) :
    Declares 0 sql := by
  unfold referenceDefinition at h
  cases hcut : cutLastDot target.toList with
  | none =>
    rw [hcut] at h
    cases h
  | some cut =>
    rw [hcut] at h
    exact ForeignKey.sql_declares h

/-- The definition of an item declares the primary keys that it is given, and no others. -/
theorem Item.sql_declares {i : Item} {definition : String} (hverbatim : i.VerbatimClosed)
    (h : i.sql = .ok definition) : Declares i.primaryKeys definition := by
  have hprimary : Declares 1 "PRIMARY KEY" := by decide
  have hunique : Declares 0 "UNIQUE KEY" := by decide
  have hindex : Declares 0 "INDEX" := by decide
  cases i with
  | column c => exact Column.sql_declares hverbatim h
  | primary k => exact Key.sql_declares hprimary h
  | unique k => exact Key.sql_declares hunique h
  | indexed c => exact indexDefinition_declares h
  | index k => exact Key.sql_declares hindex h
  | reference c target => exact referenceDefinition_declares h
  | foreign k => exact ForeignKey.sql_declares h

/-- Definitions with commas between them declare as many primary keys as they do one by one. -/
theorem declares_intercalate {is : List Item} {ds : List String}
    (h : List.Forall₂ (fun (i : Item) d => Declares i.primaryKeys d) is ds) :
    Declares (is.map Item.primaryKeys).sum (", ".intercalate ds) := by
  have hcomma : Silent ", " := by decide
  induction h with
  | nil => exact Trails.empty.toDeclares
  | @cons i d is ds hd hds ih =>
    cases hds with
    | nil => simpa using hd
    | cons he hes =>
      rw [String.intercalate_cons_cons, String.append_assoc, List.map_cons, List.sum_cons]
      exact hd.append (.of_silent hcomma (by decide) (by decide) ih)

theorem sum_columns (cs : List Column) : (cs.map fun c => c.verbatimKeys + if c.primary then 1 else 0).sum =
    cs.countP (·.primary) + (cs.map Column.verbatimKeys).sum := by
  induction cs with
  | nil => rfl
  | cons c cs ih =>
    rw [List.map_cons, List.sum_cons, ih, List.countP_cons, List.map_cons, List.sum_cons]
    omega

/-- Of the items of a table, the primary columns and a composite key are given a primary key. -/
theorem sum_primaryKeys (t : TableDefinition) : (t.items.map Item.primaryKeys).sum =
    t.columns.countP (·.primary) + (if t.primary.isSome then 1 else 0) + (t.columns.map Column.verbatimKeys).sum := by
  have hnone {is : List Item} (h : ∀ i ∈ is, i.primaryKeys = 0) : (is.map Item.primaryKeys).sum = 0 :=
    List.sum_eq_zero (List.forall_mem_map.2 h)
  -- unique keys, indexes and foreign keys declare no primary key
  have hothers {α : Type} {f : α → Item} (h : ∀ x, (f x).primaryKeys = 0) (xs : List α) :
      ((xs.map f).map Item.primaryKeys).sum = 0 :=
    hnone (List.forall_mem_map.2 fun x _ => h x)
  have hcolumns : ((t.columns.map Item.column).map Item.primaryKeys).sum =
      t.columns.countP (·.primary) + (t.columns.map Column.verbatimKeys).sum := by
    rw [List.map_map]
    exact sum_columns t.columns
  have hprimary : ((t.primary.toList.map Item.primary).map Item.primaryKeys).sum =
      if t.primary.isSome then 1 else 0 := by
    cases t.primary <;> rfl
  have hreferences :
      ((t.columns.filterMap fun c => c.references.map (Item.reference c)).map Item.primaryKeys).sum = 0 := by
    refine hnone fun i hi => ?_
    obtain ⟨c, -, hc⟩ := List.mem_filterMap.1 hi
    obtain ⟨target, -, rfl⟩ := Option.map_eq_some_iff.1 hc
    rfl
  simp only [items, List.map_append, List.sum_append, hcolumns, hprimary, hreferences,
    hothers (f := Item.unique) fun _ => rfl, hothers (f := Item.indexed) fun _ => rfl,
    hothers (f := Item.index) fun _ => rfl, hothers (f := Item.foreign) fun _ => rfl]
  omega

/-- A statement declares the primary keys that its items are given, and no others. -/
theorem build_declares {t : TableDefinition} (hverbatim : ∀ c ∈ t.columns, c.VerbatimClosed) {sql : String}
    (h : t.build = .ok sql) : Declares (t.items.map Item.primaryKeys).sum sql := by
  obtain ⟨-, ds, name, hds, hname, rfl⟩ := ok_of_build h
  have hitems : ∀ i ∈ t.items, i.VerbatimClosed := by
    intro i hi
    cases i with
    | column c => exact hverbatim c (by simpa [items] using hi)
    | _ => trivial
  have hdefinitions : List.Forall₂ (fun (i : Item) d => Declares i.primaryKeys d) t.items ds :=
    ((List.forall₂_and_left _ _).2 ⟨hitems, definitions_items hds⟩).imp fun i d hi => Item.sql_declares hi.1 hi.2
  have hcreate : Silent "CREATE TABLE IF NOT EXISTS " := by decide
  have hblank : Silent " " := by decide
  have hopen : Silent "(" := by decide
  have hclose : Trails 0 ")" := by decide
  have hengine : Trails 0 (" ENGINE=" ++ t.engine.sql) := by
    cases t.engine <;> decide
  have hcomment : Trails 0 ((t.comment.map fun text => ", COMMENT=" ++ stringLiteral text).getD "") :=
    Column.comment_trails (by decide) t.comment
  have hfront : Silent ("CREATE TABLE IF NOT EXISTS " ++ name ++ " ") :=
    (hcreate.append (quoteIdent_silent hname)).append hblank
  have hbody := (hopen.before (declares_intercalate hdefinitions)).append hclose
  exact (hfront.before hbody).append (hengine.append hcomment)

/-- A composite key excludes primary columns. -/
theorem primary_of_build {t : TableDefinition} {sql : String} (h : t.build = .ok sql) :
    t.primary.isSome = true → t.columns.countP (·.primary) = 0 := by
  intro hprimary
  by_contra hcount
  obtain ⟨c, hc, hcprimary⟩ := List.countP_pos_iff.1 (Nat.pos_of_ne_zero hcount)
  have hboth : (t.primary.isSome && t.columns.any (·.primary)) = true := by
    rw [hprimary, List.any_eq_true.2 ⟨c, hc, hcprimary⟩]
    rfl
  unfold build at h
  dsimp only at h
  rw [if_pos hboth] at h
  split_ifs at h
  · nomatch h
  · nomatch h

/-! ## Definitions built step by step -/

/-- One step of building a table definition. -/
inductive Call where
  | column (c : Column)
  | primaryKey (k : Key)
  | uniqueKey (k : Key)
  | index (k : Key)
  | foreignKey (k : ForeignKey)
  | engine (e : Engine)
  | comment (text : String)

/-- A table definition after one step. -/
def call (t : TableDefinition) : Call → TableDefinition
  | .column c => t.addColumn c
  | .primaryKey k => t.setPrimaryKey k
  | .uniqueKey k => t.addUniqueKey k
  | .index k => t.addIndex k
  | .foreignKey k => t.addForeignKey k
  | .engine e => { t with engine := e }
  | .comment text => { t with comment := some text }

/-- A table definition after all steps. -/
def run (t : TableDefinition) (calls : List Call) : TableDefinition :=
  calls.foldl call t

/-- The column that a step adds. -/
def Call.column? : Call → Option Column
  | .column c => some c
  | _ => none

/-- A step adds a primary column. -/
def Call.isPrimaryColumn : Call → Bool
  | .column c => c.primary
  | _ => false

/-- A step gives the table a composite primary key. -/
def Call.isPrimaryKey : Call → Bool
  | .primaryKey _ => true
  | _ => false

theorem countP_column? (calls : List Call) :
    (calls.filterMap Call.column?).countP (·.primary) = calls.countP Call.isPrimaryColumn := by
  rw [List.countP_filterMap]
  refine List.countP_congr fun c _ => ?_
  cases c <;> simp [Call.column?, Call.isPrimaryColumn]

theorem columns_call (t : TableDefinition) (c : Call) : (t.call c).columns = t.columns ++ c.column?.toList := by
  cases c <;> simp [call, Call.column?, addColumn, setPrimaryKey, addUniqueKey, addIndex, addForeignKey]

theorem isSome_primary_call (t : TableDefinition) (c : Call) :
    (t.call c).primary.isSome = (t.primary.isSome || c.isPrimaryKey) := by
  cases c <;> simp [call, Call.isPrimaryKey, addColumn, setPrimaryKey, addUniqueKey, addIndex, addForeignKey]

/-- The columns are those that were added, in their order. -/
theorem columns_run (t : TableDefinition) (calls : List Call) :
    (t.run calls).columns = t.columns ++ calls.filterMap Call.column? := by
  induction calls generalizing t with
  | nil => simp [run]
  | cons c calls ih =>
    show ((t.call c).run calls).columns = _
    rw [ih, columns_call, List.append_assoc]
    cases hc : c.column? <;> simp [hc]

theorem isSome_primary_run (t : TableDefinition) (calls : List Call) :
    (t.run calls).primary.isSome = (t.primary.isSome || calls.any Call.isPrimaryKey) := by
  induction calls generalizing t with
  | nil => simp [run]
  | cons c calls ih =>
    show ((t.call c).run calls).primary.isSome = _
    rw [ih, isSome_primary_call, Bool.or_assoc, List.any_cons]

/-- A finished table definition, however it was built: outside quoted text it declares one primary key for each primary
column, one for a composite key, and those of the defaults that are written as they are; and not both a column and a
composite one. Without such defaults it declares at most one key exactly if at most one primary column was added. -/
theorem build_primaryKeys (name : String) (calls : List Call)
    (hverbatim : ∀ c ∈ calls.filterMap Call.column?, ∀ text, c.default = some (.verbatim text) → Closed text)
    {sql : String} (h : (({ name } : TableDefinition).run calls).build = .ok sql) :
    primaryKeysIn sql = calls.countP Call.isPrimaryColumn + (if calls.any Call.isPrimaryKey then 1 else 0) +
        ((calls.filterMap Call.column?).map Column.verbatimKeys).sum ∧
      (calls.any Call.isPrimaryKey = true → calls.countP Call.isPrimaryColumn = 0) ∧
      ((∀ c ∈ calls.filterMap Call.column?, c.verbatimKeys = 0) →
        (primaryKeysIn sql ≤ 1 ↔ calls.countP Call.isPrimaryColumn ≤ 1)) := by
  have hcolumns : (({ name } : TableDefinition).run calls).columns = calls.filterMap Call.column? :=
    columns_run _ calls
  have hsome : (({ name } : TableDefinition).run calls).primary.isSome = calls.any Call.isPrimaryKey :=
    isSome_primary_run _ calls
  have hkeys := (build_declares (by rwa [hcolumns]) h).keys
  have hapart := primary_of_build h
  rw [sum_primaryKeys, hcolumns, countP_column?, hsome] at hkeys
  rw [hcolumns, countP_column?, hsome] at hapart
  refine ⟨hkeys, hapart, fun hnone => ?_⟩
  have hsum : ((calls.filterMap Call.column?).map Column.verbatimKeys).sum = 0 :=
    List.sum_eq_zero (List.forall_mem_map.2 hnone)
  rw [hkeys, hsum]
  -- behind a key of the whole type the guard lets no column be primary
  by_cases hany : calls.any Call.isPrimaryKey = true
  · rw [if_pos hany, hapart hany]
    omega
  · rw [if_neg hany]
    omega

/-- A table with a primary column, and the keywords in the comment of another one. -/
def accountCalls : List Call := [
  .column { name := "id", type := .int 11, primary := true },
  .column { name := "at", type := .date, default := some (.verbatim "NOW()"), comment := some "PRIMARY KEY" }]

theorem build_primaryKeys_account :
    (∀ c ∈ accountCalls.filterMap Call.column?, ∀ text, c.default = some (.verbatim text) → Closed text) ∧
      ∃ sql, (({ name := "t" } : TableDefinition).run accountCalls).build = .ok sql ∧ primaryKeysIn sql = 1 := by
  have hverbatim : ∀ c ∈ accountCalls.filterMap Call.column?, ∀ text, c.default = some (.verbatim text) →
      Closed text := by
    intro c hc text htext
    obtain rfl | rfl : c = _ ∨ c = _ := by simpa [accountCalls, Call.column?] using hc
    · nomatch htext
    · obtain rfl : "NOW()" = text := by simpa using htext
      decide
  have hbuild : (({ name := "t" } : TableDefinition).run accountCalls).build = .ok
      ("CREATE TABLE IF NOT EXISTS `t` (`id` INT(11) NOT NULL PRIMARY KEY, " ++
        "`at` DATE NOT NULL DEFAULT NOW() COMMENT 'PRIMARY KEY') ENGINE=INNODB") := by
    cbv
  obtain ⟨hkeys, -⟩ := build_primaryKeys "t" accountCalls hverbatim hbuild
  refine ⟨hverbatim, _, hbuild, hkeys.trans ?_⟩
  decide

/-- A table with two primary columns. -/
def twoPrimaryCalls : List Call := [
  .column { name := "a", type := .int 11, primary := true },
  .column { name := "b", type := .int 11, primary := true }]

/-- Two primary columns are not refused, and the statement declares both keys. -/
theorem build_twoPrimaryColumns :
    ¬ ∀ (name : String) (calls : List Call) (sql : String),
      (({ name } : TableDefinition).run calls).build = .ok sql → primaryKeysIn sql ≤ 1 := by
  intro h
  have hverbatim : ∀ c ∈ (({ name := "t" } : TableDefinition).run twoPrimaryCalls).columns, c.VerbatimClosed := by
    intro c hc text htext
    obtain rfl | rfl : c = _ ∨ c = _ := by simpa [twoPrimaryCalls, run, call, addColumn] using hc
    · nomatch htext
    · nomatch htext
  have hbuild : (({ name := "t" } : TableDefinition).run twoPrimaryCalls).build = .ok
      ("CREATE TABLE IF NOT EXISTS `t` (`a` INT(11) NOT NULL PRIMARY KEY, " ++
        "`b` INT(11) NOT NULL PRIMARY KEY) ENGINE=INNODB") := by
    cbv
  have hle := h "t" twoPrimaryCalls _ hbuild
  rw [(build_declares hverbatim hbuild).keys] at hle
  exact absurd hle (by decide)

end TableDefinition
end FluentSql
