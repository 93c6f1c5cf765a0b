import FluentSql.Proofs.Identifiers
import FluentSql.Proofs.Outcomes
import FluentSql.Proofs.Punctuation
import FluentSql.Schema.Table
import Mathlib

/-!
# FluentSql.Proofs.TableLayout — a table definition reads as what it was put together from

* `Numeral.numeric_…`: what numbers consist of; they have neither punctuation nor quotes.
* `Value.literal_punctuated`, `Column.sql_punctuated`, `Key.sql_punctuated`, `ForeignKey.sql_punctuated`: no text of a
  caller gets out of its quotes.
* `TableDefinition.items`: the columns and keys that have a definition, in the order in which they are written.
* `TableDefinition.definitionsIn`: cuts a text at its commas.
* `TableDefinition.build_layout`: cutting the body of a finished statement gives the definition of each item.
-/

namespace FluentSql

open Template

/-! ## Numbers -/

namespace Numeral

/-- A character of a number, or of the texts of doubles that are none. -/
def isNumeric (c : Char) : Bool :=
  c.isDigit || "-.Nafin".toList.contains c

theorem isNumeric_of_isDigit {c : Char} (h : c.isDigit = true) : isNumeric c = true := by
  rw [isNumeric, h, Bool.true_or]

theorem isUnmarked_of_isNumeric {c : Char} (h : isNumeric c = true) : isUnmarked c = true := by
  by_contra hc
  have hcases : c = '(' ∨ c = ')' ∨ c = ',' ∨ c = '"' ∨ c = '\'' ∨ c = '`' := by
    simp only [isUnmarked, punctuationMarks, isQuote] at hc
    simp at hc
    tauto
  rcases hcases with rfl | rfl | rfl | rfl | rfl | rfl
  all_goals exact absurd h (by decide)

theorem numeric_toDigits (n : Nat) : (Nat.toDigits 10 n).all isNumeric = true :=
  List.all_eq_true.2 fun _ hc =>
    isNumeric_of_isDigit (Nat.isDigit_of_mem_toDigits (by decide) (by decide) hc)

theorem numeric_toString (n : Nat) : (toString n).toList.all isNumeric = true := by
  simpa [Nat.toString_eq_ofList_toDigits] using numeric_toDigits n

theorem numeric_toString_int (n : Int) : (toString n).toList.all isNumeric = true := by
  cases n with
  | ofNat m => exact numeric_toString m
  | negSucc m =>
    show ("-" ++ toString (m + 1)).toList.all isNumeric = true
    rw [String.toList_append, List.all_append, numeric_toString]
    decide

theorem numeric_take {cs : List Char} (h : cs.all isNumeric = true) (n : Nat) :
    (cs.take n).all isNumeric = true :=
  List.all_eq_true.2 fun c hc => List.all_eq_true.1 h c (List.mem_of_mem_take hc)

theorem numeric_drop {cs : List Char} (h : cs.all isNumeric = true) (n : Nat) :
    (cs.drop n).all isNumeric = true :=
  List.all_eq_true.2 fun c hc => List.all_eq_true.1 h c (List.mem_of_mem_drop hc)

theorem numeric_zeros (n : Nat) : (List.replicate n '0').all isNumeric = true := by
  rw [List.all_replicate]
  split_ifs
  · rfl
  · decide

theorem numeric_positional (d : Decimal10) : (d.positional false).toList.all isNumeric = true := by
  have hdigits := numeric_toDigits d.digits
  have hzero : isNumeric '0' = true := by decide
  have hpoint : isNumeric '.' = true := by decide
  unfold Decimal10.positional
  simp only [String.toList_ofList, Bool.false_eq_true, if_false, List.append_nil]
  split_ifs
  · rw [List.all_append, hdigits, numeric_zeros]
    rfl
  · rw [List.all_append, List.all_cons, hpoint, numeric_take hdigits, numeric_drop hdigits]
    rfl
  · rw [List.all_cons, List.all_cons, List.all_append, hzero, hpoint, hdigits, numeric_zeros]
    rfl

/-- A double in a table definition, also if it is no number. -/
theorem numeric_literalFloat (x : Binary64) : (literalFloat.write x).toList.all isNumeric = true := by
  have hlayOut (d : Decimal10) : (literalFloat.layOut d).toList.all isNumeric = true := numeric_positional d
  have hmagnitude : (if x.isInfinite then "inf" else if x.isZero then literalFloat.layOut ⟨0, 0⟩
      else literalFloat.layOut (shortest literalFloat.tie x)).toList.all isNumeric = true := by
    split_ifs
    · decide
    · exact hlayOut _
    · exact hlayOut _
  unfold FloatStyle.write
  dsimp only
  split_ifs at hmagnitude ⊢
  all_goals first
    | decide
    | exact hmagnitude
    | rw [String.toList_append, List.all_append, hmagnitude]; decide

theorem numeric_decimal (d : FixedDecimal) : d.text.toList.all isNumeric = true := by
  let ds := (Nat.toDigits 10 d.mantissa.natAbs).leftpad (d.scale + 1) '0'
  have hdigits : ds.all isNumeric = true := by
    show (List.replicate _ '0' ++ Nat.toDigits 10 d.mantissa.natAbs).all isNumeric = true
    rw [List.all_append, numeric_zeros, numeric_toDigits]
    rfl
  have hpoint : isNumeric '.' = true := by decide
  have hsign : (if d.mantissa < 0 then "-" else "").toList.all isNumeric = true := by
    split_ifs <;> decide
  unfold FixedDecimal.text
  dsimp only
  rw [String.toList_append, List.all_append, hsign, String.toList_ofList]
  split_ifs
  · exact numeric_take hdigits _
  · rw [List.all_append, List.all_cons, hpoint, numeric_take hdigits, numeric_drop hdigits]
    rfl

end Numeral

/-- Numbers have neither punctuation nor quotes. -/
theorem Punctuated.of_numeric {p : Punctuation} {s : String} (h : s.toList.all Numeral.isNumeric = true) :
    Punctuated p s :=
  .of_unmarked (List.all_eq_true.2 fun c hc => Numeral.isUnmarked_of_isNumeric (List.all_eq_true.1 h c hc))

/-! ## Literals and types -/

/-- The literal of a value is NULL, a number or a string literal. -/
theorem Value.literal_cases {v : Value} {sql : String} (h : v.literal = .ok sql) :
    sql = "NULL" ∨ sql.toList.all Numeral.isNumeric = true ∨ ∃ text, sql = stringLiteral text := by
  cases v with
  | bytes bs => nomatch h
  | null => exact .inl (Except.ok.inj h).symm
  | bool b =>
    rw [← Except.ok.inj h]
    cases b <;> exact .inr (.inl (by decide))
  | int n =>
    rw [← Except.ok.inj h]
    exact .inr (.inl (Numeral.numeric_toString_int _))
  | uint n =>
    rw [← Except.ok.inj h]
    exact .inr (.inl (Numeral.numeric_toString _))
  | float x =>
    rw [← Except.ok.inj h]
    exact .inr (.inl (Numeral.numeric_literalFloat x))
  | decimal d =>
    rw [← Except.ok.inj h]
    exact .inr (.inl (Numeral.numeric_decimal d))
  | text _ | date _ | time _ | dateTime _ _ | timestamp _ | uuid _ | json _ =>
    exact .inr (.inr ⟨_, (Except.ok.inj h).symm⟩)

theorem Value.literal_punctuated {p : Punctuation} {v : Value} {sql : String} (h : v.literal = .ok sql) :
    Punctuated p sql := by
  rcases literal_cases h with rfl | hnumeric | ⟨text, rfl⟩
  · exact .of_unmarked (by decide)
  · exact .of_numeric hnumeric
  · exact .stringLiteral text

/-- Parentheses behind a text. -/
theorem Punctuated.call (before : String) {inner : String} (h : Punctuated .parentheses before)
    (hinner : Punctuated .commas inner) : Punctuated .parentheses (before ++ "(" ++ inner ++ ")") := by
  have htext : before ++ "(" ++ inner ++ ")" = before ++ ("(" ++ inner ++ ")") := by
    simp only [String.append_assoc]
  rw [htext]
  exact h.append (.parenthesized (by decide) hinner)

theorem sized_punctuated {keyword : String} (h : keyword.toList.all isUnmarked = true) (n : Nat) :
    Punctuated .parentheses (sized keyword n) := by
  have hnumber : Punctuated .commas (toString n) := .of_numeric (Numeral.numeric_toString n)
  have htext : sized keyword n = keyword ++ "(" ++ toString n ++ ")" := rfl
  rw [htext]
  exact .call keyword (.of_unmarked h) hnumber

theorem scaled_punctuated {keyword : String} (h : keyword.toList.all isUnmarked = true) (precision scale : Nat) :
    Punctuated .parentheses (scaled keyword precision scale) := by
  have hprecision : Punctuated .commas (toString precision) := .of_numeric (Numeral.numeric_toString precision)
  have hscale : Punctuated .commas (toString scale) := .of_numeric (Numeral.numeric_toString scale)
  have htext : scaled keyword precision scale =
      keyword ++ "(" ++ (toString precision ++ ", " ++ toString scale) ++ ")" :=
    String.toList_inj.1 (by simp [scaled, toString])
  rw [htext]
  exact .call keyword (.of_unmarked h) ((hprecision.append .comma).append hscale)

theorem memberList_punctuated {keyword sql : String} {members : List String}
    (h : memberList keyword members = .ok sql) : Punctuated .commas sql := by
  unfold memberList at h
  split_ifs at h
  rw [← Except.ok.inj h]
  refine .intercalate .comma fun s hs => ?_
  obtain ⟨text, -, rfl⟩ := List.mem_map.1 hs
  exact .stringLiteral text

/-- The keywords of types without members. -/
def typeKeywords : List String :=
  ["TINYINT", "SMALLINT", "MEDIUMINT", "INT", "BIGINT", "CHAR", "VARCHAR", "BINARY", "VARBINARY", "BIT", "TINYTEXT",
    "TEXT", "MEDIUMTEXT", "LONGTEXT", "TINYBLOB", "BLOB", "MEDIUMBLOB", "LONGBLOB", "DATE", "DATETIME", "TIME",
    "TIMESTAMP", "YEAR", "DOUBLE", "DECIMAL", "FLOAT", "JSON"]

/-- The text of a type is a keyword with up to two parameters, or one with members. -/
theorem ColumnType.sql_cases {t : ColumnType} {sql : String} (h : t.sql = .ok sql) :
    (∃ keyword ∈ typeKeywords, sql = keyword ∨ (∃ n, sql = sized keyword n) ∨ ∃ p s, sql = scaled keyword p s) ∨
      ∃ keyword ∈ ["ENUM", "SET"], ∃ members list, memberList keyword members = .ok list ∧
        sql = keyword ++ "(" ++ list ++ ")" := by
  cases t with
  | tinyInt n | smallInt n | mediumInt n | int n | bigInt n | char n | varchar n | binary n | varbinary n | bit n =>
    exact .inl ⟨_, by decide, .inr (.inl ⟨n, (Except.ok.inj h).symm⟩)⟩
  | double p s | decimal p s => exact .inl ⟨_, by decide, .inr (.inr ⟨p, s, (Except.ok.inj h).symm⟩)⟩
  | float p s =>
    cases s with
    | none => exact .inl ⟨"FLOAT", by decide, .inr (.inl ⟨p, (Except.ok.inj h).symm⟩)⟩
    | some s => exact .inl ⟨"FLOAT", by decide, .inr (.inr ⟨p, s, (Except.ok.inj h).symm⟩)⟩
  | enum members =>
    obtain ⟨list, hlist, h⟩ := ok_of_bind h
    exact .inr ⟨"ENUM", by decide, members, list, hlist, (Except.ok.inj h).symm⟩
  | set members =>
    obtain ⟨list, hlist, h⟩ := ok_of_bind h
    exact .inr ⟨"SET", by decide, members, list, hlist, (Except.ok.inj h).symm⟩
  | _ => exact .inl ⟨_, by decide, .inl (Except.ok.inj h).symm⟩

theorem ColumnType.sql_punctuated {t : ColumnType} {sql : String} (h : t.sql = .ok sql) :
    Punctuated .parentheses sql := by
  have hkeywords : ∀ keyword ∈ typeKeywords ++ ["ENUM", "SET"], keyword.toList.all isUnmarked = true := by decide
  rcases sql_cases h with ⟨keyword, hkeyword, hsql⟩ | ⟨keyword, hkeyword, members, list, hlist, rfl⟩
  · have hunmarked := hkeywords keyword (List.mem_append_left _ hkeyword)
    rcases hsql with rfl | ⟨n, rfl⟩ | ⟨p, s, rfl⟩
    · exact .of_unmarked hunmarked
    · exact sized_punctuated hunmarked n
    · exact scaled_punctuated hunmarked p s
  · have hunmarked := hkeywords keyword (List.mem_append_right _ hkeyword)
    exact .call keyword (.of_unmarked hunmarked) (memberList_punctuated hlist)

/-! ## Names and keys -/

/-- A quoted name starts with a back-tick. -/
theorem head?_quoteIdent {name sql : String} (h : quoteIdent name = .ok sql) : sql.toList.head? = some '`' := by
  obtain ⟨i, hi, rfl⟩ := quoteIdent_eq_ok_iff.1 h
  obtain ⟨hparts, -, -⟩ := Ident.Obtained.parts (.inl ⟨name, hi⟩)
  rw [Ident.sql_toList]
  cases hcases : i.parts with
  | nil => exact absurd hcases hparts
  | cons part parts => cases parts <;> simp [List.intercalate]

theorem keyName_punctuated {name : Option String} {sql : String} (h : keyName name = .ok sql) :
    Punctuated .parentheses sql := by
  cases name with
  | none =>
    rw [← Except.ok.inj h]
    exact .empty
  | some name =>
    obtain ⟨quoted, hquoted, h⟩ := ok_of_bind h
    rw [← Except.ok.inj h]
    exact .append (.of_unmarked (by decide)) (.quoteIdent hquoted)

theorem quotedList_punctuated {context sql : String} {columns : List String}
    (h : quotedList context columns = .ok sql) : Punctuated .commas sql := by
  unfold quotedList at h
  split_ifs at h
  obtain ⟨names, hnames, h⟩ := ok_of_bind h
  rw [← Except.ok.inj h]
  exact .intercalate .comma (forall_mem_of_forall₂ (ok_of_mapM hnames) fun _ _ hname => .quoteIdent hname)

/-! ## Definitions -/

theorem Column.modifier_punctuated {text : String} (h : text.toList.all isUnmarked = true) (present : Bool) :
    Punctuated .parentheses (modifier present text) := by
  cases present
  · exact .empty
  · exact .of_unmarked h

theorem Column.defaultSql_punctuated {c : Column} {sql : String} (hdefault : ∀ text, c.default ≠ some (.verbatim text))
    (h : c.defaultSql = .ok sql) : Punctuated .parentheses sql := by
  unfold defaultSql at h
  split at h
  · rename_i d hd
    obtain ⟨text, htext, h⟩ := ok_of_bind h
    rw [← Except.ok.inj h]
    cases d with
    | verbatim text => exact absurd hd (hdefault text)
    | literal v => exact .append (.of_unmarked (by decide)) (Value.literal_punctuated htext)
  · rw [← Except.ok.inj h]
    split_ifs <;> exact .of_unmarked (by decide)

/-- A comment is quoted, whatever it contains. -/
theorem comment_punctuated {p : Punctuation} {keyword : String} (h : Punctuated p keyword) (comment : Option String) :
    Punctuated p ((comment.map fun text => keyword ++ stringLiteral text).getD "") := by
  cases comment with
  | none => exact .empty
  | some text => exact .append h (.stringLiteral text)

/-- The definition of a column starts with its name. -/
theorem Column.sql_punctuated {c : Column} {sql : String} (hdefault : ∀ text, c.default ≠ some (.verbatim text))
    (h : c.sql = .ok sql) :
    Punctuated .parentheses sql ∧ ∃ name, quoteIdent c.name = .ok name ∧ (name ++ " ").toList <+: sql.toList := by
  obtain ⟨name, hname, h⟩ := ok_of_bind h
  obtain ⟨type, htype, h⟩ := ok_of_bind h
  obtain ⟨default, hdefaultSql, h⟩ := ok_of_bind h
  have hcomment : Punctuated .parentheses " COMMENT " := .of_unmarked (by decide)
  have hblank : Punctuated .parentheses " " := .of_unmarked (by decide)
  have htyped : Punctuated .parentheses (name ++ " " ++ type) :=
    ((Punctuated.quoteIdent hname).append hblank).append (ColumnType.sql_punctuated htype)
  have hnull : Punctuated .parentheses
      (name ++ " " ++ type ++ modifier c.unsigned " UNSIGNED" ++ modifier (!c.nullable) " NOT NULL") :=
    (htyped.append (modifier_punctuated (by decide) _)).append (modifier_punctuated (by decide) _)
  have hkeys : Punctuated .parentheses
      (name ++ " " ++ type ++ modifier c.unsigned " UNSIGNED" ++ modifier (!c.nullable) " NOT NULL" ++ default ++
        modifier c.autoIncrement " AUTO_INCREMENT" ++ modifier c.primary " PRIMARY KEY" ++
        modifier c.unique " UNIQUE") :=
    (((hnull.append (defaultSql_punctuated hdefault hdefaultSql)).append (modifier_punctuated (by decide) _)).append
      (modifier_punctuated (by decide) _)).append (modifier_punctuated (by decide) _)
  rw [← Except.ok.inj h]
  refine ⟨hkeys.append (comment_punctuated hcomment c.comment), name, hname, ?_⟩
  simp only [String.toList_append, List.append_assoc]
  exact (List.prefix_append_right_inj _).2 (List.prefix_append _ _)

/-- The definition of a key starts with its keyword. -/
theorem Key.sql_punctuated {k : Key} {keyword sql : String} (hkeyword : keyword.toList.all isUnmarked = true)
    (h : k.sql keyword = .ok sql) : Punctuated .parentheses sql ∧ keyword.toList <+: sql.toList := by
  obtain ⟨name, hname, h⟩ := ok_of_bind h
  obtain ⟨columns, hcolumns, h⟩ := ok_of_bind h
  have hblank : Punctuated .parentheses " " := .of_unmarked (by decide)
  have hfront : Punctuated .parentheses (keyword ++ name ++ " ") :=
    ((Punctuated.of_unmarked hkeyword).append (keyName_punctuated hname)).append hblank
  have htext : keyword ++ name ++ " (" ++ columns ++ ")" = keyword ++ name ++ " " ++ "(" ++ columns ++ ")" :=
    String.toList_inj.1 (by simp)
  rw [← Except.ok.inj h, htext]
  refine ⟨.call _ hfront (quotedList_punctuated hcolumns), ?_⟩
  simp only [String.toList_append, List.append_assoc]
  exact List.prefix_append _ _

theorem actionSql_punctuated {keywords : String} (h : keywords.toList.all isUnmarked = true)
    (action : Option ReferenceAction) : Punctuated .parentheses (actionSql keywords action) := by
  cases action with
  | none => exact .empty
  | some a =>
    refine .append (.of_unmarked h) (.of_unmarked ?_)
    cases a <;> decide

/-- The definition of a foreign key starts with its keywords. -/
theorem ForeignKey.sql_punctuated {k : ForeignKey} {sql : String} (h : k.sql = .ok sql) :
    Punctuated .parentheses sql ∧ "FOREIGN KEY".toList <+: sql.toList := by
  unfold ForeignKey.sql at h
  split_ifs at h
  · nomatch h
  obtain ⟨name, hname, h⟩ := ok_of_bind h
  obtain ⟨columns, hcolumns, h⟩ := ok_of_bind h
  obtain ⟨table, htable, h⟩ := ok_of_bind h
  obtain ⟨references, hreferences, h⟩ := ok_of_bind h
  have hblank : Punctuated .parentheses " " := .of_unmarked (by decide)
  have hkeyword : Punctuated .parentheses "FOREIGN KEY" := .of_unmarked (by decide)
  have hcolumnList : Punctuated .parentheses ("FOREIGN KEY" ++ name ++ " " ++ "(" ++ columns ++ ")") :=
    .call _ ((hkeyword.append (keyName_punctuated hname)).append hblank) (quotedList_punctuated hcolumns)
  have hbehind : Punctuated .parentheses (" REFERENCES " ++ table ++ " " ++ "(" ++ references ++ ")") :=
    .call _ ((Punctuated.append (.of_unmarked (by decide)) (.quoteIdent htable)).append hblank)
      (quotedList_punctuated hreferences)
  have hactions : Punctuated .parentheses (actionSql " ON UPDATE " k.onUpdate ++ actionSql " ON DELETE " k.onDelete) :=
    .append (actionSql_punctuated (by decide) _) (actionSql_punctuated (by decide) _)
  -- the text cut into the key, what it refers to and the actions
  have htext : "FOREIGN KEY" ++ name ++ " (" ++ columns ++ ") REFERENCES " ++ table ++ " (" ++ references ++ ")" ++
      actionSql " ON UPDATE " k.onUpdate ++ actionSql " ON DELETE " k.onDelete =
      "FOREIGN KEY" ++ name ++ " " ++ "(" ++ columns ++ ")" ++
        (" REFERENCES " ++ table ++ " " ++ "(" ++ references ++ ")") ++
        (actionSql " ON UPDATE " k.onUpdate ++ actionSql " ON DELETE " k.onDelete) :=
    String.toList_inj.1 (by simp)
  rw [← Except.ok.inj h, htext]
  refine ⟨(hcolumnList.append hbehind).append hactions, ?_⟩
  simp only [String.toList_append, List.append_assoc]
  exact List.prefix_append _ _

namespace TableDefinition

/-- The definition of an index on one column starts with its keyword. -/
theorem indexDefinition_punctuated {c : Column} {sql : String} (h : indexDefinition c = .ok sql) :
    Punctuated .parentheses sql ∧ "INDEX (".toList <+: sql.toList := by
  obtain ⟨name, hname, h⟩ := ok_of_bind h
  rw [← Except.ok.inj h]
  refine ⟨.call "INDEX " (.of_unmarked (by decide)) (.quoteIdent hname), ?_⟩
  simp only [String.toList_append, List.append_assoc]
  exact List.prefix_append _ _

/-- The definition of a reference from one column starts with the keywords of a foreign key. -/
theorem referenceDefinition_punctuated {c : Column} {target sql : String} (h : referenceDefinition c target = .ok sql) :
    Punctuated .parentheses sql ∧ "FOREIGN KEY".toList <+: sql.toList := by
  unfold referenceDefinition at h
  cases hcut : cutLastDot target.toList with
  | none =>
    rw [hcut] at h
    cases h
  | some cut =>
    rw [hcut] at h
    exact ForeignKey.sql_punctuated h

/-! ## One definition for each column and key -/

/-- What a table definition has a definition for. -/
inductive Item where
  | column (c : Column)
  | primary (k : Key)
  | unique (k : Key)
  /-- A column that is indexed by itself. -/
  | indexed (c : Column)
  | index (k : Key)
  /-- A column that refers to another one by itself. -/
  | reference (c : Column) (target : String)
  | foreign (k : ForeignKey)

namespace Item

/-- The definition of an item. -/
def sql : Item → Except SqlError String
  | .column c => c.sql
  | .primary k => k.sql "PRIMARY KEY"
  | .unique k => k.sql "UNIQUE KEY"
  | .indexed c => indexDefinition c
  | .index k => k.sql "INDEX"
  | .reference c target => referenceDefinition c target
  | .foreign k => k.sql

/-- What the definition of an item starts with: the name of a column in back-ticks, or the keywords of a key. -/
def start : Item → Except SqlError String
  | .column c => do return (← quoteIdent c.name) ++ " "
  | .primary _ => .ok "PRIMARY KEY"
  | .unique _ => .ok "UNIQUE KEY"
  | .indexed _ => .ok "INDEX ("
  | .index _ => .ok "INDEX"
  | .reference _ _ => .ok "FOREIGN KEY"
  | .foreign _ => .ok "FOREIGN KEY"

/-- A text is the definition of an item, and starts like one. -/
def DefinedBy (i : Item) (definition : String) : Prop :=
  i.sql = .ok definition ∧ ∃ start, i.start = .ok start ∧ start.toList <+: definition.toList

/-- A column without a default that is written as it is. -/
def IsPlain : Item → Prop
  | .column c => ∀ text, c.default ≠ some (.verbatim text)
  | _ => True

theorem sql_punctuated {i : Item} {definition : String} (hplain : i.IsPlain) (h : i.sql = .ok definition) :
    Punctuated .parentheses definition ∧ i.DefinedBy definition := by
  cases i with
  | column c =>
    obtain ⟨hpunctuated, name, hname, hstart⟩ := Column.sql_punctuated hplain h
    refine ⟨hpunctuated, h, name ++ " ", ?_, hstart⟩
    rw [start, hname]
    rfl
  | primary k =>
    obtain ⟨hpunctuated, hstart⟩ := Key.sql_punctuated (by decide) h
    exact ⟨hpunctuated, h, _, rfl, hstart⟩
  | unique k =>
    obtain ⟨hpunctuated, hstart⟩ := Key.sql_punctuated (by decide) h
    exact ⟨hpunctuated, h, _, rfl, hstart⟩
  | indexed c =>
    obtain ⟨hpunctuated, hstart⟩ := indexDefinition_punctuated h
    exact ⟨hpunctuated, h, _, rfl, hstart⟩
  | index k =>
    obtain ⟨hpunctuated, hstart⟩ := Key.sql_punctuated (by decide) h
    exact ⟨hpunctuated, h, _, rfl, hstart⟩
  | reference c target =>
    obtain ⟨hpunctuated, hstart⟩ := referenceDefinition_punctuated h
    exact ⟨hpunctuated, h, _, rfl, hstart⟩
  | foreign k =>
    obtain ⟨hpunctuated, hstart⟩ := ForeignKey.sql_punctuated h
    exact ⟨hpunctuated, h, _, rfl, hstart⟩

/-- No definition starts with a blank. -/
theorem DefinedBy.head?_ne_blank {i : Item} {definition : String} (h : i.DefinedBy definition) :
    definition.toList.head? ≠ some ' ' := by
  obtain ⟨-, start, hstart, rest, hrest⟩ := h
  have hfirst : ∃ c, start.toList.head? = some c ∧ c ≠ ' ' := by
    cases i with
    | column c =>
      obtain ⟨name, hname, hstart⟩ := ok_of_bind hstart
      rw [← Except.ok.inj hstart, String.toList_append, List.head?_append, head?_quoteIdent hname]
      exact ⟨_, rfl, by decide⟩
    | _ =>
      rw [← Except.ok.inj hstart]
      exact ⟨_, rfl, by decide⟩
  obtain ⟨c, hc, hne⟩ := hfirst
  rw [← hrest, List.head?_append, hc]
  simpa using hne

end Item

/-- The items of a table definition, in the order in which they are written. -/
def items (t : TableDefinition) : List Item :=
  t.columns.map .column ++ t.primary.toList.map .primary ++ t.uniques.map .unique ++
    (t.columns.filter (·.index)).map .indexed ++ t.indexes.map .index ++
    (t.columns.filterMap fun c => c.references.map (Item.reference c)) ++ t.foreign.map .foreign

theorem items_plain {t : TableDefinition} (h : ∀ c ∈ t.columns, ∀ text, c.default ≠ some (.verbatim text)) :
    ∀ i ∈ t.items, i.IsPlain := by
  intro i hi
  cases i with
  | column c =>
    have hc : c ∈ t.columns := by simpa [items] using hi
    exact h c hc
  | _ => trivial

theorem length_items (t : TableDefinition) :
    t.items.length = t.columns.length + (if t.primary.isSome then 1 else 0) + t.uniques.length +
      t.columns.countP (·.index) + t.indexes.length + t.columns.countP (·.references.isSome) + t.foreign.length := by
  have hprimary : t.primary.toList.length = if t.primary.isSome then 1 else 0 := by
    cases t.primary <;> rfl
  have hreferences (cs : List Column) : (cs.filterMap fun c => c.references.map (Item.reference c)).length =
      cs.countP (·.references.isSome) := by
    rw [List.length_filterMap_eq_countP]
    simp
  simp only [items, List.length_append, List.length_map, hprimary, hreferences, List.countP_eq_length_filter]

/-- The definitions of a table are those of its items, one by one. -/
theorem definitions_eq (t : TableDefinition) : t.definitions = t.items.mapM Item.sql := by
  have hreferences : (t.columns.filterMap fun c => c.references.map (Item.reference c)) =
      (t.columns.filterMap fun c => c.references.map fun target => (c, target)).map fun p => .reference p.1 p.2 := by
    rw [List.map_filterMap]
    simp only [Option.map_map]
    rfl
  unfold definitions items
  rw [hreferences]
  simp only [List.mapM_append, List.mapM_map, bind_assoc, pure_bind]
  rfl

theorem definitions_items {t : TableDefinition} {ds : List String} (h : t.definitions = .ok ds) :
    List.Forall₂ (fun (i : Item) d => i.sql = .ok d) t.items ds :=
  ok_of_mapM (t.definitions_eq ▸ h)

/-! ## Cutting a text at its commas -/

/-- What stands between the commas of a text, without the blanks in front of it. -/
def definitionsIn (body : List Char) : List String :=
  (Enclosure.parts .outermost body).map fun part => String.ofList (part.dropWhile (· == ' '))

theorem definitionsIn_blank (cs : List Char) : definitionsIn (' ' :: cs) = definitionsIn cs := by
  have hstep : Enclosure.step .outermost ' ' = .outermost := by decide
  have hcomma : ¬(Enclosure.outermost = .outermost ∧ ' ' = ',') := by decide
  rw [definitionsIn, Enclosure.parts, if_neg hcomma, hstep, definitionsIn]
  cases hparts : Enclosure.parts .outermost cs with
  | nil => exact absurd hparts (Enclosure.parts_ne_nil _ cs)
  | cons part parts => simp [Enclosure.prepend]

theorem ofList_dropWhile {d : String} (h : d.toList.head? ≠ some ' ') :
    String.ofList (d.toList.dropWhile (· == ' ')) = d := by
  have hkept : d.toList.dropWhile (· == ' ') = d.toList := by
    cases hd : d.toList with
    | nil => rfl
    | cons c cs =>
      have hc : ¬(c == ' ') = true := by simpa [hd] using h
      exact List.dropWhile_cons_of_neg hc
  rw [hkept, String.ofList_toList]

theorem definitionsIn_last {d : String} (h : Punctuated .parentheses d) (hstart : d.toList.head? ≠ some ' ') :
    definitionsIn d.toList = [d] := by
  have hparts := PunctuatedFrom.parts_append h (le_refl 0) (fun hp => nomatch hp) []
  rw [List.append_nil] at hparts
  rw [definitionsIn, Enclosure.outermost, hparts]
  simp [Enclosure.parts, Enclosure.prepend, ofList_dropWhile hstart]

theorem definitionsIn_comma {d : String} (h : Punctuated .parentheses d) (hstart : d.toList.head? ≠ some ' ')
    (r : List Char) : definitionsIn (d.toList ++ ',' :: r) = d :: definitionsIn r := by
  have hparts := PunctuatedFrom.parts_append h (le_refl 0) (fun hp => nomatch hp) (',' :: r)
  have hcomma : Enclosure.parts ⟨.outside, 0⟩ (',' :: r) = [] :: Enclosure.parts ⟨.outside, 0⟩ r := by
    rw [Enclosure.parts, if_pos ⟨rfl, rfl⟩, PunctuatedFrom.step_comma]
  rw [definitionsIn, Enclosure.outermost, hparts, hcomma]
  simp [definitionsIn, Enclosure.outermost, Enclosure.prepend, ofList_dropWhile hstart]

/-- Definitions with commas between them are read back. -/
theorem definitionsIn_intercalate {ds : List String} (hne : ds ≠ [])
    (h : ∀ d ∈ ds, Punctuated .parentheses d ∧ d.toList.head? ≠ some ' ') :
    definitionsIn (", ".intercalate ds).toList = ds := by
  induction ds with
  | nil => exact absurd rfl hne
  | cons d ds ih =>
    obtain ⟨⟨hd, hstart⟩, hrest⟩ := List.forall_mem_cons.1 h
    cases ds with
    | nil =>
      rw [String.intercalate_singleton]
      exact definitionsIn_last hd hstart
    | cons e ds =>
      have htext : (", ".intercalate (d :: e :: ds)).toList =
          d.toList ++ ',' :: ' ' :: (", ".intercalate (e :: ds)).toList := by
        rw [String.intercalate_cons_cons, String.toList_append, String.toList_append, List.append_assoc]
        rfl
      rw [htext, definitionsIn_comma hd hstart, definitionsIn_blank, ih (List.cons_ne_nil e ds) hrest]

/-! ## The whole statement -/

/-- What a table definition is put together from, once its columns and keys are known to fit. -/
theorem ok_of_build {t : TableDefinition} {sql : String} (h : t.build = .ok sql) :
    t.columns ≠ [] ∧ ∃ ds name, t.definitions = .ok ds ∧ quoteIdent t.name = .ok name ∧
      sql = "CREATE TABLE IF NOT EXISTS " ++ name ++ " " ++ ("(" ++ ", ".intercalate ds ++ ")") ++
        (" ENGINE=" ++ t.engine.sql ++ (t.comment.map fun text => ", COMMENT=" ++ stringLiteral text).getD "") := by
  unfold build at h
  by_cases hcolumns : t.columns.isEmpty = true
  · rw [if_pos hcolumns] at h
    nomatch h
  rw [if_neg hcolumns] at h
  dsimp only at h
  split_ifs at h
  · nomatch h
  obtain ⟨ds, hds, h⟩ := ok_of_bind h
  obtain ⟨name, hname, h⟩ := ok_of_bind h
  refine ⟨by simpa using hcolumns, ds, name, hds, hname, ?_⟩
  rw [← Except.ok.inj h]
  exact String.toList_inj.1 (by simp)

/-- Each item is defined by its own text, which is closed in itself. -/
theorem definitions_defined {t : TableDefinition} {ds : List String}
    (hplain : ∀ c ∈ t.columns, ∀ text, c.default ≠ some (.verbatim text)) (h : t.definitions = .ok ds) :
    List.Forall₂ Item.DefinedBy t.items ds ∧ ∀ d ∈ ds, Punctuated .parentheses d ∧ d.toList.head? ≠ some ' ' := by
  have hitems := (List.forall₂_and_left _ _).2 ⟨items_plain hplain, definitions_items h⟩
  constructor
  · exact hitems.imp fun i d hi => (Item.sql_punctuated hi.1 hi.2).2
  · refine forall_mem_of_forall₂ hitems fun i d hi => ?_
    obtain ⟨hpunctuated, hdefined⟩ := Item.sql_punctuated hi.1 hi.2
    exact ⟨hpunctuated, hdefined.head?_ne_blank⟩

/-- What stands behind the columns and keys. -/
theorem behind_punctuated (t : TableDefinition) : Punctuated .commas
    (" ENGINE=" ++ t.engine.sql ++ (t.comment.map fun text => ", COMMENT=" ++ stringLiteral text).getD "") := by
  have hengine : Punctuated .commas (" ENGINE=" ++ t.engine.sql) := by
    cases t.engine <;> exact .of_unmarked (by decide)
  have hkeyword : Punctuated .commas "COMMENT=" := .of_unmarked (by decide)
  have hcomment : Punctuated .commas (", " ++ "COMMENT=") := Punctuated.comma.append hkeyword
  exact hengine.append (comment_punctuated hcomment t.comment)

theorem firstParentheses_parenthesized {inner : String} (h : Punctuated .commas inner) (r : List Char) :
    Enclosure.firstParentheses .outside (("(" ++ inner ++ ")").toList ++ r) = some inner.toList := by
  have htext : ("(" ++ inner ++ ")").toList ++ r = '(' :: (inner.toList ++ ')' :: r) := by simp
  rw [htext, Enclosure.firstParentheses, if_pos ⟨rfl, rfl⟩, Enclosure.outermost,
    PunctuatedFrom.upToClosing_append h (le_refl 0)]
  simp [Enclosure.upToClosing, Enclosure.outermost]

/-- A finished table definition, whatever names, members, defaults and comments it was given: all quotes and
parentheses are closed, and cutting the body of the first parentheses at its commas gives one definition for each
column and key, in their order. -/
theorem build_layout {t : TableDefinition} (hplain : ∀ c ∈ t.columns, ∀ text, c.default ≠ some (.verbatim text))
    {sql : String} (h : t.build = .ok sql) :
    Enclosure.outermost.after sql.toList = .outermost ∧
      (∀ start, start <+: sql.toList → 0 ≤ (Enclosure.outermost.after start).depth) ∧
      '"' ∉ unquoted .outside sql.toList ∧
      ∃ body, Enclosure.firstParentheses .outside sql.toList = some body ∧
        List.Forall₂ Item.DefinedBy t.items (definitionsIn body) ∧
        (definitionsIn body).length = t.columns.length + (if t.primary.isSome then 1 else 0) + t.uniques.length +
          t.columns.countP (·.index) + t.indexes.length + t.columns.countP (·.references.isSome) +
          t.foreign.length := by
  obtain ⟨hcolumns, ds, name, hds, hname, hsql⟩ := ok_of_build h
  obtain ⟨hdefined, hpunctuated⟩ := definitions_defined hplain hds
  have hne : ds ≠ [] := by
    rintro rfl
    have hitems : t.items = [] := List.forall₂_nil_right_iff.1 hdefined
    simp [items, hcolumns] at hitems
  have hfront : Punctuated .none ("CREATE TABLE IF NOT EXISTS " ++ name ++ " ") :=
    (Punctuated.append (.of_unmarked (by decide)) (.quoteIdent hname)).append (.of_unmarked (by decide))
  have hbody : Punctuated .commas (", ".intercalate ds) :=
    .intercalate .comma fun d hd => (hpunctuated d hd).1.weaken
  have hbehind := behind_punctuated t
  -- the definitions have commas between them, and so have the table options
  have hwhole : Punctuated .commas sql := by
    rw [hsql]
    exact (hfront.weaken.append (.parenthesized (by decide) hbody)).append hbehind
  refine ⟨PunctuatedFrom.after_eq hwhole 0, PunctuatedFrom.le_depth hwhole 0, PunctuatedFrom.not_mem_unquoted hwhole,
    (", ".intercalate ds).toList, ?_, ?_⟩
  · rw [hsql, String.toList_append, String.toList_append, List.append_assoc,
      PunctuatedFrom.firstParentheses_append hfront]
    exact firstParentheses_parenthesized hbody _
  · rw [definitionsIn_intercalate hne hpunctuated]
    exact ⟨hdefined, by rw [← hdefined.length_eq, length_items]⟩

/-- A table with quotes, commas and parentheses in its names, members, defaults and comments. -/
def hostileTable : TableDefinition where
  name := "t"
  columns := [
    { name := "```(`", type := .enum ["x','y)", "\\"], default := some (.literal (.text "'); (")), index := true,
      comment := some "it's, (", references := some "t.id" }]
  primary := some { columns := ["id", "```(`"] }
  comment := some "\\', ENGINE=("

theorem build_layout_hostile :
    (∀ c ∈ hostileTable.columns, ∀ text, c.default ≠ some (.verbatim text)) ∧
      ∃ sql, hostileTable.build = .ok sql ∧ Enclosure.outermost.after sql.toList = .outermost ∧
        ∃ body, Enclosure.firstParentheses .outside sql.toList = some body ∧
          List.Forall₂ Item.DefinedBy hostileTable.items (definitionsIn body) ∧ (definitionsIn body).length = 4 := by
  have hplain : ∀ c ∈ hostileTable.columns, ∀ text, c.default ≠ some (.verbatim text) := by
    simp [hostileTable]
  have hbuild : hostileTable.build = .ok
      ("CREATE TABLE IF NOT EXISTS `t` (```(` ENUM('x'',''y)', '\\\\') NOT NULL DEFAULT '''); (' " ++
        "COMMENT 'it''s, (', PRIMARY KEY (`id`, ```(`), INDEX (```(`), " ++
        "FOREIGN KEY (```(`) REFERENCES `t` (`id`)) ENGINE=INNODB, COMMENT='\\\\'', ENGINE=('") := by
    cbv
  obtain ⟨hafter, -, -, body, hbody, hdefined, hlength⟩ := build_layout hplain hbuild
  exact ⟨hplain, _, hbuild, hafter, body, hbody, hdefined, hlength⟩

end TableDefinition
end FluentSql
