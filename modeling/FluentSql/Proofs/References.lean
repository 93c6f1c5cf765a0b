import FluentSql.Proofs.TableLayout

/-!
# FluentSql.Proofs.References — columns that refer to a column of another table

The target of such a column is one text, which is cut at its last dot: the names in front of it are the table, what is
behind it is the column.

* `TableDefinition.cutLastDot_eq_some_iff`: where a text is cut.
* `Ident.parse_of_halves` and `Ident.exists_halves`: the two halves are identifiers if the whole is one whose last name
  has no dot, and only then.
* `TableDefinition.referenceDefinition_eq_ok_iff`: the targets that have a definition, and this definition.
* `TableDefinition.referring`: a table definition with a column that refers to a target, or to none.
* `TableDefinition.build_referring`: such a definition can be written exactly if the target has a table and a column
  whose name has no dot; then it has one foreign key more.
* `TableDefinition.build_dottedColumn`: with a dot in the name of the column it cannot be written.
-/

namespace FluentSql

/-! ## Cutting at the last dot -/

namespace TableDefinition

theorem cutLastDot_of_notMem {cs : List Char} (h : '.' ∉ cs) : cutLastDot cs = none := by
  induction cs with
  | nil => rfl
  | cons c cs ih =>
    rw [List.mem_cons, not_or] at h
    rw [cutLastDot, ih h.2]
    exact if_neg (Ne.symm h.1)

theorem cutLastDot_append {behind : List Char} (h : '.' ∉ behind) (before : List Char) :
    cutLastDot (before ++ '.' :: behind) = some (before, behind) := by
  induction before with
  | nil =>
    rw [List.nil_append, cutLastDot, cutLastDot_of_notMem h]
    rfl
  | cons c before ih =>
    rw [List.cons_append, cutLastDot, ih]

/-- A text with a dot has a last one. -/
theorem exists_lastDot {cs : List Char} (h : '.' ∈ cs) :
    ∃ before behind, cs = before ++ '.' :: behind ∧ '.' ∉ behind := by
  obtain ⟨behind, before, hcs, hbehind⟩ := List.eq_append_cons_of_mem (List.mem_reverse.2 h)
  refine ⟨before.reverse, behind.reverse, ?_, fun hdot => hbehind (List.mem_reverse.1 hdot)⟩
  rw [← List.reverse_reverse cs, hcs]
  simp

/-- A text is cut at the dot behind which there is none. -/
theorem cutLastDot_eq_some_iff {cs before behind : List Char} :
    cutLastDot cs = some (before, behind) ↔ cs = before ++ '.' :: behind ∧ '.' ∉ behind := by
  constructor
  · intro h
    by_cases hdot : '.' ∈ cs
    · obtain ⟨before', behind', rfl, hbehind⟩ := exists_lastDot hdot
      rw [cutLastDot_append hbehind] at h
      obtain ⟨rfl, rfl⟩ := Prod.mk.inj (Option.some.inj h)
      exact ⟨rfl, hbehind⟩
    · rw [cutLastDot_of_notMem hdot] at h
      nomatch h
  · rintro ⟨rfl, hbehind⟩
    exact cutLastDot_append hbehind before

end TableDefinition

/-! ## Identifiers in two halves -/

namespace Ident

/-- The quoted form of one name. -/
theorem sql_singleton (name : String) : (Ident.mk [name]).sql = partSql name := by
  simp [sql]

theorem Dotted.append {text rest : List Char} {names more : List (List Char)} (h : Dotted text names)
    (hrest : Dotted rest more) : Dotted (text ++ '.' :: rest) (names ++ more) := by
  induction h with
  | one part => exact .cons part hrest
  | cons part _ ih =>
    rw [List.append_assoc, List.cons_append]
    exact .cons part ih

/-- A text of one name is one part. -/
theorem Dotted.part {text name : List Char} (h : Dotted text [name]) : Part text name := by
  cases h with
  | one part => exact part
  | cons _ more => exact absurd rfl more.names_ne_nil

/-- The first part stands in front of a dot, if it is not the only one. -/
theorem Dotted.exists_first {text name : List Char} {names : List (List Char)} (hnames : names ≠ [])
    (h : Dotted text (name :: names)) :
    ∃ first rest, text = first ++ '.' :: rest ∧ Part first name ∧ Dotted rest names := by
  cases h with
  | one part => exact absurd rfl hnames
  | @cons first _ rest _ part more => exact ⟨first, rest, rfl, part, more⟩

/-- The last part stands behind a dot, if it is not the only one. -/
theorem Dotted.exists_last {text name : List Char} {names : List (List Char)} (hnames : names ≠ [])
    (h : Dotted text (names ++ [name])) :
    ∃ front last, text = front ++ '.' :: last ∧ Dotted front names ∧ Part last name := by
  induction names generalizing text with
  | nil => exact absurd rfl hnames
  | cons first names ih =>
    rw [List.cons_append] at h
    obtain ⟨front, rest, rfl, part, more⟩ := h.exists_first (by simp)
    cases names with
    | nil => exact ⟨front, rest, rfl, .one part, more.part⟩
    | cons second names =>
      obtain ⟨middle, last, rfl, hmiddle, hlast⟩ := ih (List.cons_ne_nil second names) more
      exact ⟨front ++ '.' :: middle, last, by simp, .cons part hmiddle, hlast⟩

/-- A text without dots is one part. -/
theorem Dotted.eq_singleton {text : List Char} {names : List (List Char)} (h : Dotted text names) (hdot : '.' ∉ text) :
    ∃ name, names = [name] ∧ Part text name := by
  cases h with
  | @one _ name part => exact ⟨name, rfl, part⟩
  | cons _ _ => simp at hdot

/-- Two identifiers with a dot between them, of which the second has none, are one. -/
theorem parse_of_halves {target : String} {before behind : List Char} {i j : Ident}
    (htarget : target.toList = before ++ '.' :: behind) (hdot : '.' ∉ behind)
    (hi : Ident.parse (String.ofList before) = .ok i) (hj : Ident.parse (String.ofList behind) = .ok j) :
    ∃ column, j = ⟨[column]⟩ ∧ '.' ∉ column.toList ∧ Ident.parse target = .ok ⟨i.parts ++ [column]⟩ := by
  obtain ⟨hnulBefore, hbefore⟩ := parse_eq_ok_iff.1 hi
  obtain ⟨hnulBehind, hbehind⟩ := parse_eq_ok_iff.1 hj
  rw [String.toList_ofList] at hnulBefore hbefore hnulBehind hbehind
  obtain ⟨name, hname, part⟩ := hbehind.eq_singleton hdot
  obtain ⟨column, hcolumn, rfl⟩ := List.map_eq_singleton_iff.1 hname
  refine ⟨column, congrArg Ident.mk hcolumn, fun h => hdot ((part.mem_iff (by decide)).2 h), ?_⟩
  refine parse_eq_ok_iff.2 ⟨?_, ?_⟩
  · rw [htarget]
    simp [hnulBefore, hnulBehind]
  · rw [htarget, List.map_append]
    exact hbefore.append (.one part)

/-- An identifier whose last name has no dot is cut into its table and its column. -/
theorem exists_halves {target column : String} {table : List String} (htable : table ≠ [])
    (hdot : '.' ∉ column.toList) (h : Ident.parse target = .ok ⟨table ++ [column]⟩) :
    ∃ before behind, target.toList = before ++ '.' :: behind ∧ '.' ∉ behind ∧
      Ident.parse (String.ofList before) = .ok ⟨table⟩ ∧ Ident.parse (String.ofList behind) = .ok ⟨[column]⟩ := by
  obtain ⟨hnul, hdotted⟩ := parse_eq_ok_iff.1 h
  rw [List.map_append] at hdotted
  obtain ⟨before, behind, htarget, hbefore, hbehind⟩ := hdotted.exists_last (by simpa using htable)
  rw [htarget, List.mem_append, List.mem_cons, not_or, not_or] at hnul
  refine ⟨before, behind, htarget, fun hmem => hdot ((hbehind.mem_iff (by decide)).1 hmem), ?_, ?_⟩
  · exact parse_eq_ok_iff.2 (by simpa using ⟨hnul.1, hbefore⟩)
  · exact parse_eq_ok_iff.2 (by simpa using ⟨hnul.2.2, Dotted.one hbehind⟩)

end Ident

/-! ## The foreign key of one column -/

/-- The foreign key of a column that refers to a column of a table. -/
def referenceText (name table : Ident) (column : String) : String :=
  "FOREIGN KEY (" ++ name.sql ++ ") REFERENCES " ++ table.sql ++ " (" ++ Ident.partSql column ++ ")"

/-- A foreign key over one column, without a name and without actions. -/
theorem ForeignKey.sql_single (c table referenced : String) :
    ForeignKey.sql { columns := [c], table := table, references := [referenced] } =
      (do let name ← quoteIdent c
          let table ← quoteIdent table
          let column ← quoteIdent referenced
          return "FOREIGN KEY (" ++ name ++ ") REFERENCES " ++ table ++ " (" ++ column ++ ")") := by
  have hlist (context s : String) : quotedList context [s] = quoteIdent s := by
    unfold quotedList
    simp
  have hname {β : Type} (k : String → Except SqlError β) : (keyName none >>= k) = k "" := rfl
  unfold ForeignKey.sql
  simp only [List.length_singleton, ne_eq, not_true_eq_false, if_false, hlist, hname]
  simp [actionSql]

theorem ForeignKey.sql_of_parts {c table referenced column : String} {name : Ident} {names : List String}
    (hname : quoteIdent c = .ok name.sql) (htable : quoteIdent table = .ok (Ident.mk names).sql)
    (hcolumn : quoteIdent referenced = .ok (Ident.mk [column]).sql) :
    ForeignKey.sql { columns := [c], table := table, references := [referenced] } =
      .ok (referenceText name ⟨names⟩ column) := by
  rw [sql_single, hname, htable, hcolumn, Ident.sql_singleton]
  rfl

/-- The same foreign key with the names of the table and the column apart. -/
theorem ForeignKey.sql_apart {c target column : String} {name : Ident} {table : List String}
    (hname : Ident.parse c = .ok name) (hparse : Ident.parse target = .ok ⟨table ++ [column]⟩) (htable : table ≠ [])
    (hdot : '.' ∉ column.toList) :
    ForeignKey.sql { columns := [c], table := (Ident.mk table).sql, references := [Ident.partSql column] } =
      .ok (referenceText name ⟨table⟩ column) := by
  obtain ⟨before, behind, -, -, hbefore, hbehind⟩ := Ident.exists_halves htable hdot hparse
  have hquoted {s : String} {i : Ident} (h : Ident.parse s = .ok i) : quoteIdent i.sql = .ok i.sql :=
    quoteIdent_of_parse (Ident.parse_sql_of_obtained (.inl ⟨s, h⟩))
  rw [← Ident.sql_singleton]
  exact ForeignKey.sql_of_parts (quoteIdent_of_parse hname) (hquoted hbefore) (hquoted hbehind)

namespace TableDefinition

/-- The targets that a column can refer to: their last name is the column and has no dot, the names in front of it
are the table. -/
theorem referenceDefinition_eq_ok_iff {c : Column} {target definition : String} :
    referenceDefinition c target = .ok definition ↔ ∃ name table column, Ident.parse c.name = .ok name ∧
      Ident.parse target = .ok ⟨table ++ [column]⟩ ∧ table ≠ [] ∧ '.' ∉ column.toList ∧
      definition = referenceText name ⟨table⟩ column := by
  constructor
  · intro h
    unfold referenceDefinition at h
    split at h
    · cases h
    · rename_i before behind hcut
      obtain ⟨htarget, hdot⟩ := cutLastDot_eq_some_iff.1 hcut
      have hdefinition := h
      rw [ForeignKey.sql_single] at h
      obtain ⟨quotedName, hquotedName, h⟩ := ok_of_bind h
      obtain ⟨quotedTable, hquotedTable, h⟩ := ok_of_bind h
      obtain ⟨quotedColumn, hquotedColumn, h⟩ := ok_of_bind h
      obtain ⟨name, hname, rfl⟩ := quoteIdent_eq_ok_iff.1 hquotedName
      obtain ⟨table, htable, rfl⟩ := quoteIdent_eq_ok_iff.1 hquotedTable
      obtain ⟨j, hj, rfl⟩ := quoteIdent_eq_ok_iff.1 hquotedColumn
      -- both halves are identifiers on their own, so the cut was not inside back-ticks
      obtain ⟨column, rfl, hcolumn, hparse⟩ := Ident.parse_of_halves htarget hdot htable hj
      have hne : table.parts ≠ [] := (Ident.Obtained.parts (.inl ⟨_, htable⟩)).1
      rw [ForeignKey.sql_of_parts hquotedName hquotedTable hquotedColumn] at hdefinition
      exact ⟨name, table.parts, column, hname, hparse, hne, hcolumn, (Except.ok.inj hdefinition).symm⟩
  · rintro ⟨name, table, column, hname, hparse, hne, hdot, rfl⟩
    obtain ⟨before, behind, htarget, hbehind, htable, hcolumn⟩ := Ident.exists_halves hne hdot hparse
    have hcut := cutLastDot_eq_some_iff.2 ⟨htarget, hbehind⟩
    unfold referenceDefinition
    rw [hcut]
    exact ForeignKey.sql_of_parts (quoteIdent_of_parse hname) (quoteIdent_of_parse htable) (quoteIdent_of_parse hcolumn)

/-! ## One reference more -/

section Referring

variable (t : TableDefinition) (before : List Column) (c : Column) (after : List Column)

/-- A table definition with a column that refers to a target, or to none. -/
def referring (target : Option String) : TableDefinition :=
  { t with columns := before ++ { c with references := target } :: after }

/-- The items in front of the reference of the column. -/
def itemsBefore (target : Option String) : List Item :=
  (t.referring before c after target).columns.map .column ++ t.primary.toList.map .primary ++ t.uniques.map .unique ++
    ((t.referring before c after target).columns.filter (·.index)).map .indexed ++ t.indexes.map .index ++
    before.filterMap fun c => c.references.map (Item.reference c)

/-- The items behind the reference of the column. -/
def itemsAfter : List Item :=
  (after.filterMap fun c => c.references.map (Item.reference c)) ++ t.foreign.map .foreign

theorem items_referring_none :
    (t.referring before c after none).items = t.itemsBefore before c after none ++ t.itemsAfter after := by
  simp [items, itemsBefore, itemsAfter, referring]

theorem items_referring_some (target : String) :
    (t.referring before c after (some target)).items = t.itemsBefore before c after (some target) ++
      .reference { c with references := some target } target :: t.itemsAfter after := by
  simp [items, itemsBefore, itemsAfter, referring]

/-- The definitions in front of the reference do not depend on its target. -/
theorem mapM_itemsBefore (target : Option String) :
    (t.itemsBefore before c after target).mapM Item.sql = (t.itemsBefore before c after none).mapM Item.sql := by
  have hcolumns : ((t.referring before c after target).columns.map Item.column).mapM Item.sql =
      ((t.referring before c after none).columns.map Item.column).mapM Item.sql := by
    simp only [referring, List.mapM_map, List.mapM_append, List.mapM_cons]
    rfl
  have hindexed : (((t.referring before c after target).columns.filter (·.index)).map Item.indexed).mapM Item.sql =
      (((t.referring before c after none).columns.filter (·.index)).map Item.indexed).mapM Item.sql := by
    simp only [referring, List.filter_append, List.filter_cons]
    cases c.index with
    | false => rfl
    | true =>
      simp only [List.mapM_map, List.mapM_append, if_true, List.mapM_cons]
      rfl
  simp only [itemsBefore, List.mapM_append, hcolumns, hindexed]

theorem definitions_referring_some {front behind : List String}
    (hfront : (t.itemsBefore before c after none).mapM Item.sql = .ok front)
    (hbehind : (t.itemsAfter after).mapM Item.sql = .ok behind) (target : String) :
    (t.referring before c after (some target)).definitions =
      (referenceDefinition c target).map fun definition => front ++ definition :: behind := by
  have hreference : (Item.reference { c with references := some target } target).sql =
      referenceDefinition c target := rfl
  rw [definitions_eq, items_referring_some, List.mapM_append, mapM_itemsBefore, hfront, List.mapM_cons, hreference,
    hbehind]
  cases referenceDefinition c target <;> rfl

/-- What stands around the definitions of a finished statement. -/
def statementOf (t : TableDefinition) (definitions : List String) : Except SqlError String := do
  let name ← quoteIdent t.name
  return "CREATE TABLE IF NOT EXISTS " ++ name ++ " (" ++ ", ".intercalate definitions ++ ") ENGINE=" ++
    t.engine.sql ++ (t.comment.map fun text => ", COMMENT=" ++ stringLiteral text).getD ""

/-- What a table definition is checked for before its definitions are written does not depend on a reference. -/
theorem build_referring_eq (h : ∃ sql, (t.referring before c after none).build = .ok sql) (target : Option String) :
    (t.referring before c after target).build = (t.referring before c after target).definitions >>= t.statementOf := by
  have hcolumns (target : Option String) : (t.referring before c after target).columns.isEmpty = false := by
    simp [referring]
  have hprimary (target : Option String) : (t.referring before c after target).columns.any (·.primary) =
      (t.referring before c after none).columns.any (·.primary) := by
    simp [referring]
  obtain ⟨sql, h⟩ := h
  unfold build at h ⊢
  rw [hcolumns] at h ⊢
  rw [hprimary]
  cases hboth : (t.primary.isSome && (t.referring before c after none).columns.any (·.primary)) with
  | true =>
    have hprimary : (t.referring before c after none).primary = t.primary := rfl
    rw [hprimary, hboth] at h
    nomatch h
  | false =>
    have hprimary : (t.referring before c after target).primary = t.primary := rfl
    rw [hprimary, hboth]
    rfl

/-- A finished statement is a text around its definitions. -/
theorem exists_statementOf {ds : List String} {sql : String} (h : t.statementOf ds = .ok sql) :
    ∃ opening closing, ∀ definitions,
      t.statementOf definitions = .ok (opening ++ ", ".intercalate definitions ++ closing) := by
  obtain ⟨name, hname, -⟩ := ok_of_bind h
  refine ⟨"CREATE TABLE IF NOT EXISTS " ++ name ++ " (", ") ENGINE=" ++ t.engine.sql ++
    (t.comment.map fun text => ", COMMENT=" ++ stringLiteral text).getD "", fun definitions => ?_⟩
  unfold statementOf
  rw [hname]
  exact congrArg Except.ok (by simp only [String.append_assoc])

/-- A column that has a definition has a name. -/
theorem exists_name {ds : List String} (h : (t.itemsBefore before c after none).mapM Item.sql = .ok ds) :
    ∃ name, Ident.parse c.name = .ok name := by
  have hmem : Item.column { c with references := none } ∈ t.itemsBefore before c after none := by
    simp [itemsBefore, referring]
  have hdefined : List.Forall₂ (fun d (i : Item) => i.sql = .ok d) ds (t.itemsBefore before c after none) :=
    (ok_of_mapM h).flip
  have hall : ∀ i ∈ t.itemsBefore before c after none, ∃ d, i.sql = .ok d :=
    forall_mem_of_forall₂ hdefined fun d i hi => ⟨d, hi⟩
  obtain ⟨d, hd⟩ := hall _ hmem
  obtain ⟨quoted, hquoted, -⟩ := ok_of_bind hd
  obtain ⟨name, hname, -⟩ := quoteIdent_eq_ok_iff.1 hquoted
  exact ⟨name, hname⟩

/-- **Referring to a column by one text.** If a table definition can be written without the reference of a column, it
can be written with it exactly when the target is an identifier of a table and a column, the name of the column without
a dot. Then there is one foreign key more, in which every name of the target stands in back-ticks; it is the one that
a key over the same column has which names the table and the column apart. -/
theorem build_referring (h : ∃ sql, (t.referring before c after none).build = .ok sql) (target : String) :
    ((∃ sql, (t.referring before c after (some target)).build = .ok sql) ↔
      ∃ table column, Ident.parse target = .ok ⟨table ++ [column]⟩ ∧ table ≠ [] ∧ '.' ∉ column.toList) ∧
    ∀ table column, Ident.parse target = .ok ⟨table ++ [column]⟩ → table ≠ [] → '.' ∉ column.toList →
      ∃ name, Ident.parse c.name = .ok name ∧
        ForeignKey.sql { columns := [c.name], table := (Ident.mk table).sql, references := [Ident.partSql column] } =
          .ok (referenceText name ⟨table⟩ column) ∧
        ∃ front behind opening closing,
          (t.referring before c after none).definitions = .ok (front ++ behind) ∧
          (t.referring before c after none).build = .ok (opening ++ ", ".intercalate (front ++ behind) ++ closing) ∧
          (t.referring before c after (some target)).definitions =
            .ok (front ++ referenceText name ⟨table⟩ column :: behind) ∧
          (t.referring before c after (some target)).build =
            .ok (opening ++ ", ".intercalate (front ++ referenceText name ⟨table⟩ column :: behind) ++ closing) := by
  -- the build with a reference and the one without differ in one definition only
  have hnone := t.build_referring_eq before c after h none
  have hsome := t.build_referring_eq before c after h (some target)
  obtain ⟨sql, hbuild⟩ := h
  rw [hnone] at hbuild
  obtain ⟨ds, hds, hstatement⟩ := ok_of_bind hbuild
  have hdefinitions := hds
  rw [definitions_eq, items_referring_none, List.mapM_append] at hds
  obtain ⟨front, hfront, hds⟩ := ok_of_bind hds
  obtain ⟨behind, hbehind, hds⟩ := ok_of_bind hds
  obtain rfl : front ++ behind = ds := Except.ok.inj hds
  obtain ⟨opening, closing, hframe⟩ := t.exists_statementOf hstatement
  have hreferring := t.definitions_referring_some before c after hfront hbehind target
  obtain ⟨name, hname⟩ := t.exists_name before c after hfront
  refine ⟨⟨?_, ?_⟩, ?_⟩
  · rintro ⟨sql, hsql⟩
    rw [hsome, hreferring] at hsql
    obtain ⟨_, hmap, -⟩ := ok_of_bind hsql
    obtain ⟨definition, hdefinition, -⟩ := Ident.ok_of_map hmap
    obtain ⟨-, table, column, -, hparse, htable, hdot, -⟩ := referenceDefinition_eq_ok_iff.1 hdefinition
    exact ⟨table, column, hparse, htable, hdot⟩
  · rintro ⟨table, column, hparse, htable, hdot⟩
    have hdefinition := referenceDefinition_eq_ok_iff.2 ⟨name, table, column, hname, hparse, htable, hdot, rfl⟩
    rw [hsome, hreferring, hdefinition]
    exact ⟨_, hframe _⟩
  · intro table column hparse htable hdot
    have hdefinition := referenceDefinition_eq_ok_iff.2 ⟨name, table, column, hname, hparse, htable, hdot, rfl⟩
    rw [hdefinition] at hreferring
    refine ⟨name, hname, ?_, front, behind, opening, closing, hdefinitions, ?_, hreferring, ?_⟩
    · exact ForeignKey.sql_apart hname hparse htable hdot
    · rw [hnone, hdefinitions]
      exact hframe _
    · rw [hsome, hreferring]
      exact hframe _

end Referring

open Ident

/-- A table without columns. -/
def log : TableDefinition where
  name := "log"
  comment := some "all entries"

/-- A column that does not refer to anything yet. -/
def entry : Column where
  name := "entry"
  type := .text

/-- The table with this column. -/
theorem build_log : (log.referring [] entry [] none).build = .ok
    "CREATE TABLE IF NOT EXISTS `log` (`entry` TEXT NOT NULL) ENGINE=INNODB, COMMENT='all entries'" := by
  cbv

theorem parse_entry : Ident.parse "entry" = .ok ⟨["entry"]⟩ :=
  parse_of_plain (by decide) (plainChars_of_all (by decide))

/-- A column of a table in a schema, whose name has a back-tick and a dot. -/
theorem build_referring_schema :
    (∃ sql, (log.referring [] entry [] none).build = .ok sql) ∧
      Ident.parse "s.`a``.b`.id" = .ok ⟨["s", "a`.b"] ++ ["id"]⟩ ∧
      ∃ front behind opening closing,
        (log.referring [] entry [] (some "s.`a``.b`.id")).build = .ok (opening ++ ", ".intercalate
          (front ++ "FOREIGN KEY (`entry`) REFERENCES `s`.`a``.b` (`id`)" :: behind) ++ closing) := by
  have hname : QuotedText "a``.b".toList "a`.b".toList :=
    .char (by decide) (.doubled (.char (by decide) (.char (by decide) .nil)))
  have hschema : Part "s".toList "s".toList := .plain (by decide) (plainChars_of_all (by decide))
  have htable : Part "`a``.b`".toList "a`.b".toList := .quoted (by decide) hname
  have hid : Part "id".toList "id".toList := .plain (by decide) (plainChars_of_all (by decide))
  have hdotted : Dotted "s.`a``.b`.id".toList ["s".toList, "a`.b".toList, "id".toList] :=
    .cons hschema (.cons htable (.one hid))
  have hparse : Ident.parse "s.`a``.b`.id" = .ok ⟨["s", "a`.b"] ++ ["id"]⟩ := parse_eq_ok_iff.2 ⟨by decide, hdotted⟩
  obtain ⟨name, hname, -, front, behind, opening, closing, -, -, -, hreferring⟩ :=
    (build_referring log [] entry [] ⟨_, build_log⟩ "s.`a``.b`.id").2 ["s", "a`.b"] "id" hparse
      (by decide) (by decide)
  obtain rfl : ⟨["entry"]⟩ = name := Except.ok.inj (parse_entry.symm.trans hname)
  have htext : referenceText ⟨["entry"]⟩ ⟨["s", "a`.b"]⟩ "id" =
      "FOREIGN KEY (`entry`) REFERENCES `s`.`a``.b` (`id`)" := by decide
  rw [htext] at hreferring
  exact ⟨⟨_, build_log⟩, hparse, front, behind, opening, closing, hreferring⟩

/-- The cut is inside the back-ticks. -/
theorem referenceDefinition_dottedColumn :
    referenceDefinition entry "p.`a.b`" = .error (.invalidIdentifier "unclosed quote in `p.`a`") := by
  have hcut : cutLastDot "p.`a.b`".toList = some ("p.`a".toList, "b`".toList) := by decide
  have hname : quoteIdent entry.name = .ok "`entry`" := quoteIdent_eq_ok_iff.2 ⟨_, parse_entry, by decide⟩
  have hfault : Ident.parse "p.`a" = .error .unclosedQuote := by cbv
  have htable : quoteIdent "p.`a" = .error (.invalidIdentifier "unclosed quote in `p.`a`") := by
    rw [quoteIdent, hfault]
    rfl
  unfold referenceDefinition
  rw [hcut]
  simp only [String.ofList_toList]
  rw [ForeignKey.sql_single, hname, htable]
  rfl

/-- A target whose column has a dot in its name is an identifier, and a key that names its table and its column apart
has a definition, but a column that refers to it cannot be written. -/
theorem build_dottedColumn :
    Ident.parse "p.`a.b`" = .ok ⟨["p", "a.b"]⟩ ∧
      ForeignKey.sql { columns := ["entry"], table := "p", references := ["`a.b`"] } =
        .ok "FOREIGN KEY (`entry`) REFERENCES `p` (`a.b`)" ∧
      (log.referring [] entry [] none).build = .ok
        "CREATE TABLE IF NOT EXISTS `log` (`entry` TEXT NOT NULL) ENGINE=INNODB, COMMENT='all entries'" ∧
      (log.referring [] entry [] (some "p.`a.b`")).build =
        .error (.invalidIdentifier "unclosed quote in `p.`a`") := by
  have hquoted : QuotedText "a.b".toList "a.b".toList :=
    .char (by decide) (.char (by decide) (.char (by decide) .nil))
  have hp : Part "p".toList "p".toList := .plain (by decide) (plainChars_of_all (by decide))
  have hab : Part "`a.b`".toList "a.b".toList := .quoted (by decide) hquoted
  have hdotted : Dotted "p.`a.b`".toList ["p".toList, "a.b".toList] := .cons hp (.one hab)
  have hparse : Ident.parse "p.`a.b`" = .ok ⟨["p", "a.b"]⟩ := parse_eq_ok_iff.2 ⟨by decide, hdotted⟩
  have hname : quoteIdent "entry" = .ok "`entry`" := quoteIdent_eq_ok_iff.2 ⟨_, parse_entry, by decide⟩
  -- the same reference with its halves given apart
  have happart : ForeignKey.sql { columns := ["entry"], table := "p", references := ["`a.b`"] } =
      .ok "FOREIGN KEY (`entry`) REFERENCES `p` (`a.b`)" := by
    have htable : quoteIdent "p" = .ok "`p`" :=
      quoteIdent_eq_ok_iff.2 ⟨⟨["p"]⟩, parse_eq_ok_iff.2 ⟨by decide, .one hp⟩, by decide⟩
    have hcolumn : quoteIdent "`a.b`" = .ok "`a.b`" :=
      quoteIdent_eq_ok_iff.2 ⟨⟨["a.b"]⟩, parse_eq_ok_iff.2 ⟨by decide, .one hab⟩, by decide⟩
    rw [ForeignKey.sql_single, hname, htable, hcolumn]
    rfl
  have hsome : (log.referring [] entry [] (some "p.`a.b`")).build =
      .error (.invalidIdentifier "unclosed quote in `p.`a`") := by
    have hentry : Column.sql entry = .ok "`entry` TEXT NOT NULL" := by
      have hname : quoteIdent entry.name = .ok "`entry`" := hname
      unfold Column.sql
      rw [hname]
      rfl
    have hcolumn : (log.itemsBefore [] entry [] none).mapM Item.sql = .ok ["`entry` TEXT NOT NULL"] := by
      show [Item.column entry].mapM Item.sql = _
      simp only [List.mapM_cons, List.mapM_nil, Item.sql, hentry]
      rfl
    have hkeys : (log.itemsAfter []).mapM Item.sql = .ok [] := rfl
    rw [log.build_referring_eq [] entry [] ⟨_, build_log⟩, log.definitions_referring_some [] entry [] hcolumn hkeys,
      referenceDefinition_dottedColumn]
    rfl
  exact ⟨hparse, happart, build_log, hsome⟩

end TableDefinition
end FluentSql
