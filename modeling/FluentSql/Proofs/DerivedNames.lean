import FluentSql.Proofs.AliasLifting

/-!
# FluentSql.Proofs.DerivedNames — derived tables and the alias behind them

A derived table stands in parentheses in the head clause of the statement on it, and this statement writes the alias
clause behind the head.

* `Clauses.tableParts`: the head clause of a statement in three parts, the table in the middle.
* `Statement.TableCut`: a statement on a derived table, cut around this table and around its alias clause;
  `Statement.build_onDerived` says that it builds to these parts.
* `Place`: where a statement is compiled, with what is written around it there.
* `derived_table_named`: at every place the derived table has an alias behind the head, if it brings one, or if the
  statement has one that the place does not lift out.
* `derived_table_lifted`: where the only alias is lifted out, the derived table has none.
-/

namespace FluentSql

/-- A finished query that is written was built. -/
theorem Binder.of_ofBuilt_ok {x : Except SqlError BuiltQuery} {bound values : List Value} {sql : String}
    (h : (Binder.ofBuilt x).run bound = .ok (sql, values)) : ∃ built, x = .ok built ∧ sql = built.sql := by
  cases x with
  | error e => nomatch h
  | ok built => exact ⟨built, rfl, (congrArg Prod.fst (Except.ok.inj h)).symm⟩

/-- A derived table stands in parentheses, built without its alias. -/
theorem Subquery.of_derived_ok {q : Subquery} {bound values : List Value} {table : String}
    (h : q.derived.run bound = .ok (table, values)) :
    ∃ built, Binder.standalone (q.assemble false) = .ok built ∧ table = "(" ++ built.sql ++ ")" := by
  obtain ⟨text, _, hspliced, h⟩ := Binder.of_bind_ok h
  obtain ⟨built, hbuilt, rfl⟩ := Binder.of_ofBuilt_ok hspliced
  exact ⟨built, hbuilt, (Binder.of_pure_ok h).symm⟩

/-! ## Head clauses in three parts -/

/-- The kinds whose head clause ends with the table. -/
def StatementKind.endsWithTable : StatementKind → Bool
  | .select | .existence | .delete => true
  | _ => false

namespace Clauses

variable (c : Clauses Operand Subquery)

/-- `verb INTO`, the table, and the values. -/
def insertParts (verb : String) (leading : List String) (rows : List (Record Operand)) :
    Binder (String × String × String) := do
  let table ← c.tableText
  let values ← c.valuesText rows
  return (verb ++ " " ++ optionsText leading ++ "INTO ", table, " " ++ values)

/-- `UPDATE`, the table, and the assignments. -/
def updateParts (leading : List String) (patch : Bool) (row : Record Operand) : Binder (String × String × String) := do
  let table ← c.tableText
  let pairs ← c.assignmentsText (c.payloadRules patch) "SET" row
  return ("UPDATE " ++ optionsText leading, table, " SET " ++ pairs)

/-- What stands in front of the table of a head, the table, and what stands behind it. -/
def headParts (leading : List String) : Binder (String × String × String) :=
  match c.operation with
  | .select => do
    let projection ← c.projectionText
    let table ← c.tableText
    return ("SELECT " ++ optionsText leading ++ projection ++ " FROM ", table, "")
  | .insert rows => c.insertParts "INSERT" leading rows
  | .replace rows => c.insertParts "REPLACE" leading rows
  | .update row => c.updateParts leading false row
  | .patch row => c.updateParts leading true row
  | .delete => do
    let table ← c.tableText
    return ("DELETE " ++ optionsText leading ++ "FROM ", table, "")
  | .insertSelect source columns => do
    let table ← c.tableText
    let query ← source.render .bare
    let list := if columns.isEmpty then "" else "(" ++ ", ".intercalate columns ++ ") "
    return ("INSERT " ++ optionsText leading ++ "INTO ", table, " " ++ list ++ query)
  | .unset | .existence | .raw _ _ => Binder.fail .unsetKind

theorem head_eq_headParts (leading : List String) :
    c.head leading = (do let (before, table, after) ← c.headParts leading; return before ++ table ++ after) := by
  unfold head headParts
  cases c.operation <;>
    simp only [insertHead, updateHead, insertSelectHead, insertParts, updateParts, bind_assoc, pure_bind,
      String.append_assoc, String.append_empty] <;> rfl

/-- The parts of a head, behind the check of the options. -/
def clausesParts : Binder (String × String × String) := do
  let options ← Options.ofList c.options
  c.headParts options.leading

/-- The parts of a head clause. A test for existence has those of its selection. -/
def tableParts : Binder (String × String × String) :=
  match c.operation with
  | .existence => do
    let (before, table, after) ← { c with operation := .select }.clausesParts
    return ("SELECT EXISTS(" ++ before, table, after)
  | _ => c.clausesParts

theorem clausesHead_eq_parts :
    c.clausesHead = (do let (before, table, after) ← c.clausesParts; return before ++ table ++ after) := by
  unfold clausesHead clausesParts
  simp only [head_eq_headParts, bind_assoc]

/-- A head clause is its parts. -/
theorem headClause_eq_parts :
    c.headClause = (do let (before, table, after) ← c.tableParts; return before ++ table ++ after) := by
  unfold headClause tableParts
  cases c.operation with
  | existence => simp only [clausesHead_eq_parts, bind_assoc, pure_bind, String.append_assoc]
  | _ => exact c.clausesHead_eq_parts

variable {c} {bound values : List Value} {before table after : String}

theorem tableText_of_insertParts {verb : String} {leading : List String} {rows : List (Record Operand)}
    (h : (c.insertParts verb leading rows).run bound = .ok ((before, table, after), values)) :
    ∃ first last, c.tableText.run first = .ok (table, last) := by
  obtain ⟨text, last, htext, h⟩ := Binder.of_bind_ok h
  obtain ⟨_, _, -, h⟩ := Binder.of_bind_ok h
  cases Binder.of_pure_ok h
  exact ⟨bound, last, htext⟩

theorem tableText_of_updateParts {leading : List String} {patch : Bool} {row : Record Operand}
    (h : (c.updateParts leading patch row).run bound = .ok ((before, table, after), values)) :
    ∃ first last, c.tableText.run first = .ok (table, last) := by
  obtain ⟨text, last, htext, h⟩ := Binder.of_bind_ok h
  obtain ⟨_, _, -, h⟩ := Binder.of_bind_ok h
  cases Binder.of_pure_ok h
  exact ⟨bound, last, htext⟩

/-- The middle part of a head is the text of the table; a selection and a deletion end with it. -/
theorem tableText_of_headParts {leading : List String}
    (h : (c.headParts leading).run bound = .ok ((before, table, after), values)) :
    (∃ first last, c.tableText.run first = .ok (table, last)) ∧ (c.operation.kind.endsWithTable → after = "") := by
  unfold headParts at h
  -- only the heads of a selection and of a deletion end with the table
  cases hop : c.operation with
  | select =>
    simp only [hop] at h
    obtain ⟨_, first, -, h⟩ := Binder.of_bind_ok h
    obtain ⟨text, last, htext, h⟩ := Binder.of_bind_ok h
    cases Binder.of_pure_ok h
    exact ⟨⟨first, last, htext⟩, fun _ => rfl⟩
  | insert rows =>
    simp only [hop] at h
    exact ⟨tableText_of_insertParts h, nofun⟩
  | replace rows =>
    simp only [hop] at h
    exact ⟨tableText_of_insertParts h, nofun⟩
  | update row =>
    simp only [hop] at h
    exact ⟨tableText_of_updateParts h, nofun⟩
  | patch row =>
    simp only [hop] at h
    exact ⟨tableText_of_updateParts h, nofun⟩
  | delete =>
    simp only [hop] at h
    obtain ⟨text, last, htext, h⟩ := Binder.of_bind_ok h
    cases Binder.of_pure_ok h
    exact ⟨⟨bound, last, htext⟩, fun _ => rfl⟩
  | insertSelect source columns =>
    simp only [hop] at h
    obtain ⟨text, last, htext, h⟩ := Binder.of_bind_ok h
    obtain ⟨_, _, -, h⟩ := Binder.of_bind_ok h
    cases Binder.of_pure_ok h
    exact ⟨⟨bound, last, htext⟩, nofun⟩
  | unset | existence | raw =>
    simp only [hop] at h
    nomatch h

theorem tableText_of_clausesParts (h : c.clausesParts.run bound = .ok ((before, table, after), values)) :
    (∃ first last, c.tableText.run first = .ok (table, last)) ∧ (c.operation.kind.endsWithTable → after = "") := by
  unfold clausesParts at h
  cases hoptions : Options.ofList c.options with
  | error e =>
    rw [hoptions] at h
    nomatch h
  | ok options =>
    rw [hoptions, Binder.lift_bind] at h
    exact tableText_of_headParts h

/-- A derived table of a head clause stands in parentheses, built without its alias. -/
theorem derived_of_tableParts {q : Subquery} (htable : c.table = some (.query q))
    (h : c.tableParts.run bound = .ok ((before, table, after), values)) :
    (∃ built, Binder.standalone (q.assemble false) = .ok built ∧ table = "(" ++ built.sql ++ ")") ∧
      (c.operation.kind.endsWithTable → after = "") := by
  have hderived : c.tableText = q.derived := by
    unfold tableText
    rw [htable]
  unfold tableParts at h
  cases hop : c.operation with
  | existence =>
    simp only [hop] at h
    obtain ⟨⟨front, text, rest⟩, _, hparts, h⟩ := Binder.of_bind_ok h
    cases Binder.of_pure_ok h
    obtain ⟨⟨first, last, htext⟩, hafter⟩ := tableText_of_clausesParts hparts
    -- an existence check reads the table as the selection inside it does
    have hselection : ({ c with operation := .select } : Clauses Operand Subquery).tableText = c.tableText := by
      rw [hderived]
      unfold tableText
      simp only [htable]
    rw [hselection, hderived] at htext
    exact ⟨Subquery.of_derived_ok htext, fun _ => hafter rfl⟩
  | _ =>
    simp only [hop] at h
    obtain ⟨⟨first, last, htext⟩, hafter⟩ := tableText_of_clausesParts h
    rw [hderived] at htext
    exact ⟨Subquery.of_derived_ok htext, hop ▸ hafter⟩

end Clauses

/-! ## Statements on a derived table -/

/-- No call changes the table of a statement. -/
theorem Call.table_onStatement (call : Call) (s : Statement) :
    (call.onStatement s).clauses.table = s.clauses.table := by
  obtain ⟨c⟩ := s
  cases call with
  | operation call => cases call <;> rfl
  | clause call =>
    cases call with
    | setOption option =>
      generalize hoptions : Statement.insertOption option = insert
      simp only [onStatement, ClauseCall.onStatement, Statement.setOption, hoptions]
      rfl
    | _ => rfl

namespace Statement

/-- A statement with its alias, or without. -/
def keepingAlias (s : Statement) (withAlias : Bool) : Statement :=
  if withAlias then s else s.unnamed

theorem table_operands {s q : Statement} (htable : s.clauses.table = some (.query q)) :
    s.operands.table = some (.query q.subquery) := by
  rw [operands, Clauses.map, htable]
  rfl

theorem subquery_assemble (s : Statement) (withAlias : Bool) :
    s.subquery.assemble withAlias = s.operands.assemble withAlias := by
  obtain ⟨c⟩ := s
  rw [subquery_mk]
  rfl

theorem build_keepingAlias (s : Statement) (withAlias : Bool) :
    (s.keepingAlias withAlias).build = Binder.standalone (s.subquery.assemble withAlias) := by
  cases withAlias with
  | true => rfl
  | false => exact congrArg Binder.standalone (s.assemble_unnamed true)

theorem table_run (s : Statement) (calls : List Call) : (s.run calls).clauses.table = s.clauses.table := by
  induction calls generalizing s with
  | nil => rfl
  | cons call calls ih => exact (ih (call.onStatement s)).trans (call.table_onStatement s)

/-- A derived table stays, and no call makes a statement on it raw. -/
theorem run_onQuery (q : Statement) (calls : List Call) :
    ((onQuery q).run calls).clauses.table = some (.query q) ∧ ((onQuery q).run calls).kind ≠ .raw := by
  refine ⟨(onQuery q).table_run calls, fun h => ?_⟩
  have hoperation := operation_run_of_raw h
  rw [kind, hoperation] at h
  cases h

/-- A statement cut around its derived table: the head clause is `before (inner) after`, where the table has been built
without its alias, and `behind` is what stands behind the alias clause. -/
structure TableCut (s q : Statement) where
  before : String
  inner : String
  after : String
  behind : String
  tableParts : ∃ first, s.operands.tableParts.run [] = .ok ((before, "(" ++ inner ++ ")", after), first)
  around : ∃ values, s.operands.around.run [] = .ok ((before ++ "(" ++ inner ++ ")" ++ after, behind), values)
  inner_built : ∃ params, q.unnamed.build = .ok ⟨inner, params⟩
  after_eq : s.kind.endsWithTable → after = ""

/-- The text of such a statement, with an alias clause behind the head or without. -/
def TableCut.text {s q : Statement} (cut : s.TableCut q) (name : Option String) : String :=
  cut.before ++ "(" ++ cut.inner ++ ")" ++ cut.after ++ aliasSuffix name ++ cut.behind

/-- The parts of a statement on a derived table that compiles. -/
theorem exists_tableCut {s q : Statement} (htable : s.clauses.table = some (.query q)) {head behind : String}
    {values : List Value} (h : s.operands.around.run [] = .ok ((head, behind), values)) :
    ∃ cut : s.TableCut q, head = cut.before ++ "(" ++ cut.inner ++ ")" ++ cut.after ∧ behind = cut.behind := by
  have hkind : s.operands.operation.kind = s.kind := Operation.kind_map _ _ _
  obtain ⟨first, hhead⟩ := s.operands.headClause_of_around h
  rw [Clauses.headClause_eq_parts] at hhead
  obtain ⟨⟨before, table, after⟩, last, hparts, hhead⟩ := Binder.of_bind_ok hhead
  obtain rfl := Binder.of_pure_ok hhead
  obtain ⟨⟨built, hbuilt, rfl⟩, hafter⟩ := Clauses.derived_of_tableParts (table_operands htable) hparts
  have hinner : q.unnamed.build = .ok built := (q.build_keepingAlias false).trans hbuilt
  refine ⟨⟨before, built.sql, after, behind, ⟨last, hparts⟩, ⟨values, ?_⟩, ⟨built.params, hinner⟩, hkind ▸ hafter⟩, ?_,
    rfl⟩
  · simpa only [String.append_assoc] using h
  · simp only [String.append_assoc]

/-- A statement on a derived table is its head clause around the table, the alias clause, and all other clauses. -/
theorem build_onDerived {s q : Statement} (htable : s.clauses.table = some (.query q)) (hraw : s.kind ≠ .raw)
    {withAlias : Bool} {built : BuiltQuery} (h : (s.keepingAlias withAlias).build = .ok built) :
    ∃ cut : s.TableCut q, built.sql = cut.text ((if withAlias then s.aliasName else none).or q.aliasName) := by
  have hkind : s.operands.operation.kind = s.kind := Operation.kind_map _ _ _
  have halias : s.operands.aliasClause withAlias =
      (((if withAlias then s.aliasName else none).or q.aliasName).map ("AS " ++ ·)).toList := by
    rw [← q.aliasName_subquery]
    exact Clauses.aliasClause_onDerived (table_operands htable) withAlias
  rw [build_keepingAlias, s.subquery_assemble, Clauses.assemble_eq_around _ withAlias (hkind ▸ hraw),
    Clauses.aliasText_eq halias, Binder.standalone, StateT.run_bind] at h
  cases haround : s.operands.around.run [] with
  | error e =>
    rw [haround] at h
    cases h
  | ok r =>
    obtain ⟨⟨head, behind⟩, values⟩ := r
    rw [haround] at h
    obtain rfl := Except.ok.inj h
    obtain ⟨cut, rfl, rfl⟩ := exists_tableCut htable haround
    exact ⟨cut, by simp only [TableCut.text, String.append_assoc]⟩

end Statement

/-! ## Places -/

/-- Where a statement is compiled. -/
inductive Place where
  /-- By itself. -/
  | alone
  /-- As an argument: a value of a condition or payload, a source, or in a raw expression. -/
  | argument (position : Position) (context : String)
  /-- As a further query of a union. -/
  | union (all : Bool)
  /-- As a joined table. -/
  | join (kind : JoinKind) (conditions : List (Condition Operand))
  /-- As an entry of a projection. -/
  | projection
  /-- As the table of another statement. -/
  | table

namespace Place

/-- What is written at a place. -/
def text (s : Statement) : Place → Binder String
  | alone => Binder.ofBuilt s.build
  | argument position context => (Arg.query s).operand.render position context
  | union all => Clauses.unionClause ⟨all, s.subquery⟩
  | join kind conditions => Clauses.joinClause ⟨kind, .query s.subquery, conditions⟩
  | projection => Clauses.projectionEntry (.arg (Arg.query s).operand)
  | table => ({ table := some (.query s.subquery) } : Clauses Operand Subquery).tableText

/-- The alias of a statement stays inside its text, it is not lifted out. -/
def keepsAlias : Place → Bool
  | alone | union _ => true
  | argument position _ => position != .source
  | join _ _ | projection | table => false

/-- What is written in front of the text of a statement. -/
def opening : Place → String
  | alone | argument .bare _ => ""
  | argument _ _ | projection | table => "("
  | union all => if all then "UNION ALL " else "UNION "
  | join kind _ => kind.sql ++ " ("

/-- What is written behind the text of a statement: a lifted alias stands behind the parentheses. -/
def closing (s : Statement) : Place → String
  | alone | argument .bare _ | union _ => ""
  | argument .value _ | table => ")"
  | argument .source _ | projection | join _ _ => ")" ++ aliasSuffix s.aliasName

section Text

variable {s : Statement} {bound values : List Value} {text : String}

/-- An argument is written as its position says. -/
theorem of_argument_ok {position : Position} {context : String}
    (h : ((Arg.query s).operand.render position context).run bound = .ok (text, values)) :
    ∃ built, (s.keepingAlias (argument position context).keepsAlias).build = .ok built ∧
      text = (argument position context).opening ++ built.sql ++ (argument position context).closing s := by
  rw [Arg.render_query] at h
  obtain ⟨built, hbuilt, rfl⟩ := Binder.of_ofBuilt_ok h
  cases position with
  | bare => exact ⟨built, hbuilt, by simp [opening, closing]⟩
  | value =>
    obtain ⟨inner, hinner, rfl⟩ := Ident.ok_of_map hbuilt
    exact ⟨inner, hinner, rfl⟩
  | source =>
    obtain ⟨inner, hinner, rfl⟩ := Ident.ok_of_map hbuilt
    exact ⟨inner, hinner, by simp only [opening, closing, String.append_assoc]⟩

/-- A joined table is written as a source, behind the keywords and in front of the conditions. -/
theorem of_join_ok {kind : JoinKind} {conditions : List (Condition Operand)}
    (h : (Clauses.joinClause ⟨kind, .query s.subquery, conditions⟩).run bound = .ok (text, values)) :
    ∃ built rest, s.unnamed.build = .ok built ∧
      text = kind.sql ++ " (" ++ built.sql ++ ")" ++ aliasSuffix s.aliasName ++ rest ∧
      (rest = "" ∨ ∃ on, rest = " ON (" ++ on ++ ")") := by
  unfold Clauses.joinClause at h
  obtain ⟨source, first, hsource, h⟩ := Binder.of_bind_ok h
  rw [s.render_subquery] at hsource
  obtain ⟨placed, hplaced, rfl⟩ := Binder.of_ofBuilt_ok hsource
  obtain ⟨built, hbuilt, rfl⟩ := Ident.ok_of_map hplaced
  -- the bracket belongs to the words in front of the statement here
  have hopening : kind.sql ++ " (" = kind.sql ++ " " ++ "(" := by
    rw [String.append_assoc]
    rfl
  rw [hopening]
  cases conditions with
  | nil =>
    obtain rfl := Binder.of_pure_ok h
    exact ⟨built, "", hbuilt, by simp [← String.append_assoc], .inl rfl⟩
  | cons condition conditions =>
    obtain ⟨on, last, -, h⟩ := Binder.of_bind_ok h
    obtain rfl := Binder.of_pure_ok h
    exact ⟨built, " ON (" ++ on ++ ")", hbuilt, by simp [← String.append_assoc], .inr ⟨on, rfl⟩⟩

/-- At every place the statement is built by itself, with its alias or without. -/
theorem of_text_ok {place : Place} (h : (place.text s).run bound = .ok (text, values)) :
    ∃ built rest, (s.keepingAlias place.keepsAlias).build = .ok built ∧
      text = place.opening ++ built.sql ++ place.closing s ++ rest ∧
      (rest = "" ∨ ∃ on, rest = " ON (" ++ on ++ ")") := by
  -- only the conditions of a join can follow the statement
  cases place with
  | alone =>
    obtain ⟨built, hbuilt, rfl⟩ := Binder.of_ofBuilt_ok h
    exact ⟨built, "", hbuilt, by simp [opening, closing], .inl rfl⟩
  | argument position context =>
    obtain ⟨built, hbuilt, rfl⟩ := of_argument_ok h
    exact ⟨built, "", hbuilt, String.append_empty.symm, .inl rfl⟩
  | union all =>
    obtain ⟨sql, _, hsql, h⟩ := Binder.of_bind_ok h
    obtain ⟨built, hbuilt, rfl⟩ := Binder.of_ofBuilt_ok hsql
    obtain rfl := Binder.of_pure_ok h
    exact ⟨built, "", hbuilt, by simp [opening, closing], .inl rfl⟩
  | join kind conditions =>
    obtain ⟨built, rest, hbuilt, rfl, hrest⟩ := of_join_ok h
    exact ⟨built, rest, hbuilt, by simp only [opening, closing, String.append_assoc], hrest⟩
  | projection =>
    obtain ⟨built, hbuilt, rfl⟩ := of_argument_ok h
    exact ⟨built, "", hbuilt, String.append_empty.symm, .inl rfl⟩
  | table =>
    obtain ⟨built, hbuilt, rfl⟩ := Subquery.of_derived_ok h
    exact ⟨built, "", (s.build_keepingAlias false).trans hbuilt, by simp [opening, closing], .inl rfl⟩

end Text

end Place

/-! ## Names of derived tables -/

/-- **Derived tables keep a name.** If a derived table brings an alias, or the statement on it has one that its place
does not lift out, then wherever the statement is compiled an alias clause follows its head clause directly, in front of
all other clauses and inside the text of the place. The alias is the one of the statement where it stays, else the one
of the table. -/
theorem derived_table_named (place : Place) {s q : Statement} (htable : s.clauses.table = some (.query q))
    (hraw : s.kind ≠ .raw) (hnamed : q.aliasName ≠ none ∨ place.keepsAlias = true ∧ s.aliasName ≠ none)
    {bound values : List Value} {text : String} (h : (place.text s).run bound = .ok (text, values)) :
    ∃ (cut : s.TableCut q) (name rest : String),
      (if place.keepsAlias then s.aliasName else none).or q.aliasName = some name ∧
      text = place.opening ++ (cut.before ++ "(" ++ cut.inner ++ ")" ++ cut.after ++ " AS " ++ name ++ cut.behind) ++
        place.closing s ++ rest ∧
      (rest = "" ∨ ∃ on, rest = " ON (" ++ on ++ ")") := by
  obtain ⟨built, rest, hbuilt, rfl, hrest⟩ := Place.of_text_ok h
  obtain ⟨cut, hcut⟩ := Statement.build_onDerived htable hraw hbuilt
  have hname : ∃ name, (if place.keepsAlias then s.aliasName else none).or q.aliasName = some name := by
    rw [← Option.ne_none_iff_exists', ne_eq, Option.or_eq_none_iff]
    rintro ⟨hown, hderived⟩
    obtain hq | ⟨hkeeps, hs⟩ := hnamed
    · exact hq hderived
    · exact hs (by rw [← hown, if_pos hkeeps])
  obtain ⟨name, hname⟩ := hname
  refine ⟨cut, name, rest, hname, ?_, hrest⟩
  rw [hcut, hname]
  simp only [Statement.TableCut.text, aliasSuffix, String.append_assoc]

/-- A derived table that brings its alias, in a projection that lifts the alias of the statement on it. -/
theorem derived_table_named_projection :
    ∃ s q : Statement, s.clauses.table = some (.query q) ∧ s.kind ≠ .raw ∧ q.aliasName = some "x" ∧
      (Place.projection.text s).run [] = .ok ("(SELECT * FROM (SELECT * FROM T) AS x) AS y", []) ∧
      ∃ (cut : s.TableCut q) (rest : String), "(SELECT * FROM (SELECT * FROM T) AS x) AS y" =
        "(" ++ (cut.before ++ "(" ++ cut.inner ++ ")" ++ cut.after ++ " AS " ++ "x" ++ cut.behind) ++ ") AS y" ++
          rest := by
  set q := (Statement.onTable "T").select.named "x"
  set s := (Statement.onQuery q).select.named "y"
  have hq : q.subquery =
    ⟨some "x", Clauses.assemble { operation := .select, table := some (.name "T"), aliasName := some "x" }⟩ :=
      Statement.subquery_mk _
  have hs : s.subquery =
    ⟨some "y", Clauses.assemble { operation := .select, table := some (.query q.subquery), aliasName := some "y" }⟩ :=
      Statement.subquery_mk _
  have htext : (Place.projection.text s).run [] = .ok ("(SELECT * FROM (SELECT * FROM T) AS x) AS y", []) := by
    show ((Arg.query s).operand.render .source "SELECT").run [] = _
    rw [Arg.operand]
    show (s.subquery.render .source).run [] = _
    rw [hs, hq]
    rfl
  obtain ⟨htable, hraw⟩ := Statement.run_onQuery q [.operation .select, .clause (.named "y")]
  obtain ⟨cut, name, rest, hname, hcut, -⟩ := derived_table_named .projection htable hraw (.inl (Option.some_ne_none "x")) htext
  obtain rfl : "x" = name := Option.some.inj hname
  exact ⟨s, q, htable, hraw, rfl, htext, cut, rest, hcut⟩

/-- The alias of a derived table is lifted out of it, so the table in it, which brings none, has none. -/
theorem derived_table_lifted :
    ∃ s q : Statement, s.clauses.table = some (.query q) ∧ q.aliasName = none ∧ s.aliasName = some "a" ∧
      s.build = .ok ⟨"SELECT * FROM (SELECT * FROM U) AS a", []⟩ ∧
      (Place.table.text s).run [] = .ok ("(SELECT * FROM (SELECT * FROM U))", []) ∧
      (Statement.onQuery s).select.build = .ok ⟨"SELECT * FROM (SELECT * FROM (SELECT * FROM U)) AS a", []⟩ := by
  set q := (Statement.onTable "U").select
  set s := ((Statement.onQuery q).named "a").select
  have hq : q.subquery = ⟨none, Clauses.assemble { operation := .select, table := some (.name "U") }⟩ :=
    Statement.subquery_mk _
  have hs : s.subquery =
    ⟨some "a", Clauses.assemble { operation := .select, table := some (.query q.subquery), aliasName := some "a" }⟩ :=
      Statement.subquery_mk _
  refine ⟨s, q, rfl, rfl, rfl, ?_, ?_, ?_⟩
  · rw [Statement.build, hs, hq]
    rfl
  · show s.subquery.derived.run [] = _
    rw [hs, hq]
    rfl
  · rw [Statement.build_eq]
    show Binder.standalone (Clauses.assemble { operation := .select, table := some (.query s.subquery) } true) = _
    rw [hs, hq]
    rfl

end FluentSql
