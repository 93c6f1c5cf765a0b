import FluentSql.Compile.Build

/-!
# FluentSql.Proofs.Pieces — a statement as one flat list of pieces

A second compiler, without a list of bound values: each clause is a list of pieces in the order of the text, and a
nested statement or expression stands in place.

* `Piece`: literal text, or a value that stands behind one marker.
* `Rendering`: pieces, or the first error. Renderings are put behind each other with `++`.
* `Template.pieces`, `Condition.pieces`, `Clauses.pieces`: templates, conditions and statements over arguments and
  nested statements that are already rendered.
* `Arg.rendered`, `Statement.rendered`: the same for all arguments and statements; `Statement.pieces` starts there.
-/

namespace FluentSql

/-! ## Pieces -/

/-- Literal text, or a value behind one marker. -/
inductive Piece where
  | text (s : String)
  | value (v : Value)

namespace Piece

/-- What a piece writes. -/
def sql : Piece → String
  | text s => s
  | value _ => "?"

/-- What a piece binds. -/
def value? : Piece → Option Value
  | text _ => none
  | value v => some v

end Piece

/-- The text that pieces write. -/
def sqlOf (ps : List Piece) : String :=
  String.join (ps.map Piece.sql)

/-- The values that pieces bind, in order. -/
def valuesOf (ps : List Piece) : List Value :=
  ps.filterMap Piece.value?

@[simp] theorem sqlOf_text (s : String) : sqlOf [.text s] = s := by
  simp [sqlOf, Piece.sql]

@[simp] theorem sqlOf_value (v : Value) : sqlOf [.value v] = "?" := by
  simp [sqlOf, Piece.sql]

theorem sqlOf_append (ps qs : List Piece) : sqlOf (ps ++ qs) = sqlOf ps ++ sqlOf qs := by
  simp [sqlOf, String.join_append]

@[simp] theorem valuesOf_text (s : String) : valuesOf [.text s] = [] := rfl

@[simp] theorem valuesOf_value (v : Value) : valuesOf [.value v] = [v] := rfl

theorem valuesOf_append (ps qs : List Piece) : valuesOf (ps ++ qs) = valuesOf ps ++ valuesOf qs := by
  simp [valuesOf]

/-- The query that pieces make. -/
def BuiltQuery.ofPieces (ps : List Piece) : BuiltQuery :=
  ⟨sqlOf ps, valuesOf ps⟩

/-! ## Renderings -/

/-- The pieces of a part of a statement, or the first error in it. -/
abbrev Rendering : Type :=
  Except SqlError (List Piece)

namespace Rendering

/-- Literal text. -/
def text (s : String) : Rendering :=
  .ok [.text s]

/-- One bound value. -/
def value (v : Value) : Rendering :=
  .ok [.value v]

/-- One rendering behind another; the first error counts. -/
def append (a b : Rendering) : Rendering :=
  a.bind fun ps => b.map fun qs => ps ++ qs

instance : Append Rendering :=
  ⟨append⟩

/-- Renderings in a row. -/
def concat : List Rendering → Rendering
  | [] => .ok []
  | r :: rs => r ++ concat rs

/-- Renderings in a row with a separator between them. -/
def join (separator : String) : List Rendering → Rendering
  | [] => .ok []
  | [r] => r
  | r :: s :: rs => r ++ (text separator ++ join separator (s :: rs))

@[simp] theorem ok_append_ok (ps qs : List Piece) : (.ok ps ++ .ok qs : Rendering) = .ok (ps ++ qs) := rfl

@[simp] theorem error_append (e : SqlError) (b : Rendering) : (.error e ++ b : Rendering) = .error e := rfl

@[simp] theorem ok_append_error (ps : List Piece) (e : SqlError) : (.ok ps ++ .error e : Rendering) = .error e := rfl

theorem append_assoc (a b c : Rendering) : a ++ b ++ c = a ++ (b ++ c) := by
  cases a <;> cases b <;> cases c <;> simp

@[simp] theorem nil_append (a : Rendering) : .ok [] ++ a = a := by
  cases a <;> simp

@[simp] theorem append_nil (a : Rendering) : a ++ .ok [] = a := by
  cases a <;> simp

theorem concat_append (rs ss : List Rendering) : concat (rs ++ ss) = concat rs ++ concat ss := by
  induction rs with
  | nil => simp [concat]
  | cons r rs ih => rw [List.cons_append, concat, concat, ih, append_assoc]

end Rendering

open Rendering

/-! ## Arguments and nested statements that are rendered -/

/-- An argument with its pieces at a position, within a template or clause of the given text. -/
structure RenderedArg where
  arg : Arg
  pieces : Position → String → Rendering

/-- The keyword NULL, rendered. -/
def RenderedArg.null : RenderedArg :=
  ⟨.null, fun _ _ => text "NULL"⟩

/-- A nested statement: its alias, and its pieces with or without that alias. -/
structure RenderedQuery where
  aliasName : Option String
  pieces : Bool → Rendering

namespace RenderedQuery

/-- A nested statement at a position. In source position its alias stands behind the parentheses. -/
def placed (q : RenderedQuery) : Position → Rendering
  | .bare => q.pieces true
  | .value => text "(" ++ (q.pieces true ++ text ")")
  | .source => text "(" ++ (q.pieces false ++ text (")" ++ (q.aliasName.map (" AS " ++ ·)).getD ""))

/-- A derived table without its alias. -/
def derived (q : RenderedQuery) : Rendering :=
  text "(" ++ (q.pieces false ++ text ")")

end RenderedQuery

/-! ## Templates and conditions -/

namespace Template

/-- The identifier of an argument of `??`. -/
def identifier (template : String) (a : Arg) : Rendering :=
  (escapeText template a).map fun name => [.text name]

/-- The identifiers of a template. -/
def identifiers (template : String) : List Segment → List RenderedArg → List Rendering
  | .escape :: r, o :: os => identifier template o.arg :: identifiers template r os
  | .placeholder :: r, _ :: os => identifiers template r os
  | .text _ :: r, os => identifiers template r os
  | _, _ => []

/-- The renderings of the segments of a template. -/
def filled (template : String) (position : Position) : List Segment → List RenderedArg → List Rendering
  | .escape :: r, o :: os => identifier template o.arg :: filled template position r os
  | .placeholder :: r, o :: os => o.pieces position template :: filled template position r os
  | .text cs :: r, os => text (String.ofList cs) :: filled template position r os
  | _, _ => []

/-- The pieces of a template. An identifier that cannot be written counts before any argument of a `?`. -/
def pieces (template : String) (args : List RenderedArg) (position : Position) : Rendering :=
  let markers := countMarkers template
  if markers ≠ args.length then .error (.placeholderMismatch template markers args.length)
  else if markers = 0 then text template
  else
    (concat (identifiers template (segments template) args)).bind fun _ =>
      concat (filled template position (segments template) args)

end Template

namespace Condition

/-- The pieces of a condition. -/
def pieces (c : Condition RenderedArg) : Rendering :=
  (c.map RenderedArg.arg).shape.bind fun shape =>
    Template.pieces shape.template (c.args.drop shape.used) .value

/-- The pieces of a condition behind others. -/
def nextPieces (c : Condition RenderedArg) : Rendering :=
  text (" " ++ c.connector.sql ++ " ") ++ c.pieces

/-- The pieces of a list of conditions. -/
def allPieces : List (Condition RenderedArg) → Rendering
  | [] => .ok []
  | c :: cs => c.pieces ++ concat (cs.map nextPieces)

end Condition

/-! ## Clauses -/

namespace Clauses

/-- The pieces of a projected column or argument. -/
def projectionPieces : Projection RenderedArg → Rendering
  | .column s => text s
  | .arg a => a.pieces .source "SELECT"

/-- The pieces of the table. -/
def tablePieces (c : Clauses RenderedArg RenderedQuery) : Rendering :=
  match c.table with
  | some (.name s) => text s
  | some (.query q) => q.derived
  | none => .error (.missingTable c.operation.kind)

/-- The pieces of a group of values. -/
def groupPieces (group : List RenderedArg) : Rendering :=
  text "(" ++ (join ", " (group.map fun a => a.pieces .value "VALUES") ++ text ")")

/-- The pieces of columns and value groups. -/
def valuesPieces (c : Clauses RenderedArg RenderedQuery) (rows : List (Record RenderedArg)) : Rendering :=
  let payload := Payload.ofRecords RenderedArg.arg RenderedArg.null (c.payloadRules false) rows
  text ("(" ++ ", ".intercalate payload.columns ++ ") VALUES ") ++
    join ", " (if payload.groups.isEmpty then [text "()"] else payload.groups.map groupPieces)

/-- The pieces of an assignment. -/
def assignmentPieces (context : String) (entry : String × RenderedArg) : Rendering :=
  text (entry.1 ++ " = ") ++ entry.2.pieces .value context

/-- The pieces of a list of assignments, which is not empty. -/
def assignmentsPieces (c : Clauses RenderedArg RenderedQuery) (rules : PayloadRules) (context : String)
    (row : Record RenderedArg) : Rendering :=
  let entries := row.entries RenderedArg.arg rules
  if entries.isEmpty then .error (.emptyAssignments c.operation.kind)
  else join ", " (entries.map (assignmentPieces context))

/-- The pieces of the head: a projection stands before the table, a payload behind it. -/
def headPieces (c : Clauses RenderedArg RenderedQuery) (leading : List String) : Rendering :=
  let before := optionsText leading
  match c.operation with
  | .select =>
    text ("SELECT " ++ before) ++
      ((if c.columns.isEmpty then text "*" else join ", " (c.columns.map projectionPieces)) ++
        (text " FROM " ++ c.tablePieces))
  | .insert rows => text ("INSERT " ++ before ++ "INTO ") ++ (c.tablePieces ++ (text " " ++ c.valuesPieces rows))
  | .replace rows => text ("REPLACE " ++ before ++ "INTO ") ++ (c.tablePieces ++ (text " " ++ c.valuesPieces rows))
  | .update row =>
    text ("UPDATE " ++ before) ++
      (c.tablePieces ++ (text " SET " ++ c.assignmentsPieces (c.payloadRules false) "SET" row))
  | .patch row =>
    text ("UPDATE " ++ before) ++
      (c.tablePieces ++ (text " SET " ++ c.assignmentsPieces (c.payloadRules true) "SET" row))
  | .delete => text ("DELETE " ++ before ++ "FROM ") ++ c.tablePieces
  | .insertSelect source columns =>
    let list := if columns.isEmpty then "" else "(" ++ ", ".intercalate columns ++ ") "
    text ("INSERT " ++ before ++ "INTO ") ++ (c.tablePieces ++ (text (" " ++ list) ++ source.pieces true))
  | .unset | .existence | .raw _ _ => .error .unsetKind

/-- The alias behind the head: the statement's own, else the one of its derived table. -/
def aliasPieces (c : Clauses RenderedArg RenderedQuery) (withAlias : Bool) : List Rendering :=
  let derived :=
    match c.table with
    | some (.query q) => q.aliasName
    | _ => none
  (((if withAlias then c.aliasName else none).or derived).map fun name => text ("AS " ++ name)).toList

/-- The pieces of ON DUPLICATE KEY UPDATE. -/
def duplicatePieces (c : Clauses RenderedArg RenderedQuery) : List Rendering :=
  (c.duplicate.map fun row =>
    text "ON DUPLICATE KEY UPDATE " ++
      c.assignmentsPieces { c.payloadRules false with omitted := [] } "ON DUPLICATE" row).toList

/-- The pieces of a query of a union. -/
def unionPieces (u : Union RenderedQuery) : Rendering :=
  text (if u.all then "UNION ALL " else "UNION ") ++ u.query.pieces true

/-- The pieces of a joined table. -/
def joinedTablePieces : TableRef RenderedQuery → Rendering
  | .name s => text s
  | .query q => q.placed .source

/-- The pieces of a join: its table, then its ON list. -/
def joinPieces (j : Join RenderedArg RenderedQuery) : Rendering :=
  text (j.kind.sql ++ " ") ++
    (joinedTablePieces j.table ++
      if j.conditions.isEmpty then .ok [] else text " ON (" ++ (Condition.allPieces j.conditions ++ text ")"))

/-- The pieces of a list of conditions behind its keyword. -/
def conditionsPieces (keyword : String) (cs : List (Condition RenderedArg)) : List Rendering :=
  if cs.isEmpty then [] else [text (keyword ++ " ") ++ Condition.allPieces cs]

/-- The pieces of a term of an ORDER BY list. -/
def orderPieces : Order → Rendering
  | .term s => text s
  | .field column values =>
    if values.isEmpty then .error (.emptySequence ("FIELD (" ++ column ++ ")"))
    else text "FIELD (" ++ (join ", " (text column :: values.map value) ++ text ")")

/-- The pieces of the ORDER BY list. -/
def ordersPieces (orders : List Order) : List Rendering :=
  if orders.isEmpty then [] else [text "ORDER BY " ++ join ", " (orders.map orderPieces)]

/-- The parts behind options that are sorted by their place. -/
def parts (c : Clauses RenderedArg RenderedQuery) (withAlias : Bool) (options : Options) : List Rendering :=
  [c.headPieces options.leading] ++ c.aliasPieces withAlias ++ c.duplicatePieces ++ c.unions.map unionPieces ++
    c.joins.map joinPieces ++ conditionsPieces "WHERE" c.wheres ++ conditionsPieces "HAVING" c.havings ++
    ordersPieces c.orders ++ c.groupClause.map text ++ c.limitClause.map text ++ options.trailing.map text

/-- The pieces of a statement that has a head. -/
def clausePieces (c : Clauses RenderedArg RenderedQuery) (withAlias : Bool) : Rendering :=
  (Options.ofList c.options).bind fun options => join " " (c.parts withAlias options)

/-- The pieces of a statement. -/
def pieces (c : Clauses RenderedArg RenderedQuery) (withAlias : Bool) : Rendering :=
  match c.operation with
  | .unset => .error .unsetKind
  | .raw template args => Template.pieces template args .bare
  | .existence => text "SELECT EXISTS(" ++ ({ c with operation := .select }.clausePieces withAlias ++ text ")")
  | _ => c.clausePieces withAlias

end Clauses

/-! ## All arguments and statements -/

/-- A sequence in parentheses; an empty one fails with the template it stands in. -/
def sequencePieces (context : String) (items : List Value) : Rendering :=
  if items.isEmpty then .error (.emptySequence context)
  else text "(" ++ (join ", " (items.map value) ++ text ")")

mutual

/-- An argument with its pieces. -/
def Arg.rendered : Arg → RenderedArg
  | .value v => ⟨.value v, fun _ _ => value v⟩
  | .null => RenderedArg.null
  | .raw template args =>
    ⟨.raw template args, fun _ _ => Template.pieces template (mapMembers args fun a _ => a.rendered) .bare⟩
  | .query s => ⟨.query s, fun position _ => s.rendered.placed position⟩
  | .ident name => ⟨.ident name, fun _ _ => (quoteIdent name).map fun sql => [.text sql]⟩
  | .seq items => ⟨.seq items, fun _ context => sequencePieces context items⟩
termination_by a => sizeOf a
decreasing_by all_goals simp_all <;> omega

/-- A statement with its pieces. -/
def Statement.rendered : Statement → RenderedQuery
  | .mk c => ⟨c.aliasName, (c.mapSmaller (fun a _ => a.rendered) (fun q _ => q.rendered)).pieces⟩
termination_by s => sizeOf s
decreasing_by
  all_goals
    simp_all
    omega

end

theorem Arg.rendered_raw (template : String) (args : List Arg) :
    (Arg.raw template args).rendered =
      ⟨.raw template args, fun _ _ => Template.pieces template (args.map Arg.rendered) .bare⟩ := by
  rw [Arg.rendered, mapMembers_eq_map]

theorem Statement.rendered_mk (c : Clauses Arg Statement) :
    (Statement.mk c).rendered = ⟨c.aliasName, (c.map Arg.rendered Statement.rendered).pieces⟩ := by
  rw [Statement.rendered, Clauses.mapSmaller_eq_map]

/-- The argument behind a rendered one. -/
@[simp] theorem Arg.arg_rendered (a : Arg) : a.rendered.arg = a := by
  cases a <;> simp [Arg.rendered, RenderedArg.null]

/-- The pieces of a whole statement. -/
def Statement.pieces (s : Statement) : Rendering :=
  s.rendered.pieces true

end FluentSql
