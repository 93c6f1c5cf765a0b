import FluentSql.Compile.Expand
import FluentSql.Payload

/-!
# FluentSql.Compile.Assemble — the text of a statement from its clauses

The clauses stand in a fixed order: head, alias, ON DUPLICATE KEY UPDATE, unions, joins, WHERE, HAVING, ORDER BY,
GROUP BY, LIMIT, trailing options. Each is written only when there is something in it.

* `Options.ofList`: options behind the verb and options at the end; an unknown one fails before anything else.
* `Clauses.head`: the verb with its table, projection or payload.
* `Clauses.assemble`: all clauses, joined by spaces.
-/

namespace FluentSql

/-! ## Options -/

/-- Options written right behind the verb. -/
def leadingOptions : List String :=
  ["ALL", "DISTINCT", "SQL_CACHE", "SQL_NO_CACHE", "DISTINCTROW", "HIGH_PRIORITY", "STRAIGHT_JOIN", "SQL_SMALL_RESULT",
    "SQL_BIG_RESULT", "SQL_BUFFER_RESULT", "SQL_CALC_FOUND_ROWS", "LOW_PRIORITY", "QUICK", "IGNORE", "DELAYED"]

/-- Options written at the very end. -/
def trailingOptions : List String :=
  ["FOR UPDATE", "LOCK IN SHARE MODE"]

/-- The options of a statement by their place. -/
structure Options where
  leading : List String
  trailing : List String
  deriving DecidableEq, Repr

/-- Sorts options by their place, keeping their order. -/
def Options.ofList (options : List String) : Except SqlError Options :=
  match options.find? fun o => !(leadingOptions.contains o || trailingOptions.contains o) with
  | some o => .error (.unknownOption o)
  | none => .ok ⟨options.filter leadingOptions.contains, options.filter trailingOptions.contains⟩

namespace Clauses

/-! ## Tables, projections and payloads -/

/-- The table of a statement. -/
def tableText (c : Clauses Operand Subquery) : Binder String :=
  match c.table with
  | some (.name text) => return text
  | some (.query q) => q.derived
  | none => Binder.fail (.missingTable c.operation.kind)

/-- One entry of a projection. -/
def projectionEntry : Projection Operand → Binder String
  | .column text => return text
  | .arg o => o.render .source "SELECT"

/-- The projection of a statement; an empty one stands for all columns. -/
def projectionText (c : Clauses Operand Subquery) : Binder String := do
  if c.columns.isEmpty then return "*"
  return ", ".intercalate (← c.columns.mapM projectionEntry)

/-- The rules for the payload of a statement. -/
def payloadRules {α σ : Type} (c : Clauses α σ) (patch : Bool) : PayloadRules :=
  { omitted := c.omitted, exclusions := c.exclusions, config := c.config, patch }

/-- One group of values in parentheses. -/
def groupText (group : List Operand) : Binder String := do
  return "(" ++ ", ".intercalate (← group.mapM fun o => o.render .value "VALUES") ++ ")"

/-- `(columns) VALUES (…), (…)`; without rows there is one empty group. -/
def valuesText (c : Clauses Operand Subquery) (rows : List (Record Operand)) : Binder String := do
  let payload := Payload.ofRecords Operand.arg Operand.null (c.payloadRules false) rows
  let groups ← payload.groups.mapM groupText
  return "(" ++ ", ".intercalate payload.columns ++ ") VALUES " ++
    ", ".intercalate (if groups.isEmpty then ["()"] else groups)

/-- One assignment. -/
def assignment (context : String) (entry : String × Operand) : Binder String := do
  return entry.1 ++ " = " ++ (← entry.2.render .value context)

/-- `column = value, …`; there must be at least one. -/
def assignmentsText (c : Clauses Operand Subquery) (rules : PayloadRules) (context : String) (row : Record Operand) :
    Binder String := do
  let entries := row.entries Operand.arg rules
  if entries.isEmpty then Binder.fail (.emptyAssignments c.operation.kind)
  return ", ".intercalate (← entries.mapM (assignment context))

/-! ## The head -/

/-- Leading options, each with a space behind it. -/
def optionsText (leading : List String) : String :=
  String.join (leading.map (· ++ " "))

/-- `verb INTO table (columns) VALUES …` -/
def insertHead (c : Clauses Operand Subquery) (verb : String) (leading : List String) (rows : List (Record Operand)) :
    Binder String := do
  let table ← c.tableText
  let values ← c.valuesText rows
  return verb ++ " " ++ optionsText leading ++ "INTO " ++ table ++ " " ++ values

/-- `UPDATE table SET …` -/
def updateHead (c : Clauses Operand Subquery) (leading : List String) (patch : Bool) (row : Record Operand) :
    Binder String := do
  let table ← c.tableText
  let pairs ← c.assignmentsText (c.payloadRules patch) "SET" row
  return "UPDATE " ++ optionsText leading ++ table ++ " SET " ++ pairs

/-- `INSERT INTO table (columns) query` -/
def insertSelectHead (c : Clauses Operand Subquery) (leading : List String) (source : Subquery)
    (columns : List String) : Binder String := do
  let table ← c.tableText
  let query ← source.render .bare
  let list := if columns.isEmpty then "" else "(" ++ ", ".intercalate columns ++ ") "
  return "INSERT " ++ optionsText leading ++ "INTO " ++ table ++ " " ++ list ++ query

/-- The head of a statement that is put together from clauses. -/
def head (c : Clauses Operand Subquery) (leading : List String) : Binder String :=
  match c.operation with
  | .select => do
    let projection ← c.projectionText
    let table ← c.tableText
    return "SELECT " ++ optionsText leading ++ projection ++ " FROM " ++ table
  | .insert rows => c.insertHead "INSERT" leading rows
  | .replace rows => c.insertHead "REPLACE" leading rows
  | .update row => c.updateHead leading false row
  | .patch row => c.updateHead leading true row
  | .delete => do
    let table ← c.tableText
    return "DELETE " ++ optionsText leading ++ "FROM " ++ table
  | .insertSelect source columns => c.insertSelectHead leading source columns
  | .unset | .existence | .raw _ _ => Binder.fail .unsetKind

/-! ## The clauses behind the head -/

/-- The alias written behind the head: the statement's own, else the one of its derived table. -/
def aliasClause (c : Clauses Operand Subquery) (withAlias : Bool) : List String :=
  let own := if withAlias then c.aliasName else none
  let derived :=
    match c.table with
    | some (.query q) => q.aliasName
    | _ => none
  match own.or derived with
  | some name => ["AS " ++ name]
  | none => []

/-- Assignments for a row that is already there. Columns left out of the payload are kept here. -/
def duplicateClause (c : Clauses Operand Subquery) : Binder (List String) :=
  match c.duplicate with
  | none => return []
  | some row => do
    let rules := { c.payloadRules false with omitted := [] }
    return ["ON DUPLICATE KEY UPDATE " ++ (← c.assignmentsText rules "ON DUPLICATE" row)]

/-- One query of a union. -/
def unionClause (u : Union Subquery) : Binder String := do
  return (if u.all then "UNION ALL " else "UNION ") ++ (← u.query.render .bare)

/-- One join. -/
def joinClause (j : Join Operand Subquery) : Binder String := do
  let table ←
    match j.table with
    | .name text => pure text
    | .query q => q.render .source
  if j.conditions.isEmpty then return j.kind.sql ++ " " ++ table
  return j.kind.sql ++ " " ++ table ++ " ON (" ++ (← Condition.compileAll j.conditions) ++ ")"

/-- A keyword and its list of conditions. -/
def conditionsClause (keyword : String) (cs : List (Condition Operand)) : Binder (List String) := do
  if cs.isEmpty then return []
  return [keyword ++ " " ++ (← Condition.compileAll cs)]

/-- One term of an ORDER BY list. -/
def orderTerm : Order → Binder String
  | .term text => return text
  | .field column values => do
    if values.isEmpty then Binder.fail (.emptySequence ("FIELD (" ++ column ++ ")"))
    let markers ← values.mapM Binder.bindValue
    return "FIELD (" ++ ", ".intercalate (column :: markers) ++ ")"

/-- The ORDER BY list. -/
def orderClause (c : Clauses Operand Subquery) : Binder (List String) := do
  if c.orders.isEmpty then return []
  return ["ORDER BY " ++ ", ".intercalate (← c.orders.mapM orderTerm)]

/-- The GROUP BY list. -/
def groupClause {α σ : Type} (c : Clauses α σ) : List String :=
  if c.groups.isEmpty then [] else ["GROUP BY " ++ ", ".intercalate c.groups]

/-- The row limit. -/
def limitClause {α σ : Type} (c : Clauses α σ) : List String :=
  match c.limit with
  | none => []
  | some (.count n) => ["LIMIT " ++ toString n.toNat]
  | some (.range offset count) => ["LIMIT " ++ toString offset.toNat ++ ", " ++ toString count.toNat]
  | some (.offset count offset) => ["LIMIT " ++ toString count.toNat ++ " OFFSET " ++ toString offset.toNat]

/-! ## The whole statement -/

/-- All clauses of a statement that has a head. -/
def assembleClauses (c : Clauses Operand Subquery) (withAlias : Bool) : Binder String := do
  let options ← Options.ofList c.options
  let head ← c.head options.leading
  let duplicate ← c.duplicateClause
  let unions ← c.unions.mapM unionClause
  let joins ← c.joins.mapM joinClause
  let wheres ← conditionsClause "WHERE" c.wheres
  let havings ← conditionsClause "HAVING" c.havings
  let orders ← c.orderClause
  return " ".intercalate
    ([head] ++ c.aliasClause withAlias ++ duplicate ++ unions ++ joins ++ wheres ++ havings ++ orders ++
      c.groupClause ++ c.limitClause ++ options.trailing)

/-- The text of a statement. Its alias is left out where the surrounding statement writes it. -/
def assemble (c : Clauses Operand Subquery) (withAlias : Bool) : Binder String :=
  match c.operation with
  | .unset => Binder.fail .unsetKind
  | .raw template args => Template.expand template args .bare
  | .existence => do
    let sql ← { c with operation := .select }.assembleClauses withAlias
    return "SELECT EXISTS(" ++ sql ++ ")"
  | _ => c.assembleClauses withAlias

end Clauses
end FluentSql
