import FluentSql.Error
import FluentSql.Text.Blank
import FluentSql.Text.Truncate

/-!
# FluentSql.Execution.Query — what is known about a query while it runs

* `QueryType.ofSql`: the type of a query, by its leading keyword.
* `QueryContext`: the query that is about to run, as hooks see it; `HookAction` is what a hook wants of it.
* `QueryOutcome`: how a query ended, as hooks see it; error texts are cut to 512 bytes.
-/

namespace FluentSql

/-! ## Types of queries -/

/-- The type of a query. -/
inductive QueryType where
  | select
  /-- INSERT or REPLACE. -/
  | insert
  | update
  | delete
  /-- Everything else. -/
  | other
  deriving DecidableEq, Repr

namespace QueryType

/-- The name of a type. -/
def name : QueryType → String
  | .select => "Select"
  | .insert => "Insert"
  | .update => "Update"
  | .delete => "Delete"
  | .other => "Other"

/-- The leading keyword of a query, in upper case; blanks and opening parentheses before it are passed over. -/
def keyword (sql : String) : String :=
  let rest := sql.toList.dropWhile fun c => Text.isBlank c || c == '('
  String.ofList ((rest.takeWhile Char.isAlpha).map Char.toUpper)

/-- The type of a query. -/
def ofSql (sql : String) : QueryType :=
  let k := keyword sql
  if k = "SELECT" then .select
  else if k = "INSERT" ∨ k = "REPLACE" then .insert
  else if k = "UPDATE" then .update
  else if k = "DELETE" then .delete
  else .other

end QueryType

/-! ## Contexts and outcomes -/

/-- The query that is about to run. -/
structure QueryContext where
  sql : String
  paramCount : Nat
  queryType : QueryType
  deriving DecidableEq, Repr

/-- The context of a query. -/
def QueryContext.ofSql (sql : String) (paramCount : Nat) : QueryContext :=
  { sql, paramCount, queryType := QueryType.ofSql sql }

/-- The same query with another text. -/
def QueryContext.rewrite (ctx : QueryContext) (sql : String) : QueryContext :=
  QueryContext.ofSql sql ctx.paramCount

/-- What a hook wants of a query. -/
inductive HookAction where
  | proceed
  /-- Run this text instead; the values stay. -/
  | rewrite (sql : String)
  /-- Fail without running anything. -/
  | abort (reason : String)
  deriving DecidableEq, Repr

/-- How a query ended. -/
inductive QueryOutcome where
  | rows (n : Nat)
  | affected (n : UInt64)
  | failed (message : String)
  deriving DecidableEq, Repr

namespace QueryOutcome

/-- The outcome of a failure; a text of more than 512 bytes is cut. -/
def ofMessage (message : String) : QueryOutcome :=
  .failed (Text.abbreviate 512 message)

/-- The text of an outcome. -/
def text : QueryOutcome → String
  | .rows n => s!"{n} rows"
  | .affected n => s!"{n.toNat} affected"
  | .failed message => s!"error: {message}"

end QueryOutcome
end FluentSql
