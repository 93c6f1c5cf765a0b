import FluentSql.Execution.Event

/-!
# FluentSql.Execution.Hook — what watches or changes queries

* `Hook`: is asked before a query runs and told after it ended. What it does may depend on the whole run so far.
* `Hook.abort`, `Hook.prepend`, `Hook.substitute`: refuse or rewrite the queries of a type.
* `Hook.watchBefore`, `Hook.watchAfter`: leave what they see in the log.
* `Hook.tracing`: logs each query as it is sent and, if wanted, how it ended.
-/

namespace FluentSql

/-- A hook: what it wants and notes before a query, and what it notes after it. Whatever state a hook keeps is a
function of the run so far, which holds all calls of the hook. -/
structure Hook (ρ : Type) where
  before : List (Moment ρ) → QueryContext → HookAction × List Notice := fun _ _ => (.proceed, [])
  after : List (Moment ρ) → QueryContext → QueryOutcome → List Notice := fun _ _ _ => []

namespace Hook

variable {ρ : Type}

/-- A hook that acts on queries of one type, or of all types. -/
def acting (on : Option QueryType) (action : QueryContext → HookAction) : Hook ρ :=
  { before := fun _ ctx => (if on.all (· == ctx.queryType) then action ctx else .proceed, []) }

/-- Refuses queries. -/
def abort (on : Option QueryType) (reason : String) : Hook ρ :=
  acting on fun _ => .abort reason

/-- Puts a text in front of queries. -/
def prepend (on : Option QueryType) (text : String) : Hook ρ :=
  acting on fun ctx => .rewrite (text ++ ctx.sql)

/-- Runs another text instead of queries. -/
def substitute (on : Option QueryType) (text : String) : Hook ρ :=
  acting on fun _ => .rewrite text

/-- Notes each query before it runs. -/
def watchBefore : Hook ρ :=
  { before := fun _ ctx => (.proceed, [.before ctx]) }

/-- Notes each query and its outcome after it ended. -/
def watchAfter : Hook ρ :=
  { after := fun _ ctx outcome => [.after ctx outcome] }

/-! ## Tracing -/

/-- How queries are traced. -/
structure Tracing where
  level : LogLevel := .debug
  /-- The number of bytes after which a query is cut; none shows all of it. -/
  sqlLimit : Option Nat := some 200
  /-- Whether the outcome is logged too. -/
  outcome : Bool := false

/-- The text of a query as it is shown. -/
def Tracing.shown (t : Tracing) (sql : String) : String :=
  match t.sqlLimit with
  | some limit => Text.abbreviate limit sql
  | none => sql

/-- The message about a query that is sent. -/
def Tracing.sending (t : Tracing) (ctx : QueryContext) : LogMessage :=
  { level := t.level, target := .running, message := "sending statement"
    fields := [("kind", .text ctx.queryType.name), ("params", .count ctx.paramCount),
      ("sql", .text (t.shown ctx.sql))] }

/-- The message about a query that ended. -/
def Tracing.finished (t : Tracing) (ctx : QueryContext) (outcome : QueryOutcome) : LogMessage :=
  { level := t.level, target := .running, message := "statement finished"
    fields := [("kind", .text ctx.queryType.name), ("outcome", .text outcome.text)] }

/-- Logs queries. -/
def tracing (t : Tracing) : Hook ρ :=
  { before := fun _ ctx => (.proceed, [.message (t.sending ctx)])
    after := fun _ ctx outcome => if t.outcome then [.message (t.finished ctx outcome)] else [] }

end Hook
end FluentSql
