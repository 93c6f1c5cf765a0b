import FluentSql.Statement.Describe
import FluentSql.Statement.Shorthand

/-!
# FluentSql.Compile.Binder — writing text and binding values

* `Binder`: a computation that binds values behind those already bound, or fails.
* `Position`: where an argument is written, which decides how a nested statement is wrapped.
* `Operand`: an argument together with its rendering; `Subquery`: a nested statement together with its rendering.
* `bindValue`, `bindAll`, `spliced`: bind one value, a sequence, or all values of a finished query.
-/

namespace FluentSql

/-! ## Compiled queries -/

/-- The text of a statement and the values bound to its markers, in order. -/
structure BuiltQuery where
  sql : String
  params : List Value
  deriving Repr

/-- A computation that binds values behind those already bound. -/
abbrev Binder (β : Type) : Type :=
  StateT (List Value) (Except SqlError) β

namespace Binder

/-- Fails. -/
def fail {β : Type} (e : SqlError) : Binder β :=
  throw e

/-- Binds one value to a marker. -/
def bindValue (v : Value) : Binder String := do
  modify (· ++ [v])
  return "?"

/-- Binds a sequence to one marker for each element; an empty one fails with the template it stands in. -/
def bindAll (context : String) (items : List Value) : Binder String := do
  if items.isEmpty then fail (.emptySequence context)
  modify (· ++ items)
  return "(" ++ placeholders items.length ++ ")"

/-- Runs a computation with nothing bound before it. -/
def standalone (b : Binder String) : Except SqlError BuiltQuery :=
  match b.run [] with
  | .ok (sql, params) => .ok ⟨sql, params⟩
  | .error e => .error e

/-- The text of a computation that is run by itself; its values are bound behind those already bound. -/
def spliced (b : Binder String) : Binder String := do
  let q ← standalone b
  modify (· ++ q.params)
  return q.sql

end Binder

/-! ## Operands -/

/-- Where an argument is written. -/
inductive Position where
  /-- A value of a condition or payload: a nested statement stands in parentheses. -/
  | value
  /-- A table or projection: a nested statement stands in parentheses, its alias behind them. -/
  | source
  /-- Inside a raw expression: a nested statement stands as it is. -/
  | bare
  deriving DecidableEq, Repr

/-- An argument and its rendering at a position, within a template or clause of the given text. -/
structure Operand where
  arg : Arg
  render : Position → String → Binder String

/-- The keyword NULL as an operand. -/
def Operand.null : Operand :=
  ⟨.null, fun _ _ => return "NULL"⟩

/-- A nested statement: its alias, and its text with or without that alias. -/
structure Subquery where
  aliasName : Option String
  assemble : Bool → Binder String

namespace Subquery

/-- A text in parentheses. -/
def parenthesized (sql : String) : String :=
  "(" ++ sql ++ ")"

/-- A nested statement at a position, compiled by itself and spliced in. -/
def render (q : Subquery) : Position → Binder String
  | .bare => Binder.spliced (q.assemble true)
  | .value => return parenthesized (← Binder.spliced (q.assemble true))
  | .source => do
    let sql ← Binder.spliced (q.assemble false)
    match q.aliasName with
    | some name => return parenthesized sql ++ " AS " ++ name
    | none => return parenthesized sql

/-- A derived table of a statement, which writes the alias itself. -/
def derived (q : Subquery) : Binder String := do
  return parenthesized (← Binder.spliced (q.assemble false))

end Subquery
end FluentSql
