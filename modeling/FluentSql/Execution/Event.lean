import FluentSql.Compile.Build
import FluentSql.Execution.Query

/-!
# FluentSql.Execution.Event — what happens in a run

* `Command`: what is sent over a connection.
* `LogMessage`: a message with a level, a target and named fields.
* `Notice`: what hooks and builds leave in the log.
* `Event`: one entry of the log: a command sent, a notice, or the result of a step.
* `Moment`: an entry of the log, or a call of an executor or a hook.
* `World`: the moments so far and the number of savepoints named so far; `Run` is a computation on it.
-/

namespace FluentSql

/-! ## Commands and results -/

/-- How a command is sent. -/
inductive CallMode where
  /-- For its rows. -/
  | query
  /-- For the number of affected rows. -/
  | execute
  deriving DecidableEq, Repr

/-- The name of a mode. -/
def CallMode.name : CallMode → String
  | .query => "query"
  | .execute => "execute"

/-- What is sent over a connection. -/
structure Command where
  sql : String
  params : List Value
  mode : CallMode

/-- What a step of a program yields. -/
inductive Reply (ρ : Type) where
  | rows (rs : List ρ)
  | row (r : ρ)
  | optionalRow (r : Option ρ)
  | affected (n : UInt64)
  | done

/-! ## Messages -/

/-- The level of a message. -/
inductive LogLevel where
  | trace
  | debug
  | info
  | warn
  | error
  deriving DecidableEq, Repr

/-- The name of a level. -/
def LogLevel.name : LogLevel → String
  | .trace => "TRACE"
  | .debug => "DEBUG"
  | .info => "INFO"
  | .warn => "WARN"
  | .error => "ERROR"

/-- What a message is about. -/
inductive LogTarget where
  /-- Compiling statements. -/
  | compiling
  /-- Running queries. -/
  | running
  deriving DecidableEq, Repr

/-- The name of a target. -/
def LogTarget.name : LogTarget → String
  | .compiling => "sqlweave.build"
  | .running => "sqlweave.sql"

/-- The value of a field of a message. -/
inductive LogField where
  | text (s : String)
  | count (n : Nat)
  deriving DecidableEq, Repr

/-- A message of the log. -/
structure LogMessage where
  level : LogLevel
  target : LogTarget
  message : String
  fields : List (String × LogField)
  deriving DecidableEq, Repr

/-- The message about a statement that was compiled, or could not be. -/
def LogMessage.ofBuild (kind : StatementKind) : Except SqlError BuiltQuery → LogMessage
  | .ok q =>
    { level := .trace, target := .compiling, message := "statement compiled"
      fields := [("kind", .text kind.name), ("params", .count q.params.length), ("sql", .text q.sql)] }
  | .error e =>
    { level := .debug, target := .compiling, message := "statement build failed"
      fields := [("kind", .text kind.name), ("error", .text e.message)] }

/-- The message about a slow query. -/
def LogMessage.slow (ctx : QueryContext) : LogMessage :=
  { level := .warn, target := .running, message := "slow query"
    fields := [("query_type", .text ctx.queryType.name), ("sql", .text ctx.sql)] }

/-! ## The log -/

/-- What hooks and builds leave in the log. -/
inductive Notice where
  | before (ctx : QueryContext)
  | after (ctx : QueryContext) (outcome : QueryOutcome)
  | message (m : LogMessage)
  deriving DecidableEq, Repr

/-- One entry of the log. -/
inductive Event (ρ : Type) where
  | sent (c : Command)
  | notice (n : Notice)
  | finished (label : String) (result : Except SqlError (Reply ρ))

/-! ## Moments of a run -/

/-- One moment of a run: an entry of the log, or a call that leaves none. The level of an executor is the number of
monitors in it; hooks have the level of their monitor and their place in it, from 0 on. -/
inductive Moment (ρ : Type) where
  | logged (e : Event ρ)
  /-- An executor is called. -/
  | called (level : Nat) (c : Command)
  /-- A hook is asked before a query, and answers. -/
  | asked (level place : Nat) (ctx : QueryContext) (action : HookAction)
  /-- A hook is told how a query ended. -/
  | told (level place : Nat) (ctx : QueryContext) (outcome : QueryOutcome)

namespace Moment

variable {ρ : Type}

/-- The entry that a moment leaves in the log. -/
def event? : Moment ρ → Option (Event ρ)
  | logged e => some e
  | _ => none

/-- The command that is sent. -/
def command? : Moment ρ → Option Command
  | logged (.sent c) => some c
  | _ => none

end Moment

/-- The commands sent among moments. -/
def sentCommands {ρ : Type} (ms : List (Moment ρ)) : List Command :=
  ms.filterMap Moment.command?

/-- What a run has left behind so far. -/
structure World (ρ : Type) where
  history : List (Moment ρ) := []
  /-- The number of savepoints that were given a name of their own. -/
  savepoints : UInt64 := 0

/-- The log so far. -/
def World.log {ρ : Type} (w : World ρ) : List (Event ρ) :=
  w.history.filterMap Moment.event?

/-- A computation on the world. -/
abbrev Run (ρ β : Type) : Type :=
  StateM (World ρ) β

/-- The name of a savepoint that has none: a number. -/
def savepointName (n : UInt64) : String :=
  "sqlweave_sp_" ++ toString n.toNat

namespace Run

variable {ρ : Type}

/-- Adds moments to the run. -/
def record (ms : List (Moment ρ)) : Run ρ Unit :=
  modify fun w => { w with history := w.history ++ ms }

/-- Adds an entry to the log. -/
def emit (e : Event ρ) : Run ρ Unit :=
  record [.logged e]

/-- Adds notices to the log. -/
def notify (ns : List Notice) : Run ρ Unit :=
  record (ns.map fun n => .logged (.notice n))

/-- The moments so far. -/
def history : Run ρ (List (Moment ρ)) := do
  return (← get).history

/-- A name for a savepoint that has none: numbers from 0 on. -/
def freshSavepoint : Run ρ String := do
  let n := (← get).savepoints
  modify fun w => { w with savepoints := n + 1 }
  return savepointName n

end Run
end FluentSql
