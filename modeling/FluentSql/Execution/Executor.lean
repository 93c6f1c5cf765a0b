import FluentSql.Execution.Hook

/-!
# FluentSql.Execution.Executor — connections and the monitors around them

* `Connection`: answers commands after a delay; its answers may depend on all commands sent before.
* `Monitor`: hooks, a time limit and reports of slow queries.
* `Executor`: a connection inside any number of monitors.
* `Executor.call`: runs one query through all monitors. A monitor whose limit is reached first ends the query; the
  monitors inside it hear nothing more of it.
* `Executor.query`, `Executor.queryOptional`, `Executor.queryOne`, `Executor.execute`: the ways to run a query.
-/

namespace FluentSql

/-! ## Connections -/

/-- A connection to a database. The answers may depend on the commands sent before. -/
structure Connection (ρ : Type) where
  /-- The time until a command is sent, in nanoseconds. -/
  delay : Command → Nat
  rows : List Command → Command → Except SqlError (List ρ)
  affected : List Command → Command → Except SqlError UInt64
  /-- The time from sending a command to its answer, in nanoseconds. -/
  answerDelay : List Command → Command → Nat := fun _ _ => 0

/-- How the answer to a command is asked for, and the outcome that hooks are told of it. -/
structure Ask (ρ β : Type) where
  mode : CallMode
  answer : Connection ρ → List Command → Command → Except SqlError β
  outcome : β → QueryOutcome

/-- Asks for rows. -/
def Ask.rows {ρ : Type} : Ask ρ (List ρ) :=
  { mode := .query, answer := Connection.rows, outcome := fun rs => .rows rs.length }

/-- Asks for the number of affected rows. -/
def Ask.affected {ρ : Type} : Ask ρ UInt64 :=
  { mode := .execute, answer := Connection.affected, outcome := .affected }

/-- Sends a command and takes the answer. -/
def Connection.send {ρ β : Type} (c : Connection ρ) (ask : Ask ρ β) (command : Command) :
    Run ρ (Except SqlError β) := do
  let before := sentCommands (← Run.history)
  Run.emit (.sent command)
  return ask.answer c before command

/-! ## Monitors -/

/-- What stands around an executor. -/
structure Monitor (ρ : Type) where
  hooks : List (Hook ρ) := []
  /-- The time a query may take, in nanoseconds. -/
  timeout : Option Nat := none
  /-- Slow queries are reported. -/
  reportsSlow : Bool := false
  /-- Whether a query that ended took so long that it counts as slow. -/
  isSlow : List (Moment ρ) → QueryContext → Bool := fun _ _ => true

namespace Monitor

variable {ρ : Type}

/-- Asks hooks in order, the first of them at a given place. Each sees the text left by those before it; the first
refusal ends the query. -/
def consult (level : Nat) : Nat → List (Hook ρ) → QueryContext → Run ρ (Except SqlError QueryContext)
  | _, [], ctx => return .ok ctx
  | place, h :: hs, ctx => do
    let (action, notices) := h.before (← Run.history) ctx
    Run.record [.asked level place ctx action]
    Run.notify notices
    match action with
    | .proceed => consult level (place + 1) hs ctx
    | .rewrite sql => consult level (place + 1) hs (ctx.rewrite sql)
    | .abort reason => return .error (.execution s!"query aborted by hook: {reason}")

/-- Tells hooks in order how a query ended, the first of them at a given place. -/
def tell (level : Nat) (ctx : QueryContext) (outcome : QueryOutcome) : Nat → List (Hook ρ) → Run ρ Unit
  | _, [] => return ()
  | place, h :: hs => do
    let notices := h.after (← Run.history) ctx outcome
    Run.record [.told level place ctx outcome]
    Run.notify notices
    tell level ctx outcome (place + 1) hs

/-- Tells all hooks how a query ended and reports it if it was slow. -/
def report (m : Monitor ρ) (level : Nat) (ctx : QueryContext) (outcome : QueryOutcome) : Run ρ Unit := do
  tell level ctx outcome 0 m.hooks
  if m.reportsSlow && m.isSlow (← Run.history) ctx then Run.notify [.message (.slow ctx)]

/-- The limit of this monitor is reached no later than the deadline set around it. -/
def endsFirst (m : Monitor ρ) (deadline : Option Nat) : Bool :=
  match m.timeout, deadline with
  | none, _ => false
  | some _, none => true
  | some own, some outer => own ≤ outer

/-- The earlier of the monitor's limit and the deadline set around it. -/
def deadline (m : Monitor ρ) (outer : Option Nat) : Option Nat :=
  if m.endsFirst outer then m.timeout else outer

end Monitor

/-! ## Executors -/

/-- A connection inside any number of monitors. -/
inductive Executor (ρ : Type) where
  | direct (c : Connection ρ)
  | monitored (m : Monitor ρ) (inner : Executor ρ)

/-- How a call ended: with an answer, or cut off at the deadline set around it. -/
inductive Completion (β : Type) where
  | finished (r : Except SqlError β)
  | cut

namespace Executor

variable {ρ β : Type}

/-- The connection inside all monitors. -/
def connection : Executor ρ → Connection ρ
  | direct c => c
  | monitored _ inner => inner.connection

/-- The number of monitors around the connection. -/
def level : Executor ρ → Nat
  | direct _ => 0
  | monitored _ inner => inner.level + 1

/-- The outcome that hooks are told of an answer. -/
def outcomeOf (ask : Ask ρ β) : Except SqlError β → QueryOutcome
  | .ok b => ask.outcome b
  | .error e => .ofMessage e.message

/-- Runs a query that must end by a deadline. It may be cut off before its command is sent or while the answer is
awaited. -/
def call (ask : Ask ρ β) (params : List Value) : Executor ρ → Option Nat → String → Run ρ (Completion β)
  | direct c, deadline, sql => do
    let command := { sql, params, mode := ask.mode }
    Run.record [.called 0 command]
    if deadline.any (· < c.delay command) then return .cut
    let awaited := c.delay command + c.answerDelay (sentCommands (← Run.history)) command
    let answer ← c.send ask command
    if deadline.any (· < awaited) then return .cut
    return .finished answer
  | monitored m inner, deadline, sql => do
    Run.record [.called (inner.level + 1) { sql, params, mode := ask.mode }]
    match ← Monitor.consult (inner.level + 1) 0 m.hooks (.ofSql sql params.length) with
    | .error e => return .finished (.error e)
    | .ok ctx =>
      match ← call ask params inner (m.deadline deadline) ctx.sql with
      | .finished r =>
        m.report (inner.level + 1) ctx (outcomeOf ask r)
        return .finished r
      | .cut =>
        match m.endsFirst deadline, m.timeout with
        | true, some limit =>
          let r := .error (.timeout limit)
          m.report (inner.level + 1) ctx (outcomeOf ask r)
          return .finished r
        | _, _ => return .cut

/-- Runs a query without a deadline around it, so that it is never cut off from outside. -/
def perform (e : Executor ρ) (ask : Ask ρ β) (sql : String) (params : List Value) : Run ρ (Except SqlError β) := do
  match ← call ask params e none sql with
  | .finished r => return r
  | .cut => return .error (.timeout 0)

/-- All rows of a query. -/
def query (e : Executor ρ) (sql : String) (params : List Value) : Run ρ (Except SqlError (List ρ)) :=
  e.perform Ask.rows sql params

/-- The number of rows that a query affected. -/
def execute (e : Executor ρ) (sql : String) (params : List Value) : Run ρ (Except SqlError UInt64) :=
  e.perform Ask.affected sql params

/-- The first row of a query, if it has one. -/
def queryOptional (e : Executor ρ) (sql : String) (params : List Value) : Run ρ (Except SqlError (Option ρ)) := do
  return (← e.query sql params).map (·.head?)

/-- The first row of a query. -/
def queryOne (e : Executor ρ) (sql : String) (params : List Value) : Run ρ (Except SqlError ρ) := do
  match ← e.queryOptional sql params with
  | .ok (some r) => return .ok r
  | .ok none => return .error (.notFound s!"no row returned by `{sql}`")
  | .error err => return .error err

end Executor
end FluentSql
