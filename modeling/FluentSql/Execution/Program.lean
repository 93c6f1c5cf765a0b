import FluentSql.Execution.Transaction

/-!
# FluentSql.Execution.Program — programs of queries and blocks

* `Action`: compile and run a statement, run a query, send a control command, or fail.
* `Code`: actions and blocks in any order, where everything may depend on the results before it.
* `Step`: an action, a transaction or a savepoint, with how its failure is handled.
* `Step.code`, `Step.bodyCode`: steps as code that runs until one fails and is not handled.
* `Step.programCode`: steps as code that runs all of them, whatever their results.
-/

namespace FluentSql

/-! ## Actions -/

/-- One action of a program. -/
inductive Action where
  | fetch (s : Statement)
  | fetchOne (s : Statement)
  | fetchOptional (s : Statement)
  | executeStatement (s : Statement)
  | query (sql : String) (params : List Value)
  | queryOne (sql : String) (params : List Value)
  | queryOptional (sql : String) (params : List Value)
  | execute (sql : String) (params : List Value)
  | control (c : Control)
  | fail (message : String)

section Actions

variable {ρ : Type}

/-- Compiles a statement, logs that, and goes on with the compiled query. -/
def built (s : Statement) (next : String → List Value → Run ρ (Except SqlError (Reply ρ))) :
    Run ρ (Except SqlError (Reply ρ)) := do
  Run.notify [.message (.ofBuild s.kind s.build)]
  match s.build with
  | .ok q => next q.sql q.params
  | .error e => return .error e

/-- Runs an action. -/
def Action.run (e : Executor ρ) : Action → Run ρ (Except SqlError (Reply ρ))
  | .fetch s => built s fun sql params => do return (← e.query sql params).map .rows
  | .fetchOne s => built s fun sql params => do return (← e.queryOne sql params).map .row
  | .fetchOptional s => built s fun sql params => do return (← e.queryOptional sql params).map .optionalRow
  | .executeStatement s => built s fun sql params => do return (← e.execute sql params).map .affected
  | .query sql params => do return (← e.query sql params).map .rows
  | .queryOne sql params => do return (← e.queryOne sql params).map .row
  | .queryOptional sql params => do return (← e.queryOptional sql params).map .optionalRow
  | .execute sql params => do return (← e.execute sql params).map .affected
  | .control c => do return (← e.control c).map fun _ => .done
  | .fail message => return .error (.execution message)

end Actions

/-! ## Code -/

/-- Code that runs actions and blocks. What it does next may depend on every result it has seen. -/
inductive Code (ρ : Type) where
  /-- The code ends. -/
  | done (r : Except SqlError (Reply ρ))
  /-- An action. -/
  | act (a : Action) (next : Except SqlError (Reply ρ) → Code ρ)
  /-- A block. When its own command fails and it does not stand in a function of its own, the code ends at once. -/
  | block (b : Block) (isFunction : Bool) (body : Code ρ) (next : Except SqlError (Reply ρ) → Code ρ)
  /-- A result is logged under a name. -/
  | log (label : String) (r : Except SqlError (Reply ρ)) (next : Code ρ)

/-- Runs code. -/
def Code.run {ρ : Type} (e : Executor ρ) : Code ρ → Run ρ (Except SqlError (Reply ρ))
  | done r => return r
  | act a next => do (next (← a.run e)).run e
  | block b isFunction body next => do
    match ← b.run e (body.run e), isFunction with
    | .leave err, false => return .error err
    | exit, _ => (next exit.result).run e
  | log label r next => do
    Run.emit (.finished label r)
    next.run e

/-! ## Steps -/

/-- How the result of a step is treated. -/
structure Handling where
  /-- The name under which the result is logged. -/
  label : String
  /-- A failure is handled by the surrounding block, which goes on. -/
  caught : Bool := false
  /-- A block stands in a function of its own, so that its own commands cannot end the surrounding block. -/
  isFunction : Bool := true

/-- Logs the result of a step. A failure that is not caught ends the surrounding block. -/
def Handling.settle {ρ : Type} (h : Handling) (r : Except SqlError (Reply ρ)) (rest : Code ρ) : Code ρ :=
  .log h.label r
    (match r, h.caught with
    | .error err, false => .done (.error err)
    | _, _ => rest)

/-- One step of a program. -/
inductive Step where
  | act (handling : Handling) (action : Action)
  | transaction (handling : Handling) (body : List Step)
  | savepoint (handling : Handling) (name : Option String) (body : List Step)

namespace Step

variable {ρ : Type}

/-- How the result of a step is treated. -/
def handling : Step → Handling
  | act h _ => h
  | transaction h _ => h
  | savepoint h _ _ => h

mutual

/-- A step that is treated in some way, and the code behind it. -/
def code : Step → Handling → Code ρ → Code ρ
  | act _ a, h, rest => .act a fun r => h.settle r rest
  | transaction _ body, h, rest => .block .transaction h.isFunction (bodyCode body) fun r => h.settle r rest
  | savepoint _ name body, h, rest => .block (.savepoint name) h.isFunction (bodyCode body) fun r => h.settle r rest

/-- The steps of a block. They end with no value of their own. -/
def bodyCode : List Step → Code ρ
  | [] => .done (.ok .done)
  | s :: ss => s.code s.handling (bodyCode ss)

end

/-- The steps of a program: every failure is logged, and the next step runs. -/
def programCode : List Step → Code ρ
  | [] => .done (.ok .done)
  | s :: ss => s.code { label := s.handling.label, caught := true } (programCode ss)

/-- The log of a program. -/
def logOf (e : Executor ρ) (program : List Step) : List (Event ρ) :=
  (((programCode program).run e).run {}).2.log

end Step
end FluentSql
