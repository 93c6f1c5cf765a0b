import FluentSql.Execution.Executor

/-!
# FluentSql.Execution.Transaction — transactions and savepoints

* `Control`: the commands that open and close transactions and savepoints; they go straight to the connection.
* `Exit`: how a block ends: with a value, or by leaving the surrounding block as well.
* `transaction`, `savepoint`: run a body and close it by its result; `Block` is one of them.
-/

namespace FluentSql

/-! ## Control commands -/

/-- A command that opens or closes a transaction or savepoint. -/
inductive Control where
  | begin
  | commit
  | rollback
  | savepoint (name : String)
  | rollbackTo (name : String)
  | release (name : String)
  deriving DecidableEq, Repr

/-- The text of a control command. -/
def Control.sql : Control → Except SqlError String
  | .begin => .ok "START TRANSACTION"
  | .commit => .ok "COMMIT"
  | .rollback => .ok "ROLLBACK"
  | .savepoint name => do return "SAVEPOINT " ++ (← quoteIdent name)
  | .rollbackTo name => do return "ROLLBACK TO SAVEPOINT " ++ (← quoteIdent name)
  | .release name => do return "RELEASE SAVEPOINT " ++ (← quoteIdent name)

namespace Executor

variable {ρ : Type}

/-- Sends a control command over the connection, past all monitors. -/
def control (e : Executor ρ) (c : Control) : Run ρ (Except SqlError Unit) :=
  match c.sql with
  | .error err => return .error err
  | .ok sql => do return (← e.connection.send Ask.affected { sql, params := [], mode := .execute }).map fun _ => ()

end Executor

/-! ## Blocks -/

/-- How a block ends. -/
inductive Exit (β : Type) where
  /-- The block has this value, which the surrounding code may handle. -/
  | value (r : Except SqlError β)
  /-- The block's own command failed, and the surrounding block ends with it. -/
  | leave (e : SqlError)

/-- The result of a block that stands in a function of its own, so that leaving ends just this function. -/
def Exit.result {β : Type} : Exit β → Except SqlError β
  | .value r => r
  | .leave e => .error e

section Blocks

variable {ρ β : Type}

/-- Opens with one command, runs a body, and closes with a second command after a value or a third one after an
error. An error of the third command is reported together with the error of the body. -/
def bracket (e : Executor ρ) (opening closing undoing : Control) (label : String)
    (body : Run ρ (Except SqlError β)) : Run ρ (Exit β) := do
  match ← e.control opening with
  | .error err => return .leave err
  | .ok () =>
    match ← body with
    | .ok b =>
      match ← e.control closing with
      | .error err => return .leave err
      | .ok () => return .value (.ok b)
    | .error err =>
      match ← e.control undoing with
      | .ok () => return .value (.error err)
      | .error second => return .value (.error (.execution s!"{err.message} ({label} failed: {second.message})"))

/-- A block around a body. -/
inductive Block where
  | transaction
  /-- Without a name the savepoint gets a fresh one. -/
  | savepoint (name : Option String)
  deriving DecidableEq, Repr

/-- Runs a body inside a transaction. -/
def transaction (e : Executor ρ) (body : Run ρ (Except SqlError β)) : Run ρ (Exit β) :=
  bracket e .begin .commit .rollback "rollback" body

/-- Runs a body inside a savepoint. -/
def savepoint (e : Executor ρ) (name : String) (body : Run ρ (Except SqlError β)) : Run ρ (Exit β) :=
  bracket e (.savepoint name) (.release name) (.rollbackTo name) "savepoint rollback" body

/-- Runs a body inside a block. -/
def Block.run (e : Executor ρ) (body : Run ρ (Except SqlError β)) : Block → Run ρ (Exit β)
  | transaction => FluentSql.transaction e body
  | savepoint (some name) => FluentSql.savepoint e name body
  | savepoint none => do FluentSql.savepoint e (← Run.freshSavepoint) body

end Blocks
end FluentSql
