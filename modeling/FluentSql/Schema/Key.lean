import FluentSql.Error
import FluentSql.Text.Escaped

/-!
# FluentSql.Schema.Key — keys of a table definition

* `Key`: a primary, unique or plain key over columns; `Key.sql` is its definition.
* `ForeignKey`: columns that refer to columns of another table; `ForeignKey.sql` is its definition.
-/

namespace FluentSql

/-- Column names in back-ticks; there must be at least one. -/
def quotedList (context : String) (columns : List String) : Except SqlError String :=
  if columns.isEmpty then .error (.schema s!"{context} needs at least one column")
  else do return ", ".intercalate (← columns.mapM quoteIdent)

/-- The name of a key in back-ticks, with a space before it. -/
def keyName (name : Option String) : Except SqlError String :=
  match name with
  | some name => do return " " ++ (← quoteIdent name)
  | none => .ok ""

/-! ## Keys -/

/-- A key over columns. -/
structure Key where
  columns : List String
  name : Option String := none
  deriving DecidableEq, Repr

/-- `KEYWORD name (columns)` -/
def Key.sql (keyword : String) (k : Key) : Except SqlError String := do
  let name ← keyName k.name
  let columns ← quotedList keyword k.columns
  return keyword ++ name ++ " (" ++ columns ++ ")"

/-! ## Foreign keys -/

/-- What happens to a row whose referenced row changes or goes. -/
inductive ReferenceAction where
  | restrict
  | cascade
  | setNull
  | noAction
  | setDefault
  deriving DecidableEq, Repr

/-- The keywords of an action. -/
def ReferenceAction.sql : ReferenceAction → String
  | .restrict => "RESTRICT"
  | .cascade => "CASCADE"
  | .setNull => "SET NULL"
  | .noAction => "NO ACTION"
  | .setDefault => "SET DEFAULT"

/-- Columns that refer to columns of another table. -/
structure ForeignKey where
  columns : List String
  table : String
  references : List String
  name : Option String := none
  onUpdate : Option ReferenceAction := none
  onDelete : Option ReferenceAction := none
  deriving DecidableEq, Repr

/-- An action behind its keywords. -/
def actionSql (keywords : String) (action : Option ReferenceAction) : String :=
  (action.map fun a => keywords ++ a.sql).getD ""

/-- `FOREIGN KEY name (columns) REFERENCES table (columns) ON UPDATE … ON DELETE …` -/
def ForeignKey.sql (k : ForeignKey) : Except SqlError String := do
  if k.columns.length ≠ k.references.length then
    throw <| .schema <|
      "foreign key on " ++ Text.inBrackets (k.columns.map Text.inQuotes) ++ " references " ++
        toString k.references.length ++ " column(s)"
  let name ← keyName k.name
  let columns ← quotedList "FOREIGN KEY" k.columns
  let table ← quoteIdent k.table
  let references ← quotedList "REFERENCES" k.references
  return "FOREIGN KEY" ++ name ++ " (" ++ columns ++ ") REFERENCES " ++ table ++ " (" ++ references ++ ")" ++
    actionSql " ON UPDATE " k.onUpdate ++ actionSql " ON DELETE " k.onDelete

end FluentSql
