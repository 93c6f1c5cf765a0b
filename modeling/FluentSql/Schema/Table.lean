import FluentSql.Schema.Column
import FluentSql.Schema.Key

/-!
# FluentSql.Schema.Table — table definitions

* `TableDefinition`: columns, keys, engine and comment of a table.
* `TableDefinition.definitions`: columns first, then the primary, unique, plain and foreign keys.
* `TableDefinition.build`: the statement that creates the table.
* `dropTable`: the statement that drops one.
-/

namespace FluentSql

/-- A storage engine. -/
inductive Engine where
  | innoDb
  | myIsam
  | memory
  deriving DecidableEq, Repr, Inhabited

/-- The keyword of an engine. -/
def Engine.sql : Engine → String
  | .innoDb => "INNODB"
  | .myIsam => "MYISAM"
  | .memory => "MEMORY"

/-- The definition of a table. -/
structure TableDefinition where
  name : String
  columns : List Column := []
  primary : Option Key := none
  uniques : List Key := []
  indexes : List Key := []
  foreign : List ForeignKey := []
  engine : Engine := .innoDb
  comment : Option String := none

namespace TableDefinition

/-! ## Building step by step -/

/-- One more column. -/
def addColumn (t : TableDefinition) (c : Column) : TableDefinition :=
  { t with columns := t.columns ++ [c] }

/-- The primary key over several columns; the last one counts. -/
def setPrimaryKey (t : TableDefinition) (k : Key) : TableDefinition :=
  { t with primary := some k }

/-- One more unique key. -/
def addUniqueKey (t : TableDefinition) (k : Key) : TableDefinition :=
  { t with uniques := t.uniques ++ [k] }

/-- One more plain key. -/
def addIndex (t : TableDefinition) (k : Key) : TableDefinition :=
  { t with indexes := t.indexes ++ [k] }

/-- One more foreign key. -/
def addForeignKey (t : TableDefinition) (k : ForeignKey) : TableDefinition :=
  { t with foreign := t.foreign ++ [k] }

/-! ## Definitions -/

/-- The key of a column that is indexed by itself. -/
def indexDefinition (c : Column) : Except SqlError String := do
  return "INDEX (" ++ (← quoteIdent c.name) ++ ")"

/-- A text cut at its last dot. -/
def cutLastDot : List Char → Option (List Char × List Char)
  | [] => none
  | c :: r =>
    match cutLastDot r with
    | some (before, behind) => some (c :: before, behind)
    | none => if c = '.' then some ([], r) else none

/-- The foreign key of a column that refers to `table.column`. -/
def referenceDefinition (c : Column) (target : String) : Except SqlError String :=
  match cutLastDot target.toList with
  | none => .error (.schema s!"column `{c.name}` references `{target}`, expected `table.column`")
  | some (table, referenced) =>
    ForeignKey.sql { columns := [c.name], table := String.ofList table, references := [String.ofList referenced] }

/-- All columns and keys, in the order in which they are written. -/
def definitions (t : TableDefinition) : Except SqlError (List String) := do
  let columns ← t.columns.mapM Column.sql
  let primary ← t.primary.toList.mapM (Key.sql "PRIMARY KEY")
  let uniques ← t.uniques.mapM (Key.sql "UNIQUE KEY")
  let indexed ← (t.columns.filter (·.index)).mapM indexDefinition
  let indexes ← t.indexes.mapM (Key.sql "INDEX")
  let references ← (t.columns.filterMap fun c => c.references.map fun target => (c, target)).mapM fun (c, target) =>
    referenceDefinition c target
  let foreign ← t.foreign.mapM ForeignKey.sql
  return columns ++ primary ++ uniques ++ indexed ++ indexes ++ references ++ foreign

/-! ## The statement -/

/-- The statement that creates a table. -/
def build (t : TableDefinition) : Except SqlError String := do
  if t.columns.isEmpty then throw (.schema s!"table `{t.name}` has no columns")
  if t.primary.isSome && t.columns.any (·.primary) then
    throw (.schema s!"table `{t.name}` declares both a column and a composite primary key")
  let definitions ← t.definitions
  let name ← quoteIdent t.name
  let comment := (t.comment.map fun text => ", COMMENT=" ++ stringLiteral text).getD ""
  return "CREATE TABLE IF NOT EXISTS " ++ name ++ " (" ++ ", ".intercalate definitions ++ ") ENGINE=" ++
    t.engine.sql ++ comment

end TableDefinition

/-- The statement that drops a table, if it exists or in any case. -/
def dropTable (ifExists : Bool) (name : String) : Except SqlError String := do
  return (if ifExists then "DROP TABLE IF EXISTS " else "DROP TABLE ") ++ (← quoteIdent name)

end FluentSql
