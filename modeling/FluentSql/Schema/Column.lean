import FluentSql.Schema.Literal

/-!
# FluentSql.Schema.Column — columns of a table definition

* `ColumnType`, `ColumnDefault`, `Column`: what a column is.
* `Column.sql`: its definition: name, type, and the modifiers in a fixed order.
-/

namespace FluentSql

/-! ## Types -/

/-- The type of a column. -/
inductive ColumnType where
  | tinyInt (width : Nat)
  | smallInt (width : Nat)
  | mediumInt (width : Nat)
  | int (width : Nat)
  | bigInt (width : Nat)
  | char (size : Nat)
  | varchar (size : Nat)
  | binary (size : Nat)
  | varbinary (size : Nat)
  | bit (size : Nat)
  | tinyText
  | text
  | mediumText
  | longText
  | tinyBlob
  | blob
  | mediumBlob
  | longBlob
  | date
  | dateTime
  | time
  | timestamp
  | year
  | double (precision scale : Nat)
  | decimal (precision scale : Nat)
  | float (precision : Nat) (scale : Option Nat)
  | enum (members : List String)
  | set (members : List String)
  | json
  deriving DecidableEq, Repr

/-- The members of an ENUM or SET; there must be at least one. -/
def memberList (keyword : String) (members : List String) : Except SqlError String :=
  if members.isEmpty then .error (.schema s!"{keyword} column needs at least one member")
  else .ok (", ".intercalate (members.map stringLiteral))

/-- A keyword with one parameter. -/
def sized (keyword : String) (n : Nat) : String :=
  s!"{keyword}({n})"

/-- A keyword with two parameters. -/
def scaled (keyword : String) (precision scale : Nat) : String :=
  s!"{keyword}({precision}, {scale})"

/-- The text of a type. -/
def ColumnType.sql : ColumnType → Except SqlError String
  | .tinyInt n => .ok (sized "TINYINT" n)
  | .smallInt n => .ok (sized "SMALLINT" n)
  | .mediumInt n => .ok (sized "MEDIUMINT" n)
  | .int n => .ok (sized "INT" n)
  | .bigInt n => .ok (sized "BIGINT" n)
  | .char n => .ok (sized "CHAR" n)
  | .varchar n => .ok (sized "VARCHAR" n)
  | .binary n => .ok (sized "BINARY" n)
  | .varbinary n => .ok (sized "VARBINARY" n)
  | .bit n => .ok (sized "BIT" n)
  | .tinyText => .ok "TINYTEXT"
  | .text => .ok "TEXT"
  | .mediumText => .ok "MEDIUMTEXT"
  | .longText => .ok "LONGTEXT"
  | .tinyBlob => .ok "TINYBLOB"
  | .blob => .ok "BLOB"
  | .mediumBlob => .ok "MEDIUMBLOB"
  | .longBlob => .ok "LONGBLOB"
  | .date => .ok "DATE"
  | .dateTime => .ok "DATETIME"
  | .time => .ok "TIME"
  | .timestamp => .ok "TIMESTAMP"
  | .year => .ok "YEAR"
  | .double p s => .ok (scaled "DOUBLE" p s)
  | .decimal p s => .ok (scaled "DECIMAL" p s)
  | .float p none => .ok (sized "FLOAT" p)
  | .float p (some s) => .ok (scaled "FLOAT" p s)
  | .enum members => do return "ENUM(" ++ (← memberList "ENUM" members) ++ ")"
  | .set members => do return "SET(" ++ (← memberList "SET" members) ++ ")"
  | .json => .ok "JSON"

/-! ## Columns -/

/-- The default of a column: a value, or text that is written as it is. -/
inductive ColumnDefault where
  | literal (v : Value)
  | verbatim (sql : String)

/-- The text of a default. -/
def ColumnDefault.sql : ColumnDefault → Except SqlError String
  | .literal v => v.literal
  | .verbatim sql => .ok sql

/-- A column of a table definition. -/
structure Column where
  name : String
  type : ColumnType
  nullable : Bool := false
  unsigned : Bool := false
  autoIncrement : Bool := false
  default : Option ColumnDefault := none
  primary : Bool := false
  unique : Bool := false
  index : Bool := false
  comment : Option String := none
  /-- `table.column` of a foreign key on this column alone. -/
  references : Option String := none

namespace Column

/-- The DEFAULT modifier. A column that may be NULL has this default, unless it has another. -/
def defaultSql (c : Column) : Except SqlError String :=
  match c.default with
  | some d => do return " DEFAULT " ++ (← d.sql)
  | none => .ok (if c.nullable then " DEFAULT NULL" else "")

/-- A modifier that is there or not. -/
def modifier (present : Bool) (text : String) : String :=
  if present then text else ""

/-- The definition of a column. -/
def sql (c : Column) : Except SqlError String := do
  let name ← quoteIdent c.name
  let type ← c.type.sql
  let default ← c.defaultSql
  let comment := (c.comment.map fun text => " COMMENT " ++ stringLiteral text).getD ""
  return name ++ " " ++ type ++ modifier c.unsigned " UNSIGNED" ++ modifier (!c.nullable) " NOT NULL" ++ default ++
    modifier c.autoIncrement " AUTO_INCREMENT" ++ modifier c.primary " PRIMARY KEY" ++ modifier c.unique " UNIQUE" ++
    comment

end Column
end FluentSql
