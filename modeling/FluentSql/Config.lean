import FluentSql.Error
import FluentSql.Json
import FluentSql.Naming
import FluentSql.Toml.Reader

/-!
# FluentSql.Config — settings of a statement

* `Config`: how columns are named and whether they are sorted.
* `Config.ofToml`: the settings in a document; what it does not mention keeps its default.
* `Config.json`: the settings as a document.
-/

namespace FluentSql

/-- Settings of a statement. -/
structure Config where
  columnNaming : ColumnNaming := .asIs
  /-- Columns are sorted by name instead of standing in the order of the first record. -/
  orderColumns : Bool := false
  deriving DecidableEq, Repr

namespace ColumnNaming

/-- The name of a convention in a document. -/
def text : ColumnNaming → String
  | asIs => "as_is"
  | snakeCase => "snake_case"
  | camelCase => "camel_case"
  | pascalCase => "pascal_case"

/-- The convention of a name. -/
def ofText? (s : String) : Option ColumnNaming :=
  [asIs, snakeCase, camelCase, pascalCase].find? (·.text == s)

/-- The convention that a value names: a text, or a table whose only member has that name and is empty. -/
def ofToml? : Toml → Option ColumnNaming
  | .string s => ofText? s
  | .table _ [(name, .table _ [])] => ofText? name
  | .table _ [(name, .array [])] => ofText? name
  | _ => none

end ColumnNaming

namespace Config

/-- Sets the naming to what a document says. -/
def readNaming (ms : Toml.Members) (c : Config) : Except SqlError Config :=
  match ms.get? "column_naming" with
  | none => .ok c
  | some v =>
    match ColumnNaming.ofToml? v with
    | some naming => .ok { c with columnNaming := naming }
    | none => .error (.config "column_naming is no naming convention")

/-- Sets the order to what a document says. -/
def readOrder (ms : Toml.Members) (c : Config) : Except SqlError Config :=
  match ms.get? "order_columns" with
  | none => .ok c
  | some (.boolean b) => .ok { c with orderColumns := b }
  | some _ => .error (.config "order_columns is no boolean")

/-- The settings in a TOML document. -/
def ofToml (s : String) : Except SqlError Config :=
  match Toml.parse s with
  | none => .error (.config "no TOML document")
  | some ms => do readOrder ms (← readNaming ms {})

/-- The settings as a document. -/
def json (c : Config) : Json :=
  .object [("column_naming", .string c.columnNaming.text), ("order_columns", .bool c.orderColumns)]

end Config
end FluentSql
