/-!
# FluentSql.Statement.Kind — what a statement does

* `StatementKind`: the operations a statement can compile to, with their names.
-/

namespace FluentSql

/-- The operation a statement compiles to. -/
inductive StatementKind where
  | unset
  | select
  | insert
  | replace
  | update
  | patch
  | delete
  | existence
  | insertSelect
  | raw
  deriving DecidableEq, Repr

/-- The name of a kind. -/
def StatementKind.name : StatementKind → String
  | .unset => "Unset"
  | .select => "Select"
  | .insert => "Insert"
  | .replace => "Replace"
  | .update => "Update"
  | .patch => "Patch"
  | .delete => "Delete"
  | .existence => "Exists"
  | .insertSelect => "InsertSelect"
  | .raw => "Raw"

end FluentSql
