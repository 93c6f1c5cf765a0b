import FluentSql.Statement.Clause

/-!
# FluentSql.Statement.Basic — statements and their arguments

* `Arg`: what may stand where a value is expected: a bound value, the keyword NULL, a raw expression, a nested
  statement, an identifier, a sequence.
* `Statement`: clauses over arguments and nested statements.
* `Expr`: a raw expression, a template with its own arguments.
* `Statement.onTable`, `Statement.onQuery`, `Statement.raw`, `Statement.empty`: where a statement starts.
-/

namespace FluentSql

/-! ## Types -/

mutual

/-- One argument in value position. -/
inductive Arg where
  /-- A value bound to a marker. -/
  | value (v : Value)
  /-- The keyword NULL. -/
  | null
  /-- A template written in place, with its own arguments. -/
  | raw (template : String) (args : List Arg)
  /-- A nested statement. -/
  | query (s : Statement)
  /-- The text of an identifier. -/
  | ident (name : String)
  /-- A list with one marker for each element. -/
  | seq (items : List Value)

/-- A statement. -/
inductive Statement where
  | mk (clauses : Clauses Arg Statement)

end

/-- A raw expression. -/
structure Expr where
  template : String
  args : List Arg := []

/-- `left op right` between two columns. -/
def Expr.columns (left op right : String) : Expr :=
  { template := s!"{left} {op} {right}" }

/-- An expression as an argument. -/
def Expr.arg (e : Expr) : Arg :=
  .raw e.template e.args

/-! ## Arguments -/

namespace Arg

/-- The kind of a value, where an argument has one. -/
def kind? : Arg → Option ValueKind
  | value v => some v.kind
  | null => some .null
  | _ => none

/-- A zero value. Raw expressions and nested statements are never zero. -/
def isZero : Arg → Bool
  | value v => v.isZero
  | null => true
  | raw _ _ => false
  | query _ => false
  | ident name => name.isEmpty
  | seq items => items.isEmpty

/-- Text that may name an identifier or an operator. -/
def text? : Arg → Option String
  | value v => v.text?
  | ident name => some name
  | _ => none

/-- An argument that is a list by itself and needs no parentheses after IN. -/
def isListLike : Arg → Bool
  | seq _ => true
  | query _ => true
  | _ => false

/-- An optional value; none is `NULL`, bound as a value. -/
def ofOption : Option Value → Arg
  | some v => value v
  | none => value .null

end Arg

/-- The record of the members of a document. -/
def Record.ofObject (members : List (String × Json)) : Record Arg :=
  Record.ofPairs (members.map fun (name, j) => (name, .value (.ofJson j)))

/-! ## Statements -/

namespace Statement

/-- The clauses of a statement. -/
def clauses : Statement → Clauses Arg Statement
  | mk c => c

/-- The kind of a statement. -/
def kind (s : Statement) : StatementKind :=
  s.clauses.operation.kind

/-- The alias of a statement. -/
def aliasName (s : Statement) : Option String :=
  s.clauses.aliasName

/-- A statement without table and operation. -/
def empty : Statement :=
  mk {}

/-- A statement on a table. -/
def onTable (name : String) : Statement :=
  mk { table := some (.name name) }

/-- A statement on a table with an alias. -/
def onTableAs (name aliasName : String) : Statement :=
  mk { table := some (.name name), aliasName := some aliasName }

/-- A statement on a derived table. -/
def onQuery (q : Statement) : Statement :=
  mk { table := some (.query q) }

/-- A statement given by a template; its other clauses are not compiled. -/
def raw (template : String) (args : List Arg) : Statement :=
  mk { operation := .raw template args }

end Statement
end FluentSql
