import FluentSql.Statement.Basic

/-!
# FluentSql.Statement.Predicate — common conditions

Each of these only shapes a template and its arguments.

* `Condition.inList`, `Condition.between`, `Condition.like`, `Condition.isNull`, `Condition.existence`,
  `Condition.columns`: the conditions of the usual SQL predicates.
* `Condition.ofExpr`: a condition given by a raw expression.
-/

namespace FluentSql
namespace Condition

/-- A positive predicate or its negation. -/
def negation (negated : Bool) : String :=
  if negated then "NOT " else ""

/-- `column [NOT] IN …`: lists and nested statements bring their own parentheses. -/
def inList (connector : Connector) (negated : Bool) (column : String) (values : Arg) : Condition Arg :=
  let marker := if values.isListLike then "?" else "(?)"
  ⟨connector, column ++ " " ++ negation negated ++ "IN " ++ marker, [values]⟩

/-- `column [NOT] BETWEEN low AND high` -/
def between (connector : Connector) (negated : Bool) (column : String) (low high : Arg) : Condition Arg :=
  ⟨connector, column ++ " " ++ negation negated ++ "BETWEEN ? AND ?", [low, high]⟩

/-- `column [NOT] LIKE pattern` -/
def like (connector : Connector) (negated : Bool) (column : String) (pattern : Arg) : Condition Arg :=
  ⟨connector, column ++ " " ++ negation negated ++ "LIKE ?", [pattern]⟩

/-- `column IS [NOT] NULL` -/
def isNull (connector : Connector) (negated : Bool) (column : String) : Condition Arg :=
  ⟨connector, column ++ " IS " ++ negation negated ++ "NULL", []⟩

/-- `[NOT] EXISTS (query)` -/
def existence (connector : Connector) (negated : Bool) (query : Statement) : Condition Arg :=
  ⟨connector, negation negated ++ "EXISTS ?", [.query query]⟩

/-- `left op right` between two columns. -/
def columns (connector : Connector) (left op right : String) : Condition Arg :=
  ⟨connector, s!"{left} {op} {right}", []⟩

/-- A condition given by a raw expression. -/
def ofExpr (connector : Connector) (e : Expr) : Condition Arg :=
  ⟨connector, "?", [e.arg]⟩

end Condition
end FluentSql
