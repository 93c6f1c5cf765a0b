import FluentSql.Error
import FluentSql.Statement.Basic
import FluentSql.Template.Segment
import FluentSql.Text.Blank

/-!
# FluentSql.Statement.Shorthand — conditions that only name a column

A template with markers, or without arguments, stands as it is. A template without markers that has arguments names a
column: with one argument the column equals it; with more, the first one is an operator.

* `Operator`: the classes of operators, by how many operands they take.
* `Condition.shape`: the template of a condition with its markers written out, and the arguments that remain.
-/

namespace FluentSql

/-! ## Operators -/

/-- The classes of operators. -/
inductive Operator where
  | compare
  | membership
  | between
  deriving DecidableEq, Repr

/-- The operators that compare with one operand, in normal form. -/
def comparisons : List String :=
  ["=", "!=", "<>", "<", "<=", ">", ">=", "<=>", "LIKE", "NOT LIKE", "IS", "IS NOT", "REGEXP", "NOT REGEXP", "RLIKE",
    "SOUNDS LIKE"]

/-- The class of an operator text, in any letter case and spacing. -/
def Operator.ofText? (op : String) : Option Operator :=
  let normal := Text.keywordForm op
  if normal = "IN" ∨ normal = "NOT IN" then some .membership
  else if normal = "BETWEEN" ∨ normal = "NOT BETWEEN" then some .between
  else if comparisons.contains normal then some .compare
  else none

/-! ## Shapes -/

/-- A text that names a column: ASCII letters and digits, `_`, `$`, dots, back-ticks and everything beyond ASCII. -/
def isColumnRef (s : String) : Bool :=
  !s.isEmpty && s.toList.all fun c => c.isAlphanum || c == '_' || c == '$' || c == '.' || c == '`' || 0x80 ≤ c.toNat

/-- `n` markers, separated by commas. -/
def placeholders (n : Nat) : String :=
  ", ".intercalate (List.replicate n "?")

/-- The template of a column, an operator and the arguments after it. -/
def operatorTemplate (column op : String) (operands : List Arg) : Option String :=
  match Operator.ofText? op, operands with
  | some .membership, [a] => some (column ++ " " ++ op ++ (if a.isListLike then " ?" else " (?)"))
  | some .membership, operands => some (column ++ " " ++ op ++ " (" ++ placeholders operands.length ++ ")")
  | some .between, [_, _] => some (column ++ " " ++ op ++ " ? AND ?")
  | some .compare, [_] => some (column ++ " " ++ op ++ " ?")
  | _, _ => none

/-- A template with its markers written out, and how many leading arguments it has used up as an operator. -/
structure Shape where
  template : String
  used : Nat
  deriving DecidableEq, Repr

/-- Writes out the markers of a template that only names a column. -/
def Condition.shape (c : Condition Arg) : Except SqlError Shape :=
  if c.args.isEmpty ∨ 0 < Template.countMarkers c.template then .ok ⟨c.template, 0⟩
  else
    let column := Text.trim c.template
    let ambiguous := SqlError.ambiguousCondition c.template c.args.length
    if !isColumnRef column then .error ambiguous
    else
      match c.args with
      | [_] => .ok ⟨column ++ " = ?", 0⟩
      | a :: operands =>
        match a.text?.bind fun op => operatorTemplate column (Text.trim op) operands with
        | some template => .ok ⟨template, 1⟩
        | none => .error ambiguous
      | [] => .ok ⟨c.template, 0⟩

end FluentSql
