import FluentSql.Statement.Basic
import FluentSql.Text.Escaped

/-!
# FluentSql.Statement.Describe — arguments shown in a message

* `Value.describe`, `Arg.describe`: the case of a value or argument and its contents.
-/

namespace FluentSql

/-- Doubles in a message keep `.0` and take an exponent below `1e-4` and from `1e16` on. -/
def describedFloat : Numeral.FloatStyle :=
  { positional := fun e => -4 ≤ e ∧ e ≤ 15, pointZero := true, plusSign := false, tie := .upper }

/-- A value shown in a message. -/
def Value.describe : Value → String
  | .null => "Null"
  | .bool b => "Bool(" ++ (if b then "true" else "false") ++ ")"
  | .int n => "Int(" ++ toString n.toInt ++ ")"
  | .uint n => "UInt(" ++ toString n.toNat ++ ")"
  | .float x => "Float(" ++ describedFloat.write x ++ ")"
  | .text s => "Text(" ++ Text.inQuotes s ++ ")"
  | .bytes bs => "Bytes(" ++ Text.inBrackets (bs.map fun b => toString b.toNat) ++ ")"
  | .date d => "Date(" ++ d.text ++ ")"
  | .time t => "Time(" ++ t.text ++ ")"
  | .dateTime d t => "DateTime(" ++ d.text ++ "T" ++ t.text ++ ")"
  | .timestamp i => "Timestamp(" ++ i.date.text ++ "T" ++ i.time.text ++ "Z)"
  | .uuid u => "Uuid(" ++ u.text ++ ")"
  | .json j => "Json(" ++ j.text ++ ")"
  | .decimal d => "Decimal(" ++ d.text ++ ")"

/-- An argument shown in a message; a nested statement by its kind only. -/
def Arg.describe : Arg → String
  | .value v => "Value(" ++ v.describe ++ ")"
  | .null => "Null"
  | .raw template args =>
    "Raw(Expr \x7b sql: " ++ Text.inQuotes template ++ ", args: " ++
      Text.inBrackets (args.map fun a => a.describe) ++ " \x7d)"
  | .query s => "Query(" ++ s.kind.name ++ ")"
  | .ident name => "Ident(" ++ Text.inQuotes name ++ ")"
  | .seq items => "Seq(" ++ Text.inBrackets (items.map Value.describe) ++ ")"

end FluentSql
